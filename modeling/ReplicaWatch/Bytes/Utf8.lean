import ReplicaWatch.Text.Digit
import ReplicaWatch.Text.Symbol

/-! UTF-8. The decoder reads one byte at a time and cuts the bytes into pieces: characters, and the ill-formed runs
between them. Strict reading stops at the first ill-formed run and lenient reading replaces each of them. -/
namespace ReplicaWatch

/-- Why bytes are no text in an encoding: which codec, where, how many bytes are at fault, and the reason. -/
structure EncodingFault where
  codec : String
  first : UInt8
  start : Nat
  width : Nat
  reason : String
  deriving DecidableEq, Repr

namespace EncodingFault

/-- One byte at fault is shown, several are only located. -/
def message (e : EncodingFault) : String :=
  if e.width = 1 then
    s!"'{e.codec}' codec can't decode byte 0x{String.ofList (Digit.hexWidth 2 e.first.toNat)} in position " ++
      s!"{e.start}: {e.reason}"
  else
    s!"'{e.codec}' codec can't decode bytes in position {e.start}-{e.start + e.width - 1}: {e.reason}"

end EncodingFault

namespace Utf8

/-- The bytes of a text. -/
def encode (cs : List Char) : List UInt8 := cs.flatMap String.utf8EncodeChar

/-- The bytes of a string. -/
def encodeString (s : String) : List UInt8 := encode s.toList

inductive Problem where
  | startByte
  | continuation
  | dataEnd
  deriving DecidableEq, Repr

def Problem.reason : Problem → String
  | startByte => "invalid start byte"
  | continuation => "invalid continuation byte"
  | dataEnd => "unexpected end of data"

/-- A symbol, or an ill-formed run, with the number of its bytes. -/
inductive Piece where
  | symbol (s : Symbol) (width : Nat)
  | illFormed (problem : Problem) (width : Nat)
  deriving DecidableEq, Repr

/-- A sequence begun: how many continuation bytes it still needs, in which range the next one has to lie, the bits
read so far and the number of bytes taken. -/
structure Pending where
  need : Nat
  low : UInt8
  high : UInt8
  bits : Nat
  taken : Nat
  deriving DecidableEq, Repr

/-- The piece that is left of a broken sequence. An encoded half of a surrogate pair is ill-formed from its second
byte on, so that nothing but its first byte is taken. -/
def Pending.broken (p : Pending) (problem : Problem) : Piece :=
  if p.taken = 2 && p.need = 1 && 864 ≤ p.bits && p.bits < 896 then
    .illFormed .continuation 1
  else .illFormed problem p.taken

/-- What a first byte opens; with `halves` the encoded halves of surrogate pairs are read too. -/
def open? (halves : Bool) (b : UInt8) : Option Pending :=
  if 0xC2 ≤ b && b ≤ 0xDF then some ⟨1, 0x80, 0xBF, b.toNat - 0xC0, 1⟩
  else if b = 0xE0 then some ⟨2, 0xA0, 0xBF, 0, 1⟩
  else if b = 0xED && !halves then some ⟨2, 0x80, 0x9F, 0xD, 1⟩
  else if 0xE1 ≤ b && b ≤ 0xEF then some ⟨2, 0x80, 0xBF, b.toNat - 0xE0, 1⟩
  else if b = 0xF0 then some ⟨3, 0x90, 0xBF, 0, 1⟩
  else if 0xF1 ≤ b && b ≤ 0xF3 then some ⟨3, 0x80, 0xBF, b.toNat - 0xF0, 1⟩
  else if b = 0xF4 then some ⟨3, 0x80, 0x8F, 4, 1⟩
  else none

/-- Reads a byte between characters. -/
def begin (halves : Bool) (b : UInt8) : List Piece × Option Pending :=
  if b < 0x80 then ([.symbol (.ofCode b.toNat) 1], none)
  else match open? halves b with
    | some p => ([], some p)
    | none => ([.illFormed .startByte 1], none)

/-- Reads one byte. A byte that cannot continue a sequence breaks it and is read again as a first byte. -/
def step (halves : Bool) : Option Pending → UInt8 → List Piece × Option Pending
  | none, b => begin halves b
  | some p, b =>
    if p.low ≤ b && b ≤ p.high then
      let bits := p.bits * 64 + (b.toNat - 0x80)
      if p.need ≤ 1 then ([.symbol (.ofCode bits) (p.taken + 1)], none)
      else ([], some ⟨p.need - 1, 0x80, 0xBF, bits, p.taken + 1⟩)
    else
      let (more, state) := begin halves b
      (p.broken .continuation :: more, state)

/-- Cuts bytes into pieces. -/
def pieces (halves : Bool) : Option Pending → List UInt8 → List Piece
  | none, [] => []
  | some p, [] => [p.broken .dataEnd]
  | state, b :: rest =>
    let (done, state) := step halves state b
    done ++ pieces halves state rest

/-- The symbols of pieces that hold no ill-formed run, or the problem, place and width of the first run. -/
def wellFormed : List Piece → Except (Problem × Nat × Nat) Text
  | [] => .ok []
  | .illFormed problem width :: _ => .error (problem, 0, width)
  | .symbol s width :: rest =>
    match wellFormed rest with
    | .ok t => .ok (s :: t)
    | .error (problem, start, w) => .error (problem, start + width, w)

/-- Strict reading. -/
def decode (halves : Bool) (bytes : List UInt8) : Except EncodingFault Text :=
  match wellFormed (pieces halves none bytes) with
  | .ok t => .ok t
  | .error (problem, start, width) =>
    .error ⟨"utf-8", bytes.getD start 0, start, width, problem.reason⟩

/-- Lenient reading: each ill-formed run becomes one replacement character. -/
def decodeReplacing (bytes : List UInt8) : List Char :=
  (pieces false none bytes).map fun
    | .symbol s _ => s.toChar
    | .illFormed _ _ => '\ufffd'

end Utf8
end ReplicaWatch
