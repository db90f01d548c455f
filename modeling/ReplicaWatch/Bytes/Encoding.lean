import ReplicaWatch.Bytes.Utf8

/-! The encodings of a JSON body. A body is UTF-8, UTF-16 or UTF-32, with or without a byte order mark; without one
the zeros among its first four bytes tell, since a JSON text begins with an ASCII character. -/
namespace ReplicaWatch

inductive Encoding where
  | utf8
  | utf8Marked
  | utf16 (big marked : Bool)
  | utf32 (big marked : Bool)
  deriving DecidableEq, Repr

namespace Encoding

/-- The byte order marks and the encodings that they show, the longer first. -/
def marks : List (List UInt8 × Encoding) := [
  ([0x00, 0x00, 0xFE, 0xFF], .utf32 true true),
  ([0xFF, 0xFE, 0x00, 0x00], .utf32 false true),
  ([0xFE, 0xFF], .utf16 true true),
  ([0xFF, 0xFE], .utf16 false true),
  ([0xEF, 0xBB, 0xBF], .utf8Marked)]

/-- The encoding of bytes without a mark. -/
def unmarked : List UInt8 → Encoding
  | a :: b :: c :: d :: _ =>
    if a = 0 then (if b = 0 then .utf32 true false else .utf16 true false)
    else if b = 0 then (if c = 0 && d = 0 then .utf32 false false else .utf16 false false)
    else .utf8
  | [a, b] => if a = 0 then .utf16 true false else if b = 0 then .utf16 false false else .utf8
  | _ => .utf8

/-- The encoding that the first bytes show. -/
def detect (bytes : List UInt8) : Encoding :=
  match marks.find? fun m => m.1.isPrefixOf bytes with
  | some m => m.2
  | none => unmarked bytes

/-- The code units of bytes taken in pairs, and whether a byte is left over. -/
def units (big : Bool) : List UInt8 → List Nat × Bool
  | a :: b :: rest =>
    let (us, odd) := units big rest
    ((if big then a.toNat * 256 + b.toNat else b.toNat * 256 + a.toNat) :: us, odd)
  | [_] => ([], true)
  | [] => ([], false)

def isHigh (u : Nat) : Bool := 0xD800 ≤ u && u < 0xDC00

def isLow (u : Nat) : Bool := 0xDC00 ≤ u && u < 0xE000

/-- The code point of a surrogate pair. -/
def pair (high low : Nat) : Nat := 0x10000 + (high - 0xD800) * 0x400 + (low - 0xDC00)

/-- The symbols of code units; a half that has no partner stays alone. -/
def joinPairs : List Nat → Text
  | [] => []
  | [u] => [.ofCode u]
  | u :: v :: rest =>
    if isHigh u && isLow v then .ofCode (pair u v) :: joinPairs rest
    else .ofCode u :: joinPairs (v :: rest)

/-- The symbols of bytes taken in fours, with the place and the fault where that fails. -/
def fours (big : Bool) : List UInt8 → Except (Nat × Nat × String) Text
  | a :: b :: c :: d :: rest =>
    let n := if big then ((a.toNat * 256 + b.toNat) * 256 + c.toNat) * 256 + d.toNat
      else ((d.toNat * 256 + c.toNat) * 256 + b.toNat) * 256 + a.toNat
    if n < 0x110000 then
      match fours big rest with
      | .ok t => .ok (.ofCode n :: t)
      | .error (start, width, reason) => .error (start + 4, width, reason)
    else .error (0, 4, "code point not in range(0x110000)")
  | [] => .ok []
  | rest => .error (0, rest.length, "truncated data")

/-- The ending of a codec's name that tells the order of bytes. -/
def orderName (big : Bool) : String := if big then "be" else "le"

/-- The text of bytes in an encoding. Places in a UTF-8 body are counted behind its mark, in the others from the
first byte. -/
def decode (e : Encoding) (bytes : List UInt8) : Except EncodingFault Text :=
  match e with
  | .utf8 => Utf8.decode true bytes
  | .utf8Marked => Utf8.decode true (bytes.drop 3)
  | .utf16 big marked =>
    let skip := if marked then 2 else 0
    match units big (bytes.drop skip) with
    | (us, false) => .ok (joinPairs us)
    | (_, true) =>
      let last := bytes.length - 1
      .error ⟨"utf-16-" ++ orderName big, bytes.getD last 0, last, 1, "truncated data"⟩
  | .utf32 big marked =>
    let skip := if marked then 4 else 0
    match fours big (bytes.drop skip) with
    | .ok t => .ok t
    | .error (start, width, reason) =>
      .error ⟨"utf-32-" ++ orderName big, bytes.getD (start + skip) 0, start + skip, width, reason⟩

/-- The text of a JSON body. -/
def decodeBody (bytes : List UInt8) : Except EncodingFault Text := (detect bytes).decode bytes

end Encoding
end ReplicaWatch
