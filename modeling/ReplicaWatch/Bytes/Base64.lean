import ReplicaWatch.Text.Symbol

/-! Base64 with padding, and its lenient reading: characters outside the alphabet are dropped, and reading stops at
the padding that completes a group of four. -/
namespace ReplicaWatch.Base64

/-- The character that stands for a number below 64. -/
def digit (n : Nat) : Char :=
  if n < 26 then Char.ofNat (65 + n)
  else if n < 52 then Char.ofNat (71 + n)
  else if n < 62 then Char.ofNat (n - 4)
  else if n = 62 then '+' else '/'

/-- The number that a character of the alphabet stands for. -/
def value? (c : Char) : Option Nat :=
  let n := c.toNat
  if 65 ≤ n ∧ n ≤ 90 then some (n - 65)
  else if 97 ≤ n ∧ n ≤ 122 then some (n - 71)
  else if 48 ≤ n ∧ n ≤ 57 then some (n + 4)
  else if c = '+' then some 62
  else if c = '/' then some 63
  else none

/-- The standard spelling: three bytes in four characters, the last group padded. -/
def encode : List UInt8 → List Char
  | a :: b :: c :: rest =>
    digit (a.toNat / 4) :: digit (a.toNat % 4 * 16 + b.toNat / 16) ::
      digit (b.toNat % 16 * 4 + c.toNat / 64) :: digit (c.toNat % 64) :: encode rest
  | [a, b] =>
    [digit (a.toNat / 4), digit (a.toNat % 4 * 16 + b.toNat / 16), digit (b.toNat % 16 * 4), '=']
  | [a] => [digit (a.toNat / 4), digit (a.toNat % 4 * 16), '=', '=']
  | [] => []

inductive Fault where
  | foreign
  | oneDigitOver (digits : Nat)
  | padding
  deriving DecidableEq, Repr

def Fault.message : Fault → String
  | foreign => "string argument should contain only ASCII characters"
  | oneDigitOver digits =>
    s!"Invalid base64-encoded string: number of data characters ({digits}) cannot be 1 more than a multiple of 4"
  | padding => "Incorrect padding"

/-- Where reading stands: digits read of the current group, their last bits, consecutive padding characters and the
number of bytes written. -/
structure State where
  place : Nat
  left : Nat
  pads : Nat
  written : Nat
  deriving DecidableEq, Repr

/-- Takes one digit: the byte that it completes, if it does, and the state after it. -/
def State.take (s : State) (v : Nat) : Option UInt8 × State :=
  match s.place with
  | 0 => (none, ⟨1, v, 0, s.written⟩)
  | 1 => (some (UInt8.ofNat (s.left * 4 + v / 16)), ⟨2, v % 16, 0, s.written + 1⟩)
  | 2 => (some (UInt8.ofNat (s.left * 16 + v / 4)), ⟨3, v % 4, 0, s.written + 1⟩)
  | _ => (some (UInt8.ofNat (s.left * 64 + v)), ⟨0, 0, 0, s.written + 1⟩)

/-- Reads on from a state. -/
def decodeFrom : State → List Char → Except Fault (List UInt8)
  | s, [] =>
    if s.place = 0 then .ok []
    else if s.place = 1 then .error (.oneDigitOver (s.written / 3 * 4 + 1))
    else .error .padding
  | s, c :: rest =>
    if c = '=' then
      if 2 ≤ s.place then
        if 4 ≤ s.place + s.pads + 1 then .ok [] else decodeFrom ⟨s.place, s.left, s.pads + 1, s.written⟩ rest
      else decodeFrom s rest
    else match value? c with
      | none => decodeFrom s rest
      | some v =>
        match s.take v with
        | (none, s') => decodeFrom s' rest
        | (some b, s') =>
          match decodeFrom s' rest with
          | .ok bytes => .ok (b :: bytes)
          | .error e => .error e

/-- The bytes that a text spells, read leniently. Only ASCII is read at all. -/
def decode (t : Text) : Except Fault (List UInt8) :=
  if t.all fun s => s.code < 128 then decodeFrom ⟨0, 0, 0, 0⟩ (Text.toChars t) else .error .foreign

end ReplicaWatch.Base64
