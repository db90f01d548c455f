import ReplicaWatch.Number.Reading
import ReplicaWatch.Schema.Basic

/-! The scalars of documents. Texts are texts alone; counts, flags and rates are also read from other scalars that
write them exactly. -/
namespace ReplicaWatch.Schema

def text : Form String :=
  .scalar "" fun
    | .string t => .ok (Text.asString t)
    | _ => .error .notText

/-- A double lies within the range of counts if it is strictly between this bound and its opposite, two to the power
of 63. -/
def countBound : Int := 0x8000000000000000

/-- The count that a double is. -/
def countOfFloat (x : Binary64) : Except Mismatch Int :=
  if !x.isFinite then .error .countInfinite
  else match x.toInt? with
    | none => .error .countFraction
    | some n => if -countBound < n && n < countBound then .ok n else .error .countSize

def readCount : Json → Except Mismatch Int
  | .int n => .ok n
  | .bool b => .ok (if b then 1 else 0)
  | .float x => countOfFloat x
  | .string t =>
    match Reading.integer (Text.toChars t) with
    | .ok n => .ok n
    | .error .malformed => .error .countText
    | .error .tooLong => .error .countSize
  | _ => .error .notCount

def count : Form Int := .scalar 0 readCount

/-- The words for the truth values, in lower case. -/
def trueWords : List String := ["1", "t", "y", "on", "yes", "true"]

def falseWords : List String := ["0", "f", "n", "no", "off", "false"]

/-- A flag given as an integer of 64 bits. -/
def flagOfInt (n : Int) : Except Mismatch Bool :=
  if n = 0 then .ok false
  else if n = 1 then .ok true
  else if -countBound ≤ n && n < countBound then .error .flagText
  else .error .notFlag

def readFlag : Json → Except Mismatch Bool
  | .bool b => .ok b
  | .int n => flagOfInt n
  | .float x =>
    match countOfFloat x with
    | .ok n => flagOfInt n
    | .error _ => .error .notFlag
  | .string t =>
    let word := String.ofList ((Text.toChars t).map Reading.lower)
    if trueWords.contains word then .ok true
    else if falseWords.contains word then .ok false
    else .error .flagText
  | _ => .error .notFlag

def flag : Form Bool := .scalar false readFlag

def readRate : Json → Except Mismatch Binary64
  | .int n => .ok (.ofInt n)
  | .float x => .ok x
  | .bool b => .ok (.ofInt (if b then 1 else 0))
  | .string t =>
    match Reading.rate? (Text.toChars t) with
    | some x => .ok x
    | none => .error .rateText
  | _ => .error .notRate

def rate : Form Binary64 := .scalar (.ofInt 0) readRate

end ReplicaWatch.Schema
