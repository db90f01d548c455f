import ReplicaWatch.Number.Binary64
import ReplicaWatch.Text.Blank
import ReplicaWatch.Text.Digit

/-! Numbers read from text. A decimal has an optional sign, digits on at least one side of an optional point and an
optional exponent, or it is one of the names of infinity and of no number. Settings and status documents trim it
and separate its digits by underscores under rules of their own. -/
namespace ReplicaWatch.Reading

def isDigit (c : Char) : Bool := (Digit.ascii? c).isSome

/-- The number that ASCII digits write. -/
def natural (cs : List Char) : Nat := Digit.number 10 (cs.filterMap Digit.ascii?)

/-- Takes an optional sign. -/
def sign : List Char → Bool × List Char
  | '-' :: rest => (true, rest)
  | '+' :: rest => (false, rest)
  | cs => (false, cs)

/-- An ASCII letter in lower case; other characters stay. -/
def lower (c : Char) : Char := if 65 ≤ c.toNat ∧ c.toNat ≤ 90 then Char.ofNat (c.toNat + 32) else c

/-- The double that a name stands for, in any case. -/
def named? (negative : Bool) (cs : List Char) : Option Binary64 :=
  let name := String.ofList (cs.map lower)
  if name = "inf" || name = "infinity" then some (.infinity negative)
  else if name = "nan" then some .nan
  else none

/-- The exponent that ends a decimal; none at all is zero. -/
def exponent? : List Char → Option Int
  | [] => some 0
  | mark :: rest =>
    if mark = 'e' || mark = 'E' then
      let (negative, digits) := sign rest
      if !digits.isEmpty && digits.all isDigit then
        some (if negative then -(natural digits : Int) else natural digits)
      else none
    else none

/-- The double that a decimal or a name writes, nothing around it. -/
def decimal? (cs : List Char) : Option Binary64 :=
  let (negative, body) := sign cs
  match named? negative body with
  | some x => some x
  | none =>
    let (whole, rest) := body.span isDigit
    let (places, rest) := match rest with
      | '.' :: rest => rest.span isDigit
      | rest => ([], rest)
    if whole.isEmpty && places.isEmpty then none
    else (exponent? rest).map fun e =>
      .ofDecimal negative (natural (whole ++ places)) (e - places.length)

/-- Takes away underscores that stand between two digits; refuses any other. -/
def dropBetweenDigits : Bool → List Char → Option (List Char)
  | _, [] => some []
  | afterDigit, c :: rest =>
    if c = '_' then
      if afterDigit && rest.head?.any isDigit then dropBetweenDigits false rest else none
    else (dropBetweenDigits (isDigit c) rest).map (c :: ·)

/-- Whether no underscore stands at the end or beside another. -/
def underscoresApart : List Char → Bool
  | [] => true
  | ['_'] => false
  | '_' :: '_' :: _ => false
  | _ :: rest => underscoresApart rest

/-- A setting: blanks around it are trimmed, digits of all scripts count and underscores separate digits. -/
def setting? (cs : List Char) : Option Binary64 :=
  let plain := (Blank.trim Blank.isBlank cs).map fun c =>
    match Digit.value? c with
    | some d => Char.ofNat (48 + d)
    | none => c
  (dropBetweenDigits false plain).bind decimal?

/-- Takes underscores away, provided that none stands at an end or beside another. -/
def dropUnderscores (cs : List Char) : List Char :=
  if cs.head? != some '_' && underscoresApart cs then cs.filter (· != '_') else cs

/-- A rate written as text in a document: blanks around it are trimmed; if it is no decimal then, it may still be one
without its underscores, but then nothing is trimmed. -/
def rate? (cs : List Char) : Option Binary64 :=
  match decimal? (Blank.trim Blank.isBlank cs) with
  | some x => some x
  | none => decimal? (dropUnderscores cs)

/-- Why a text is no integer. -/
inductive NoInteger where
  | malformed
  | tooLong
  deriving DecidableEq, Repr

/-- The integer that digits write behind an optional minus; a zero in front stands alone. Too many digits are told
apart whatever follows them. -/
def plainInteger (cs : List Char) : Except NoInteger Int :=
  let (negative, body) := match cs with
    | '-' :: body => (true, body)
    | body => (false, body)
  let (digits, rest) := body.span isDigit
  match digits with
  | [] => .error .malformed
  | '0' :: more => if more.isEmpty && rest.isEmpty then .ok 0 else .error .malformed
  | _ =>
    if Digit.maxDigits < digits.length then .error .tooLong
    else if !rest.isEmpty then .error .malformed
    else .ok (if negative then -(natural digits : Int) else natural digits)

/-- Drops a point and the zeros behind it that end a number, if there is a zero at all. -/
def dropZeroPlaces (cs : List Char) : List Char :=
  let (whole, rest) := cs.span (· != '.')
  match rest with
  | _ :: places => if !places.isEmpty && places.all (· == '0') then whole else cs
  | [] => cs

/-- Goes on behind a zero: more zeros and underscores are dropped, up to a digit or a minus. If nothing comes behind
them, the last of them stays. -/
def dropMoreZeros (last : Char) : List Char → Option (List Char)
  | [] => some [last]
  | c :: rest =>
    if c = '0' || c = '_' then dropMoreZeros c rest
    else if c = '-' || isDigit c then some (c :: rest)
    else none

/-- Drops the zeros in front of a number, which has to begin with a digit. -/
def dropLeadingZeros : List Char → Option (List Char)
  | [] => none
  | c :: rest =>
    if c = '0' then dropMoreZeros c rest
    else if isDigit c then some (c :: rest)
    else none

/-- A text without what an integer may have around and between its digits: blanks, a plus, zeros in front and behind a
point, underscores. -/
def tidyInteger? (cs : List Char) : Option (List Char) :=
  let (negative, body) := sign (Blank.trim Blank.isBlank cs)
  (dropLeadingZeros (dropZeroPlaces body)).map fun digits =>
    if negative then '-' :: dropUnderscores digits else dropUnderscores digits

/-- An integer written as text in a document: as it stands, or else tidied. Only a text that is too long as it stands
counts as too long. -/
def integer (cs : List Char) : Except NoInteger Int :=
  match plainInteger cs with
  | .error .malformed =>
    match (tidyInteger? cs).map plainInteger with
    | some (.ok n) => .ok n
    | _ => .error .malformed
  | found => found

end ReplicaWatch.Reading
