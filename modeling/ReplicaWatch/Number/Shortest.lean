import ReplicaWatch.Number.Binary64

/-! The shortest decimal text of a double: the fewest digits that read back as the same double, and of those with
that many digits the nearest to its value. -/
namespace ReplicaWatch.Binary64

/-- The decimal number `digits * 10 ^ exponent`. -/
structure Decimal where
  digits : Nat
  exponent : Int
  deriving DecidableEq, Repr

/-- Compares `d * 10 ^ s` with `w * 2 ^ p` in integers. -/
def compareDecimal (d : Nat) (s : Int) (w : Nat) (p : Int) : Ordering :=
  compare (d * scale 10 s * scale 2 (-p)) (w * scale 2 p * scale 10 (-s))

/-- Whether a decimal number reads back as a finite positive double: it lies between the midpoints to the two
neighbours, and a midpoint itself belongs to the even significand. Midpoints are counted in quarters of the unit. -/
def readsBack (x : Binary64) (d : Nat) (s : Int) : Bool :=
  let m := x.significand
  let p := x.power - 2
  let low := 4 * m - (if m = fractionCount && 1 < x.exponent then 1 else 2)
  let high := 4 * m + 2
  let even := m % 2 == 0
  let below := compareDecimal d s low p
  let above := compareDecimal d s high p
  (below == .gt || even && below == .eq) && (above == .lt || even && above == .eq)

/-- The exponent of the largest power of ten that does not exceed a positive quotient above `10 ^ (-400)`. -/
def log10Ratio (num den : Nat) : Int :=
  if den ≤ num then ((Nat.toDigits 10 (num / den)).length : Int) - 1
  else -(((List.range 400).find? fun k => den ≤ num * Nat.pow 10 (k + 1)).getD 0 + 1 : Nat)

/-- The better of the two neighbours of a positive double on the grid of multiples of `10 ^ s`, if one of them reads
back. -/
def onGrid? (x : Binary64) (s : Int) : Option Decimal :=
  let m := x.significand
  let p := x.power
  let floor := m * scale 2 p * scale 10 (-s) / (scale 2 (-p) * scale 10 s)
  match x.readsBack floor s, x.readsBack (floor + 1) s with
  | true, false => some ⟨floor, s⟩
  | false, true => some ⟨floor + 1, s⟩
  | true, true =>
    match compareDecimal (2 * floor + 1) s (2 * m) p with
    | .gt => some ⟨floor, s⟩
    | .lt => some ⟨floor + 1, s⟩
    | .eq => some ⟨floor + floor % 2, s⟩
  | false, false => none

/-- The shortest decimal of a finite double other than zero, without its sign. Seventeen digits always suffice. -/
def shortest (x : Binary64) : Decimal :=
  let top := log10Ratio (x.significand * scale 2 x.power) (scale 2 (-x.power))
  ((List.range 17).findSome? fun (n : Nat) => x.onGrid? (top - n)).getD ⟨0, 0⟩

/-- How a decimal is laid out: the exponents that are written positionally and the least number of digits of an
exponent that is written. -/
structure Layout where
  positionalFrom : Int
  positionalBelow : Int
  exponentDigits : Nat
  deriving DecidableEq, Repr

/-- Numbers from 0.0001 to below 10 ^ 16 are positional, and exponents have two digits or more. -/
def standardLayout : Layout := ⟨-4, 16, 2⟩

/-- The digits without the zeros at their end. -/
def significantDigits (n : Nat) : List Char :=
  ((Nat.toDigits 10 n).reverse.dropWhile (· = '0')).reverse

/-- An exponent with its sign. -/
def exponentText (layout : Layout) (e : Int) : List Char :=
  let digits := Nat.toDigits 10 e.natAbs
  (if e < 0 then '-' else '+') ::
    List.replicate (layout.exponentDigits - digits.length) '0' ++ digits

/-- A positive decimal laid out; a positional text shows at least one place. -/
def Decimal.layOut (layout : Layout) (d : Decimal) : List Char :=
  let top : Int := d.exponent + (Nat.toDigits 10 d.digits).length - 1
  let digits := significantDigits d.digits
  if layout.positionalFrom ≤ top && top < layout.positionalBelow then
    if top < 0 then '0' :: '.' :: List.replicate (-top - 1).toNat '0' ++ digits
    else
      let whole := top.toNat + 1
      let padded := digits ++ List.replicate (whole + 1 - digits.length) '0'
      padded.take whole ++ '.' :: padded.drop whole
  else
    match digits with
    | [] => []
    | [d] => d :: 'e' :: exponentText layout top
    | d :: more => d :: '.' :: more ++ 'e' :: exponentText layout top

/-- The text of a double. -/
def text (x : Binary64) : List Char :=
  let unsigned :=
    if x.isNaN then ['n', 'a', 'n']
    else if !x.isFinite then ['i', 'n', 'f']
    else if x.isZero then ['0', '.', '0']
    else x.shortest.layOut standardLayout
  if x.negative && !x.isNaN then '-' :: unsigned else unsigned

end ReplicaWatch.Binary64
