/-! Floating point numbers of double width as their bit patterns. The program never computes with them: it reads them,
compares them with integers and writes them, which exact arithmetic on natural numbers decides. -/
namespace ReplicaWatch

/-- A double, by its sign bit, eleven bits of exponent and 52 bits of fraction. -/
structure Binary64 where
  bits : UInt64
  deriving DecidableEq, Repr

namespace Binary64

/-- The word of the sign bit alone, two to the power of 63. -/
def signWord : Nat := 0x8000000000000000

/-- How many fractions there are, two to the power of 52. -/
def fractionCount : Nat := 0x10000000000000

/-- How many exponent fields there are, two to the power of eleven. -/
def exponentCount : Nat := 0x800

/-- A power of a base; one where the exponent is negative. -/
def scale (base : Nat) (e : Int) : Nat := Nat.pow base e.toNat

def negative (x : Binary64) : Bool := signWord ≤ x.bits.toNat

def exponent (x : Binary64) : Nat := x.bits.toNat / fractionCount % exponentCount

def fraction (x : Binary64) : Nat := x.bits.toNat % fractionCount

def isFinite (x : Binary64) : Bool := x.exponent != 2047

def isNaN (x : Binary64) : Bool := x.exponent == 2047 && x.fraction != 0

def isZero (x : Binary64) : Bool := x.exponent == 0 && x.fraction == 0

/-- A finite double has the absolute value `significand * 2 ^ power`. -/
def significand (x : Binary64) : Nat := if x.exponent = 0 then x.fraction else x.fraction + fractionCount

def power (x : Binary64) : Int := (max x.exponent 1 : Nat) - 1075

/-- The largest exponent field with no fraction, which stands for infinity. -/
def infinityWord : Nat := 2047 * fractionCount

def ofWord (negative : Bool) (word : Nat) : Binary64 :=
  ⟨UInt64.ofNat (if negative then signWord + word else word)⟩

def infinity (negative : Bool) : Binary64 := ofWord negative infinityWord

def nan : Binary64 := ofWord false (infinityWord + fractionCount / 2)

/-- The integer nearest to a quotient; a tie goes to the even neighbour. -/
def roundDiv (num den : Nat) : Nat :=
  let floor := num / den
  let rest := 2 * (num % den)
  if rest < den then floor
  else if den < rest then floor + 1
  else floor + floor % 2

/-- The exponent of the largest power of two that does not exceed a positive quotient. -/
def log2Ratio (num den : Nat) : Int :=
  let e : Int := (num.log2 : Int) - den.log2
  if num * scale 2 (-e) < den * scale 2 e then e - 1 else e

/-- Exponent field and fraction of the double nearest to a quotient, as one number. A significand that rounds up to
the next power of two carries into the exponent field, and beyond the last double lies infinity. -/
def nearestWord (num den : Nat) : Nat :=
  if num = 0 then 0
  else
    let power := max (log2Ratio num den - 52) (-1074)
    let significand := roundDiv (num * scale 2 (-power)) (den * scale 2 power)
    min ((power + 1074).toNat * fractionCount + significand) infinityWord

def ofInt (n : Int) : Binary64 := ofWord (n < 0) (nearestWord n.natAbs 1)

/-- The double nearest to `digits * 10 ^ exponent`. Exponents that lie far outside the range of doubles are settled
without computing the power. -/
def ofDecimal (negative : Bool) (digits : Nat) (exponent : Int) : Binary64 :=
  if digits = 0 then ofWord negative 0
  else if 400 ≤ exponent then infinity negative
  else if (digits.log2 : Int) + 1 + 3 * exponent < -1080 then ofWord negative 0
  else ofWord negative (nearestWord (digits * scale 10 exponent) (scale 10 (-exponent)))

/-- The value of a double that is an integer. -/
def toInt? (x : Binary64) : Option Int :=
  if !x.isFinite then none
  else
    let scaled := x.significand * scale 2 x.power
    let unit := scale 2 (-x.power)
    if scaled % unit = 0 then
      some (if x.negative then -((scaled / unit : Nat) : Int) else ((scaled / unit : Nat) : Int))
    else none

end Binary64
end ReplicaWatch
