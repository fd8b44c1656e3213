/-!
Numbers of the binary64 format, exactly: a sign, a significand below 2^53 and a power of two not
below 2^-1074. Every fraction is rounded to a nearest one, and to the even one of two.
-/

namespace HostLink

inductive Double where
  | nan
  | infinite (negative : Bool)
  | finite (negative : Bool) (significand : Nat) (exponent : Int)
  deriving DecidableEq, Repr

namespace Double

def minExponent : Int := -1074

def maxExponent : Int := 971

/-- The least significand of a number that is not below the normal range. -/
def hiddenBit : Nat := Nat.pow 2 52

def zero (negative : Bool) : Double :=
  .finite negative 0 minExponent

/-- `num / den` divided by `2 ^ e`, as a quotient of naturals. -/
def scaleBy (num den : Nat) (e : Int) : Nat × Nat :=
  if e < 0 then (num * Nat.pow 2 e.natAbs, den) else (num, den * Nat.pow 2 e.natAbs)

/-- The quotient rounded to a nearest natural, and to the even one of two. -/
def roundDiv (num den : Nat) : Nat :=
  let q := num / den
  let twice := 2 * (num % den)
  if twice < den then q
  else if den < twice then q + 1
  else q + q % 2

/-- The power of two of the last place of a number near `num / den`. -/
def placeOf (num den : Nat) : Int :=
  let guess : Int := (num.log2 : Int) - den.log2 - 52
  let (n, d) := scaleBy num den guess
  max minExponent (if n / d < hiddenBit then guess - 1 else guess)

/-- The number nearest to `num / den`, for a positive `den`. -/
def ofRatio (negative : Bool) (num den : Nat) : Double :=
  if num = 0 then zero negative
  else
    let e := placeOf num den
    let (n, d) := scaleBy num den e
    let q := roundDiv n d
    let (q, e) := if q = 2 * hiddenBit then (hiddenBit, e + 1) else (q, e)
    if maxExponent < e then .infinite negative else .finite negative q e

def ofInt (n : Int) : Double :=
  ofRatio (n < 0) n.natAbs 1

/--
The number nearest to `coefficient * 10 ^ exponent`. Far outside the range the power is not worked
out: as ten is more than eight, three binary places for each decimal one tell the answer.
-/
def ofDecimal (negative : Bool) (coefficient : Nat) (exponent : Int) : Double :=
  let magnitude : Int := coefficient.log2 + 3 * exponent
  if coefficient = 0 then zero negative
  else if 0 < exponent ∧ 1100 < magnitude then .infinite negative
  else if exponent < 0 ∧ magnitude < -1100 then zero negative
  else if exponent < 0 then ofRatio negative coefficient (Nat.pow 10 exponent.natAbs)
  else ofRatio negative (coefficient * Nat.pow 10 exponent.natAbs) 1

def truncate (negative : Bool) (significand : Nat) (exponent : Int) : Int :=
  let magnitude :=
    if exponent < 0 then significand / Nat.pow 2 exponent.natAbs
    else significand * Nat.pow 2 exponent.natAbs
  if negative then -(magnitude : Int) else magnitude

def fraction (negative : Bool) (significand : Nat) (exponent : Int) : Int × Nat :=
  let num := if exponent < 0 then significand else significand * Nat.pow 2 exponent.natAbs
  let den := if exponent < 0 then Nat.pow 2 exponent.natAbs else 1
  (if negative then -(num : Int) else num, den)

/-- Holds of what lies below zero; zero itself has a sign but is not below. -/
def isNegative : Double → Bool
  | .nan => false
  | .infinite negative => negative
  | .finite negative significand _ => negative && significand != 0

/-- Holds of zero and of what lies below it; what is no number is not compared. -/
def isAtMostZero : Double → Bool
  | .nan => false
  | .infinite negative => negative
  | .finite negative significand _ => negative || significand == 0

end Double

end HostLink
