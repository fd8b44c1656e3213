import HostLink.Number.Double
import HostLink.Text.Digit

/-!
The fewest decimal digits that read back as the same binary64 number, and among those the nearest to
it; and the text made of them.
-/

namespace HostLink.Double

/--
The numbers that round to a significand and exponent, on the scale of quarters of its last place:
the least and the greatest, which count themselves when the significand is even.
-/
def roundingInterval (significand : Nat) (exponent : Int) : Nat × Nat :=
  let low := if significand = hiddenBit ∧ minExponent < exponent then 1 else 2
  (4 * significand - low, 4 * significand + 2)

def scaled (m : Nat) (e k : Int) : Nat × Nat :=
  let num := m * (if e < 0 then 1 else Nat.pow 2 e.natAbs) * (if k < 0 then 1 else Nat.pow 10 k.natAbs)
  let den := (if e < 0 then Nat.pow 2 e.natAbs else 1) * (if k < 0 then Nat.pow 10 k.natAbs else 1)
  (num, den)

def readsBack (significand : Nat) (exponent : Int) (k : Int) (d : Nat) : Bool :=
  let (low, high) := roundingInterval significand exponent
  let (lowNum, den) := scaled low (exponent - 2) k
  let (highNum, _) := scaled high (exponent - 2) k
  if significand % 2 = 0 then lowNum ≤ d * den && d * den ≤ highNum
  else lowNum < d * den && d * den < highNum

/-- The number of digits before the point of `num / den`; not positive below one tenth. -/
def pointOf (num den : Nat) : Int :=
  if den ≤ num then ((Nat.toDigits 10 (num / den)).length : Int)
  else 1 - ((Nat.toDigits 10 ((den - 1) / num)).length : Int)

/-- The nearer of `d` and `d + 1` to `num / den` among those that read back; even of two as near. -/
def nearest? (good : Nat → Bool) (num den : Nat) : Option Nat :=
  let d := num / den
  let twice := 2 * (num % den)
  match good d, good (d + 1) with
  | false, false => none
  | true, false => some d
  | false, true => some (d + 1)
  | true, true =>
    if twice < den then some d else if den < twice then some (d + 1) else some (d + d % 2)

def shortestFrom (significand : Nat) (exponent point : Int) : Nat → Nat → Nat × Int
  | 0, count => (significand, (count : Int) - point)
  | fuel + 1, count =>
    let k := (count : Int) - point
    let (num, den) := scaled significand exponent k
    match nearest? (readsBack significand exponent k) num den with
    | some d => (d, k)
    | none => shortestFrom significand exponent point fuel (count + 1)

/-- Digits and the decimal exponent `k` of the text, so that the number is near `digits * 10 ^ -k`. -/
def shortest (significand : Nat) (exponent : Int) : Nat × Int :=
  let (num, den) := scaled significand exponent 0
  shortestFrom significand exponent (pointOf num den) 17 1

open Text in
def shortestDigits (significand : Nat) (exponent : Int) : List Char × Int :=
  if significand = 0 then (['0'], 1)
  else
    let (d, k) := shortest significand exponent
    let digits := decimal d
    let point := (digits.length : Int) - k
    let stripped := (digits.reverse.dropWhile (· = '0')).reverse
    (stripped, point)

/-- Positional from a ten thousandth up to below 10^16, with a digit on either side of the point. -/
def positionalText (digits : List Char) (point : Int) : List Char :=
  if point ≤ 0 then '0' :: '.' :: List.replicate point.natAbs '0' ++ digits
  else
    let whole := digits.take point.natAbs
    let rest := digits.drop point.natAbs
    whole ++ List.replicate (point.natAbs - digits.length) '0' ++
      '.' :: (if rest.isEmpty then ['0'] else rest)

/-- Scientific text: one digit before the point, and an exponent of two digits or more. -/
def scientificText (digits : List Char) (point : Int) : List Char :=
  let e := point - 1
  let power := Text.decimal e.natAbs
  let power := if power.length < 2 then '0' :: power else power
  let sign := if e < 0 then '-' else '+'
  match digits with
  | [] => []
  | [d] => d :: 'e' :: sign :: power
  | d :: rest => d :: '.' :: rest ++ 'e' :: sign :: power

def magnitudeText (significand : Nat) (exponent : Int) : List Char :=
  let (digits, point) := shortestDigits significand exponent
  if -4 < point ∧ point ≤ 16 then positionalText digits point else scientificText digits point

def text : Double → List Char
  | .nan => ['n', 'a', 'n']
  | .infinite negative => (if negative then ['-'] else []) ++ ['i', 'n', 'f']
  | .finite negative significand exponent =>
    (if negative then ['-'] else []) ++ magnitudeText significand exponent

end HostLink.Double
