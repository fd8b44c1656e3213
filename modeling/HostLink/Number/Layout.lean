import HostLink.Number.Shortest
import HostLink.Text.Layout

/-!
Binary64 numbers rounded to a number of places or digits, and laid out.
-/

namespace HostLink.Double

open Text

def fixedDigits (significand : Nat) (exponent : Int) (places : Nat) : List Char × List Char :=
  let (num, den) := scaled significand exponent places
  let digits := decimal (roundDiv num den)
  let digits := List.replicate (places + 1 - digits.length) '0' ++ digits
  (digits.take (digits.length - places), digits.drop (digits.length - places))

/-- So many digits, and the place of the point before or after their first one. -/
def roundedDigits (significand : Nat) (exponent : Int) (count : Nat) : List Char × Int :=
  if significand = 0 then (List.replicate count '0', 1)
  else
    let (num, den) := scaled significand exponent 0
    let point := pointOf num den
    let (num, den) := scaled significand exponent (count - point)
    let digits := decimal (roundDiv num den)
    if count < digits.length then (digits.take count, point + 1) else (digits, point)

def powerText (upper : Bool) (e : Int) : List Char :=
  let power := decimal e.natAbs
  (if upper then 'E' else 'e') :: (if e < 0 then '-' else '+') ::
    (if power.length < 2 then '0' :: power else power)

def partText (keepPoint : Bool) (part : List Char) : List Char :=
  if part.isEmpty then if keepPoint then ['.'] else [] else '.' :: part

/-- Digits in positional notation, as those before the point and what follows them. -/
def positionalParts (keepPoint : Bool) (digits : List Char) (point : Int) :
    List Char × List Char :=
  if point ≤ 0 then (['0'], partText keepPoint (List.replicate point.natAbs '0' ++ digits))
  else
    (digits.take point.natAbs ++ List.replicate (point.natAbs - digits.length) '0',
      partText keepPoint (digits.drop point.natAbs))

def scientificParts (upper keepPoint : Bool) (digits : List Char) (point : Int) :
    List Char × List Char :=
  (digits.take 1, partText keepPoint (digits.drop 1) ++ powerText upper (point - 1))

def dropZeros (digits : List Char) : List Char :=
  match dropEnd digits with
  | [] => ['0']
  | digits => digits
where
  dropEnd (s : List Char) : List Char := (s.reverse.dropWhile (· = '0')).reverse

/-- Positional or scientific, by the size of the number; final zeros are left out. -/
def generalParts (l : Layout) (upper : Bool) (significand : Nat) (exponent : Int) (count : Nat) :
    List Char × List Char :=
  let count := max count 1
  let (digits, point) := roundedDigits significand exponent count
  let digits := if l.alternate then digits else dropZeros digits
  if point ≤ -4 ∨ (count : Int) < point then scientificParts upper l.alternate digits point
  else positionalParts l.alternate digits point

def withPart (parts : List Char × List Char) : List Char × List Char :=
  if parts.2.isEmpty ∨ parts.2 = ['.'] then (parts.1, ['.', '0']) else parts

/-- The plain text, or with a precision the general one, which shows a part after the point. -/
def plainParts (l : Layout) (significand : Nat) (exponent : Int) : List Char × List Char :=
  match l.precision with
  | none =>
    let (digits, point) := shortestDigits significand exponent
    if -4 < point ∧ point ≤ 16 then withPart (positionalParts l.alternate digits point)
    else scientificParts false l.alternate digits point
  | some count =>
    let count := max count 1
    let (digits, point) := roundedDigits significand exponent count
    let digits := if l.alternate then digits else dropZeros digits
    if point ≤ -4 ∨ (count : Int) - 1 < point then scientificParts false l.alternate digits point
    else withPart (positionalParts l.alternate digits point)

def parts? (l : Layout) (significand : Nat) (exponent : Int) : Option (List Char × List Char) :=
  let precision := l.precision.getD 6
  match l.form with
  | none => some (plainParts l significand exponent)
  | some c =>
    if c = 'f' ∨ c = 'F' ∨ c = '%' then
      let (whole, part) := fixedDigits significand exponent precision
      some (whole, partText l.alternate part)
    else if c = 'e' ∨ c = 'E' then
      let (digits, point) := roundedDigits significand exponent (precision + 1)
      some (scientificParts (c = 'E') l.alternate digits point)
    else if c = 'g' ∨ c = 'G' ∨ c = 'n' then
      some (generalParts l (c = 'G') significand exponent precision)
    else none

def percent : Double → Double
  | .finite negative significand exponent =>
    let (num, den) := fraction false (100 * significand) exponent
    ofRatio negative num.natAbs den
  | x => x

def isZeroText (parts : List Char × List Char) : Bool :=
  (parts.1 ++ parts.2.takeWhile fun c => c != 'e' && c != 'E').all fun c => c == '0' || c == '.'

def laidOut? (l : Layout) (x : Double) : Option (List Char) :=
  let isPercent := l.form = some '%'
  let tail : List Char := if isPercent then ['%'] else []
  let upper := l.form = some 'F' ∨ l.form = some 'E' ∨ l.form = some 'G'
  match (if isPercent then percent x else x) with
  | .nan => (parts? l 0 0).map fun _ => l.number false [] 3 [] ((if upper then "NAN" else "nan").toList ++ tail)
  | .infinite negative =>
    (parts? l 0 0).map fun _ =>
      l.number negative [] 3 [] ((if upper then "INF" else "inf").toList ++ tail)
  | .finite negative significand exponent =>
    (parts? l significand exponent).map fun parts =>
      l.number (negative && !(l.unsignedZero && isZeroText parts)) [] 3 parts.1 (parts.2 ++ tail)

end HostLink.Double
