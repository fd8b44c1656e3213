import HostLink.Number.Decimal
import HostLink.Text.Layout

/-!
Decimal numbers rounded, half to even, and laid out. They keep their digits: without a precision none
is lost, and final zeros stay.
-/

namespace HostLink.Decimal

open Text

/-- Divides and rounds to the nearest, half to even. -/
def roundedQuotient (n divisor : Nat) : Nat :=
  let quotient := n / divisor
  let twice := 2 * (n % divisor)
  if divisor < twice ∨ (twice = divisor ∧ quotient % 2 = 1) then quotient + 1 else quotient

def rescaled (coefficient : Nat) (exponent power : Int) : Nat :=
  if power ≤ exponent then coefficient * Nat.pow 10 (exponent - power).toNat
  else roundedQuotient coefficient (Nat.pow 10 (power - exponent).toNat)

/-- At most so many digits, at least one; the last of them may move up a power. -/
def shortened (coefficient : Nat) (exponent : Int) (count : Nat) : Nat × Int :=
  let count := max count 1
  let excess := (decimal coefficient).length - count
  if excess = 0 then (coefficient, exponent)
  else
    let power := exponent + excess
    let rounded := rescaled coefficient exponent power
    if (decimal rounded).length ≤ count then (rounded, power) else (rounded / 10, power + 1)

def lengthened (coefficient : Nat) (exponent : Int) (count : Nat) : Nat × Int :=
  if coefficient = 0 then (0, exponent)
  else
    let missing := count - (decimal coefficient).length
    if missing = 0 then shortened coefficient exponent count
    else (coefficient * Nat.pow 10 missing, exponent - missing)

inductive Style where
  | scientific
  | fixed
  | general
  deriving DecidableEq, Repr

def styleOf? (form : Option Char) : Option Style :=
  match form with
  | none => some .general
  | some c =>
    if c = 'e' ∨ c = 'E' then some .scientific
    else if c = 'f' ∨ c = 'F' ∨ c = '%' then some .fixed
    else if c = 'g' ∨ c = 'G' ∨ c = 'n' then some .general
    else none

def fitted (style : Style) (precision : Option Nat) (coefficient : Nat) (exponent : Int) :
    Nat × Int :=
  match style, precision with
  | .scientific, some n => lengthened coefficient exponent (n + 1)
  | .fixed, some n => (rescaled coefficient exponent (-n), -n)
  | .general, some n => shortened coefficient exponent n
  | .fixed, none => if coefficient = 0 ∧ 0 < exponent then (0, 0) else (coefficient, exponent)
  | _, none => (coefficient, exponent)

def pointPlace (style : Style) (precision : Option Nat) (coefficient : Nat) (exponent left : Int) :
    Int :=
  match style with
  | .scientific => if coefficient = 0 then 1 - (precision.getD 0 : Nat) else 1
  | .fixed => left
  | .general => if exponent ≤ 0 ∧ -6 < left then left else 1

def split (digits : List Char) (place : Int) : List Char × List Char :=
  if place ≤ 0 then (['0'], List.replicate place.natAbs '0' ++ digits)
  else
    (digits.take place.natAbs ++ List.replicate (place.natAbs - digits.length) '0',
      digits.drop place.natAbs)

def specialText : Decimal → List Char
  | .nan _ signals payload => Decimal.text (.nan false signals payload)
  | .infinite _ => Decimal.text (.infinite false)
  | d => d.text

def isNegative : Decimal → Bool
  | .nan negative .. | .infinite negative | .finite negative .. => negative

def laidOut? (l : Layout) (d : Decimal) : Option (List Char) := do
  let style ← styleOf? l.form
  if l.grouping == some '_' || (l.align.isSome && l.zeroFirst) then none
  else
    let percent : List Char := if l.form = some '%' then ['%'] else []
    match d with
    | .finite negative coefficient exponent =>
      let exponent := if l.form = some '%' then exponent + 2 else exponent
      let (coefficient, exponent) := fitted style l.precision coefficient exponent
      let digits := decimal coefficient
      let left := exponent + digits.length
      let place := pointPlace style l.precision coefficient exponent left
      let (whole, part) := split digits place
      let (l, whole) := if l.zeros then (l, whole)
        else ({ l with grouping := none }, Layout.grouped l.grouping 3 0 whole)
      let power := left - place
      let mark : List Char := if part.isEmpty && !l.alternate then [] else ['.']
      let powerText : List Char := if power = 0 ∧ style ≠ .scientific then []
        else (if l.form = some 'e' ∨ l.form = some 'g' ∨ l.form = some 'n' then 'e' else 'E') ::
          (if power < 0 then '-' else '+') :: decimal power.natAbs
      pure (l.number (negative && !(l.unsignedZero && coefficient == 0)) [] 3 whole
        (mark ++ part ++ powerText ++ percent))
    | d => pure (Layout.number { l with zeros := false } d.isNegative [] 3 [] (specialText d ++ percent))

end HostLink.Decimal
