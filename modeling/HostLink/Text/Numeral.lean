import HostLink.Text.Blank
import HostLink.Text.Digit

/-!
Signed whole numbers in base ten and sixteen, as text. A single underscore may stand between two
digits, and in base sixteen the digits may follow `0x`.
-/

namespace HostLink.Text

/-- Longer decimal numerals are neither read nor written. -/
def decimalDigitLimit : Nat := 4300

inductive NumeralIssue where
  | malformed
  | tooManyDigits (count : Nat)
  deriving DecidableEq, Repr

inductive Radix where
  | ten
  | sixteen
  deriving DecidableEq, Repr

namespace Radix

def toNat : Radix → Nat
  | ten => 10
  | sixteen => 16

def digit? : Radix → Char → Option Nat
  | ten => decimalDigit?
  | sixteen => hexDigit?

end Radix

/--
The digits at the front and what follows them. There is at least one digit, and an underscore has a
digit on either side.
-/
def readDigits (digit? : Char → Option Nat) : List Char → Option (List Nat × List Char)
  | [] => none
  | c :: rest =>
    match digit? c with
    | none => none
    | some d =>
      match rest with
      | [] => some ([d], [])
      | c' :: rest' =>
        if c' = '_' then
          (readDigits digit? rest').map fun (ds, after) => (d :: ds, after)
        else if (digit? c').isSome then
          (readDigits digit? (c' :: rest')).map fun (ds, after) => (d :: ds, after)
        else some ([d], c' :: rest')

def dropUnderscore : List Char → List Char
  | '_' :: rest => rest
  | s => s

/-- Text after the mark of base sixteen; an underscore may follow the mark. -/
def dropHexMark : List Char → List Char
  | zero :: x :: rest =>
    if decimalDigit? zero = some 0 ∧ (x = 'x' ∨ x = 'X') then dropUnderscore rest
    else zero :: x :: rest
  | s => s

def splitSign : List Char → Bool × List Char
  | '-' :: rest => (true, rest)
  | '+' :: rest => (false, rest)
  | s => (false, s)

def applySign (negative : Bool) (n : Nat) : Int :=
  if negative then -(n : Int) else n

def readMagnitude : Radix → List Char → Option (List Nat × List Char)
  | .ten, s => readDigits decimalDigit? s
  | .sixteen, s => readDigits hexDigit? (dropHexMark s)

structure Numeral where
  negative : Bool
  digits : List Nat
  deriving DecidableEq, Repr

namespace Numeral

def toInt (radix : Radix) (n : Numeral) : Int :=
  applySign n.negative (positional radix.toNat n.digits)

/-- Reads a whole numeral. Too many digits are reported before what follows them is looked at. -/
def read (radix : Radix) (s : List Char) : Except NumeralIssue Numeral :=
  let (negative, body) := splitSign (s.dropWhile isPadding)
  match readMagnitude radix body with
  | none => .error .malformed
  | some (digits, after) =>
    if radix = .ten ∧ decimalDigitLimit < digits.length then .error (.tooManyDigits digits.length)
    else if after.all isPadding then .ok ⟨negative, digits⟩
    else .error .malformed

end Numeral

/-- The decimal text of `n`, or nothing when it has too many digits. -/
def decimalInt? (n : Int) : Option (List Char) :=
  if n.natAbs < Nat.pow 10 decimalDigitLimit then some (decimalInt n) else none

end HostLink.Text
