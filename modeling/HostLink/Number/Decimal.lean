import HostLink.Text.Numeral

/-!
Decimal numbers that keep their digits: a coefficient and a power of ten.
-/

namespace HostLink

inductive Decimal where
  /-- No number: it may signal when it is used, and it may carry a payload. -/
  | nan (negative signals : Bool) (payload : Nat)
  | infinite (negative : Bool)
  | finite (negative : Bool) (coefficient : Nat) (exponent : Int)
  deriving DecidableEq, Repr

namespace Decimal

open Text

def splitDigits (s : List Char) : List Nat × List Char :=
  ((s.takeWhile isAsciiDigit).filterMap asciiDigit?, s.dropWhile isAsciiDigit)

def readPower? : List Char → Option Int
  | [] => some 0
  | e :: rest =>
    if e = 'e' ∨ e = 'E' then
      let (negative, body) := splitSign rest
      match splitDigits body with
      | ([], _) => none
      | (digits, []) => some (applySign negative (positional 10 digits))
      | _ => none
    else none

def readFinite? (negative : Bool) (s : List Char) : Option Decimal :=
  let (whole, rest) := splitDigits s
  let (part, rest) := match rest with
    | '.' :: rest => splitDigits rest
    | rest => ([], rest)
  if whole.isEmpty && part.isEmpty then none
  else (readPower? rest).map fun power =>
    .finite negative (positional 10 (whole ++ part)) (power - part.length)

/-- Digits of all scripts as ASCII digits, without the underscores. -/
def asciiForm? (s : List Char) : Option (List Char) :=
  (s.filter (· ≠ '_')).mapM fun c =>
    if c.toNat < 0x80 then some c else (decimalDigit? c).map Nat.digitChar

/-- What is no number is spelled `nan`, or `snan` where it signals, with the payload after it. -/
def readNan? (negative : Bool) (s : List Char) : Option Decimal :=
  let (signals, body) := match s.map Char.toLower with
    | 's' :: rest => (true, rest)
    | rest => (false, rest)
  match body with
  | 'n' :: 'a' :: 'n' :: rest =>
    match splitDigits rest with
    | (digits, []) => some (.nan negative signals (positional 10 digits))
    | _ => none
  | _ => none

def ofAscii? (s : List Char) : Option Decimal :=
  let (negative, body) := splitSign s
  let word := String.ofList (body.map Char.toLower)
  if word = "inf" ∨ word = "infinity" then some (.infinite negative)
  else (readNan? negative body).or (readFinite? negative body)

def ofText? (s : String) : Option Decimal :=
  (asciiForm? (trimmed s)).bind ofAscii?

def placed (digits : List Char) (point : Int) : List Char :=
  if point ≤ 0 then '0' :: '.' :: List.replicate point.natAbs '0' ++ digits
  else
    let rest := digits.drop point.natAbs
    digits.take point.natAbs ++ (if rest.isEmpty then [] else '.' :: rest)

def powerText (e : Int) : List Char :=
  'E' :: (if e < 0 then '-' else '+') :: decimal e.natAbs

/-- A power is written when the last digit is above the ones or far below the first place. -/
def magnitudeText (coefficient : Nat) (exponent : Int) : List Char :=
  let digits := decimal coefficient
  let left := exponent + digits.length
  if exponent ≤ 0 ∧ -6 < left then placed digits left
  else placed digits 1 ++ if left = 1 then [] else powerText (left - 1)

def text : Decimal → List Char
  | .nan negative signals payload =>
    (if negative then ['-'] else []) ++ (if signals then ['s'] else []) ++ "NaN".toList ++
      if payload = 0 then [] else decimal payload
  | .infinite negative => (if negative then ['-'] else []) ++ "Infinity".toList
  | .finite negative coefficient exponent =>
    (if negative then ['-'] else []) ++ magnitudeText coefficient exponent

def truncate (negative : Bool) (coefficient : Nat) (exponent : Int) : Int :=
  applySign negative <|
    if exponent < 0 then coefficient / Nat.pow 10 exponent.natAbs
    else coefficient * Nat.pow 10 exponent.natAbs

def fraction (negative : Bool) (coefficient : Nat) (exponent : Int) : Int × Nat :=
  if exponent < 0 then (applySign negative coefficient, Nat.pow 10 exponent.natAbs)
  else (applySign negative (coefficient * Nat.pow 10 exponent.natAbs), 1)

end Decimal

end HostLink
