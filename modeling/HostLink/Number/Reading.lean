import HostLink.Number.Decimal
import HostLink.Number.Shortest

/-!
Binary64 numbers, complex numbers and fractions from text.
-/

namespace HostLink

open Text

namespace Double

def readDecimal? (negative : Bool) (s : List Char) : Option Double :=
  match Decimal.readFinite? negative s with
  | some (.finite negative coefficient exponent) => some (ofDecimal negative coefficient exponent)
  | _ => none

def readPlain? (s : List Char) : Option Double :=
  let (negative, body) := splitSign s
  let word := String.ofList (body.map Char.toLower)
  if word = "nan" then some .nan
  else if word = "inf" ∨ word = "infinity" then some (.infinite negative)
  else readDecimal? negative body

def hasDoubleUnderscore : List Char → Bool
  | '_' :: '_' :: _ => true
  | _ :: rest => hasDoubleUnderscore rest
  | [] => false

def withoutPadding (s : List Char) : List Char :=
  dropEndWhile isPadding (s.dropWhile isPadding)

/-- Reads a number with padding around it, or with single underscores inside it. -/
def ofText? (s : List Char) : Option Double :=
  match readPlain? (withoutPadding s) with
  | some x => some x
  | none =>
    if s.head? = some '_' ∨ s.getLast? = some '_' ∨ !s.contains '_' ∨ hasDoubleUnderscore s then none
    else readPlain? (s.filter (· ≠ '_'))

/-- The text without the underscores, each of which has to stand between two digits. -/
def joinDigits? (afterDigit : Bool) : List Char → Option (List Char)
  | [] => some []
  | c :: rest =>
    if c = '_' then
      match rest with
      | [] => none
      | d :: _ => if afterDigit && isAsciiDigit d then joinDigits? false rest else none
    else (joinDigits? (isAsciiDigit c) rest).map (c :: ·)

def asciiDigits (s : List Char) : List Char :=
  s.map fun c =>
    match decimalDigit? c with
    | some d => Nat.digitChar d
    | none => c

/-- Reads a numeral: digits of any script, with padding around it and underscores between digits. -/
def ofNumeral? (s : List Char) : Option Double :=
  (joinDigits? false (withoutPadding (asciiDigits s))).bind readPlain?

def dropHexMark : List Char → List Char
  | '0' :: x :: rest => if x = 'x' ∨ x = 'X' then rest else '0' :: x :: rest
  | s => s

def readBinaryPower? : List Char → Option Int
  | [] => some 0
  | p :: rest =>
    if p = 'p' ∨ p = 'P' then
      let (negative, body) := splitSign rest
      if body.isEmpty || !body.all isAsciiDigit then none
      else some (applySign negative (positional 10 (body.filterMap asciiDigit?)))
    else none

/-- `n * 2 ^ e`; far outside the range the power is not worked out. -/
def ofBinary (negative : Bool) (n : Nat) (e : Int) : Double :=
  let magnitude : Int := n.log2 + e
  if n = 0 then zero negative
  else if 1100 < magnitude then .infinite negative
  else if magnitude < -1200 then zero negative
  else
    let (num, den) := scaled n e 0
    ofRatio negative num den

/-- Reads base sixteen notation with a power of two. A number beyond the format is infinite. -/
def ofHex? (s : List Char) : Option Double :=
  let (negative, body) := splitSign (withoutPadding s)
  let word := String.ofList (body.map Char.toLower)
  if word = "nan" then some .nan
  else if word = "inf" ∨ word = "infinity" then some (.infinite negative)
  else
    let body := dropHexMark body
    let whole := body.takeWhile isAsciiHexDigit
    let rest := body.dropWhile isAsciiHexDigit
    let (part, rest) := match rest with
      | '.' :: rest => (rest.takeWhile isAsciiHexDigit, rest.dropWhile isAsciiHexDigit)
      | rest => ([], rest)
    if whole.isEmpty && part.isEmpty then none
    else (readBinaryPower? rest).map fun power =>
      ofBinary negative (positional 16 ((whole ++ part).filterMap asciiHexDigit?))
        (power - 4 * part.length)

def spanDigits (s : List Char) : List Char × List Char :=
  s.span isAsciiDigit

def spanDecimal (s : List Char) : List Char × List Char :=
  let (whole, rest) := spanDigits s
  let (part, rest) := match rest with
    | '.' :: after =>
      let (digits, after) := spanDigits after
      ('.' :: digits, after)
    | rest => ([], rest)
  if whole.isEmpty && part.length ≤ 1 then ([], s)
  else
    match rest with
    | e :: after =>
      if e = 'e' ∨ e = 'E' then
        let sign := after.takeWhile fun c => c = '+' ∨ c = '-'
        let (digits, after) := spanDigits (after.drop sign.length)
        if digits.isEmpty || 1 < sign.length then (whole ++ part, rest)
        else (whole ++ part ++ e :: sign ++ digits, after)
      else (whole ++ part, rest)
    | [] => (whole ++ part, [])

def unboundedWords : List (List Char) :=
  ["infinity".toList, "inf".toList, "nan".toList]

def readFront? (s : List Char) : Option (Double × List Char) :=
  let body := (splitSign s).2
  let sign := s.take (s.length - body.length)
  let lower := body.map Char.toLower
  let length := match unboundedWords.find? fun word => word.isPrefixOf lower with
    | some word => word.length
    | none => (spanDecimal body).1.length
  if length = 0 then none
  else (readPlain? (sign ++ body.take length)).map (·, body.drop length)

def isNegativeOrMinusZero : Double → Bool
  | .nan => false
  | .infinite negative => negative
  | .finite negative _ _ => negative

def one (negative : Bool) : Double :=
  .ofInt (if negative then -1 else 1)

end Double

/-! ### Complex numbers -/

structure Complex where
  real : Double
  imaginary : Double
  deriving DecidableEq, Repr

namespace Complex

def isUnit (c : Char) : Bool :=
  c == 'j' || c == 'J'

/-- A sign alone before the imaginary unit stands for one. -/
def readUnit? (s : List Char) : Option (Double × List Char) :=
  match s with
  | c :: rest => if c = '+' ∨ c = '-' then some (.one (c = '-'), rest) else none
  | [] => none

def readImaginary? (s : List Char) : Option (Double × List Char) :=
  match (Double.readFront? s).or (readUnit? s) with
  | some (y, c :: rest) => if isUnit c then some (y, rest) else none
  | _ => none

def readParts? (s : List Char) : Option (Complex × List Char) :=
  match Double.readFront? s with
  | some (x, c :: rest) =>
    if c = '+' ∨ c = '-' then (readImaginary? (c :: rest)).map fun (y, rest) => (⟨x, y⟩, rest)
    else if isUnit c then some (⟨.zero false, x⟩, rest)
    else some (⟨x, .zero false⟩, c :: rest)
  | some (x, []) => some (⟨x, .zero false⟩, [])
  | none =>
    match (readUnit? s).getD (.one false, s) with
    | (y, c :: rest) => if isUnit c then some (⟨.zero false, y⟩, rest) else none
    | (_, []) => none

/-- Reads a complex number, which may stand in parentheses. -/
def ofText? (s : List Char) : Option Complex := do
  let body ← Double.joinDigits? false (Double.withoutPadding (Double.asciiDigits s))
  match body with
  | '(' :: rest =>
    match readParts? (rest.dropWhile isPadding) with
    | some (z, rest) => if rest.dropWhile isPadding = [')'] then some z else none
    | none => none
  | body =>
    match readParts? body with
    | some (z, []) => some z
    | _ => none

def partText (x : Double) : List Char :=
  let s := x.text
  if ".0".toList.isSuffixOf s then s.take (s.length - 2) else s

/-- A number without real part is shown by its imaginary part alone. -/
def text (z : Complex) : List Char :=
  if z.real = .zero false then partText z.imaginary ++ ['j']
  else '(' :: partText z.real ++ (if z.imaginary.isNegativeOrMinusZero then [] else ['+']) ++
    partText z.imaginary ++ ['j', ')']

end Complex

/-! ### Fractions -/

namespace Fraction

structure Ratio where
  num : Int
  den : Nat
  deriving DecidableEq, Repr

def reduced (num : Int) (den : Nat) : Ratio :=
  let g := Nat.gcd num.natAbs den
  ⟨num / (g : Int), den / g⟩

def readRun (s : List Char) : List Nat × List Char :=
  (readDigits decimalDigit? s).getD ([], s)

def readPower? (s : List Char) : Option (Int × List Char) :=
  match s with
  | e :: rest =>
    if e = 'e' ∨ e = 'E' then
      let (negative, body) := splitSign rest
      (readDigits decimalDigit? body).map fun (digits, rest) =>
        (applySign negative (positional 10 digits), rest)
    else some (0, s)
  | [] => some (0, [])

def readQuotient? (s : List Char) : Option (Nat × Nat × List Char) :=
  let (whole, rest) := readRun s
  match rest with
  | '/' :: rest =>
    if whole.isEmpty then none
    else (readDigits decimalDigit? rest).map fun (den, rest) =>
      (positional 10 whole, positional 10 den, rest)
  | rest =>
    let (part, rest) := match rest with
      | '.' :: rest => readRun rest
      | rest => ([], rest)
    if whole.isEmpty && part.isEmpty then none
    else (readPower? rest).map fun (power, rest) =>
      let n := positional 10 (whole ++ part)
      let power := power - part.length
      if power < 0 then (n, Nat.pow 10 power.natAbs, rest) else (n * Nat.pow 10 power.natAbs, 1, rest)

/-- Reads a fraction, a decimal number or a whole one; the denominator may be zero. -/
def ofText? (s : List Char) : Option (Int × Nat) :=
  let (negative, body) := splitSign (s.dropWhile isBlank)
  match readQuotient? body with
  | some (num, den, rest) =>
    if rest.all isBlank then some (applySign negative num, den) else none
  | none => none

end Fraction

end HostLink
