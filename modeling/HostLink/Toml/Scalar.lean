import HostLink.Toml.Text

/-!
Numbers, truth values and moments of time in TOML text.
-/

namespace HostLink.Toml

open Text

/-! ### Moments of time -/

def readField? (width low high : Nat) (s : List Char) : Option (Nat × List Char) :=
  let digits := s.take width
  if digits.length = width ∧ digits.all isAsciiDigit then
    let n := positional 10 (digits.filterMap asciiDigit?)
    if low ≤ n ∧ n ≤ high then some (n, s.drop width) else none
  else none

def after? (c : Char) : List Char → Option (List Char)
  | d :: rest => if c = d then some rest else none
  | [] => none

def skipSecondPart (s : List Char) : List Char :=
  match s with
  | '.' :: d :: rest => if isAsciiDigit d then rest.dropWhile isAsciiDigit else s
  | _ => s

def skipTime? (s : List Char) : Option (List Char) := do
  let (_, s) ← readField? 2 0 23 s
  let s ← after? ':' s
  let (_, s) ← readField? 2 0 59 s
  let s ← after? ':' s
  let (_, s) ← readField? 2 0 59 s
  pure (skipSecondPart s)

/-- What follows a distance from universal time, which may be missing. -/
def skipZone (s : List Char) : List Char :=
  match s with
  | [] => []
  | c :: rest =>
    if c = 'Z' ∨ c = 'z' then rest
    else if c = '+' ∨ c = '-' then
      let zone : Option (List Char) := do
        let (_, r) ← readField? 2 0 23 rest
        let r ← after? ':' r
        let (_, r) ← readField? 2 0 59 r
        pure r
      zone.getD s
    else s

def isLeapYear (year : Nat) : Bool :=
  year % 4 == 0 && (year % 100 != 0 || year % 400 == 0)

def daysInMonth (year month : Nat) : Nat :=
  if month = 2 then if isLeapYear year then 29 else 28
  else if month = 4 ∨ month = 6 ∨ month = 9 ∨ month = 11 then 30
  else 31

/-- What follows a date and the time after it, if there is one; and whether there is such a day. -/
def skipDate? (s : List Char) : Option (Bool × List Char) := do
  let (year, s) ← readField? 4 0 9999 s
  let s ← after? '-' s
  let (month, s) ← readField? 2 1 12 s
  let s ← after? '-' s
  let (day, s) ← readField? 2 1 31 s
  let exists? := 1 ≤ year && day ≤ daysInMonth year month
  match s with
  | c :: rest =>
    if c = 'T' ∨ c = 't' ∨ c = ' ' then
      match skipTime? rest with
      | some rest => pure (exists?, skipZone rest)
      | none => pure (exists?, s)
    else pure (exists?, s)
  | [] => pure (exists?, s)

/-- A moment of time. Nothing here looks into one, so its parts are not kept. -/
def moment : Value :=
  .sealed "moment"

def readMoment? (s : List Char) : Option (Except Fault (Value × List Char)) :=
  match skipDate? s with
  | some (true, rest) => some (.ok (moment, rest))
  | some (false, _) => some malformed
  | none => (skipTime? s).map fun rest => .ok (moment, rest)

/-! ### Numbers -/

/-- Digits that may each have one underscore before them. -/
def digitRun (isDigit : Char → Bool) : List Char → List Char × List Char
  | [] => ([], [])
  | c :: rest =>
    if isDigit c then
      let (digits, after) := digitRun isDigit rest
      (c :: digits, after)
    else
      match rest with
      | d :: rest' =>
        if c = '_' ∧ isDigit d then
          let (digits, after) := digitRun isDigit rest'
          (d :: digits, after)
        else ([], c :: rest)
      | [] => ([], c :: rest)

def digits? (isDigit : Char → Bool) (s : List Char) : Option (List Char × List Char) :=
  match s with
  | c :: rest =>
    if isDigit c then
      let (digits, after) := digitRun isDigit rest
      some (c :: digits, after)
    else none
  | [] => none

def digitValues (digits : List Char) : List Nat :=
  digits.filterMap asciiHexDigit?

def readMarked? (s : List Char) : Option (Value × List Char) :=
  let read (base : Nat) (isDigit : Char → Bool) (rest : List Char) :=
    (digits? isDigit rest).map fun (digits, after) =>
      (Value.int (positional base (digitValues digits)), after)
  match s with
  | '0' :: 'x' :: rest => read 16 isAsciiHexDigit rest
  | '0' :: 'b' :: rest => read 2 (fun c => c == '0' || c == '1') rest
  | '0' :: 'o' :: rest => read 8 (fun c => '0' ≤ c && c ≤ '7') rest
  | _ => none

def readWhole? (s : List Char) : Option (List Char × List Char) :=
  match s with
  | '0' :: rest => some (['0'], rest)
  | s => digits? isAsciiDigit s

def readPart (s : List Char) : List Char × List Char :=
  match s with
  | '.' :: rest => (digits? isAsciiDigit rest).getD ([], s)
  | _ => ([], s)

def readPower (s : List Char) : Option Int × List Char :=
  match s with
  | e :: rest =>
    if e = 'e' ∨ e = 'E' then
      let (negative, body) := splitSign rest
      match digits? isAsciiDigit body with
      | some (digits, after) =>
        (some (applySign negative (positional 10 (digitValues digits))), after)
      | none => (none, s)
    else (none, s)
  | [] => (none, s)

/-- A decimal number, whole when it has neither point nor power. -/
def readDecimal? (s : List Char) : Option (Except Fault (Value × List Char)) := do
  let (negative, body) := splitSign s
  let (whole, rest) ← readWhole? body
  let (part, rest) := readPart rest
  let (power, rest) := readPower rest
  if part.isEmpty && power.isNone then
    if whole.length ≤ decimalDigitLimit then
      pure (.ok (.int (applySign negative (positional 10 (digitValues whole))), rest))
    else pure (.error (.numeralTooLong whole.length))
  else
    pure (.ok (.float (.ofDecimal negative (positional 10 (digitValues (whole ++ part)))
      (power.getD 0 - part.length)), rest))

def readWord? (s : List Char) : Option (Value × List Char) :=
  let (negative, body) := splitSign s
  if startsWith "inf".toList body then some (.float (.infinite negative), body.drop 3)
  else if startsWith "nan".toList body then some (.float .nan, body.drop 3)
  else none

def readScalar (s : List Char) : Except Fault (Value × List Char) :=
  if startsWith "true".toList s then .ok (.bool true, s.drop 4)
  else if startsWith "false".toList s then .ok (.bool false, s.drop 5)
  else
    match readMoment? s with
    | some found => found
    | none =>
      match readMarked? s with
      | some found => .ok found
      | none =>
        match readDecimal? s with
        | some found => found
        | none =>
          match readWord? s with
          | some found => .ok found
          | none => malformed

end HostLink.Toml
