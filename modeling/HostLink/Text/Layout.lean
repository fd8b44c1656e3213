import HostLink.Text.Digit

/-!
Layouts: how wide a text or a number is to be, what fills it up, and how its digits are shown. A
layout is written as `fill align sign z # 0 width grouping .precision form`, all of it optional.
-/

namespace HostLink.Text

inductive Align where
  | left
  | right
  | center
  /-- Fills up between the sign and the digits. -/
  | inner
  deriving DecidableEq, Repr

def Align.ofChar? (c : Char) : Option Align :=
  match c with
  | '<' => some .left
  | '>' => some .right
  | '^' => some .center
  | '=' => some .inner
  | _ => none

structure Layout where
  fill : Option Char := none
  align : Option Align := none
  /-- A plus or a space before what is not negative, or nothing. -/
  sign : Option Char := none
  /-- Zero has no sign. -/
  unsignedZero : Bool := false
  alternate : Bool := false
  zeros : Bool := false
  /-- A zero stands before the width, whatever it means there. -/
  zeroFirst : Bool := false
  width : Nat := 0
  grouping : Option Char := none
  precision : Option Nat := none
  form : Option Char := none
  deriving DecidableEq, Repr

namespace Layout

def readAlign (s : List Char) : Option Char × Option Align × List Char :=
  match s with
  | c :: d :: rest =>
    match Align.ofChar? d, Align.ofChar? c with
    | some a, _ => (some c, some a, rest)
    | none, some a => (none, some a, d :: rest)
    | none, none => (none, none, s)
  | [c] =>
    match Align.ofChar? c with
    | some a => (none, some a, [])
    | none => (none, none, s)
  | [] => (none, none, [])

def readSign (s : List Char) : Option Char × List Char :=
  match s with
  | c :: rest => if c = '+' ∨ c = '-' ∨ c = ' ' then (some c, rest) else (none, s)
  | [] => (none, [])

def readMark (mark : Char) (s : List Char) : Bool × List Char :=
  match s with
  | c :: rest => if c = mark then (true, rest) else (false, s)
  | [] => (false, [])

def digitsOf (s : List Char) : List Nat × List Char :=
  ((s.takeWhile fun c => (decimalDigit? c).isSome).filterMap decimalDigit?,
    s.dropWhile fun c => (decimalDigit? c).isSome)

def readGrouping (s : List Char) : Option Char × List Char :=
  match s with
  | c :: rest => if c = ',' ∨ c = '_' then (some c, rest) else (none, s)
  | [] => (none, [])

def readPrecision? (s : List Char) : Option (Option Nat × List Char) :=
  match s with
  | '.' :: rest =>
    match digitsOf rest with
    | ([], _) => none
    | (digits, rest) => some (some (positional 10 digits), rest)
  | _ => some (none, s)

def groupingFits (grouping form : Option Char) : Bool :=
  match grouping, form with
  | none, _ | _, none => true
  | some g, some f =>
    ['d', 'e', 'f', 'g', 'E', 'G', '%', 'F'].contains f ||
      (g == '_' && ['b', 'o', 'x', 'X'].contains f)

def read? (s : List Char) : Option Layout := do
  let (fill, align, s) := readAlign s
  let (sign, s) := readSign s
  let (unsignedZero, s) := readMark 'z' s
  let (alternate, s) := readMark '#' s
  let zeroFirst := s.head? == some '0'
  let (zeros, s) := if fill.isNone then readMark '0' s else (false, s)
  let (width, s) := digitsOf s
  let (grouping, s) := readGrouping s
  let (precision, s) ← readPrecision? s
  let form ← match s with
    | [] => some none
    | [c] => some (some c)
    | _ => none
  if groupingFits grouping form then
    pure ⟨fill, align, sign, unsignedZero, alternate, zeros, zeroFirst, positional 10 width, grouping,
      precision, form⟩
  else none

def fillChar (l : Layout) : Char :=
  l.fill.getD (if l.zeros then '0' else ' ')

def filled (l : Layout) (align : Align) (lead body : List Char) : List Char :=
  let missing := l.width - (lead.length + body.length)
  let some_ (n : Nat) := List.replicate n l.fillChar
  match align with
  | .left => lead ++ body ++ some_ missing
  | .right => some_ missing ++ lead ++ body
  | .center => some_ (missing / 2) ++ lead ++ body ++ some_ (missing - missing / 2)
  | .inner => lead ++ some_ missing ++ body

/-- Text stands left unless the layout says otherwise, and a precision cuts it. -/
def text? (l : Layout) (s : List Char) : Option (List Char) :=
  if l.sign.isSome || l.unsignedZero || l.alternate || l.grouping.isSome || l.align == some .inner ||
      !(l.form.isNone || l.form == some 's') then none
  else some (l.filled (l.align.getD .left) [] (match l.precision with
    | some n => s.take n
    | none => s))

/-! ### Numbers -/

/--
Digits, last one first, in groups with a mark between them, continued by zeros while less than
`least` characters are there. No mark stands at the front.
-/
def groupedFrom (size : Nat) (mark : Char) (least : Nat) : Nat → Nat → List Char → List Char
  | 0, _, digits => digits
  | fuel + 1, done, digits =>
    let count := min size (max (max digits.length (least - done)) 1)
    let group := digits.take count ++ List.replicate (count - digits.length) '0'
    let rest := digits.drop count
    if rest.isEmpty && least ≤ done + count then group
    else group ++ mark :: groupedFrom size mark least fuel (done + count + 1) rest

/-- Digits in groups, where there is a mark for that, and with zeros before them. -/
def grouped (mark : Option Char) (size least : Nat) (digits : List Char) : List Char :=
  match mark with
  | some mark =>
    (groupedFrom size mark least (digits.length + least) 0 digits.reverse).reverse
  | none => List.replicate (least - digits.length) '0' ++ digits

def signText (l : Layout) (negative : Bool) : List Char :=
  if negative then ['-']
  else
    match l.sign with
    | some '+' => ['+']
    | some ' ' => [' ']
    | _ => []

/-- A number stands right unless the layout says otherwise; `tail` is what follows its digits. -/
def number (l : Layout) (negative : Bool) (mark : List Char) (size : Nat) (digits tail : List Char) :
    List Char :=
  let lead := l.signText negative ++ mark
  let align := l.align.getD (if l.zeros then .inner else .right)
  let least := if align = .inner ∧ l.fillChar = '0' ∧ digits ≠ [] then
    l.width - (lead.length + tail.length) else 0
  let digits := if digits.isEmpty then [] else grouped l.grouping size least digits
  l.filled align lead (digits ++ tail)

def wholeDigits (form : Char) (n : Nat) : List Char × List Char :=
  match form with
  | 'b' => (['0', 'b'], Nat.toDigits 2 n)
  | 'o' => (['0', 'o'], Nat.toDigits 8 n)
  | 'x' => (['0', 'x'], hex n)
  | 'X' => (['0', 'X'], (hex n).map Char.toUpper)
  | _ => ([], decimal n)

/-- A whole number in one of its own forms; the form `c` is the character of that code. -/
def whole? (l : Layout) (n : Int) : Option (List Char) :=
  let form := l.form.getD 'd'
  if l.precision.isSome || l.unsignedZero then none
  else if form = 'c' then
    if l.sign.isSome || l.alternate || n < 0 || !n.toNat.isValidChar then none
    else some (l.number false [] 3 [] [Char.ofNat n.toNat])
  else
    let (mark, digits) := wholeDigits form n.natAbs
    let size := if ['b', 'o', 'x', 'X'].contains form then 4 else 3
    some (l.number (n < 0) (if l.alternate then mark else []) size digits [])

def isCode (l : Layout) : Bool :=
  l.form == some 'c' && l.precision.isNone && !l.unsignedZero && l.sign.isNone && !l.alternate

def isWholeForm (form : Option Char) : Bool :=
  match form with
  | none => true
  | some c => ['b', 'c', 'd', 'o', 'x', 'X', 'n'].contains c

end Layout

end HostLink.Text
