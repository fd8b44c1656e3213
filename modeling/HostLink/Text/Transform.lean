import HostLink.Text.Blank
import HostLink.Text.Mark
import HostLink.Text.Printable

/-!
Texts in another case, padded, and cut into lines; and what can be said of all their characters.
-/

namespace HostLink.Text

/-! ### Case -/

/-- Whether a letter is next, when what letters pass over is left out. -/
def meetsLetter (s : List Char) : Bool :=
  match s.dropWhile isPassedOver with
  | [] => false
  | c :: _ => isCased c

/-- Whether what follows a character comes after a letter. -/
def leavesLetter (afterLetter : Bool) (c : Char) : Bool :=
  if isPassedOver c then afterLetter else isCased c

/-- A character in lower case; a sigma has a form of its own at the end of a word. -/
def lowerBefore (rest : List Char) (afterLetter : Bool) (c : Char) : List Char :=
  if c = 'Σ' ∧ afterLetter ∧ !meetsLetter rest then ['ς'] else lowerCase c

/-- Puts each character where it belongs, given whether it comes after a letter and what follows. -/
def mappedFrom (f : List Char → Bool → Char → List Char) (afterLetter : Bool) :
    List Char → List Char
  | [] => []
  | c :: rest => f rest afterLetter c ++ mappedFrom f (leavesLetter afterLetter c) rest

def lowered (s : List Char) : List Char :=
  mappedFrom lowerBefore false s

def capitalized : List Char → List Char
  | [] => []
  | c :: rest => titleCase c ++ mappedFrom lowerBefore (leavesLetter false c) rest

/-- A letter right after another one is put into lower case, and any other into title case. -/
def titledFrom (rightAfter afterLetter : Bool) : List Char → List Char
  | [] => []
  | c :: rest =>
    (if rightAfter then lowerBefore rest afterLetter c else titleCase c) ++
      titledFrom (isCased c) (leavesLetter afterLetter c) rest

def titled (s : List Char) : List Char :=
  titledFrom false false s

def swappedCase (s : List Char) : List Char :=
  mappedFrom (fun rest afterLetter c =>
    if isUpper c then lowerBefore rest afterLetter c else if isLower c then upperCase c else [c])
    false s

def isAllUpper (s : List Char) : Bool :=
  s.any isUpper && !s.any fun c => isLower c || isTitle c

def isAllLower (s : List Char) : Bool :=
  s.any isLower && !s.any fun c => isUpper c || isTitle c

/-- Whether a letter is in lower case exactly after another letter. -/
def isTitledFrom (afterLetter : Bool) : List Char → Bool
  | [] => true
  | c :: rest =>
    if isUpper c || isTitle c then !afterLetter && isTitledFrom true rest
    else if isLower c then afterLetter && isTitledFrom true rest
    else isTitledFrom false rest

def isTitled (s : List Char) : Bool :=
  s.any isCased && isTitledFrom false s

/-! ### Kinds of characters -/

def isNonemptyOf (p : Char → Bool) (s : List Char) : Bool :=
  !s.isEmpty && s.all p

def isAscii (c : Char) : Bool :=
  c.toNat < 0x80

/-! ### Width -/

def paddedLeft (width : Nat) (fill : Char) (s : List Char) : List Char :=
  List.replicate (width - s.length) fill ++ s

def paddedRight (width : Nat) (fill : Char) (s : List Char) : List Char :=
  s ++ List.replicate (width - s.length) fill

/-- An odd one out goes to the left when the width is odd, and else to the right. -/
def centered (width : Nat) (fill : Char) (s : List Char) : List Char :=
  let missing := width - s.length
  let left := missing / 2 + (if missing % 2 = 1 ∧ width % 2 = 1 then 1 else 0)
  List.replicate left fill ++ s ++ List.replicate (missing - left) fill

/-- Tabs as spaces up to the next column that `size` divides. -/
def expandedFrom (size column : Nat) : List Char → List Char
  | [] => []
  | c :: rest =>
    if c = '\t' then
      let count := size - column % size
      List.replicate count ' ' ++ expandedFrom size (column + count) rest
    else c :: expandedFrom size (if c = '\n' ∨ c = '\r' then 0 else column + 1) rest

def expanded (s : List Char) : List Char :=
  expandedFrom 8 0 s

/-! ### Lines -/

def linesFrom (begun : List Char) : List Char → List (List Char)
  | [] => if begun.isEmpty then [] else [begun.reverse]
  | '\r' :: '\n' :: rest => begun.reverse :: linesFrom [] rest
  | c :: rest =>
    if isLineBreak c then begun.reverse :: linesFrom [] rest else linesFrom (c :: begun) rest

def lines (s : List Char) : List (List Char) :=
  linesFrom [] s

end HostLink.Text
