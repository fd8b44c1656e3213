import HostLink.Text.Blank

/-!
Where one text occurs in another, and cutting a text at what occurs in it.
-/

namespace HostLink.Text

def breakAt? (part : List Char) : List Char → Option (List Char × List Char)
  | [] => if part.isEmpty then some ([], []) else none
  | c :: rest =>
    if part.isPrefixOf (c :: rest) then some ([], (c :: rest).drop part.length)
    else (breakAt? part rest).map fun (before, after) => (c :: before, after)

def breakAtLast? (part s : List Char) : Option (List Char × List Char) :=
  (breakAt? part.reverse s.reverse).map fun (after, before) => (before.reverse, after.reverse)

def indexOf? (part s : List Char) : Option Nat :=
  (breakAt? part s).map (·.1.length)

def lastIndexOf? (part s : List Char) : Option Nat :=
  (breakAtLast? part s).map (·.1.length)

/--
The piece before the first occurrence of `part`, and the pieces after it, when the first `skip`
characters belong to an occurrence found before.
-/
def piecesFrom (part : List Char) : Nat → List Char → List Char × List (List Char)
  | _, [] => ([], [])
  | skip + 1, _ :: rest => piecesFrom part skip rest
  | 0, c :: rest =>
    if part.isPrefixOf (c :: rest) then
      let (piece, pieces) := piecesFrom part (part.length - 1) rest
      ([], piece :: pieces)
    else
      let (piece, pieces) := piecesFrom part 0 rest
      (c :: piece, pieces)

/-- The pieces between the occurrences of `part`, which is not empty, found from the left. -/
def pieces (part s : List Char) : List (List Char) :=
  let (piece, rest) := piecesFrom part 0 s
  piece :: rest

/-- The pieces between the occurrences of `part`, which is not empty, found from the right. -/
def piecesFromRight (part s : List Char) : List (List Char) :=
  ((pieces part.reverse s.reverse).map List.reverse).reverse

/-- How often `part` occurs without overlap; what is empty occurs around every character. -/
def occurrences (part s : List Char) : Nat :=
  if part.isEmpty then s.length + 1 else (pieces part s).length - 1

def separatedBy (separator : List Char) : List (List Char) → List Char
  | [] => []
  | [s] => s
  | s :: rest => s ++ separator ++ separatedBy separator rest

/-- Every occurrence of `old` replaced; what is empty is replaced around every character. -/
def replaced (old new s : List Char) : List Char :=
  if old.isEmpty then new ++ s.flatMap (· :: new) else separatedBy new (pieces old s)

/-- The runs of characters other than blank, after the characters of a run that was begun. -/
def wordsFrom (begun : List Char) : List Char → List (List Char)
  | [] => if begun.isEmpty then [] else [begun.reverse]
  | c :: rest =>
    if isBlank c then
      if begun.isEmpty then wordsFrom [] rest else begun.reverse :: wordsFrom [] rest
    else wordsFrom (c :: begun) rest

def words (s : List Char) : List (List Char) :=
  wordsFrom [] s

def stripped (set s : List Char) : List Char :=
  dropEndWhile set.contains (s.dropWhile set.contains)

end HostLink.Text
