import HostLink.Text.Search
import HostLink.Text.Transform
import HostLink.Value.Layout
import HostLink.Value.Make

/-!
What the members of text answer.
-/

namespace HostLink.Member

open Text

/-- What a member answers; nothing when it has no answer of its own to these arguments. -/
abbrev Answer := Option (Except Fault Value)

/-- The answer of an operation that does not know the other value. -/
def undecided : Value :=
  .sealed "NotImplemented"

def refused : Answer :=
  some (.error .wrongKind)

def ofText (s : List Char) : Value :=
  .text (String.ofList s)

def text (s : List Char) : Answer :=
  some (.ok (ofText s))

def truth (b : Bool) : Answer :=
  some (.ok (.bool b))

def number (n : Int) : Answer :=
  some (.ok (.int n))

def texts (parts : List (List Char)) : Answer :=
  some (.ok (.list (parts.map ofText)))

def group (parts : List (List Char)) : Answer :=
  some (.ok (.group (parts.map ofText)))

def bad (message : String) : Answer :=
  some (.error (malformedText message))

def position (found : Option Nat) : Answer :=
  number (match found with
    | some n => n
    | none => -1)

def knownPosition (found : Option Nat) : Answer :=
  match found with
  | some n => number n
  | none => bad "substring not found"

def textAlone (s : List Char) (name : String) : Answer :=
  match name with
  | "capitalize" => text (capitalized s)
  | "casefold" => text (s.flatMap foldedCase)
  | "lower" => text (lowered s)
  | "upper" => text (s.flatMap upperCase)
  | "title" => text (titled s)
  | "swapcase" => text (swappedCase s)
  | "strip" => text (trim s)
  | "lstrip" => text (s.dropWhile isBlank)
  | "rstrip" => text (dropEndWhile isBlank s)
  | "split" | "rsplit" => texts (words s)
  | "splitlines" => texts (lines s)
  | "expandtabs" => text (expanded s)
  | "encode" => some (.ok (.bytes (Utf8.encode s)))
  | "format" => some ((filledIn s []).map ofText)
  | "isalnum" => truth (isNonemptyOf (fun c => isLetter c || isNumber c) s)
  | "isalpha" => truth (isNonemptyOf isLetter s)
  | "isascii" => truth (s.all isAscii)
  | "isdecimal" => truth (isNonemptyOf isDecimalDigit s)
  | "isdigit" => truth (isNonemptyOf isDigit s)
  | "isidentifier" => truth (isNameLike s)
  | "islower" => truth (isAllLower s)
  | "isnumeric" => truth (isNonemptyOf isNumber s)
  | "isprintable" => truth (s.all isPrintable)
  | "isspace" => truth (isNonemptyOf isBlank s)
  | "istitle" => truth (isTitled s)
  | "isupper" => truth (isAllUpper s)
  | "__len__" => number s.length
  | "__str__" => text s
  | "__repr__" => text (quoted s)
  | "__getnewargs__" => group [s]
  | "__init__" => some (.ok .null)
  | _ => none

def partition (s separator : List Char) (last : Bool) : Answer :=
  if separator.isEmpty then bad "empty separator"
  else
    match (if last then breakAtLast? separator s else breakAt? separator s) with
    | some (before, after) => group [before, separator, after]
    | none => group (if last then [[], [], s] else [s, [], []])

def translated (table s : List Char) : List Char :=
  s.map fun c => table.getD c.toNat c

def textWith (s : List Char) (name : String) (t : List Char) : Answer :=
  match name with
  | "__add__" => text (s ++ t)
  | "__contains__" => truth (indexOf? t s).isSome
  | "__mod__" => some ((converted s (ofText t)).map ofText)
  | "__rmod__" => some ((converted t (ofText s)).map ofText)
  | "count" => number (occurrences t s)
  | "find" => position (indexOf? t s)
  | "rfind" => position (lastIndexOf? t s)
  | "index" => knownPosition (indexOf? t s)
  | "rindex" => knownPosition (lastIndexOf? t s)
  | "startswith" => truth (t.isPrefixOf s)
  | "endswith" => truth (t.isSuffixOf s)
  | "removeprefix" => text (if t.isPrefixOf s then s.drop t.length else s)
  | "removesuffix" => text (if t.isSuffixOf s then s.take (s.length - t.length) else s)
  | "strip" => text (stripped t s)
  | "lstrip" => text (s.dropWhile t.contains)
  | "rstrip" => text (dropEndWhile t.contains s)
  | "join" => text (separatedBy s (t.map ([·])))
  | "partition" => partition s t false
  | "rpartition" => partition s t true
  | "split" => if t.isEmpty then bad "empty separator" else texts (pieces t s)
  | "rsplit" => if t.isEmpty then bad "empty separator" else texts (piecesFromRight t s)
  | "translate" => text (translated t s)
  | "encode" => some ((Value.encoded (String.ofList s) (String.ofList t) "strict").map .bytes)
  | "format" => some ((filledIn s [ofText t]).map ofText)
  | "format_map" => some ((mapped s).map ofText)
  | _ => none

def tableOf (t u : List Char) : Answer :=
  if t.length ≠ u.length then bad "the first two maketrans arguments must have equal length"
  else
    let codes := (t.zip u).foldl (fun known (c, d) => Value.put (.text (String.ofList (decimal c.toNat)))
      (.int d.toNat) known) []
    let entries := codes.filterMap fun
      | (.text c, .int d) => some (c.toList ++ ':' :: ' ' :: decimalInt d)
      | _ => none
    some (.ok (.sealed (String.ofList (Value.enclosed '\x7b' entries '\x7d'))))

def textWithTwo (s : List Char) (name : String) (first second : Value) : Answer :=
  match name, first, second with
  | "replace", .text old, .text new => text (replaced old.toList new.toList s)
  | "format", _, _ => some ((filledIn s [first, second]).map ofText)
  | "encode", .text name, .text remedy =>
    some ((Value.encoded (String.ofList s) name remedy).map .bytes)
  | "center", n, .text t => padded centered n t
  | "ljust", n, .text t => padded paddedRight n t
  | "rjust", n, .text t => padded paddedLeft n t
  | "maketrans", .text t, .text u => tableOf t.toList u.toList
  | _, _, _ => none
where
  padded (pad : Nat → Char → List Char → List Char) (width : Value) (fill : String) : Answer :=
    match width.index?, fill.toList with
    | some n, [c] => text (pad n.toNat c s)
    | _, _ => refused

def ofTextMember (s : List Char) (name : String) (args : List Value) : Answer :=
  match args with
  | [] => textAlone s name
  | [.text t] => textWith s name t.toList
  | [first, second] => textWithTwo s name first second
  | _ => none

end HostLink.Member
