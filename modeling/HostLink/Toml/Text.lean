import HostLink.Fault
import HostLink.Text.Search

/-!
Blank, comments, strings and keys in TOML text. Every reader takes its part from the front of a text
and gives what follows.
-/

namespace HostLink.Toml

open Text

def malformed {α : Type} : Except Fault α :=
  .error .configMalformed

def found {α : Type} : Option α → Except Fault α
  | some a => .ok a
  | none => malformed

def isSpace (c : Char) : Bool :=
  c == ' ' || c == '\t'

def isSpaceOrNewline (c : Char) : Bool :=
  isSpace c || c == '\n'

def skipSpace (s : List Char) : List Char :=
  s.dropWhile isSpace

/-- Control characters, which no text may hold; a tab is not one of them. -/
def isIllegal (c : Char) : Bool :=
  (c.toNat < 0x20 && c != '\t') || c.toNat == 0x7f

def isIllegalMultiline (c : Char) : Bool :=
  isIllegal c && c != '\n'

def startsWith (word s : List Char) : Bool :=
  word.isPrefixOf s

/-! ### Comments -/

/-- The end of the line that a comment is on; nothing where the comment holds a control character. -/
def skipToLineEnd? : List Char → Option (List Char)
  | [] => some []
  | c :: rest =>
    if c = '\n' then some (c :: rest)
    else if isIllegal c then none
    else skipToLineEnd? rest

def skipComment? (s : List Char) : Option (List Char) :=
  match s with
  | '#' :: rest => skipToLineEnd? rest
  | s => some s

/-- What follows blank, line ends and comments; `inComment` says where the text begins. -/
def skipLines? (inComment : Bool) : List Char → Option (List Char)
  | [] => some []
  | c :: rest =>
    if inComment then
      if c = '\n' then skipLines? false rest
      else if isIllegal c then none
      else skipLines? true rest
    else if isSpaceOrNewline c then skipLines? false rest
    else if c = '#' then skipLines? true rest
    else some (c :: rest)

/-! ### Strings -/

def shortEscape? (c : Char) : Option Char :=
  match c with
  | 'b' => some '\x08'
  | 't' => some '\t'
  | 'n' => some '\n'
  | 'f' => some '\x0c'
  | 'r' => some '\r'
  | '"' => some '"'
  | '\\' => some '\\'
  | _ => none

inductive Spot where
  | plain
  /-- After a backslash. -/
  | escape
  /-- In the code of a character, `missing + 1` digits before its end. -/
  | code (missing value : Nat)
  /-- After a backslash and blank; only blank may follow on the line. -/
  | lineTail
  /-- After the end of such a line; blank and line ends are passed over. -/
  | nextLine
  deriving DecidableEq, Repr

/-- What one character brings about: the characters that it stands for, and where the reader is then. -/
def Spot.next? (multiline : Bool) (c : Char) : Spot → Option (List Char × Spot)
  | .plain | .nextLine =>
    if (if multiline then isIllegalMultiline c else isIllegal c) then none else some ([c], .plain)
  | .escape =>
    if multiline && isSpace c then some ([], .lineTail)
    else if multiline && c == '\n' then some ([], .nextLine)
    else if c = 'u' then some ([], .code 3 0)
    else if c = 'U' then some ([], .code 7 0)
    else (shortEscape? c).map fun ch => ([ch], .plain)
  | .code missing value =>
    match asciiHexDigit? c with
    | none => none
    | some d =>
      let value := value * 16 + d
      match missing with
      | missing + 1 => some ([], .code missing value)
      | 0 => if value.isValidChar then some ([Char.ofNat value], .plain) else none
  | .lineTail =>
    if isSpace c then some ([], .lineTail)
    else if c = '\n' then some ([], .nextLine)
    else none

/-- The rest of a string with escapes, up to its closing quotes. -/
def readEscaped? (multiline : Bool) (spot : Spot) : List Char → Option (List Char × List Char)
  | [] => none
  | c :: rest =>
    let plain := spot == .plain || spot == .nextLine
    if plain && c == '"' && (!multiline || startsWith ['"', '"'] rest) then
      some ([], if multiline then rest.drop 2 else rest)
    else if plain && c == '\\' then readEscaped? multiline .escape rest
    else if spot == .nextLine && isSpaceOrNewline c then readEscaped? multiline .nextLine rest
    else
      match spot.next? multiline c with
      | none => none
      | some (part, spot) =>
        (readEscaped? multiline spot rest).map fun (text, after) => (part ++ text, after)

def basicString? (s : List Char) : Option (List Char × List Char) :=
  readEscaped? false .plain s

def literalString? (s : List Char) : Option (List Char × List Char) :=
  match breakAt? ['\''] s with
  | some (before, after) => if before.any isIllegal then none else some (before, after)
  | none => none

/-- At most two more quotes belong to a string whose closing quotes they follow. -/
def extraQuotes (quote : Char) (s : List Char) : List Char × List Char :=
  match s with
  | c :: d :: rest =>
    if c = quote then if d = quote then ([c, d], rest) else ([c], d :: rest) else ([], s)
  | [c] => if c = quote then ([c], []) else ([], s)
  | [] => ([], [])

def dropNewline : List Char → List Char
  | '\n' :: rest => rest
  | s => s

def multilineString? (quote : Char) (s : List Char) : Option (List Char × List Char) :=
  let body := dropNewline s
  let read :=
    if quote = '"' then readEscaped? true .plain body
    else
      match breakAt? [quote, quote, quote] body with
      | some (before, after) => if before.any isIllegalMultiline then none else some (before, after)
      | none => none
  read.map fun (text, rest) =>
    let (extra, rest) := extraQuotes quote rest
    (text ++ extra, rest)

def readText? (s : List Char) : Option (List Char × List Char) :=
  match s with
  | '"' :: rest =>
    if startsWith ['"', '"'] rest then multilineString? '"' (rest.drop 2) else basicString? rest
  | '\'' :: rest =>
    if startsWith ['\'', '\''] rest then multilineString? '\'' (rest.drop 2)
    else literalString? rest
  | _ => none

/-! ### Keys -/

def isBareKey (c : Char) : Bool :=
  let n := c.toNat
  (0x30 ≤ n && n ≤ 0x39) || (0x41 ≤ n && n ≤ 0x5a) || (0x61 ≤ n && n ≤ 0x7a) || c == '-' || c == '_'

def isKeyStart (c : Char) : Bool :=
  isBareKey c || c == '"' || c == '\''

def readKeyPart? (s : List Char) : Option (String × List Char) :=
  match s with
  | [] => none
  | c :: rest =>
    if isBareKey c then
      some (String.ofList (c :: rest.takeWhile isBareKey), rest.dropWhile isBareKey)
    else if c = '\'' then (literalString? rest).map fun (t, rest) => (String.ofList t, rest)
    else if c = '"' then (basicString? rest).map fun (t, rest) => (String.ofList t, rest)
    else none

/-- A key: the tables that it goes through, outermost first, and the name in the last of them. -/
structure Key where
  path : List String
  name : String
  deriving DecidableEq, Repr

def Key.under (part : String) (key : Key) : Key :=
  { key with path := part :: key.path }

def Key.parts (key : Key) : List String :=
  key.path ++ [key.name]

/-- Parts with points between them, at most `fuel`; blank may stand around the points. -/
def readKey? : Nat → List Char → Option (Key × List Char)
  | 0, _ => none
  | fuel + 1, s =>
    match readKeyPart? s with
    | none => none
    | some (part, rest) =>
      match skipSpace rest with
      | '.' :: rest => (readKey? fuel (skipSpace rest)).map fun (key, rest) => (key.under part, rest)
      | rest => some (⟨[], part⟩, rest)

end HostLink.Toml
