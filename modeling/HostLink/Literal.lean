import HostLink.Callbacks
import HostLink.Text.Point

/-!
Double-quoted string literals of the host's language: how text is written as one, and how a literal
is read. No written literal holds a line terminator.
-/

namespace HostLink.Literal

open Text

def escapeChar (c : Char) : List Char :=
  if c = '\\' then ['\\', '\\']
  else if c = '"' then ['\\', '"']
  else if c = '\n' then ['\\', 'n']
  else if c = '\r' then ['\\', 'r']
  else if c = '\u2028' then "\\u2028".toList
  else if c = '\u2029' then "\\u2029".toList
  else [c]

def escape (s : List Char) : List Char :=
  s.flatMap escapeChar

/-- Text is escaped by characters, a list of texts by its items, and a record by its names. -/
def escapeItem (s : String) : List Char :=
  match s.toList with
  | [c] => escapeChar c
  | s => s

def escapeItems (vs : List Value) : Except Fault (List Char) :=
  vs.foldr (fun v text =>
    match v, text with
    | .text s, .ok text => .ok (escapeItem s ++ text)
    | _, _ => .error .wrongKind) (.ok [])

def escapeValue : Value → Except Fault (List Char)
  | .text s => .ok (escape s.toList)
  | .list vs => escapeItems vs
  | .record fields => escapeItems (fields.map fun field => .ofPoints field.1.points)
  | .bytes [] | .buffer [] => .ok []
  | _ => .error .wrongKind

def quote (s : List Char) : List Char :=
  '"' :: escape s ++ ['"']

/-- A value as a literal of its text; nothing becomes the word `null`. -/
def ofValue (v : Value) : Except Fault (List Char) :=
  match v with
  | .null => .ok "null".toList
  | v => v.toText.map fun s => quote s.toList

def isLineTerminator (c : Char) : Bool :=
  c == '\n' || c == '\r' || c == '\u2028' || c == '\u2029'

def codeUnit? (a b c d : Char) : Option Nat :=
  match asciiHexDigit? a, asciiHexDigit? b, asciiHexDigit? c, asciiHexDigit? d with
  | some a, some b, some c, some d => some (positional 16 [a, b, c, d])
  | _, _, _, _ => none

/-- The characters up to the closing quote, and what follows it. -/
def readBody : List Char → Option (List Char × List Char)
  | [] => none
  | '"' :: rest => some ([], rest)
  | '\\' :: rest =>
    match rest with
    | 'u' :: a :: b :: c :: d :: rest => do
      let ch ← (codeUnit? a b c d).bind scalar?
      let (s, after) ← readBody rest
      pure (ch :: s, after)
    | e :: rest => do
      let ch ← match e with
        | '\\' => some '\\'
        | '"' => some '"'
        | 'n' => some '\n'
        | 'r' => some '\r'
        | _ => none
      let (s, after) ← readBody rest
      pure (ch :: s, after)
    | [] => none
  | c :: rest =>
    if isLineTerminator c then none
    else do
      let (s, after) ← readBody rest
      pure (c :: s, after)

def read : List Char → Option (List Char × List Char)
  | '"' :: rest => readBody rest
  | _ => none

end HostLink.Literal
