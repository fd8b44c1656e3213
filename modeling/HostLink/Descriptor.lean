import HostLink.Offset

/-!
What an address spec names: a number, or a place that the host has to look up. Text has exactly one
reading, and `unparse` gives the text back.
-/

namespace HostLink

inductive Descriptor where
  | numeric (value : Address)
  | hexLiteral (text : String)
  /-- Without a module, every loaded one is searched. -/
  | moduleSymbol (moduleName : Option String) (symbol : String)
  | moduleOffset (moduleName : String) (offset : String)
  | bareSymbol (name : String)
  deriving DecidableEq, Repr

namespace Descriptor

open Text

/-- A hexadecimal literal has a small `x`. -/
def isHexLiteral (s : List Char) : Bool :=
  match s with
  | '0' :: 'x' :: digits => !digits.isEmpty && digits.all isAsciiHexDigit
  | _ => false

def splitAt? (mark : Char) (s : List Char) : Option (List Char × List Char) :=
  match s.dropWhile (· ≠ mark) with
  | [] => none
  | _ :: after => some (s.takeWhile (· ≠ mark), after)

def ofTrimmed (s : List Char) : Descriptor :=
  if isHexLiteral s then .hexLiteral (String.ofList s)
  else
    match splitAt? '!' s with
    | some ([], symbol) => .moduleSymbol none (String.ofList symbol)
    | some (name, symbol) => .moduleSymbol (some (String.ofList name)) (String.ofList symbol)
    | none =>
      match splitAt? ':' s with
      | some (name, offset) => .moduleOffset (String.ofList name) (String.ofList offset)
      | none => .bareSymbol (String.ofList s)

/-- A spec that names nothing; its text is part of the failure, so that it has to have one. -/
def refuse (spec : Value) : Fault :=
  match spec.quoted? with
  | some _ => .unsupportedSpec spec
  | none => .numberTooLong

/--
Integral values are numbers, text with a character other than blank is read, all else refused. Text
in which surrogates stand alone (`.ragged`) is outside of what is read: no program could hold it.
-/
def classify (spec : Value) : Except Fault Descriptor :=
  match spec with
  | .text s =>
    match trimmed s with
    | [] => .error (refuse spec)
    | c :: rest => .ok (ofTrimmed (c :: rest))
  | v =>
    match v.integral? with
    | some n => .ok (.numeric (.ofInt n))
    | none => .error (refuse spec)

def literalAddress (text : String) : Address :=
  Offset.ofHexDigits (text.toList.drop 2)

def localAddress? : Descriptor → Option Address
  | .numeric value => some value
  | .hexLiteral text => some (literalAddress text)
  | _ => none

def unparse : Descriptor → String
  | .numeric value => value.toText
  | .hexLiteral text => text
  | .moduleSymbol name symbol => name.getD "" ++ "!" ++ symbol
  | .moduleOffset name offset => name ++ ":" ++ offset
  | .bareSymbol name => name

end Descriptor

end HostLink
