import HostLink.Number.Shortest
import HostLink.Text.Quoted
import HostLink.Text.Search
import HostLink.Value.Basic

/-!
Values as text. A value has a plain text and a quoted text, which differ for text and numbers with
names; inside lists and records the quoted one is used. A value with too long a number has neither.
-/

namespace HostLink

def FieldName.quoted : FieldName → List Char
  | .text s => Text.quoted s.toList
  | .ragged ps => Text.quotedPoints ps

namespace Callbacks

def halfText : Option String → List Char
  | none => "None".toList
  | some s => Text.quoted s.toList

def text (c : Callbacks) : List Char :=
  "InterceptHandler(on_enter=".toList ++ halfText c.onEnter ++ ", on_leave=".toList ++
    halfText c.onLeave ++ [')']

end Callbacks

namespace Value

open Text

def enclosed (opening : Char) (parts : List (List Char)) (closing : Char) : List Char :=
  opening :: separatedBy [',', ' '] parts ++ [closing]

/-- A row in parentheses; a comma follows a single part. -/
def groupForm : List (List Char) → List Char
  | [part] => '(' :: part ++ [',', ')']
  | parts => enclosed '(' parts ')'

def boolText (b : Bool) : List Char :=
  if b then "True".toList else "False".toList

mutual

def quoted? : Value → Option (List Char)
  | .null => some "None".toList
  | .bool b => some (boolText b)
  | .int n => decimalInt? n
  | .float x => some x.text
  | .text s => some (quoted s.toList)
  | .ragged ps => some (quotedPoints ps)
  | .bytes bs => some (quotedBytes bs)
  | .buffer bs => some (quotedBuffer bs)
  | .list items => (quotedItems? items).map fun parts => enclosed '[' parts ']'
  | .group items => (quotedItems? items).map groupForm
  | .record fields => (quotedFields? fields).map fun parts => enclosed '\x7b' parts '\x7d'
  | .address a => some ("AddressHandle(".toList ++ a.text ++ [')'])
  | .ordinal n => (decimalInt? n).map fun t => "Index(".toList ++ t ++ [')']
  | .decimal d => some ("Decimal('".toList ++ d.text ++ "')".toList)
  | .fraction num den => do
    let n ← decimalInt? num
    let d ← decimalInt? den
    pure ("Fraction(".toList ++ n ++ ", ".toList ++ d ++ [')'])
  | .callbacks c => some c.text
  | .sealed shown => some shown.toList
  | .failure name args => (quotedItems? args).map fun parts => name.toList ++ enclosed '(' parts ')'
termination_by structural v => v

def quotedItems? : List Value → Option (List (List Char))
  | [] => some []
  | v :: rest => do
    let part ← quoted? v
    let parts ← quotedItems? rest
    pure (part :: parts)
termination_by structural vs => vs

def quotedFields? : List (FieldName × Value) → Option (List (List Char))
  | [] => some []
  | f :: rest => do
    let part ← quotedField? f
    let parts ← quotedFields? rest
    pure (part :: parts)
termination_by structural fs => fs

def quotedField? : FieldName × Value → Option (List Char)
  | (name, v) => do
    let part ← quoted? v
    pure (name.quoted ++ ':' :: ' ' :: part)
termination_by structural f => f

end

/-- A failure shows what it was made from; the key that is missing is quoted. -/
def failureText? (name : String) (args : List Value) : Option (List Char) :=
  match args with
  | [] => some []
  | [.text s] => some (if name = "KeyError" then quoted s.toList else s.toList)
  | [v] => v.quoted?
  | args => (quotedItems? args).map groupForm

/-- Characters stand for the surrogates that text cannot hold, so that two such texts may show alike. -/
def text? : Value → Option (List Char)
  | .text s => some s.toList
  | .ragged ps => some (ps.map Point.shown)
  | .address a => some a.text
  | .decimal d => some d.text
  | .fraction num den => do
    let n ← decimalInt? num
    if den = 1 then pure n
    else
      let d ← decimalInt? den
      pure (n ++ '/' :: d)
  | .failure name args => failureText? name args
  | v => v.quoted?

end Value

end HostLink
