import HostLink.Toml.Scalar
import HostLink.Toml.Table

/-!
TOML documents as records. A document is a sequence of lines, each with a header, an assignment or
nothing; a header opens a section, and the assignments after it go into its table. A document that
breaks a rule has no record.
-/

namespace HostLink.Toml

/-! ### Values -/

def Key.passages (current : Nat) (key : Key) : List (Passage × String) :=
  key.path.map fun name => (.key current, name)

mutual

/-- A value at the front of a text; `fuel` bounds its depth together with its items and fields. -/
def readValue : Nat → List Char → Except Fault (Value × List Char)
  | 0, _ => malformed
  | fuel + 1, s =>
    match s with
    | '[' :: rest => do
      let rest ← found (skipLines? false rest)
      match rest with
      | ']' :: after => pure (.list [], after)
      | rest => readItems fuel [] rest
    | '\x7b' :: rest =>
      match skipSpace rest with
      | '\x7d' :: after => pure (.record [], after)
      | rest => readFields fuel [] rest
    | c :: rest =>
      if c = '"' ∨ c = '\'' then
        (found (readText? (c :: rest))).map fun (t, after) => (.text (String.ofList t), after)
      else readScalar (c :: rest)
    | [] => malformed

/--
One item or more and the closing bracket, after the items read before, latest first. A comma may
stand before the bracket.
-/
def readItems : Nat → List Value → List Char → Except Fault (Value × List Char)
  | 0, _, _ => malformed
  | fuel + 1, earlier, s => do
    let (v, rest) ← readValue fuel s
    let rest ← found (skipLines? false rest)
    match rest with
    | ']' :: after => pure (.list (v :: earlier).reverse, after)
    | ',' :: rest => do
      let rest ← found (skipLines? false rest)
      match rest with
      | ']' :: after => pure (.list (v :: earlier).reverse, after)
      | rest => readItems fuel (v :: earlier) rest
    | _ => malformed

/-- One field or more of an inline table, which is a section of its own, and the closing brace. -/
def readFields : Nat → Entries → List Char → Except Fault (Value × List Char)
  | 0, _, _ => malformed
  | fuel + 1, entries, s => do
    let (key, rest) ← found (readKey? fuel s)
    match rest with
    | '=' :: rest => do
      let (v, rest) ← readValue fuel (skipSpace rest)
      let entries ← found (changeAt (addLeaf key.name v) (key.passages 0) entries)
      match skipSpace rest with
      | '\x7d' :: after => pure (.record (Entries.toFields entries), after)
      | ',' :: rest => readFields fuel entries (skipSpace rest)
      | _ => malformed
    | _ => malformed

end

/-! ### Lines -/

structure Document where
  entries : Entries := []
  /-- How many headers were read. -/
  sections : Nat := 0
  /-- The table of the last header. -/
  header : List String := []

namespace Document

def headerPassages (names : List String) : List (Passage × String) :=
  names.map fun name => (.header, name)

def addValue (d : Document) (key : Key) (v : Value) : Except Fault Document :=
  (found (changeAt (addLeaf key.name v)
    (headerPassages d.header ++ key.passages d.sections) d.entries)).map
      fun entries => { d with entries := entries }

/-- Opens the section of a header, which makes its table by `change`. -/
def openSection (d : Document) (key : Key) (change : Nat → Entries → Option Entries) :
    Except Fault Document :=
  let sections := d.sections + 1
  (found (changeAt (change sections) (headerPassages key.path) d.entries)).map
    fun entries => ⟨entries, sections, key.parts⟩

def readHeader (fuel : Nat) (d : Document) (s : List Char) : Except Fault (Document × List Char) :=
  match s with
  | '[' :: rest => do
    let (key, rest) ← found (readKey? fuel (skipSpace rest))
    let d ← d.openSection key fun _ => addTable key.name
    match rest with
    | ']' :: ']' :: rest => pure (d, rest)
    | _ => malformed
  | s => do
    let (key, rest) ← found (readKey? fuel (skipSpace s))
    let d ← d.openSection key fun sections => declareTable sections key.name
    match rest with
    | ']' :: rest => pure (d, rest)
    | _ => malformed

def readAssignment (fuel : Nat) (d : Document) (s : List Char) :
    Except Fault (Document × List Char) := do
  let (key, rest) ← found (readKey? fuel s)
  match rest with
  | '=' :: rest => do
    let (v, rest) ← readValue fuel (skipSpace rest)
    let d ← d.addValue key v
    pure (d, rest)
  | _ => malformed

/-- A line holds a header, an assignment or nothing, and a comment may end it. -/
def readLine (fuel : Nat) (d : Document) (s : List Char) : Except Fault (Document × List Char) :=
  match s with
  | [] => .ok (d, [])
  | c :: rest =>
    if c = '[' then d.readHeader fuel rest
    else if isKeyStart c then d.readAssignment fuel (c :: rest)
    else if c = '#' ∨ c = '\n' then .ok (d, c :: rest)
    else malformed

/-- Reads at most `lines` lines. -/
def readLines (fuel : Nat) : Nat → Document → List Char → Except Fault Document
  | 0, d, _ => .ok d
  | lines + 1, d, s => do
    let (d, rest) ← d.readLine fuel (skipSpace s)
    let rest ← found (skipComment? (skipSpace rest))
    match rest with
    | [] => pure d
    | '\n' :: rest => readLines fuel lines d rest
    | _ => malformed

end Document

/-- A carriage return before a line feed belongs to the line end. -/
def unifyLineEnds : List Char → List Char
  | '\r' :: '\n' :: rest => '\n' :: unifyLineEnds rest
  | c :: rest => c :: unifyLineEnds rest
  | [] => []

/-- The fields of a document. Its length bounds its lines, and twice that the steps of a reader. -/
def read (s : List Char) : Except Fault (List (FieldName × Value)) := do
  let s := unifyLineEnds s
  let bound := 2 * s.length + 2
  let d ← Document.readLines bound bound {} s
  pure (Entries.toFields d.entries)

end HostLink.Toml
