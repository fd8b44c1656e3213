import HostLink.Value.Basic

/-!
Tables of a TOML document while it is read. A table is declared once, a key is given one value, and
what a value holds is closed: no key and no header goes through it. A key with points may go through
tables that no header has declared; they count as declared themselves from the next section on.
-/

namespace HostLink.Toml

inductive Node where
  /-- A value, which is closed. -/
  | leaf (v : Value)
  /-- A table, with the first section in which it counts as declared; entries are latest first. -/
  | table (declaredFrom : Option Nat) (entries : List (String × Node))
  /-- Tables of one name: those that are complete, latest first, and the open one. -/
  | tables (complete : List Value) (entries : List (String × Node))

/-- What a table holds, latest first, no name twice. -/
abbrev Entries := List (String × Node)

namespace Node

mutual

def value : Node → Value
  | .leaf v => v
  | .table _ entries => .record (fields entries).reverse
  | .tables complete entries => .list (.record (fields entries).reverse :: complete).reverse
termination_by structural node => node

def fields : List (String × Node) → List (FieldName × Value)
  | [] => []
  | entry :: rest => field entry :: fields rest
termination_by structural entries => entries

def field : String × Node → FieldName × Value
  | (name, node) => (.text name, node.value)
termination_by structural entry => entry

end

end Node

namespace Entries

/-- Sets an entry: a new one goes first, a known one keeps its place. -/
def replace (name : String) (node : Node) : Entries → Entries
  | [] => []
  | (n, old) :: rest => if n = name then (n, node) :: rest else (n, old) :: replace name node rest

def set (name : String) (node : Node) (entries : Entries) : Entries :=
  match entries.lookup name with
  | none => (name, node) :: entries
  | some _ => entries.replace name node

def toFields (entries : Entries) : List (FieldName × Value) :=
  (Node.fields entries).reverse

end Entries

/-- How a table on a path is gone through. -/
inductive Passage where
  /-- By a header, which may go through any table and means the last of several. -/
  | header
  /-- By a key of a section, which may not go through a table that was declared. -/
  | key (current : Nat)
  deriving DecidableEq, Repr

/-- The table behind a name, which is made when it is missing, and what becomes of it when it changes. -/
def Passage.enter? : Passage → Option Node → Option (Entries × (Entries → Node))
  | .header, none => some ([], .table none)
  | .header, some (.table declaredFrom entries) => some (entries, .table declaredFrom)
  | .header, some (.tables complete entries) => some (entries, .tables complete)
  | .key n, none => some ([], .table (some (n + 1)))
  | .key n, some (.table declaredFrom entries) =>
    if declaredFrom.any (· ≤ n) then none else some (entries, .table (some (n + 1)))
  | _, some _ => none

def changeAt (change : Entries → Option Entries) :
    List (Passage × String) → Entries → Option Entries
  | [], entries => change entries
  | (passage, name) :: path, entries => do
    let (inner, restore) ← passage.enter? (entries.lookup name)
    let inner ← changeAt change path inner
    pure (entries.set name (restore inner))

def addLeaf (name : String) (v : Value) (entries : Entries) : Option Entries :=
  match entries.lookup name with
  | none => some (entries.set name (.leaf v))
  | some _ => none

/-- Declares a table for a section, unless there is one that counts as declared. -/
def declareTable (current : Nat) (name : String) (entries : Entries) : Option Entries :=
  match entries.lookup name with
  | none => some (entries.set name (.table (some current) []))
  | some (.table declaredFrom inner) =>
    if declaredFrom.any (· ≤ current) then none
    else some (entries.set name (.table (some current) inner))
  | some _ => none

/-- Adds a table to those of a name, and completes the one before it. -/
def addTable (name : String) (entries : Entries) : Option Entries :=
  match entries.lookup name with
  | none => some (entries.set name (.tables [] []))
  | some (.tables complete inner) =>
    some (entries.set name (.tables (.record (Entries.toFields inner) :: complete) []))
  | some _ => none

end HostLink.Toml
