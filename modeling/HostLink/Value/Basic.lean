import HostLink.Address
import HostLink.Number.Decimal
import HostLink.Number.Double
import HostLink.Text.Point
import Std.Data.HashSet

/-!
The values that hosts return and that callers hand in.
-/

namespace HostLink

/--
Source text to run when a function is entered and when it is left. A missing half means that nothing
runs.
-/
structure Callbacks where
  onEnter : Option String
  onLeave : Option String
  deriving DecidableEq, Repr

/-- The name of a field. A host can send names that are no text. -/
inductive FieldName where
  | text (s : String)
  /-- Code points, with a surrogate on its own among them. -/
  | ragged (ps : List Text.Point)
  deriving DecidableEq, Hashable, Repr

namespace FieldName

instance : Coe String FieldName := ⟨.text⟩

def ofPoints (ps : List Text.Point) : FieldName :=
  match Text.chars? ps with
  | some s => .text (String.ofList s)
  | none => .ragged ps

def points : FieldName → List Text.Point
  | .text s => Text.points s.toList
  | .ragged ps => ps

end FieldName

inductive Kind where
  | null
  | bool
  | int
  | float
  | text
  | bytes
  | buffer
  | list
  | group
  | record
  | address
  | ordinal
  | decimal
  | fraction
  | callbacks
  | sealed
  deriving DecidableEq, Repr

def Kind.name : Kind → String
  | .null => "NoneType"
  | .bool => "bool"
  | .int => "int"
  | .float => "float"
  | .text => "str"
  | .bytes => "bytes"
  | .buffer => "bytearray"
  | .list => "list"
  | .group => "tuple"
  | .record => "dict"
  | .address => "AddressHandle"
  | .ordinal => "Index"
  | .decimal => "Decimal"
  | .fraction => "Fraction"
  | .callbacks => "InterceptHandler"
  | .sealed => "Opaque"

inductive Value where
  | null
  | bool (b : Bool)
  | int (n : Int)
  | float (x : Double)
  | text (s : String)
  /-- Code points, with a surrogate on its own among them. -/
  | ragged (ps : List Text.Point)
  | bytes (bs : List UInt8)
  /-- Bytes in a mutable buffer. -/
  | buffer (bs : List UInt8)
  | list (items : List Value)
  /-- A row of values that cannot change. -/
  | group (items : List Value)
  /-- Fields in the order of their first occurrence, no name twice. -/
  | record (fields : List (FieldName × Value))
  | address (a : Address)
  /-- An object that can only say which position it stands for. -/
  | ordinal (n : Int)
  | decimal (d : Decimal)
  /-- A fraction in lowest terms. -/
  | fraction (num : Int) (den : Nat)
  | callbacks (c : Callbacks)
  /-- An object without abilities, known by its text alone. -/
  | sealed (shown : String)
  /-- A failure that was made and not raised: the name of its kind, and what it was made from. -/
  | failure (name : String) (args : List Value)

namespace Value

instance : Inhabited Value := ⟨.null⟩

/-- Text where the code points allow it. -/
def ofPoints (ps : List Text.Point) : Value :=
  match Text.chars? ps with
  | some s => .text (String.ofList s)
  | none => .ragged ps

/-- Sets a field: a new one goes last, a known one keeps its place. -/
def put (name : FieldName) (v : Value) : List (FieldName × Value) → List (FieldName × Value)
  | [] => [(name, v)]
  | (n, w) :: rest => if n = name then (n, v) :: rest else (n, w) :: put name v rest

def allDistinct (names : List FieldName) : Bool :=
  (Std.HashSet.ofList names).size == names.length

/-- The fields of a record in the order of writing; of a name written twice the last value counts. -/
def ofFields (fields : List (FieldName × Value)) : Value :=
  if allDistinct (fields.map (·.1)) then .record fields
  else .record (fields.foldl (fun known field => put field.1 field.2 known) [])

def field? (name : FieldName) (fields : List (FieldName × Value)) : Option Value :=
  fields.lookup name

def kind : Value → Kind
  | .null => .null
  | .bool _ => .bool
  | .int _ => .int
  | .float _ => .float
  | .text _ | .ragged _ => .text
  | .bytes _ => .bytes
  | .buffer _ => .buffer
  | .list _ => .list
  | .group _ => .group
  | .record _ => .record
  | .address _ => .address
  | .ordinal _ => .ordinal
  | .decimal _ => .decimal
  | .fraction .. => .fraction
  | .callbacks _ => .callbacks
  | .sealed _ | .failure .. => .sealed

def kindName (v : Value) : String :=
  v.kind.name

/-- Whether a value counts as present: nothing, zero and what is empty do not. -/
def isPresent : Value → Bool
  | .null => false
  | .bool b => b
  | .int n => n != 0
  | .float (.finite _ significand _) => significand != 0
  | .float _ => true
  | .text s => !s.isEmpty
  | .ragged ps => !ps.isEmpty
  | .bytes bs | .buffer bs => !bs.isEmpty
  | .list items | .group items => !items.isEmpty
  | .record fields => !fields.isEmpty
  | .address a => !a.isZero
  | .decimal (.finite _ coefficient _) => coefficient != 0
  | .fraction num _ => num != 0
  | .decimal _ | .ordinal _ | .callbacks _ | .sealed _ | .failure .. => true

/-- The number that an integral value is; truth values are not integral. -/
def integral? : Value → Option Int
  | .int n => some n
  | .address a => some a.toNat
  | .ordinal n => some n
  | _ => none

/-- The position that a value stands for; truth values stand for the first two. -/
def index? : Value → Option Int
  | .bool b => some (if b then 1 else 0)
  | v => v.integral?

def ofOption : Option String → Value
  | none => .null
  | some s => .text s

end Value

end HostLink
