import HostLink.Fault

/-!
Callbacks from what callers hand in. A half that is nothing but blank counts as missing.
-/

namespace HostLink

open Text

def Value.toText (v : Value) : Except Fault String :=
  match v.text? with
  | some s => .ok (String.ofList s)
  | none => .error .numberTooLong

namespace Callbacks

def half (v : Value) : Except Fault (Option String) :=
  match v with
  | .null => .ok none
  | v => v.toText.map fun s => if hasInk s then some s else none

def make (onEnter onLeave : Value) : Except Fault Callbacks := do
  let enter ← half onEnter
  let leave ← half onLeave
  pure ⟨enter, leave⟩

/-- The value of the first name if the record has it, even when that value is nothing. -/
def choose (name alternative : String) (fields : List (FieldName × Value)) : Value :=
  match Value.field? name fields with
  | some v => v
  | none => (Value.field? alternative fields).getD .null

def coerce (v : Value) : Except Fault Callbacks :=
  match v with
  | .null => .error .missingCallbacks
  | .callbacks c => .ok c
  | .record fields =>
    make (choose "onEnter" "on_enter" fields) (choose "onLeave" "on_leave" fields)
  | v => .error (.notCallbacks v.kindName)

end Callbacks

end HostLink
