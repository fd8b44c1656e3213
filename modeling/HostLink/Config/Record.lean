import HostLink.Config.Basic
import HostLink.Fault

/-!
Configuration from a record. Every field is optional and unknown fields are passed over. How a value
is coerced to the type of its field, and how all that is wrong is reported, is up to a `Coercion`; a
limit on waits that was coerced to a number is then compared with zero.
-/

namespace HostLink

namespace Config

/-- A value, or all that is wrong with it. -/
abbrev Checked (α : Type) := Except (List Issue) α

namespace Checked

def fail {α : Type} (kind : IssueKind) : Checked α :=
  .error [⟨[], kind⟩]

def within {α : Type} (place : Place) : Checked α → Checked α
  | .ok a => .ok a
  | .error issues => .error (issues.map fun i => { i with path := place :: i.path })

def apply {α β : Type} : Checked (α → β) → Checked α → Checked β
  | .ok f, .ok a => .ok (f a)
  | .ok _, .error issues => .error issues
  | .error issues, .ok _ => .error issues
  | .error issues, .error more => .error (issues ++ more)

def all {α : Type} : List (Checked α) → Checked (List α)
  | [] => .ok []
  | x :: rest => apply (x.map List.cons) (all rest)

end Checked

/-- How values count as values of a type, and what is reported of all that does not. -/
structure Coercion where
  text : Value → Checked String
  texts : Value → Checked (List String)
  number : Value → Checked Double
  bool : Value → Checked Bool
  record : Value → Checked (List (FieldName × Value))
  report : List Issue → List Issue

def field {α : Type} (name : String) (check : Value → Checked α) (default : α)
    (fields : List (FieldName × Value)) : Checked α :=
  match Value.field? name fields with
  | none => .ok default
  | some v => (check v).within (.field name)

namespace Coercion

/-- Nothing, or a number above zero; what is no number passes because it does not compare. -/
def checkTimeout (c : Coercion) : Value → Checked (Option Timeout)
  | .null => .ok none
  | v =>
    match c.number v with
    | .error issues => .error issues
    | .ok x => if x.isAtMostZero then .fail .notPositive else .ok (some (.seconds x))

def settingsOfFields (c : Coercion) (fields : List (FieldName × Value)) : Checked Settings :=
  let d : Settings := {}
  let make := Except.ok Settings.mk
  let make := Checked.apply make (field "host_object" c.text d.hostObject fields)
  let make := Checked.apply make (field "native_call" c.text d.nativeCall fields)
  let make := Checked.apply make (field "eval_method" c.text d.evalMethod fields)
  let make := Checked.apply make (field "eval_selector" c.text d.evalSelector fields)
  let make := Checked.apply make (field "fallback_selector" c.text d.fallbackSelector fields)
  let make := Checked.apply make (field "global_evaluators" c.texts d.globalEvaluators fields)
  Checked.apply make (field "timeout" c.checkTimeout d.timeout fields)

def checkSettings (c : Coercion) (v : Value) : Checked Settings :=
  match c.record v with
  | .error issues => .error issues
  | .ok fields => c.settingsOfFields fields

def checkFields (c : Coercion) (fields : List (FieldName × Value)) : Checked Config :=
  let make := Except.ok Config.mk
  let make := Checked.apply make (field "bridge" c.checkSettings {} fields)
  Checked.apply make (field "verbose" c.bool false fields)

def ofChecked {α : Type} (c : Coercion) : Checked α → Except Fault α
  | .ok a => .ok a
  | .error issues => .error (.configInvalid (c.report issues))

end Coercion

def ofFields (c : Coercion) (fields : List (FieldName × Value)) : Except Fault Config :=
  c.ofChecked (c.checkFields fields)

end Config

def Settings.ofFields (c : Config.Coercion) (fields : List (FieldName × Value)) :
    Except Fault Settings :=
  c.ofChecked (c.settingsOfFields fields)

end HostLink
