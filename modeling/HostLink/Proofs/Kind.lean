import HostLink.Host.Basic
import Mathlib.Data.Option.Basic

/-!
# Values stay of their kind

Calling a member of a value may change the value, but not its kind. So the members that there are to
call stay the same.
-/

namespace HostLink

namespace Member

/-- Whatever a member does, the value is of the kind afterwards. -/
def Effect.Keeps (kind : Kind) (effect : Effect) : Prop :=
  ∀ outcome, effect = some outcome → outcome.after.kind = kind

variable {kind : Kind} {v : Value}

theorem keeps_none : Effect.Keeps kind none := by
  rintro outcome ⟨⟩

theorem keeps_some {outcome : Outcome} (hkind : outcome.after.kind = kind) :
    Effect.Keeps kind (some outcome) :=
  fun _ heq => Option.some.inj heq ▸ hkind

theorem keeps_map {α : Type} {f : α → Outcome} (found : Option α)
    (hf : ∀ a, (f a).after.kind = kind) : Effect.Keeps kind (found.map f) := by
  cases found with
  | none => exact keeps_none
  | some a => exact keeps_some (hf a)

theorem keeps_keeping (answer : Answer) (hkind : v.kind = kind) :
    Effect.Keeps kind (answer.keeping v) :=
  keeps_map answer fun _ => hkind

theorem keeps_bind {α : Type} {f : α → Effect} (found : Option α)
    (hf : ∀ a, Effect.Keeps kind (f a)) : Effect.Keeps kind (found.bind f) := by
  cases found with
  | none => exact keeps_none
  | some a => exact hf a

theorem keeps_ite {p : Prop} [Decidable p] {effect other : Effect} (hthen : effect.Keeps kind)
    (helse : other.Keeps kind) : Effect.Keeps kind (if p then effect else other) := by
  split
  · exact hthen
  · exact helse

/-- Most members leave the value or put one of its kind in its place. The others look first at what
they were given. -/
theorem keeps_ofListMember (items : List Value) (name : String) (args : List Value) :
    Effect.Keeps .list (ofListMember items name args) := by
  unfold ofListMember
  split
  all_goals first
    | exact keeps_keeping _ rfl
    | exact keeps_some rfl
    | exact keeps_none
    | exact keeps_bind _ fun _ => keeps_some rfl
    | skip
  · refine keeps_bind _ fun n => ?_
    split <;> exact keeps_some rfl
  · split
    · exact keeps_keeping _ rfl
    · exact keeps_some rfl
  · exact keeps_ite (keeps_some rfl) (keeps_some rfl)

theorem keeps_withDefault (fields : List (FieldName × Value)) (name : String)
    (key default : Value) : Effect.Keeps .record (withDefault fields name key default) := by
  unfold withDefault
  dsimp only
  split <;> first | exact keeps_some rfl | exact keeps_none

theorem keeps_ofRecordMember (fields : List (FieldName × Value)) (name : String)
    (args : List Value) : Effect.Keeps .record (ofRecordMember fields name args) := by
  unfold ofRecordMember
  split
  all_goals first
    | exact keeps_keeping _ rfl
    | exact keeps_some rfl
    | exact keeps_none
    | exact keeps_withDefault _ _ _ _
    | exact keeps_ite (keeps_some rfl) (keeps_some rfl)
    | exact keeps_ite (keeps_some rfl) keeps_none
    | exact keeps_ite (keeps_withDefault _ _ _ _) keeps_none
    | skip
  · split <;> exact keeps_some rfl
  · split <;> exact keeps_some rfl
  · exact keeps_map _ fun _ => rfl

theorem keeps_ofBufferMember (bs : List UInt8) (name : String) (args : List Value) :
    Effect.Keeps .buffer (ofBufferMember bs name args) := by
  unfold ofBufferMember
  split
  · exact keeps_some rfl
  · split <;> exact keeps_some rfl
  · exact keeps_keeping _ rfl

theorem keeps_ofAddressMember (a : Address) (name : String) (args : List Value) :
    Effect.Keeps .address (ofAddressMember a name args) := by
  unfold ofAddressMember
  split
  · exact keeps_some rfl
  · exact keeps_some rfl
  · split <;> exact keeps_some rfl
  · exact keeps_some rfl
  · exact keeps_none

theorem keeps_ofCallbacksMember (c : Callbacks) (name : String) (args : List Value) :
    Effect.Keeps .callbacks (ofCallbacksMember c name args) := by
  unfold ofCallbacksMember
  split
  · exact keeps_some rfl
  · dsimp only
    split <;> exact keeps_some rfl
  · dsimp only
    split <;> exact keeps_some rfl
  · exact keeps_some rfl
  · exact keeps_some rfl
  · exact keeps_none

theorem keeps_own (self : Value) (name : String) (args : List Value) :
    Effect.Keeps self.kind (own self name args) := by
  cases self with
  | text s => exact keeps_keeping _ rfl
  | float x => exact keeps_keeping _ rfl
  | int n => exact keeps_keeping _ rfl
  | bool b => exact keeps_keeping _ rfl
  | group items => exact keeps_keeping _ rfl
  | bytes bs => exact keeps_keeping _ rfl
  | list items => exact keeps_ofListMember items name args
  | record fields => exact keeps_ofRecordMember fields name args
  | buffer bs => exact keeps_ofBufferMember bs name args
  | address a => exact keeps_ofAddressMember a name args
  | callbacks c => exact keeps_ofCallbacksMember c name args
  | ordinal n =>
      dsimp only [own]
      split
      · exact keeps_some rfl
      · exact keeps_none
  | sealed shown =>
      dsimp only [own]
      split
      · exact keeps_some rfl
      · exact keeps_some rfl
      · exact keeps_none
  | decimal d | fraction num den =>
      dsimp only [own]
      split
      · exact keeps_some rfl
      · exact keeps_ite (keeps_keeping _ rfl) keeps_none
  | null => exact keeps_none
  | ragged ps => exact keeps_none
  | failure name args => exact keeps_none

end Member

/-- **A call of a member leaves a value of the same kind.** -/
theorem Value.kind_after_callMember (v : Value) (name : String) (args : List Value) :
    (v.callMember name args).after.kind = v.kind := by
  have hown := Member.keeps_own v name args
  unfold callMember
  cases heffect : Member.own v name args with
  | none => rfl
  | some outcome => exact hown outcome heffect

end HostLink
