import HostLink.Proofs.Json
import HostLink.Value.Nesting

/-!
# How deep values go

A value is shown on a stack with so many levels left exactly when no number in it is too long and no
value in it lies too deep. What keeps it from being shown is one of these two, and nothing else.
-/

namespace HostLink.Value

/-- So many levels are enough for the value and for all that lies within it. -/
def FitsWithin : Nat → Value → Prop
  | 0, _ => False
  | levels + 1, .list items | levels + 1, .group items | levels + 1, .failure _ items =>
    ∀ v ∈ items, v.FitsWithin levels
  | levels + 1, .record fields => ∀ field ∈ fields, field.2.FitsWithin levels
  | _ + 1, _ => True

/-- All numbers of the value can be written, and nothing in it lies too deep for so many levels. -/
structure IsShownWithin (levels : Nat) (v : Value) : Prop where
  printable : v.IsPrintable
  fits : v.FitsWithin levels

theorem isShownWithin_iff {levels : Nat} {v : Value} :
    v.IsShownWithin levels ↔ v.IsPrintable ∧ v.FitsWithin levels :=
  ⟨fun hshown => ⟨hshown.printable, hshown.fits⟩, fun hboth => ⟨hboth.1, hboth.2⟩⟩

theorem isPrintable_fraction_iff {num : Int} {den : Nat} :
    (Value.fraction num den).IsPrintable ↔
      (Text.decimalInt? num).isSome = true ∧ (Text.decimalInt? den).isSome = true := by
  rw [IsPrintable, quoted?]
  cases Text.decimalInt? num <;> cases Text.decimalInt? den <;> simp

theorem hindranceOfNumber?_eq_none_iff {n : Int} :
    hindranceOfNumber? n = none ↔ (Text.decimalInt? n).isSome = true := by
  unfold hindranceOfNumber?
  cases Text.decimalInt? n <;> simp

theorem hindranceOfItems?_eq_none_iff {levels : Nat} {items : List Value} :
    hindranceOfItems? levels items = none ↔ ∀ v ∈ items, v.hindrance? levels = none := by
  induction items with
  | nil => simp [hindranceOfItems?]
  | cons v rest ih => rw [hindranceOfItems?, Option.or_eq_none_iff, ih, List.forall_mem_cons]

theorem hindranceOfFields?_eq_none_iff {levels : Nat} {fields : List (FieldName × Value)} :
    hindranceOfFields? levels fields = none ↔
      ∀ field ∈ fields, field.2.hindrance? levels = none := by
  induction fields with
  | nil => simp [hindranceOfFields?]
  | cons field rest ih =>
      obtain ⟨name, v⟩ := field
      rw [hindranceOfFields?, hindranceOfField?, Option.or_eq_none_iff, ih, List.forall_mem_cons]

/-- Parts that are shown by themselves are shown together. -/
private theorem forall_isShownWithin_iff {α : Type} (part : α → Value) {levels : Nat}
    {parts : List α} :
    (∀ a ∈ parts, (part a).IsShownWithin levels) ↔
      (∀ a ∈ parts, (part a).IsPrintable) ∧ ∀ a ∈ parts, (part a).FitsWithin levels := by
  simp only [isShownWithin_iff]
  exact forall₂_and

/-- **What is shown**: a value is hindered by nothing exactly when its numbers can be written and
there are levels enough. By induction on the levels, as every container takes one. -/
theorem hindrance?_eq_none_iff {levels : Nat} {v : Value} :
    v.hindrance? levels = none ↔ v.IsShownWithin levels := by
  induction levels generalizing v with
  | zero =>
      rw [hindrance?.eq_def]
      exact iff_of_false (by simp) fun hshown => hshown.fits
  | succ levels ih =>
      have hitems : ∀ {items : List Value}, (∀ v ∈ items, v.hindrance? levels = none) ↔
          (∀ v ∈ items, v.IsPrintable) ∧ ∀ v ∈ items, v.FitsWithin levels := by
        intro items
        simp only [ih]
        exact forall_isShownWithin_iff id
      -- In all but containers, nothing lies deeper, so that one level will do.
      have hatom : ∀ {v : Value} {p : Prop}, v.FitsWithin (levels + 1) → (v.IsPrintable ↔ p) →
          (p ↔ v.IsShownWithin (levels + 1)) := fun hfits hprintable =>
        ⟨fun hp => ⟨hprintable.mpr hp, hfits⟩, fun hshown => hprintable.mp hshown.printable⟩
      rw [hindrance?.eq_def]
      cases v with
      | list items =>
          dsimp only
          rw [hindranceOfItems?_eq_none_iff, hitems, ← isPrintable_list_iff, isShownWithin_iff]
          exact Iff.rfl
      | group items =>
          dsimp only
          rw [hindranceOfItems?_eq_none_iff, hitems, ← isPrintable_group_iff, isShownWithin_iff]
          exact Iff.rfl
      | failure name items =>
          dsimp only
          rw [hindranceOfItems?_eq_none_iff, hitems, ← isPrintable_failure_iff, isShownWithin_iff]
          exact Iff.rfl
      | record fields =>
          dsimp only
          simp only [hindranceOfFields?_eq_none_iff, ih]
          rw [forall_isShownWithin_iff Prod.snd, ← isPrintable_record_iff, isShownWithin_iff]
          exact Iff.rfl
      | int n =>
          dsimp only
          rw [hindranceOfNumber?_eq_none_iff]
          refine hatom trivial ?_
          rw [IsPrintable, quoted?, Option.isSome_iff_exists]
      | ordinal n =>
          dsimp only
          rw [hindranceOfNumber?_eq_none_iff]
          refine hatom trivial ?_
          rw [IsPrintable, quoted?, ← Option.isSome_iff_exists, Option.isSome_map]
      | fraction num den =>
          dsimp only
          rw [Option.or_eq_none_iff, hindranceOfNumber?_eq_none_iff, hindranceOfNumber?_eq_none_iff]
          exact hatom trivial isPrintable_fraction_iff
      | _ => exact hatom trivial (iff_of_true ⟨_, by rw [quoted?]⟩ rfl)

/-! ### What keeps a value from being shown -/

/-- A number is too long, or a value lies too deep. -/
def IsHindrance (fault : Fault) : Prop :=
  fault = .numberTooLong ∨ fault = .stackExhausted .showing

/-- Of two that may be there, the one that is found has what both have. -/
private theorem isHindrance_of_or {first second : Option Fault} {fault : Fault}
    (hfirst : ∀ fault, first = some fault → IsHindrance fault)
    (hsecond : ∀ fault, second = some fault → IsHindrance fault)
    (hor : first.or second = some fault) : IsHindrance fault := by
  rcases Option.or_eq_some_iff.mp hor with hfound | ⟨-, hfound⟩
  · exact hfirst fault hfound
  · exact hsecond fault hfound

theorem isHindrance_of_number {n : Int} {fault : Fault}
    (hindered : hindranceOfNumber? n = some fault) : IsHindrance fault := by
  unfold hindranceOfNumber? at hindered
  split at hindered
  · cases hindered
  · exact .inl (Option.some.inj hindered).symm

/-- **Nothing else keeps a value from being shown.** -/
theorem isHindrance_of_hindrance? {levels : Nat} {v : Value} {fault : Fault}
    (hindered : v.hindrance? levels = some fault) : IsHindrance fault := by
  induction levels generalizing v fault with
  | zero =>
      rw [hindrance?.eq_def] at hindered
      exact .inr (Option.some.inj hindered).symm
  | succ levels ih =>
      have hitems : ∀ (items : List Value) {fault : Fault},
          hindranceOfItems? levels items = some fault → IsHindrance fault := by
        intro items
        induction items with
        | nil => exact fun hnone => by cases hnone
        | cons v rest ihrest => exact isHindrance_of_or (fun _ => ih) fun _ => ihrest
      have hfields : ∀ (fields : List (FieldName × Value)) {fault : Fault},
          hindranceOfFields? levels fields = some fault → IsHindrance fault := by
        intro fields
        induction fields with
        | nil => exact fun hnone => by cases hnone
        | cons field rest ihrest =>
            obtain ⟨name, v⟩ := field
            exact isHindrance_of_or (fun _ => ih) fun _ => ihrest
      rw [hindrance?.eq_def] at hindered
      cases v with
      | list items | group items | failure name items => exact hitems items hindered
      | record fields => exact hfields fields hindered
      | int n | ordinal n => exact isHindrance_of_number hindered
      | fraction num den =>
          exact isHindrance_of_or (fun _ => isHindrance_of_number)
            (fun _ => isHindrance_of_number) hindered
      | _ => cases hindered

end HostLink.Value
