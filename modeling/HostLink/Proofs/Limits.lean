import HostLink.Config.File
import HostLink.Config.Lax
import Mathlib.Logic.Basic

/-!
# Limits that are accepted

A configuration is checked so that there is no limit, by choice, or one above zero, wherever its
fields come from and however values are coerced to numbers. This is so unless the value that is given
for the limit counts as no number: that does not lie below zero either, and so it passes.
-/

namespace HostLink

/-! ### Numbers above zero -/

namespace Double

/-- Holds of a value above zero, and of infinity. -/
def IsAboveZero : Double → Prop
  | .nan => False
  | .infinite negative => negative = false
  | .finite negative significand exponent => 0 < (fraction negative significand exponent).1

theorem exists_fraction (negative : Bool) (significand : Nat) (exponent : Int) :
    ∃ m : Nat, (fraction negative significand exponent).1 = (if negative then -(m : Int) else m) ∧
      (m = 0 ↔ significand = 0) := by
  refine ⟨_, rfl, ?_⟩
  by_cases hsmall : exponent < 0
  · rw [if_pos hsmall]
  · rw [if_neg hsmall, Nat.mul_eq_zero]
    have hpower : Nat.pow 2 exponent.natAbs ≠ 0 := Nat.ne_of_gt (Nat.pow_pos (Nat.succ_pos 1))
    simp only [hpower, or_false]

/-- What does not lie at zero or below is above it, or is no number. -/
theorem isAboveZero_iff {x : Double} (hzero : x.isAtMostZero = false) :
    x.IsAboveZero ↔ x ≠ .nan := by
  cases x with
  | nan => exact iff_of_false id (not_not_intro rfl)
  | infinite negative => exact iff_of_true hzero Double.noConfusion
  | finite negative significand exponent =>
      obtain ⟨hsign, hsome⟩ := Bool.or_eq_false_iff.mp hzero
      obtain ⟨m, hm, hiff⟩ := exists_fraction negative significand exponent
      refine iff_of_true ?_ Double.noConfusion
      have hpositive : m ≠ 0 := fun heq => by simp [hiff.mp heq] at hsome
      rw [hsign, if_neg Bool.false_ne_true] at hm
      rw [hsign, IsAboveZero, hm]
      omega

end Double

namespace Config

variable {c : Coercion} {fields : List (FieldName × Value)}

/-! ### What passed its check -/

theorem Checked.apply_eq_ok {α β : Type} {f : Checked (α → β)} {x : Checked α} {b : β}
    (happly : Checked.apply f x = .ok b) : ∃ g a, f = .ok g ∧ x = .ok a ∧ b = g a := by
  cases f with
  | error issues => cases x <;> cases happly
  | ok g =>
      cases x with
      | error issues => cases happly
      | ok a => exact ⟨g, a, rfl, rfl, (Except.ok.inj happly).symm⟩

/-- A field that passed is missing and has its default, or is a value that passed. -/
theorem field_eq_ok {α : Type} {name : String} {check : Value → Checked α} {default a : α}
    (hfield : field name check default fields = .ok a) :
    (Value.field? name fields = none ∧ a = default) ∨
      ∃ v, Value.field? name fields = some v ∧ check v = .ok a := by
  unfold field at hfield
  cases hvalue : Value.field? name fields with
  | none =>
      rw [hvalue] at hfield
      exact .inl ⟨rfl, (Except.ok.inj hfield).symm⟩
  | some v =>
      rw [hvalue] at hfield
      dsimp only at hfield
      cases hcheck : check v with
      | ok b =>
          rw [hcheck] at hfield
          exact .inr ⟨v, rfl, hcheck.trans hfield⟩
      | error issues =>
          rw [hcheck] at hfield
          cases hfield

/-- A limit that passed is none, or a number that does not lie at zero or below. -/
theorem checkTimeout_eq_ok {v : Value} {limit : Option Timeout}
    (hcheck : c.checkTimeout v = .ok limit) :
    (v = .null ∧ limit = none) ∨
      v ≠ .null ∧ ∃ x, c.number v = .ok x ∧ x.isAtMostZero = false ∧ limit = some (.seconds x) := by
  unfold Coercion.checkTimeout at hcheck
  split at hcheck
  · exact .inl ⟨rfl, (Except.ok.inj hcheck).symm⟩
  · rename_i hgiven
    split at hcheck
    · cases hcheck
    · rename_i x hx
      by_cases hzero : x.isAtMostZero = true
      · rw [if_pos hzero] at hcheck
        cases hcheck
      · rw [if_neg hzero] at hcheck
        exact .inr ⟨hgiven, x, hx, by simpa using hzero, (Except.ok.inj hcheck).symm⟩

theorem field_timeout_of_settingsOfFields {settings : Settings}
    (hsettings : c.settingsOfFields fields = .ok settings) :
    field "timeout" c.checkTimeout none fields = .ok settings.timeout := by
  unfold Coercion.settingsOfFields at hsettings
  obtain ⟨_, limit, hrest, hlimit, rfl⟩ := Checked.apply_eq_ok hsettings
  obtain ⟨_, _, hfallback, -, rfl⟩ := Checked.apply_eq_ok hrest
  obtain ⟨_, _, hselector, -, rfl⟩ := Checked.apply_eq_ok hfallback
  obtain ⟨_, _, hmethod, -, rfl⟩ := Checked.apply_eq_ok hselector
  obtain ⟨_, _, hnative, -, rfl⟩ := Checked.apply_eq_ok hmethod
  obtain ⟨_, _, hobject, -, rfl⟩ := Checked.apply_eq_ok hnative
  obtain ⟨_, _, hmake, -, rfl⟩ := Checked.apply_eq_ok hobject
  obtain rfl := Except.ok.inj hmake
  exact hlimit

theorem ofChecked_eq_ok {α : Type} {checked : Checked α} {a : α}
    (haccepted : c.ofChecked checked = .ok a) : checked = .ok a := by
  cases checked with
  | ok b => exact congrArg Except.ok (Except.ok.inj haccepted)
  | error issues => cases haccepted

theorem field_bridge_of_ofFields {config : Config} (hconfig : ofFields c fields = .ok config) :
    field "bridge" c.checkSettings {} fields = .ok config.bridge := by
  have hchecked := ofChecked_eq_ok hconfig
  unfold Coercion.checkFields at hchecked
  obtain ⟨_, _, hrest, -, rfl⟩ := Checked.apply_eq_ok hchecked
  obtain ⟨_, settings, hmake, hsettings, rfl⟩ := Checked.apply_eq_ok hrest
  obtain rfl := Except.ok.inj hmake
  exact hsettings

/-! ### The value that is given -/

def limitIn (fields : List (FieldName × Value)) : Option Value :=
  Value.field? "timeout" fields

/-- The limit in the record of settings within a record. -/
def limitWithin (c : Coercion) (fields : List (FieldName × Value)) : Option Value := do
  let v ← Value.field? "bridge" fields
  let inner ← (c.record v).toOption
  limitIn inner

/-- The fields that are written in a file, if it can be read. -/
def fieldsIn (content : List UInt8) : Option (List (FieldName × Value)) := do
  let text ← Text.Utf8.decode? content
  (Toml.read text).toOption

/-- The fields in the file that a path leads to, if there is one. -/
def fieldsAt (disk : Disk) (path : Value) : Option (List (FieldName × Value)) := do
  let place ← (pathOf path).toOption
  match disk.find place with
  | .ok (some (.file content)) => fieldsIn content
  | _ => none

/-- Settings that were accepted, with the value that was given for the limit. -/
inductive Accepts (c : Coercion) : Option Value → Settings → Prop
  | direct {fields settings} (haccepted : Settings.ofFields c fields = .ok settings) :
      Accepts c (limitIn fields) settings
  | within {fields config} (haccepted : ofFields c fields = .ok config) :
      Accepts c (limitWithin c fields) config.bridge
  | loaded {disk path config} (haccepted : load c disk path = .ok config) :
      Accepts c ((fieldsAt disk path).bind (limitWithin c)) config.bridge

/-- There is no limit by choice, or one above zero. -/
def WaitsAsChosen (given : Option Value) (limit : Option Timeout) : Prop :=
  (limit = none ∧ (given = none ∨ given = some .null)) ∨
    ∃ x : Double, limit = some (.seconds x) ∧ x.IsAboveZero

/-- A limit is given that counts as no number. -/
def GivesNoNumber (c : Coercion) (given : Option Value) : Prop :=
  ∃ v, given = some v ∧ v ≠ .null ∧ c.number v = .ok .nan

theorem not_givesNoNumber_none : ¬GivesNoNumber c none := by
  rintro ⟨v, hgiven, -⟩
  cases hgiven

/-! ### Checking it -/

/-- A limit that passed its check is none by choice, or what was given for it. -/
theorem waitsAsChosen_of_field {limit : Option Timeout}
    (hlimit : field "timeout" c.checkTimeout none fields = .ok limit) :
    WaitsAsChosen (limitIn fields) limit ↔ ¬GivesNoNumber c (limitIn fields) := by
  rcases field_eq_ok hlimit with ⟨hnone, rfl⟩ | ⟨v, hgiven, hcheck⟩
  · rw [limitIn, hnone]
    exact iff_of_true (.inl ⟨rfl, .inl rfl⟩) not_givesNoNumber_none
  · rw [limitIn, hgiven]
    rcases checkTimeout_eq_ok hcheck with ⟨rfl, rfl⟩ | ⟨hchosen, x, hx, hzero, rfl⟩
    · refine iff_of_true (.inl ⟨rfl, .inr rfl⟩) ?_
      rintro ⟨v, ⟨⟩, hchosen, -⟩
      exact hchosen rfl
    · have habove : WaitsAsChosen (some v) (some (.seconds x)) ↔ x.IsAboveZero := by
        constructor
        · rintro (⟨hnone, -⟩ | ⟨y, hy, habove⟩)
          · cases hnone
          · cases hy
            exact habove
        · exact fun habove => .inr ⟨x, rfl, habove⟩
      have hgives : GivesNoNumber c (some v) ↔ x = .nan := by
        constructor
        · rintro ⟨w, hw, -, hnan⟩
          obtain rfl := Option.some.inj hw
          exact Except.ok.inj (hx.symm.trans hnan)
        · exact fun hnan => ⟨v, rfl, hchosen, hnan ▸ hx⟩
      rw [habove, hgives, Double.isAboveZero_iff hzero]

theorem waitsAsChosen_within {config : Config} (haccepted : ofFields c fields = .ok config) :
    WaitsAsChosen (limitWithin c fields) config.bridge.timeout ↔
      ¬GivesNoNumber c (limitWithin c fields) := by
  rcases field_eq_ok (field_bridge_of_ofFields haccepted) with
    ⟨hnone, hdefault⟩ | ⟨v, hgiven, hcheck⟩
  · rw [limitWithin, hnone, hdefault]
    exact iff_of_true (.inl ⟨rfl, .inl rfl⟩) not_givesNoNumber_none
  · unfold Coercion.checkSettings at hcheck
    cases hrecord : c.record v with
    | error issues =>
        rw [hrecord] at hcheck
        cases hcheck
    | ok inner =>
        rw [hrecord] at hcheck
        have hinner : limitWithin c fields = limitIn inner := by
          rw [limitWithin, hgiven, Option.bind_eq_bind, Option.bind_some, hrecord]
          rfl
        rw [hinner]
        exact waitsAsChosen_of_field (field_timeout_of_settingsOfFields hcheck)

theorem exists_of_bind_eq_ok {ε α β : Type} {x : Except ε α} {f : α → Except ε β} {b : β}
    (hbind : (x >>= f) = .ok b) : ∃ a, x = .ok a ∧ f a = .ok b := by
  cases x with
  | error e => cases hbind
  | ok a => exact ⟨a, rfl, hbind⟩

theorem ofContent_eq_ok {content : List UInt8} {config : Config}
    (haccepted : ofContent c content = .ok config) :
    ∃ fields, fieldsIn content = some fields ∧ ofFields c fields = .ok config := by
  unfold ofContent at haccepted
  unfold fieldsIn
  cases htext : Text.Utf8.decode? content with
  | none =>
      rw [htext] at haccepted
      cases haccepted
  | some text =>
      rw [htext] at haccepted
      obtain ⟨fields, hfields, hconfig⟩ := exists_of_bind_eq_ok haccepted
      rw [Option.bind_eq_bind, Option.bind_some, hfields]
      exact ⟨fields, rfl, hconfig⟩

/-- A configuration that was loaded has the defaults, or is that of the fields of a file. -/
theorem load_eq_ok {disk : Disk} {path : Value} {config : Config}
    (haccepted : load c disk path = .ok config) :
    (fieldsAt disk path = none ∧ config = {}) ∨
      ∃ fields, fieldsAt disk path = some fields ∧ ofFields c fields = .ok config := by
  obtain ⟨place, hplace, hfound⟩ := exists_of_bind_eq_ok haccepted
  obtain ⟨node, hnode, hconfig⟩ := exists_of_bind_eq_ok hfound
  simp only [fieldsAt, hplace, hnode, Except.toOption, Option.bind_eq_bind, Option.bind_some]
  rcases node with _ | content | _
  · exact .inl ⟨rfl, (Except.ok.inj hconfig).symm⟩
  · exact .inr (ofContent_eq_ok hconfig)
  · cases hconfig

/-- **A limit that was accepted is none by choice, or above zero, exactly when** what was given for it
does not count as no number. -/
theorem waitsAsChosen_iff {given : Option Value} {settings : Settings}
    (haccepted : Accepts c given settings) :
    WaitsAsChosen given settings.timeout ↔ ¬GivesNoNumber c given := by
  cases haccepted with
  | direct haccepted =>
      exact waitsAsChosen_of_field (field_timeout_of_settingsOfFields (ofChecked_eq_ok haccepted))
  | within haccepted => exact waitsAsChosen_within haccepted
  | loaded haccepted =>
      rcases load_eq_ok haccepted with ⟨hnone, rfl⟩ | ⟨fields, hfields, haccepted⟩
      · rw [hnone]
        exact iff_of_true (.inl ⟨rfl, .inl rfl⟩) not_givesNoNumber_none
      · rw [hfields]
        exact waitsAsChosen_within haccepted

/-- Two and a half seconds are spelled. -/
theorem spelled_seconds_are_waited_for :
    ∃ settings, Accepts .lax (some (.text "2.5")) settings ∧
      WaitsAsChosen (some (.text "2.5")) settings.timeout := by
  have haccepted : Accepts .lax (limitIn [(.text "timeout", .text "2.5")])
      { timeout := some (.seconds (.finite false 5629499534213120 (-51))) } := .direct rfl
  refine ⟨_, haccepted, (waitsAsChosen_iff haccepted).mpr ?_⟩
  rintro ⟨v, ⟨⟩, -, hnan⟩
  have hread : Coercion.lax.number (.text "2.5") =
      .ok (.finite false 5629499534213120 (-51)) := rfl
  cases hread.symm.trans hnan

/-- Where floats are taken as they are, the one that is no number is accepted, and nothing above
zero is waited for. -/
theorem accepts_nan (hfloat : c.number (.float .nan) = .ok .nan) :
    Accepts c (some (.float .nan)) { timeout := some (.seconds .nan) } ∧
      ¬WaitsAsChosen (some (.float .nan)) (some (.seconds .nan)) := by
  have hchecked : c.checkTimeout (.float .nan) = .ok (some (.seconds .nan)) := by
    simp only [Coercion.checkTimeout, hfloat, Double.isAtMostZero, Bool.false_eq_true, if_false]
  have hsettings : c.settingsOfFields [(.text "timeout", .float .nan)] =
      .ok { timeout := some (.seconds .nan) } := by
    have hlimit : field "timeout" c.checkTimeout none [(.text "timeout", .float .nan)] =
        .ok (some (.seconds .nan)) := by
      have hgiven : Value.field? "timeout" [(.text "timeout", .float .nan)] =
          some (.float .nan) := rfl
      rw [field, hgiven]
      dsimp only
      rw [hchecked]
      rfl
    rw [Coercion.settingsOfFields, hlimit]
    rfl
  have haccepted : Accepts c (limitIn [(.text "timeout", .float .nan)])
      { timeout := some (.seconds .nan) } :=
    .direct (by rw [Settings.ofFields, hsettings]; rfl)
  refine ⟨haccepted, ?_⟩
  rintro (⟨hnone, -⟩ | ⟨x, hx, habove⟩)
  · cases hnone
  · cases hx
    exact habove

/-- The lax coercion takes floats as they are, so what is no number is waited for. -/
theorem no_number_is_waited_for :
    Accepts .lax (some (.float .nan)) { timeout := some (.seconds .nan) } ∧
      ¬WaitsAsChosen (some (.float .nan)) (some (.seconds .nan)) :=
  accepts_nan rfl

end Config

end HostLink
