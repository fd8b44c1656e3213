import HostLink.Json.Reader
import HostLink.Value.Text
import Mathlib.Algebra.Group.Nat.Defs
import Mathlib.Data.Option.Basic

/-!
# Values that were read have a text

A number of too many digits is not read, so no value read from JSON holds one: every such value can
be shown in a message.
-/

namespace HostLink

open Text

/-! ### Values with a text -/

namespace Value

def IsPrintable (v : Value) : Prop :=
  ∃ text, v.quoted? = some text

theorem exists_quotedItems?_iff {items : List Value} :
    (∃ parts, quotedItems? items = some parts) ↔ ∀ v ∈ items, v.IsPrintable := by
  induction items with
  | nil => simp [quotedItems?]
  | cons v rest ih =>
      rw [List.forall_mem_cons, ← ih, quotedItems?]
      constructor
      · rintro ⟨parts, hparts⟩
        obtain ⟨part, hpart, hothers⟩ := Option.bind_eq_some_iff.mp hparts
        obtain ⟨others, hrest, -⟩ := Option.bind_eq_some_iff.mp hothers
        exact ⟨⟨part, hpart⟩, others, hrest⟩
      · rintro ⟨⟨part, hpart⟩, parts, hparts⟩
        exact ⟨part :: parts, by rw [hpart, hparts]; rfl⟩

theorem exists_quotedFields?_iff {fields : List (FieldName × Value)} :
    (∃ parts, quotedFields? fields = some parts) ↔ ∀ field ∈ fields, field.2.IsPrintable := by
  induction fields with
  | nil => simp [quotedFields?]
  | cons field rest ih =>
      obtain ⟨name, v⟩ := field
      rw [List.forall_mem_cons, ← ih, quotedFields?, quotedField?]
      constructor
      · rintro ⟨parts, hparts⟩
        obtain ⟨part, hpart, hothers⟩ := Option.bind_eq_some_iff.mp hparts
        obtain ⟨shown, hshown, -⟩ := Option.bind_eq_some_iff.mp hpart
        obtain ⟨others, hrest, -⟩ := Option.bind_eq_some_iff.mp hothers
        exact ⟨⟨shown, hshown⟩, others, hrest⟩
      · rintro ⟨⟨part, hpart⟩, parts, hparts⟩
        exact ⟨_, by rw [hpart, hparts]; rfl⟩

/-- Parts of a text are there exactly when the text is. -/
private theorem isPrintable_of_map {v : Value} {α : Type} {parts : Option α} {f : α → List Char}
    (hquoted : v.quoted? = parts.map f) : v.IsPrintable ↔ ∃ found, parts = some found := by
  rw [IsPrintable, hquoted, ← Option.isSome_iff_exists, ← Option.isSome_iff_exists,
    Option.isSome_map]

theorem isPrintable_list_iff {items : List Value} :
    (Value.list items).IsPrintable ↔ ∀ v ∈ items, v.IsPrintable :=
  (isPrintable_of_map (by rw [quoted?])).trans exists_quotedItems?_iff

theorem isPrintable_group_iff {items : List Value} :
    (Value.group items).IsPrintable ↔ ∀ v ∈ items, v.IsPrintable :=
  (isPrintable_of_map (by rw [quoted?])).trans exists_quotedItems?_iff

theorem isPrintable_failure_iff {name : String} {args : List Value} :
    (Value.failure name args).IsPrintable ↔ ∀ v ∈ args, v.IsPrintable :=
  (isPrintable_of_map (by rw [quoted?])).trans exists_quotedItems?_iff

theorem isPrintable_record_iff {fields : List (FieldName × Value)} :
    (Value.record fields).IsPrintable ↔ ∀ field ∈ fields, field.2.IsPrintable :=
  (isPrintable_of_map (by rw [quoted?])).trans exists_quotedFields?_iff

/-- What holds of the values that fields have holds of them when one is put in its place. -/
theorem forall_mem_put {P : Value → Prop} {name : FieldName} {v : Value}
    {fields : List (FieldName × Value)} (hv : P v) (hall : ∀ field ∈ fields, P field.2) :
    ∀ field ∈ put name v fields, P field.2 := by
  induction fields with
  | nil =>
      intro field hmem
      rw [put, List.mem_singleton] at hmem
      exact hmem ▸ hv
  | cons known rest ih =>
      obtain ⟨n, w⟩ := known
      have hrest := fun f hmem => hall f (List.mem_cons_of_mem (n, w) hmem)
      intro field hmem
      rw [put] at hmem
      by_cases hn : n = name
      · rw [if_pos hn] at hmem
        rcases List.mem_cons.mp hmem with rfl | hmem
        · exact hv
        · exact hrest field hmem
      · rw [if_neg hn] at hmem
        rcases List.mem_cons.mp hmem with rfl | hmem
        · exact hall _ List.mem_cons_self
        · exact ih hrest field hmem

/-- A record has no other values than the fields that it is made from. -/
theorem exists_ofFields_forall {P : Value → Prop} {fields : List (FieldName × Value)}
    (hall : ∀ field ∈ fields, P field.2) :
    ∃ members, ofFields fields = .record members ∧ ∀ field ∈ members, P field.2 := by
  unfold ofFields
  by_cases hdistinct : allDistinct (fields.map (·.1)) = true
  · exact ⟨fields, if_pos hdistinct, hall⟩
  · refine ⟨_, if_neg hdistinct, ?_⟩
    have hfold : ∀ (fields known : List (FieldName × Value)),
        (∀ field ∈ fields, P field.2) → (∀ field ∈ known, P field.2) →
        ∀ field ∈ fields.foldl (fun known field => put field.1 field.2 known) known,
          P field.2 := by
      intro fields
      induction fields with
      | nil => exact fun known _ hknown => hknown
      | cons field rest ih =>
          intro known hfields hknown
          exact ih _ (fun f hmem => hfields f (List.mem_cons_of_mem _ hmem))
            (forall_mem_put (hfields field List.mem_cons_self) hknown)
    exact hfold fields [] hall (by simp)

theorem isPrintable_ofFields {fields : List (FieldName × Value)}
    (hall : ∀ field ∈ fields, field.2.IsPrintable) : (ofFields fields).IsPrintable := by
  obtain ⟨members, hmembers, hall⟩ := exists_ofFields_forall hall
  exact hmembers ▸ isPrintable_record_iff.mpr hall

theorem isPrintable_ofPoints (ps : List Point) : (ofPoints ps).IsPrintable := by
  unfold ofPoints
  cases chars? ps with
  | some s => exact ⟨_, by rw [quoted?]⟩
  | none => exact ⟨_, by rw [quoted?]⟩

theorem text?_of_isPrintable {v : Value} (hv : v.IsPrintable) : ∃ text, v.text? = some text := by
  obtain ⟨text, htext⟩ := hv
  cases v with
  | text s => exact ⟨_, rfl⟩
  | ragged ps => exact ⟨_, rfl⟩
  | address a => exact ⟨_, rfl⟩
  | decimal d => exact ⟨_, rfl⟩
  | fraction num den =>
      rw [quoted?] at htext
      cases hnum : decimalInt? num with
      | none =>
          rw [hnum] at htext
          cases htext
      | some n =>
          cases hden : decimalInt? den with
          | none =>
              rw [hnum, hden] at htext
              cases htext
          | some d =>
              rw [text?, hnum, hden]
              by_cases hwhole : den = 1
              · exact ⟨n, by simp [hwhole]⟩
              · exact ⟨n ++ '/' :: d, by simp [hwhole]⟩
  | failure name args =>
      rw [quoted?] at htext
      obtain ⟨parts, hparts, -⟩ := Option.map_eq_some_iff.mp htext
      rw [text?]
      unfold failureText?
      split
      · exact ⟨_, rfl⟩
      · exact ⟨_, rfl⟩
      · rename_i v _
        rw [quotedItems?] at hparts
        cases hv : v.quoted? with
        | none =>
            rw [hv] at hparts
            cases hparts
        | some text => exact ⟨text, rfl⟩
      · exact ⟨_, by rw [hparts]; rfl⟩
  | _ => exact ⟨text, htext⟩

end Value

namespace Json

/-! ### Numbers -/

theorem positional_lt {digits : List Nat} (hall : ∀ d ∈ digits, d < 10) :
    positional 10 digits < 10 ^ digits.length := by
  have hfold : ∀ (digits : List Nat) (n : Nat), (∀ d ∈ digits, d < 10) →
      digits.foldl (fun n d => n * 10 + d) n < (n + 1) * 10 ^ digits.length := by
    intro digits
    induction digits with
    | nil =>
        intro n _
        simp
    | cons d rest ih =>
        intro n hdigits
        have hd : d < 10 := hdigits d List.mem_cons_self
        have hrest := ih (n * 10 + d) fun e hmem => hdigits e (List.mem_cons_of_mem _ hmem)
        rw [List.foldl_cons, List.length_cons]
        calc
          rest.foldl (fun n d => n * 10 + d) (n * 10 + d) <
              (n * 10 + d + 1) * 10 ^ rest.length := hrest
          _ ≤ (n + 1) * 10 * 10 ^ rest.length := Nat.mul_le_mul_right _ (by omega)
          _ = (n + 1) * 10 ^ (rest.length + 1) := by rw [Nat.mul_assoc, Nat.pow_succ']
  rw [positional_eq_foldl]
  simpa using hfold digits 0 hall

theorem positional_lt_of_length_le {digits : List Nat} {limit : Nat}
    (hall : ∀ d ∈ digits, d < 10) (hlength : digits.length ≤ limit) :
    positional 10 digits < Nat.pow 10 limit :=
  Nat.lt_of_lt_of_le (positional_lt hall) (Nat.pow_le_pow_right (by decide) hlength)

theorem digit?_lt {p : Point} {d : Nat} (hd : digit? p = some d) : d < 10 := by
  unfold digit? at hd
  obtain ⟨c, -, hc⟩ := Option.bind_eq_some_iff.mp hd
  unfold asciiDigit? at hc
  by_cases hrange : (0x30 ≤ c.toNat && c.toNat ≤ 0x39) = true
  · rw [if_pos hrange] at hc
    have hvalue := Option.some.inj hc
    simp only [Bool.and_eq_true, decide_eq_true_eq] at hrange
    omega
  · rw [if_neg hrange] at hc
    cases hc

theorem readWhole_lt {s after : Source} {digits : List Nat}
    (hread : readWhole s = some (digits, after)) : ∀ d ∈ digits, d < 10 := by
  cases s with
  | nil => cases hread
  | cons p rest =>
      rw [readWhole] at hread
      split at hread
      · cases hread
      · obtain ⟨rfl, rfl⟩ := Prod.mk.inj (Option.some.inj hread)
        simp
      · obtain ⟨rfl, rfl⟩ := Prod.mk.inj (Option.some.inj hread)
        intro d hmem
        obtain ⟨q, -, hq⟩ := List.mem_filterMap.mp hmem
        exact digit?_lt hq

theorem natAbs_applySign (negative : Bool) (n : Nat) : (applySign negative n).natAbs = n := by
  cases negative <;> simp [applySign]

theorem isPrintable_of_readNumber {negative : Bool} {s after : Source} {v : Value}
    (hread : readNumber negative s = some (v, after)) : v.IsPrintable := by
  unfold readNumber at hread
  obtain ⟨⟨whole, rest⟩, hwhole, hread⟩ := Option.bind_eq_some_iff.mp hread
  dsimp only at hread
  split at hread
  · by_cases hlimit : whole.length ≤ decimalDigitLimit
    · rw [if_pos hlimit] at hread
      obtain ⟨rfl, -⟩ := Prod.mk.inj (Option.some.inj hread)
      refine ⟨decimalInt (applySign negative (positional 10 whole)), ?_⟩
      rw [Value.quoted?, decimalInt?, natAbs_applySign,
        if_pos (positional_lt_of_length_le (readWhole_lt hwhole) hlimit)]
    · rw [if_neg hlimit] at hread
      cases hread
  · obtain ⟨rfl, -⟩ := Prod.mk.inj (Option.some.inj hread)
    exact ⟨_, by rw [Value.quoted?]⟩

/-! ### Values -/

theorem isPrintable_of_readAtom {s after : Source} {v : Value}
    (hread : readAtom s = some (v, after)) : v.IsPrintable := by
  have hword : ∀ {w : Value} {rest : Option Source}, w.IsPrintable →
      rest.map (w, ·) = some (v, after) → v.IsPrintable := by
    intro w rest hw hmap
    obtain ⟨_, -, heq⟩ := Option.map_eq_some_iff.mp hmap
    obtain ⟨rfl, -⟩ := Prod.mk.inj heq
    exact hw
  unfold readAtom at hread
  split at hread
  · exact hword ⟨_, by rw [Value.quoted?]⟩ hread
  · exact hword ⟨_, by rw [Value.quoted?]⟩ hread
  · exact hword ⟨_, by rw [Value.quoted?]⟩ hread
  · exact hword ⟨_, by rw [Value.quoted?]⟩ hread
  · exact hword ⟨_, by rw [Value.quoted?]⟩ hread
  · split at hread
    · obtain ⟨rfl, -⟩ := Prod.mk.inj (Option.some.inj hread)
      exact ⟨_, by rw [Value.quoted?]⟩
    · exact isPrintable_of_readNumber hread
  · exact isPrintable_of_readNumber hread

/-- With this fuel, all that is read can be shown. -/
structure ReadsPrintable (fuel : Nat) : Prop where
  value : ∀ {s v after}, readValue fuel s = some (v, after) → v.IsPrintable
  items : ∀ {s items after}, readItems fuel s = some (items, after) → ∀ v ∈ items, v.IsPrintable
  members : ∀ {s fields after}, readFields fuel s = some (fields, after) →
    ∀ field ∈ fields, field.2.IsPrintable

theorem ReadsPrintable.value_succ {fuel : Nat} (hfuel : ReadsPrintable fuel) {s after : Source}
    {v : Value} (hread : readValue (fuel + 1) s = some (v, after)) : v.IsPrintable := by
  rw [readValue.eq_def] at hread
  dsimp only at hread
  split at hread
  · obtain ⟨⟨ps, rest⟩, -, heq⟩ := Option.map_eq_some_iff.mp hread
    obtain ⟨rfl, -⟩ := Prod.mk.inj heq
    exact Value.isPrintable_ofPoints ps
  · split at hread
    · obtain ⟨rfl, -⟩ := Prod.mk.inj (Option.some.inj hread)
      exact Value.isPrintable_list_iff.mpr (by simp)
    · obtain ⟨⟨items, rest⟩, hitems, heq⟩ := Option.map_eq_some_iff.mp hread
      obtain ⟨rfl, -⟩ := Prod.mk.inj heq
      exact Value.isPrintable_list_iff.mpr (hfuel.items hitems)
  · split at hread
    · obtain ⟨rfl, -⟩ := Prod.mk.inj (Option.some.inj hread)
      exact Value.isPrintable_record_iff.mpr (by simp)
    · obtain ⟨⟨fields, rest⟩, hfields, heq⟩ := Option.map_eq_some_iff.mp hread
      obtain ⟨rfl, -⟩ := Prod.mk.inj heq
      exact Value.isPrintable_ofFields (hfuel.members hfields)
  · exact isPrintable_of_readAtom hread

theorem ReadsPrintable.items_succ {fuel : Nat} (hfuel : ReadsPrintable fuel) {s after : Source}
    {items : List Value} (hread : readItems (fuel + 1) s = some (items, after)) :
    ∀ v ∈ items, v.IsPrintable := by
  rw [readItems] at hread
  obtain ⟨⟨v, rest⟩, hfirst, hread⟩ := Option.bind_eq_some_iff.mp hread
  have hv := hfuel.value hfirst
  dsimp only at hread
  split at hread
  · obtain ⟨rfl, -⟩ := Prod.mk.inj (Option.some.inj hread)
    exact List.forall_mem_singleton.mpr hv
  · obtain ⟨⟨more, rest⟩, hmore, hread⟩ := Option.bind_eq_some_iff.mp hread
    obtain ⟨rfl, -⟩ := Prod.mk.inj (Option.some.inj hread)
    exact List.forall_mem_cons.mpr ⟨hv, hfuel.items hmore⟩
  · cases hread

theorem ReadsPrintable.members_succ {fuel : Nat} (hfuel : ReadsPrintable fuel) {s after : Source}
    {fields : List (FieldName × Value)}
    (hread : readFields (fuel + 1) s = some (fields, after)) :
    ∀ field ∈ fields, field.2.IsPrintable := by
  rw [readFields.eq_def] at hread
  dsimp only at hread
  split at hread
  · obtain ⟨⟨name, rest⟩, -, hread⟩ := Option.bind_eq_some_iff.mp hread
    dsimp only at hread
    split at hread
    · obtain ⟨⟨v, rest⟩, hfirst, hread⟩ := Option.bind_eq_some_iff.mp hread
      have hv := hfuel.value hfirst
      dsimp only at hread
      split at hread
      · obtain ⟨rfl, -⟩ := Prod.mk.inj (Option.some.inj hread)
        exact List.forall_mem_singleton.mpr hv
      · obtain ⟨⟨more, rest⟩, hmore, hread⟩ := Option.bind_eq_some_iff.mp hread
        obtain ⟨rfl, -⟩ := Prod.mk.inj (Option.some.inj hread)
        exact List.forall_mem_cons.mpr ⟨hv, hfuel.members hmore⟩
      · cases hread
    · cases hread
  · cases hread

theorem readsPrintable (fuel : Nat) : ReadsPrintable fuel := by
  induction fuel with
  | zero => exact ⟨by simp [readValue], by simp [readItems], by simp [readFields]⟩
  | succ fuel ih => exact ⟨ih.value_succ, ih.items_succ, ih.members_succ⟩

/-- **Whatever is read can be shown.** -/
theorem isPrintable_of_read {s : Source} {v : Value} (hread : read s = some v) :
    v.IsPrintable := by
  unfold read at hread
  obtain ⟨⟨w, after⟩, hvalue, hread⟩ := Option.bind_eq_some_iff.mp hread
  dsimp only at hread
  split at hread
  · obtain rfl := Option.some.inj hread
    exact (readsPrintable _).value hvalue
  · cases hread

end Json

end HostLink
