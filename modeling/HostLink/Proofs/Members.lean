import HostLink.Proofs.Parsing
import HostLink.Proofs.Response
import Mathlib.Data.List.Perm.Subperm

/-!
# Members of objects

An object may give a name more than one member. It is read as a record in which the last of them
counts, and an answer is an object exactly when it has members.
-/

namespace HostLink

open Text

namespace Value

theorem field?_cons (name : FieldName) (member : FieldName × Value)
    (members : List (FieldName × Value)) :
    field? name (member :: members) =
      if member.1 = name then some member.2 else field? name members := by
  obtain ⟨n, v⟩ := member
  by_cases hname : n = name
  · simp [field?, hname]
  · rw [if_neg hname, field?, List.lookup_cons, beq_false_of_ne (Ne.symm hname)]
    rfl

theorem field?_eq_none {name : FieldName} {members : List (FieldName × Value)}
    (hnone : name ∉ members.map (·.1)) : field? name members = none := by
  induction members with
  | nil => rfl
  | cons member rest ih =>
      rw [List.map_cons, List.mem_cons, not_or] at hnone
      rw [field?_cons, if_neg (Ne.symm hnone.1), ih hnone.2]

/-- The last value that a name has among members. -/
def last? (name : FieldName) (members : List (FieldName × Value)) : Option Value :=
  field? name members.reverse

theorem mem_of_last? {name : FieldName} {members : List (FieldName × Value)} {v : Value}
    (hlast : last? name members = some v) : (name, v) ∈ members :=
  List.mem_reverse.mp (mem_of_field? hlast)

theorem last?_cons (name : FieldName) (member : FieldName × Value)
    (members : List (FieldName × Value)) :
    last? name (member :: members) =
      (last? name members).or (if member.1 = name then some member.2 else none) := by
  have hsingle := field?_cons name member []
  unfold last? field? at *
  rw [List.reverse_cons, List.lookup_append, hsingle]
  rfl

theorem last?_of_nodup {members : List (FieldName × Value)} (hnodup : (members.map (·.1)).Nodup)
    (name : FieldName) : last? name members = field? name members := by
  induction members with
  | nil => rfl
  | cons member rest ih =>
      rw [List.map_cons, List.nodup_cons] at hnodup
      rw [last?_cons, ih hnodup.2, field?_cons]
      by_cases hname : member.1 = name
      · rw [field?_eq_none (hname ▸ hnodup.1)]
        rfl
      · rw [if_neg hname, if_neg hname, Option.or_none]

theorem field?_put (name other : FieldName) (v : Value) (fields : List (FieldName × Value)) :
    field? other (put name v fields) = if name = other then some v else field? other fields := by
  induction fields with
  | nil => exact field?_cons other (name, v) []
  | cons known rest ih =>
      rw [put, field?_cons]
      by_cases hknown : known.1 = name
      · rw [if_pos hknown, field?_cons]
        by_cases hname : name = other
        · rw [if_pos hname, if_pos (hknown.trans hname)]
        · rw [if_neg hname, if_neg (hknown ▸ hname), if_neg (hknown ▸ hname)]
      · rw [if_neg hknown, field?_cons, ih]
        by_cases hname : known.1 = other
        · rw [if_pos hname, if_neg fun heq => hknown (hname.trans heq.symm), if_pos hname]
        · rw [if_neg hname, if_neg hname]

/-- Every member counts where no later one has its name. -/
theorem field?_foldl_put (name : FieldName) (members known : List (FieldName × Value)) :
    field? name (members.foldl (fun known member => put member.1 member.2 known) known) =
      (last? name members).or (field? name known) := by
  induction members generalizing known with
  | nil => rfl
  | cons member rest ih =>
      rw [List.foldl_cons, ih, field?_put, last?_cons, Option.or_assoc]
      by_cases hname : member.1 = name
      · rw [if_pos hname, if_pos hname, Option.some_or]
      · rw [if_neg hname, if_neg hname, Option.none_or]

theorem nodup_of_allDistinct {names : List FieldName} (hdistinct : allDistinct names = true) :
    names.Nodup := by
  have hlength : (Std.HashSet.ofList names).toList.length = names.length := by
    rw [Std.HashSet.length_toList]
    exact beq_iff_eq.mp hdistinct
  have hnodup : (Std.HashSet.ofList names).toList.Nodup :=
    Std.HashSet.distinct_toList.imp fun hne heq => by simp [heq] at hne
  have hsubset : (Std.HashSet.ofList names).toList ⊆ names := by
    intro name hmem
    rw [Std.HashSet.mem_toList, Std.HashSet.mem_ofList] at hmem
    exact List.contains_iff_mem.mp hmem
  exact ((hnodup.subperm hsubset).perm_of_length_le hlength.ge).nodup_iff.mp hnodup

/-- **Of a name that members repeat the last value counts.** -/
theorem exists_ofFields (members : List (FieldName × Value)) :
    ∃ fields, ofFields members = .record fields ∧
      ∀ name, field? name fields = last? name members := by
  by_cases hdistinct : allDistinct (members.map (·.1)) = true
  · exact ⟨members, if_pos hdistinct, fun name =>
      (last?_of_nodup (nodup_of_allDistinct hdistinct) name).symm⟩
  · exact ⟨_, if_neg hdistinct, fun name =>
      (field?_foldl_put name members []).trans (Option.or_none)⟩

end Value

namespace Response

open Json

theorem rawText?_of_isTextOf {short : Bool} {part : Part} {raw : String}
    (hs : IsTextOf short part raw.toList) : rawText? (.text raw) = some (points raw.toList) := by
  obtain ⟨c, others, hraw, hmark⟩ := hs.starts
  unfold rawText?
  dsimp only
  rw [hraw]
  split
  · rename_i heq
    exact absurd (List.cons.inj heq).1 hmark
  · rfl

theorem eq_points_of_rawText? {raw : String} {ps : List Point}
    (hps : rawText? (.text raw) = some ps) : ps = points raw.toList := by
  unfold rawText? at hps
  dsimp only at hps
  split at hps
  · cases hps
  · exact (Option.some.inj hps).symm

/-- An answer has fields where it is a text of an object in which no whole number is too long. -/
theorem object?_eq_some_iff {raw : String} {fields : List (FieldName × Value)} :
    object? (.text raw) = some fields ↔
      ∃ members, IsTextOf true (.object members) raw.toList ∧
        Value.ofFields members = .record fields := by
  constructor
  · intro hobject
    unfold object? at hobject
    split at hobject
    · rename_i found hread
      obtain rfl := Option.some.inj hobject
      obtain ⟨ps, hps, hread⟩ := Option.bind_eq_some_iff.mp hread
      obtain rfl := eq_points_of_rawText? hps
      exact (read_eq_some_iff.mp hread).object_of_record
    · cases hobject
  · rintro ⟨members, htext, hfields⟩
    rw [object?, rawText?_of_isTextOf htext, Option.bind_some, read_eq_some_iff.mpr htext.record,
      hfields]

theorem exists_object? {raw : String} {members : List (FieldName × Value)}
    (htext : IsTextOf true (.object members) raw.toList) :
    ∃ fields, object? (.text raw) = some fields ∧ Value.ofFields members = .record fields ∧
      ∀ name, Value.field? name fields = Value.last? name members := by
  obtain ⟨fields, hfields, hlast⟩ := Value.exists_ofFields members
  exact ⟨fields, object?_eq_some_iff.mpr ⟨members, htext, hfields⟩, hfields, hlast⟩

theorem exists_members {raw : String} {fields : List (FieldName × Value)}
    (hobject : object? (.text raw) = some fields) :
    ∃ members, IsTextOf true (.object members) raw.toList ∧
      ∀ name, Value.field? name fields = Value.last? name members := by
  obtain ⟨members, htext, hfields⟩ := object?_eq_some_iff.mp hobject
  obtain ⟨fields', hfields', hlast⟩ := Value.exists_ofFields members
  obtain rfl := Value.record.inj (hfields.symm.trans hfields')
  exact ⟨members, htext, hlast⟩

theorem object?_eq_none_of_other {raw : String}
    (hother : ∀ short members, ¬IsTextOf short (.object members) raw.toList) :
    object? (.text raw) = none := by
  refine Option.eq_none_iff_forall_ne_some.mpr fun fields hobject => ?_
  obtain ⟨members, htext, -⟩ := exists_members hobject
  exact hother true members htext

theorem object?_eq_none_of_long {raw : String} {members : List (FieldName × Value)}
    (htext : IsTextOf false (.object members) raw.toList) : object? (.text raw) = none := by
  rw [object?, rawText?_of_isTextOf htext, Option.bind_some, read_of_isTextOf htext.record]
  rfl

end Response

end HostLink
