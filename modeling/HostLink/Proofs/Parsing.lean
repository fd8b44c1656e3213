import HostLink.Proofs.Grammar

/-!
# What is read is a text

Whatever is read as a value is a text of it, in which every whole number is short enough. So the
texts that are read are exactly the texts of values, but for those with a number that is too long.
-/

namespace HostLink.Json

open Text

/-! ### The front of a text -/

theorem StartsWith.mono {P Q : List Char → Prop} {rest : Source} {s : List Char}
    (hs : StartsWith P rest s) (hPQ : ∀ front, P front → Q front) : StartsWith Q rest s := by
  obtain ⟨front, back, hfront, hrest, hP⟩ := hs
  exact ⟨front, back, hfront, hrest, hPQ front hP⟩

theorem exists_gap (s : List Char) :
    ∃ gap tail, s = gap ++ tail ∧ IsGap gap ∧ skipSpace (points s) = points tail := by
  have hspace : ∀ c, (isSpace ∘ Point.char) c = true →
      c = ' ' ∨ c = '\t' ∨ c = '\n' ∨ c = '\r' := by
    intro c hc
    simpa [isSpace, or_assoc] using hc
  refine ⟨s.takeWhile (isSpace ∘ .char), s.dropWhile (isSpace ∘ .char),
    List.takeWhile_append_dropWhile.symm, fun c hmem => hspace c ?_, List.dropWhile_map ..⟩
  exact List.mem_takeWhile_imp hmem

/-- A character that comes next after blanks. -/
theorem exists_gap_of_skipSpace {s : List Char} {c : Char} {after : Source}
    (hs : skipSpace (points s) = .char c :: after) :
    ∃ gap tail, s = gap ++ c :: tail ∧ IsGap gap ∧ after = points tail := by
  obtain ⟨gap, tail, rfl, hgap, hskip⟩ := exists_gap s
  obtain ⟨c', tail, rfl, hc, rfl⟩ := points_eq_cons (hskip.symm.trans hs)
  obtain rfl := Point.char.inj hc
  exact ⟨gap, tail, rfl, hgap, rfl⟩

/-! ### One step of reading -/

/-- What the readers read with this fuel are texts. -/
structure ReadsTexts (fuel : Nat) : Prop where
  value : ∀ {s v rest}, readValue fuel (points s) = some (v, rest) →
    StartsWith (IsText true (.value v)) rest s
  items : ∀ {s vs rest}, readItems fuel (points s) = some (vs, rest) →
    StartsUpTo ']' (IsText true (.items vs)) rest s
  members : ∀ {s fields rest}, readFields fuel (points s) = some (fields, rest) →
    StartsUpTo '\x7d' (IsText true (.members fields)) rest s

theorem startsUpTo_of_readString {s : List Char} {ps : List Point} {rest : Source}
    (hread : readString (points s) = some (ps, rest)) :
    StartsUpTo '"' (fun front => ∃ pieces, ps = joinPieces pieces ∧ SpellsPieces pieces front)
      rest s := by
  obtain ⟨⟨pieces, after⟩, hpieces, heq⟩ := Option.map_eq_some_iff.mp hread
  obtain ⟨rfl, rfl⟩ := Prod.mk.inj heq
  obtain ⟨front, back, hs, hrest, hspells⟩ := startsUpTo_of_readPieces hpieces rfl
  exact ⟨front, back, hs, hrest, pieces, rfl, hspells⟩

variable {fuel : Nat}

/-- What is read as an object is a text of it. -/
theorem ReadsTexts.object (hfuel : ReadsTexts fuel) {s : List Char}
    {fields : List (FieldName × Value)} {rest : Source}
    (hread : readObject fuel (points s) = some (fields, rest)) :
    StartsWith (fun front => IsText true (.object fields) ('\x7b' :: front)) rest s := by
  unfold readObject at hread
  by_cases hclose : (skipSpace (points s)).head? = some (.char '\x7d')
  · obtain ⟨after, hskip⟩ := List.head?_eq_some_iff.mp hclose
    obtain ⟨gap, tail, rfl, hgap, rfl⟩ := exists_gap_of_skipSpace hskip
    rw [if_pos hclose, hskip] at hread
    obtain ⟨rfl, rfl⟩ := Prod.mk.inj (Option.some.inj hread)
    exact ⟨gap ++ ['\x7d'], tail, by simp, rfl, .emptyObject hgap⟩
  · rw [if_neg hclose] at hread
    obtain ⟨gap, tail, rfl, hgap, hskip⟩ := exists_gap s
    rw [hskip] at hread
    obtain ⟨front, back, rfl, rfl, hmembers⟩ := hfuel.members hread
    exact ⟨gap ++ (front ++ ['\x7d']), back, by simp, rfl, .object hgap hmembers⟩

theorem ReadsTexts.value_succ (hfuel : ReadsTexts fuel) {s : List Char} {v : Value} {rest : Source}
    (hread : readValue (fuel + 1) (points s) = some (v, rest)) :
    StartsWith (IsText true (.value v)) rest s := by
  by_cases hobject : ∃ tail, s = '\x7b' :: tail
  · obtain ⟨tail, rfl⟩ := hobject
    rw [points_cons, readValue_object] at hread
    obtain ⟨⟨fields, after⟩, hfields, heq⟩ := Option.map_eq_some_iff.mp hread
    obtain ⟨rfl, rfl⟩ := Prod.mk.inj heq
    obtain ⟨front, back, rfl, rfl, htext⟩ := hfuel.object hfields
    exact ⟨'\x7b' :: front, back, rfl, rfl, .record htext⟩
  · rw [readValue.eq_def] at hread
    dsimp only at hread
    split at hread
    · rename_i inner hs
      obtain ⟨c, tail, rfl, hc, rfl⟩ := points_eq_cons hs
      obtain rfl := Point.char.inj hc
      obtain ⟨⟨ps, after⟩, hstring, heq⟩ := Option.map_eq_some_iff.mp hread
      obtain ⟨rfl, rfl⟩ := Prod.mk.inj heq
      obtain ⟨front, back, rfl, rfl, pieces, rfl, hpieces⟩ := startsUpTo_of_readString hstring
      exact ⟨'"' :: (front ++ ['"']), back, by simp, rfl, .string hpieces⟩
    · rename_i inner hs
      obtain ⟨c, tail, rfl, hc, rfl⟩ := points_eq_cons hs
      obtain rfl := Point.char.inj hc
      split at hread
      · rename_i after hskip
        obtain ⟨gap, tail, rfl, hgap, rfl⟩ := exists_gap_of_skipSpace hskip
        obtain ⟨rfl, rfl⟩ := Prod.mk.inj (Option.some.inj hread)
        exact ⟨'[' :: (gap ++ [']']), tail, by simp, rfl, .emptyList hgap⟩
      · obtain ⟨⟨vs, after⟩, hitems, heq⟩ := Option.map_eq_some_iff.mp hread
        obtain ⟨rfl, rfl⟩ := Prod.mk.inj heq
        obtain ⟨gap, tail, rfl, hgap, hskip⟩ := exists_gap tail
        rw [hskip] at hitems
        obtain ⟨front, back, rfl, rfl, htext⟩ := hfuel.items hitems
        exact ⟨'[' :: (gap ++ (front ++ [']'])), back, by simp, rfl, .list hgap htext⟩
    · rename_i inner hs
      obtain ⟨c, tail, rfl, hc, -⟩ := points_eq_cons hs
      obtain rfl := Point.char.inj hc
      exact absurd ⟨tail, rfl⟩ hobject
    · exact (startsWith_atom_of_readAtom hread).mono fun front => .atom

theorem ReadsTexts.items_succ (hfuel : ReadsTexts fuel) {s : List Char} {vs : List Value}
    {rest : Source} (hread : readItems (fuel + 1) (points s) = some (vs, rest)) :
    StartsUpTo ']' (IsText true (.items vs)) rest s := by
  rw [readItems] at hread
  obtain ⟨⟨v, after⟩, hfirst, hread⟩ := Option.bind_eq_some_iff.mp hread
  obtain ⟨front, tail, rfl, rfl, hv⟩ := hfuel.value hfirst
  dsimp only at hread
  split at hread
  · rename_i after hskip
    obtain ⟨gap, tail, rfl, hgap, rfl⟩ := exists_gap_of_skipSpace hskip
    obtain ⟨rfl, rfl⟩ := Prod.mk.inj (Option.some.inj hread)
    exact ⟨front ++ gap, tail, by simp, rfl, .lastItem hv hgap⟩
  · rename_i after hskip
    obtain ⟨before, tail, rfl, hbefore, rfl⟩ := exists_gap_of_skipSpace hskip
    obtain ⟨⟨others, after⟩, hothers, heq⟩ := Option.bind_eq_some_iff.mp hread
    obtain ⟨rfl, rfl⟩ := Prod.mk.inj (Option.some.inj heq)
    obtain ⟨gap, tail, rfl, hgap, hskip⟩ := exists_gap tail
    rw [hskip] at hothers
    obtain ⟨inner, back, rfl, rfl, hitems⟩ := hfuel.items hothers
    exact ⟨front ++ (before ++ ',' :: (gap ++ inner)), back, by simp, rfl,
      .nextItem hv hbefore hgap hitems⟩
  · cases hread

theorem ReadsTexts.members_succ (hfuel : ReadsTexts fuel) {s : List Char}
    {fields : List (FieldName × Value)} {rest : Source}
    (hread : readFields (fuel + 1) (points s) = some (fields, rest)) :
    StartsUpTo '\x7d' (IsText true (.members fields)) rest s := by
  rw [readFields.eq_def] at hread
  dsimp only at hread
  split at hread
  · rename_i inner hs
    obtain ⟨c, tail, rfl, hc, rfl⟩ := points_eq_cons hs
    obtain rfl := Point.char.inj hc
    obtain ⟨⟨ps, after⟩, hname, hread⟩ := Option.bind_eq_some_iff.mp hread
    obtain ⟨name, tail, rfl, rfl, pieces, rfl, hpieces⟩ := startsUpTo_of_readString hname
    dsimp only at hread
    split at hread
    · rename_i after hskip
      obtain ⟨gap, tail, rfl, hgap, rfl⟩ := exists_gap_of_skipSpace hskip
      obtain ⟨gap', tail, rfl, hgap', hskip'⟩ := exists_gap tail
      rw [hskip'] at hread
      obtain ⟨⟨v, after⟩, hfirst, hread⟩ := Option.bind_eq_some_iff.mp hread
      obtain ⟨front, tail, rfl, rfl, hv⟩ := hfuel.value hfirst
      dsimp only at hread
      split at hread
      · rename_i after hskip
        obtain ⟨gap'', tail, rfl, hgap'', rfl⟩ := exists_gap_of_skipSpace hskip
        obtain ⟨rfl, rfl⟩ := Prod.mk.inj (Option.some.inj hread)
        exact ⟨'"' :: (name ++ '"' :: (gap ++ ':' :: (gap' ++ (front ++ gap'')))), tail, by simp,
          rfl, .lastMember hpieces hgap hgap' hv hgap''⟩
      · rename_i after hskip
        obtain ⟨before, tail, rfl, hbefore, rfl⟩ := exists_gap_of_skipSpace hskip
        obtain ⟨⟨others, after⟩, hothers, heq⟩ := Option.bind_eq_some_iff.mp hread
        obtain ⟨rfl, rfl⟩ := Prod.mk.inj (Option.some.inj heq)
        obtain ⟨gap'', tail, rfl, hgap'', hskip''⟩ := exists_gap tail
        rw [hskip''] at hothers
        obtain ⟨inner, back, rfl, rfl, hmembers⟩ := hfuel.members hothers
        exact ⟨'"' :: (name ++ '"' :: (gap ++ ':' :: (gap' ++ (front ++
          (before ++ ',' :: (gap'' ++ inner)))))), back, by simp, rfl,
          .nextMember hpieces hgap hgap' hv hbefore hgap'' hmembers⟩
      · cases hread
    · cases hread
  · cases hread

/-- **What is read is a text**, by induction on the fuel. -/
theorem readsTexts (fuel : Nat) : ReadsTexts fuel := by
  induction fuel with
  | zero =>
      exact ⟨fun hread => by simp [readValue] at hread, fun hread => by simp [readItems] at hread,
        fun hread => by simp [readFields] at hread⟩
  | succ fuel ih => exact ⟨ih.value_succ, ih.items_succ, ih.members_succ⟩

/-! ### Whole texts -/

/-- A text of a part, with blanks around it. -/
def IsTextOf (short : Bool) (part : Part) (s : List Char) : Prop :=
  ∃ before inner after, IsGap before ∧ IsGap after ∧ IsText short part inner ∧
    s = before ++ (inner ++ after)

theorem IsText.isTextOf {short : Bool} {part : Part} {s : List Char} (hs : IsText short part s) :
    IsTextOf short part s :=
  ⟨[], s, [], isGap_nil, isGap_nil, hs, (List.append_nil s).symm⟩

theorem IsTextOf.starts {short : Bool} {part : Part} {s : List Char} (hs : IsTextOf short part s) :
    ∃ c others, s = c :: others ∧ c ≠ '\uFEFF' := by
  obtain ⟨before, inner, after, hbefore, -, hinner, rfl⟩ := hs
  cases before with
  | nil =>
      obtain ⟨c, others, rfl, hc⟩ := hinner.starts
      refine ⟨c, _, rfl, ?_⟩
      rintro rfl
      cases hc
  | cons c before =>
      refine ⟨c, _, rfl, ?_⟩
      rcases hbefore c List.mem_cons_self with rfl | rfl | rfl | rfl <;> decide

/-- A text of an object begins with a brace, but for blanks. -/
theorem IsTextOf.begins {short : Bool} {members : List (FieldName × Value)} {c : Char}
    {others : List Char} (hs : IsTextOf short (.object members) (c :: others)) :
    c = '\x7b' ∨ c = ' ' ∨ c = '\t' ∨ c = '\n' ∨ c = '\r' := by
  obtain ⟨before, inner, after, hbefore, -, hinner, heq⟩ := hs
  cases before with
  | nil =>
      cases hinner with
      | emptyObject _ => exact .inl (List.cons.inj heq).1
      | object _ _ => exact .inl (List.cons.inj heq).1
  | cons blank before =>
      obtain rfl := (List.cons.inj heq).1
      exact .inr (hbefore c List.mem_cons_self)

/-- **A value is read from every text of it**, unless a whole number in the text is too long. -/
theorem read_of_isTextOf {short : Bool} {v : Value} {s : List Char}
    (hs : IsTextOf short (.value v) s) : read (points s) = if short then some v else none := by
  obtain ⟨before, inner, after, hbefore, hafter, hinner, rfl⟩ := hs
  have hskip : skipSpace (points (before ++ (inner ++ after))) = points inner ++ points after := by
    rw [points_append, points_append, skipSpace_gap hbefore, hinner.skipSpace]
  have hlength : inner.length ≤ 2 * (points (before ++ (inner ++ after))).length := by
    simp only [points, List.length_map, List.length_append]
    omega
  have hend : skipSpace (points after) = [] :=
    List.dropWhile_eq_nil_iff.mpr (isSpace_of_isGap hafter)
  rw [read, steps, hskip, hinner.isRead _ _ hlength (ends_gap hafter)]
  cases short with
  | false => rfl
  | true => simp [hend]

/-- **The texts that are read as a value are its texts** in which no whole number is too long. -/
theorem read_eq_some_iff {v : Value} {s : List Char} :
    read (points s) = some v ↔ IsTextOf true (.value v) s := by
  refine ⟨fun hread => ?_, fun hs => read_of_isTextOf hs⟩
  obtain ⟨before, tail, rfl, hbefore, hskip⟩ := exists_gap s
  obtain ⟨⟨w, rest⟩, hvalue, hread⟩ := Option.bind_eq_some_iff.mp hread
  rw [hskip] at hvalue
  obtain ⟨front, back, rfl, rfl, htext⟩ := (readsTexts _).value hvalue
  dsimp only at hread
  split at hread
  · rename_i hempty
    obtain rfl := Option.some.inj hread
    obtain ⟨after, tail, rfl, hafter, hrest⟩ := exists_gap back
    have hnone : tail = [] := by
      rw [hrest] at hempty
      simpa [points] using hempty
    subst hnone
    rw [List.append_nil]
    exact ⟨before, front, after, hbefore, hafter, htext, rfl⟩
  · cases hread

/-- A text of a record is one of an object with members. -/
theorem IsText.object_of_record {short : Bool} {fields : List (FieldName × Value)} {s : List Char}
    (hs : IsText short (.value (.record fields)) s) :
    ∃ members, IsText short (.object members) s ∧ Value.ofFields members = .record fields := by
  generalize hpart : Part.value (.record fields) = part at hs
  cases hs with
  | record hobject => exact ⟨_, hobject, (Part.value.inj hpart).symm⟩
  | atom hs =>
      obtain rfl := Part.value.inj hpart
      cases hs with
      | number hs => cases hs
      | minus hs => cases hs
  | @string pieces s hs =>
      have hvalue := Part.value.inj hpart
      unfold Value.ofPoints at hvalue
      split at hvalue <;> cases hvalue
  | _ => cases hpart

theorem IsTextOf.record {short : Bool} {members : List (FieldName × Value)} {s : List Char}
    (hs : IsTextOf short (.object members) s) : IsTextOf short (.value (.ofFields members)) s := by
  obtain ⟨before, inner, after, hbefore, hafter, hinner, rfl⟩ := hs
  exact ⟨before, inner, after, hbefore, hafter, .record hinner, rfl⟩

/-- A text of an object whose numbers are short enough is one of no other object. -/
theorem IsTextOf.unique {short : Bool} {members others : List (FieldName × Value)} {s : List Char}
    (hs : IsTextOf true (.object members) s) (hother : IsTextOf short (.object others) s) :
    short = true ∧ Value.ofFields others = Value.ofFields members := by
  have hread := (read_of_isTextOf hs.record).symm.trans (read_of_isTextOf hother.record)
  cases short with
  | false => cases hread
  | true => exact ⟨rfl, (Option.some.inj hread).symm⟩

theorem IsTextOf.not_long {members others : List (FieldName × Value)} {s : List Char}
    (hs : IsTextOf true (.object members) s) : ¬IsTextOf false (.object others) s := by
  intro hlong
  cases (hs.unique hlong).1

theorem IsTextOf.object_of_record {short : Bool} {fields : List (FieldName × Value)}
    {s : List Char} (hs : IsTextOf short (.value (.record fields)) s) :
    ∃ members, IsTextOf short (.object members) s ∧ Value.ofFields members = .record fields := by
  obtain ⟨before, inner, after, hbefore, hafter, hinner, rfl⟩ := hs
  obtain ⟨members, hmembers, hfields⟩ := hinner.object_of_record
  exact ⟨members, ⟨before, inner, after, hbefore, hafter, hmembers, rfl⟩, hfields⟩

end HostLink.Json
