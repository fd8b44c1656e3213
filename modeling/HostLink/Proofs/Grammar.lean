import HostLink.Proofs.NumberText

/-!
# Texts of values

The texts of a value in any layout: with blanks wherever they may stand, characters in any spelling,
and numbers of any length. Every text is read as its value, whatever follows it, unless a whole
number in it is too long.
-/

namespace HostLink.Json

open Text

/-! ### Texts -/

/-- Blanks that may stand between the parts of a text. -/
def IsGap (s : List Char) : Prop :=
  ∀ c ∈ s, c = ' ' ∨ c = '\t' ∨ c = '\n' ∨ c = '\r'

/-- What a text may stand for: a value, an object with its members, or what stands between the
brackets of one. -/
inductive Part where
  | value (v : Value)
  | items (vs : List Value)
  | object (fields : List (FieldName × Value))
  | members (fields : List (FieldName × Value))

/-- The texts of a part. No blank stands before it, and the items and members that a part holds are
followed by the blanks after them. The truth value says whether every whole number is short enough
to be read. -/
inductive IsText : Bool → Part → List Char → Prop
  | atom {short v s} (hs : IsAtom short v s) : IsText short (.value v) s
  | string {pieces s} (hs : SpellsPieces pieces s) :
      IsText true (.value (.ofPoints (joinPieces pieces))) ('"' :: (s ++ ['"']))
  | emptyList {gap} (hgap : IsGap gap) : IsText true (.value (.list [])) ('[' :: (gap ++ [']']))
  | list {short vs gap s} (hgap : IsGap gap) (hitems : IsText short (.items vs) s) :
      IsText short (.value (.list vs)) ('[' :: (gap ++ (s ++ [']'])))
  | record {short members s} (hobject : IsText short (.object members) s) :
      IsText short (.value (.ofFields members)) s
  | emptyObject {gap} (hgap : IsGap gap) :
      IsText true (.object []) ('\x7b' :: (gap ++ ['\x7d']))
  | object {short members gap s} (hgap : IsGap gap) (hmembers : IsText short (.members members) s) :
      IsText short (.object members) ('\x7b' :: (gap ++ (s ++ ['\x7d'])))
  | lastItem {short v gap s} (hv : IsText short (.value v) s) (hgap : IsGap gap) :
      IsText short (.items [v]) (s ++ gap)
  | nextItem {short short' v vs before after s others} (hv : IsText short (.value v) s)
      (hbefore : IsGap before) (hafter : IsGap after) (hitems : IsText short' (.items vs) others) :
      IsText (short && short') (.items (v :: vs)) (s ++ (before ++ ',' :: (after ++ others)))
  | lastMember {short pieces v gap gap' gap'' name s} (hname : SpellsPieces pieces name)
      (hgap : IsGap gap) (hgap' : IsGap gap') (hv : IsText short (.value v) s)
      (hgap'' : IsGap gap'') :
      IsText short (.members [(.ofPoints (joinPieces pieces), v)])
        ('"' :: (name ++ '"' :: (gap ++ ':' :: (gap' ++ (s ++ gap'')))))
  | nextMember {short short' pieces v members gap gap' before after name s others}
      (hname : SpellsPieces pieces name) (hgap : IsGap gap) (hgap' : IsGap gap')
      (hv : IsText short (.value v) s) (hbefore : IsGap before) (hafter : IsGap after)
      (hmembers : IsText short' (.members members) others) :
      IsText (short && short') (.members ((.ofPoints (joinPieces pieces), v) :: members))
        ('"' :: (name ++ '"' :: (gap ++ ':' ::
          (gap' ++ (s ++ (before ++ ',' :: (after ++ others)))))))

/-! ### Blanks -/

theorem isGap_nil : IsGap [] := fun c hmem => by cases hmem

theorem isSpace_of_isGap {gap : List Char} (hgap : IsGap gap) :
    ∀ p ∈ points gap, isSpace p = true := by
  intro p hmem
  obtain ⟨c, hc, rfl⟩ := List.mem_map.mp hmem
  rcases hgap c hc with rfl | rfl | rfl | rfl <;> rfl

theorem skipSpace_gap {gap : List Char} (hgap : IsGap gap) (s : Source) :
    skipSpace (points gap ++ s) = skipSpace s :=
  List.dropWhile_append_of_pos (isSpace_of_isGap hgap)

theorem skipSpace_mark {gap : List Char} (hgap : IsGap gap) {c : Char}
    (hc : isSpace (.char c) = false) (rest : Source) :
    skipSpace (points gap ++ .char c :: rest) = .char c :: rest := by
  rw [skipSpace_gap hgap]
  exact List.dropWhile_cons_of_neg (by simp [hc])

theorem ends_cons {c : Char} (hc : c ∈ [' ', '\t', '\n', '\r', ',', ']', '\x7d'])
    (rest : Source) : Ends (.char c :: rest) := by
  intro p hmem
  obtain rfl := Option.some.inj hmem
  exact List.mem_map_of_mem hc

theorem ends_blank {c : Char} {gap : List Char} (hgap : IsGap (c :: gap)) (rest : Source) :
    Ends (.char c :: rest) := by
  refine ends_cons ?_ rest
  rcases hgap c List.mem_cons_self with rfl | rfl | rfl | rfl <;> decide

theorem ends_gap {gap : List Char} (hgap : IsGap gap) : Ends (points gap) := by
  cases gap with
  | nil => exact fun p hmem => by cases hmem
  | cons blank gap => exact ends_blank hgap _

theorem ends_mark {gap : List Char} (hgap : IsGap gap) {c : Char} (hc : c ∈ [',', ']', '\x7d'])
    (rest : Source) : Ends (points gap ++ .char c :: rest) := by
  cases gap with
  | nil => exact ends_cons (List.mem_append_right [' ', '\t', '\n', '\r'] hc) rest
  | cons blank gap => exact ends_blank hgap _

/-! ### How texts start -/

/-- The characters with which no text starts: blanks, brackets that close, and the mark of the byte
order. -/
def isRefused (c : Char) : Bool :=
  isSpace (.char c) || c == ']' || c == '\x7d' || c == '\uFEFF'

theorem isRefused_of_isAsciiDigit {c : Char} (hc : isAsciiDigit c = true) :
    isRefused c = false := by
  have hall : ∀ d < 10, isRefused (Nat.digitChar d) = false := by decide
  obtain ⟨d, hd, rfl⟩ := digitChar_of_isAsciiDigit hc
  exact hall d hd

theorem IsAtom.starts {short : Bool} {v : Value} {s : List Char} (hs : IsAtom short v s) :
    ∃ c others, s = c :: others ∧ isRefused c = false := by
  cases hs with
  | bool b => cases b <;> exact ⟨_, _, rfl, by decide⟩
  | number hs =>
      obtain ⟨c, others, rfl, hc⟩ := hs.eq_cons
      exact ⟨c, others, rfl, isRefused_of_isAsciiDigit hc⟩
  | null | nan | infinity | minusInfinity | minus => exact ⟨_, _, rfl, by decide⟩

theorem IsText.starts {short : Bool} {part : Part} {s : List Char} (hs : IsText short part s) :
    ∃ c others, s = c :: others ∧ isRefused c = false := by
  induction hs with
  | atom hs => exact hs.starts
  | record _ ih => exact ih
  | lastItem _ _ ih | nextItem _ _ _ _ ih =>
      obtain ⟨c, others, rfl, hc⟩ := ih
      exact ⟨_, _, rfl, hc⟩
  | _ => exact ⟨_, _, rfl, by decide⟩

theorem IsText.skipSpace {short : Bool} {part : Part} {s : List Char} (hs : IsText short part s)
    (rest : Source) : skipSpace (points s ++ rest) = points s ++ rest := by
  obtain ⟨c, others, rfl, hc⟩ := hs.starts
  have hspace : isSpace (.char c) = false := by
    simp only [isRefused, Bool.or_eq_false_iff] at hc
    exact hc.1.1.1
  exact List.dropWhile_cons_of_neg (by simp [hspace])

/-! ### Objects -/

/-- The members of an object whose bracket was read, as they are written, and what follows. -/
def readObject (fuel : Nat) (rest : Source) : Option (List (FieldName × Value) × Source) :=
  if (skipSpace rest).head? = some (.char '\x7d') then some ([], (skipSpace rest).tail)
  else readFields fuel (skipSpace rest)

theorem readValue_object (fuel : Nat) (rest : Source) :
    readValue (fuel + 1) (.char '\x7b' :: rest) =
      (readObject fuel rest).map fun read => (.ofFields read.1, read.2) := by
  rw [readValue]
  split
  · rename_i hclose
    rw [readObject, hclose, List.head?_cons, if_pos rfl]
    rfl
  · rename_i hopen
    have hother : (skipSpace rest).head? ≠ some (.char '\x7d') := by
      intro hhead
      obtain ⟨after, hclose⟩ := List.head?_eq_some_iff.mp hhead
      exact hopen after hclose
    rw [readObject, if_neg hother]

/-! ### Texts that are read -/

/-- What it means for a part that its text is read: the fuel counts the depth, and no part is deeper
than its text is long. -/
def Part.IsReadFrom (short : Bool) (s : List Char) : Part → Prop
  | .value v => ∀ fuel rest, s.length ≤ fuel → Ends rest →
      readValue (fuel + 1) (points s ++ rest) = if short then some (v, rest) else none
  | .items vs => ∀ fuel rest, s.length ≤ fuel →
      readItems (fuel + 2) (points s ++ .char ']' :: rest) = if short then some (vs, rest) else none
  | .object fields => ∀ fuel rest, s.length ≤ fuel → ∃ inner,
      points s ++ rest = .char '\x7b' :: inner ∧
        readObject fuel inner = if short then some (fields, rest) else none
  | .members fields => ∀ fuel rest, s.length ≤ fuel →
      readFields (fuel + 2) (points s ++ .char '\x7d' :: rest) =
        if short then some (fields, rest) else none

/-- The items of a list do not start with the bracket that closes it. -/
theorem readValue_list {short : Bool} {fuel : Nat} {gap s : List Char} {vs : List Value}
    {rest : Source} (hgap : IsGap gap) (hitems : IsText short (.items vs) s)
    (hread : readItems fuel (points s ++ .char ']' :: rest) =
      if short then some (vs, rest) else none) :
    readValue (fuel + 1) (points ('[' :: (gap ++ (s ++ [']']))) ++ rest) =
      if short then some (.list vs, rest) else none := by
  have hopen : points ('[' :: (gap ++ (s ++ [']']))) ++ rest =
      .char '[' :: (points gap ++ (points s ++ .char ']' :: rest)) := by
    simp
  rw [hopen, readValue, skipSpace_gap hgap, hitems.skipSpace]
  obtain ⟨c, others, rfl, hc⟩ := hitems.starts
  split
  · rename_i heq
    obtain rfl := Point.char.inj (List.cons.inj heq).1
    cases hc
  · rw [hread]
    cases short <;> rfl

theorem readObject_members {short : Bool} {fuel : Nat} {gap s : List Char}
    {members : List (FieldName × Value)} {rest : Source} (hgap : IsGap gap)
    (hmembers : IsText short (.members members) s) :
    readObject fuel (points gap ++ (points s ++ .char '\x7d' :: rest)) =
      readFields fuel (points s ++ .char '\x7d' :: rest) := by
  have hother : (points s ++ .char '\x7d' :: rest).head? ≠ some (.char '\x7d') := by
    obtain ⟨c, others, rfl, hc⟩ := hmembers.starts
    intro hhead
    obtain rfl := Point.char.inj (Option.some.inj hhead)
    cases hc
  rw [readObject, skipSpace_gap hgap, hmembers.skipSpace, if_neg hother]

theorem readItems_lastItem {short : Bool} {fuel : Nat} {gap s : List Char} {v : Value}
    {rest : Source} (hgap : IsGap gap)
    (hread : readValue fuel (points s ++ (points gap ++ .char ']' :: rest)) =
      if short then some (v, points gap ++ .char ']' :: rest) else none) :
    readItems (fuel + 1) (points (s ++ gap) ++ .char ']' :: rest) =
      if short then some ([v], rest) else none := by
  have hclose := skipSpace_mark hgap (by decide : isSpace (.char ']') = false) rest
  rw [points_append, List.append_assoc, readItems, hread]
  cases short with
  | false => rfl
  | true =>
      simp only [if_true, Option.bind_eq_bind, Option.bind_some, hclose]
      rfl

theorem readItems_nextItem {short short' : Bool} {fuel : Nat} {before after s others : List Char}
    {v : Value} {vs : List Value} {rest : Source} (hbefore : IsGap before) (hafter : IsGap after)
    (hothers : IsText short' (.items vs) others)
    (hread : ∀ next, readValue fuel (points s ++ (points before ++ .char ',' :: next)) =
      if short then some (v, points before ++ .char ',' :: next) else none)
    (hnext : readItems fuel (points others ++ .char ']' :: rest) =
      if short' then some (vs, rest) else none) :
    readItems (fuel + 1)
        (points (s ++ (before ++ ',' :: (after ++ others))) ++ .char ']' :: rest) =
      if short && short' then some (v :: vs, rest) else none := by
  have hopen : points (s ++ (before ++ ',' :: (after ++ others))) ++ .char ']' :: rest =
      points s ++ (points before ++ .char ',' ::
        (points after ++ (points others ++ .char ']' :: rest))) := by
    simp
  have hcomma := skipSpace_mark hbefore (by decide : isSpace (.char ',') = false)
    (points after ++ (points others ++ .char ']' :: rest))
  rw [hopen, readItems, hread]
  cases short with
  | false => rfl
  | true =>
      simp only [if_true, Option.bind_eq_bind, Option.bind_some, hcomma, skipSpace_gap hafter,
        hothers.skipSpace, hnext]
      cases short' <;> rfl

/-- The name of a member, up to the value. -/
theorem readFields_name {short : Bool} {fuel : Nat} {pieces : List Piece}
    {gap gap' name s : List Char} {v : Value} (hname : SpellsPieces pieces name) (hgap : IsGap gap)
    (hgap' : IsGap gap') (hv : IsText short (.value v) s) (next : Source) :
    readFields (fuel + 1) (points ('"' :: (name ++ '"' :: (gap ++ ':' :: (gap' ++ s)))) ++ next) =
      (readValue fuel (points s ++ next)).bind fun (v, rest) =>
        match skipSpace rest with
        | .char '\x7d' :: after => some ([(.ofPoints (joinPieces pieces), v)], after)
        | .char ',' :: rest => (readFields fuel (skipSpace rest)).bind fun (fields, after) =>
          some ((.ofPoints (joinPieces pieces), v) :: fields, after)
        | _ => none := by
  have hopen : points ('"' :: (name ++ '"' :: (gap ++ ':' :: (gap' ++ s)))) ++ next =
      .char '"' :: (points name ++ .char '"' :: (points gap ++ .char ':' ::
        (points gap' ++ (points s ++ next)))) := by
    simp
  rw [hopen, readFields, readString, hname.read]
  simp only [Option.map_some, Option.bind_eq_bind, Option.bind_some,
    skipSpace_mark hgap (by decide : isSpace (.char ':') = false), skipSpace_gap hgap',
    hv.skipSpace]
  rfl

/-- **A text is read as what it stands for**, by induction on the text. -/
theorem IsText.isRead {short : Bool} {part : Part} {s : List Char} (hs : IsText short part s) :
    part.IsReadFrom short s := by
  induction hs with
  | atom hs => exact fun fuel rest _ hends => hs.read fuel hends
  | @string pieces s hs =>
      intro fuel rest _ _
      have hopen : points ('"' :: (s ++ ['"'])) ++ rest =
          .char '"' :: (points s ++ .char '"' :: rest) := by
        simp
      rw [hopen, readValue, readString, hs.read]
      rfl
  | @emptyList gap hgap =>
      intro fuel rest _ _
      have hopen : points ('[' :: (gap ++ [']'])) ++ rest =
          .char '[' :: (points gap ++ .char ']' :: rest) := by
        simp
      rw [hopen, readValue, skipSpace_mark hgap (by decide)]
      rfl
  | list hgap hitems ih =>
      intro fuel rest hfuel _
      simp only [List.length_cons, List.length_append] at hfuel
      obtain ⟨fuel, rfl⟩ := Nat.exists_eq_add_of_le' (by omega : 2 ≤ fuel)
      exact readValue_list hgap hitems (ih fuel rest (by omega))
  | @record short members s hobject ih =>
      intro fuel rest hfuel _
      obtain ⟨inner, hopen, hread⟩ := ih fuel rest hfuel
      rw [hopen, readValue_object, hread]
      cases short <;> rfl
  | @emptyObject gap hgap =>
      intro fuel rest _
      refine ⟨points gap ++ .char '\x7d' :: rest, by simp, ?_⟩
      rw [readObject, skipSpace_mark hgap (by decide), List.head?_cons, if_pos rfl]
      rfl
  | @object short members gap s hgap hmembers ih =>
      intro fuel rest hfuel
      simp only [List.length_cons, List.length_append] at hfuel
      obtain ⟨fuel, rfl⟩ := Nat.exists_eq_add_of_le' (by omega : 2 ≤ fuel)
      refine ⟨points gap ++ (points s ++ .char '\x7d' :: rest), by simp, ?_⟩
      rw [readObject_members hgap hmembers, ih fuel rest (by omega)]
  | lastItem hv hgap ih =>
      intro fuel rest hfuel
      rw [List.length_append] at hfuel
      exact readItems_lastItem hgap
        (ih fuel _ (by omega) (ends_mark hgap (by decide : ']' ∈ _) rest))
  | nextItem hv hbefore hafter hitems ih ihs =>
      intro fuel rest hfuel
      simp only [List.length_append, List.length_cons] at hfuel
      obtain ⟨fuel, rfl⟩ := Nat.exists_eq_add_of_le' (by omega : 1 ≤ fuel)
      exact readItems_nextItem hbefore hafter hitems
        (fun next => ih (fuel + 1) _ (by omega) (ends_mark hbefore (by decide : ',' ∈ _) next))
        (ihs fuel rest (by omega))
  | @lastMember short pieces v gap gap' gap'' name s hname hgap hgap' hv hgap'' ih =>
      intro fuel rest hfuel
      simp only [List.length_append, List.length_cons] at hfuel
      have hread := ih fuel _ (by omega) (ends_mark hgap'' (by decide : '\x7d' ∈ _) rest)
      have hclose := skipSpace_mark hgap'' (by decide : isSpace (.char '\x7d') = false) rest
      have hopen : points ('"' :: (name ++ '"' :: (gap ++ ':' ::
          (gap' ++ (s ++ gap''))))) ++ .char '\x7d' :: rest =
          points ('"' :: (name ++ '"' :: (gap ++ ':' :: (gap' ++ s)))) ++
            (points gap'' ++ .char '\x7d' :: rest) := by
        simp
      rw [hopen, readFields_name hname hgap hgap' hv, hread]
      cases short with
      | false => rfl
      | true =>
          simp only [if_true, Option.bind_some, hclose]
  | @nextMember short short' pieces v members gap gap' before after name s others hname hgap hgap'
      hv hbefore hafter hmembers ih ihs =>
      intro fuel rest hfuel
      simp only [List.length_append, List.length_cons] at hfuel
      obtain ⟨fuel, rfl⟩ := Nat.exists_eq_add_of_le' (by omega : 1 ≤ fuel)
      have hread := ih (fuel + 1) _ (by omega) (ends_mark hbefore (by decide : ',' ∈ _)
        (points after ++ (points others ++ .char '\x7d' :: rest)))
      have hcomma := skipSpace_mark hbefore (by decide : isSpace (.char ',') = false)
        (points after ++ (points others ++ .char '\x7d' :: rest))
      have hopen : points ('"' :: (name ++ '"' :: (gap ++ ':' ::
          (gap' ++ (s ++ (before ++ ',' :: (after ++ others))))))) ++ .char '\x7d' :: rest =
          points ('"' :: (name ++ '"' :: (gap ++ ':' :: (gap' ++ s)))) ++ (points before ++
            .char ',' :: (points after ++ (points others ++ .char '\x7d' :: rest))) := by
        simp
      rw [hopen, readFields_name hname hgap hgap' hv, hread]
      cases short with
      | false => rfl
      | true =>
          simp only [if_true, Option.bind_some, hcomma, skipSpace_gap hafter, hmembers.skipSpace,
            ihs fuel rest (by omega)]
          cases short' <;> rfl

/-! ### Strings -/

theorem Spells.isText {s written : List Char} (hs : Spells s written) :
    IsText true (.value (.text (String.ofList s))) ('"' :: (written ++ ['"'])) := by
  obtain ⟨pieces, hpieces, hjoin⟩ := hs.pieces
  have htext := IsText.string hpieces
  rwa [hjoin, Value.ofPoints_points] at htext

end HostLink.Json
