import HostLink.Template

/-!
# Templates are filled in one pass

A template whose text holds no `$` comes apart into exactly that text and its holes, and filling it
puts one part into each hole. The parts are not looked at: whatever they hold, the text around them
is the text of the template.
-/

namespace HostLink.Template

def isName : List Char → Bool
  | [] => false
  | c :: rest => isNameStart c && rest.all isNameChar

/-- Whether a name would go on into this text. -/
def continuesName (s : List Char) : Bool :=
  s.head?.any isNameChar

/-! ### Taking apart -/

theorem segments_cons_of_ne {c : Char} (hne : c ≠ '$') (p : Position) (rest : List Char) :
    segments p (c :: rest) = .literal c :: segments (p.advance c) rest := by
  rw [segments.eq_def]
  exact if_pos hne

theorem segments_append {text : List Char} (hplain : '$' ∉ text) (p : Position)
    (rest : List Char) :
    segments p (text ++ rest) =
      text.map Segment.literal ++ segments (text.foldl Position.advance p) rest := by
  induction text generalizing p with
  | nil => rfl
  | cons c text ih =>
      simp only [List.mem_cons, not_or] at hplain
      rw [List.cons_append, segments_cons_of_ne (Ne.symm hplain.1), ih hplain.2]
      rfl

theorem takeWhile_isNameChar_append {name rest : List Char} (hname : name.all isNameChar)
    (hends : continuesName rest = false) :
    (name ++ rest).takeWhile isNameChar = name ∧ (name ++ rest).dropWhile isNameChar = rest := by
  rw [List.all_eq_true] at hname
  rw [List.takeWhile_append_of_pos hname, List.dropWhile_append_of_pos hname]
  cases rest with
  | nil => simp
  | cons c rest =>
      have hc : isNameChar c = false := by simpa [continuesName] using hends
      simp [hc]

theorem readName?_append {name rest : List Char} (hname : isName name = true)
    (hends : continuesName rest = false) : readName? (name ++ rest) = some (name, rest) := by
  cases name with
  | nil => simp [isName] at hname
  | cons c name =>
      simp only [isName, Bool.and_eq_true] at hname
      obtain ⟨htake, hdrop⟩ := takeWhile_isNameChar_append hname.2 hends
      rw [List.cons_append, readName?, if_pos hname.1, htake, hdrop]

theorem segments_doubled_dollar (p : Position) (rest : List Char) :
    segments p ('$' :: '$' :: rest) = .literal '$' :: segments (p.skip 2) rest := by
  rw [segments.eq_def]
  simp

theorem segments_dollar (p : Position) : segments p ['$'] = [.fault p] := by
  rw [segments.eq_def]
  simp

section

variable {c : Char} {rest : List Char} (hc : c ≠ '$')

include hc

theorem segments_of_readHole? {name after : List Char}
    (hread : readHole? (c :: rest) = some (name, after)) (p : Position) :
    segments p ('$' :: c :: rest) =
      .hole name :: segments (p.skip (name.length + if c = '\x7b' then 3 else 1)) after := by
  rw [segments.eq_def]
  simp only [ne_eq, not_true_eq_false, if_false, hc]
  split
  · next hnone =>
      rw [hread] at hnone
      cases hnone
  · next hfound =>
      rw [hread] at hfound
      obtain ⟨rfl, rfl⟩ := Prod.mk.inj (Option.some.inj hfound)
      rfl

theorem segments_of_readHole?_eq_none (hread : readHole? (c :: rest) = none) (p : Position) :
    segments p ('$' :: c :: rest) = [.fault p] := by
  rw [segments.eq_def]
  simp only [ne_eq, not_true_eq_false, if_false, hc]
  split
  · rfl
  · next hfound =>
      rw [hread] at hfound
      cases hfound

end

theorem segments_hole {name rest : List Char} (hname : isName name = true)
    (hends : continuesName rest = false) (p : Position) :
    segments p ('$' :: (name ++ rest)) =
      .hole name :: segments (p.skip (name.length + 1)) rest := by
  have hread : readHole? (name ++ rest) = some (name, rest) := by
    rw [readHole?, readName?_append hname hends]
    rfl
  cases name with
  | nil => simp [isName] at hname
  | cons c name =>
      have hdollar : c ≠ '$' := by
        rintro rfl
        simp [isName, isNameStart] at hname
      have hbrace : c ≠ '\x7b' := by
        rintro rfl
        simp [isName, isNameStart] at hname
      rw [List.cons_append] at hread ⊢
      rw [segments_of_readHole? hdollar hread, if_neg hbrace]

/-! ### Filling -/

theorem fill_literals_append (filling : Filling) (text : List Char) (rest : List Segment) :
    fill filling (text.map Segment.literal ++ rest) = (fill filling rest).map (text ++ ·) := by
  induction text with
  | nil => cases hrest : fill filling rest <;> simp [hrest, Except.map]
  | cons c text ih =>
      rw [List.map_cons, List.cons_append, fill, ih]
      cases fill filling rest <;> rfl

theorem fill_hole_cons {filling : Filling} {name part : List Char}
    (hpart : filling name = some (.ok part)) (rest : List Segment) :
    fill filling (.hole name :: rest) = (fill filling rest).map (part ++ ·) := by
  rw [fill, hpart]
  cases fill filling rest <;> rfl

/-- Text that goes on with other texts, each with what follows it. -/
def interleave (first : List Char) (rest : List (List Char × List Char)) : List Char :=
  first ++ rest.flatMap fun pair => pair.1 ++ pair.2

theorem interleave_cons (first : List Char) (pair : List Char × List Char)
    (rest : List (List Char × List Char)) :
    interleave first (pair :: rest) = first ++ (pair.1 ++ interleave pair.2 rest) := by
  simp [interleave]

/-- A bare hole, what fills it, and the text of the template after it. -/
structure Slot where
  name : List Char
  part : List Char
  after : List Char

/-- Whether the text after the hole leaves its name alone and opens no other hole. -/
def Slot.isSound (slot : Slot) : Bool :=
  isName slot.name && !slot.after.contains '$' && !continuesName slot.after

/-- A body with bare holes after its first text. -/
def bodyWith (first : List Char) (slots : List Slot) : List Char :=
  interleave first (slots.map fun slot => ('$' :: slot.name, slot.after))

/-- The same text with the parts in the place of the holes. -/
def filledWith (first : List Char) (slots : List Slot) : List Char :=
  interleave first (slots.map fun slot => (slot.part, slot.after))

/-- **Filling changes the holes and nothing else.** -/
theorem fill_segments_bodyWith {filling : Filling} {first : List Char} {slots : List Slot}
    (hfirst : '$' ∉ first) (hsound : ∀ slot ∈ slots, slot.isSound = true)
    (hparts : ∀ slot ∈ slots, filling slot.name = some (.ok slot.part)) (p : Position) :
    fill filling (segments p (bodyWith first slots)) = .ok (filledWith first slots) := by
  induction slots generalizing first p with
  | nil =>
      rw [bodyWith, List.map_nil, interleave, List.flatMap_nil, segments_append hfirst,
        fill_literals_append, segments]
      rfl
  | cons slot slots ih =>
      have hslot := hsound slot List.mem_cons_self
      simp only [Slot.isSound, Bool.and_eq_true, Bool.not_eq_true', List.contains_eq_mem,
        decide_eq_false_iff_not] at hslot
      obtain ⟨⟨hname, hafter⟩, hends⟩ := hslot
      -- The text after the hole ends the name, and where it is empty the next `$` does.
      have hcontinues : continuesName (bodyWith slot.after slots) = false := by
        cases htext : slot.after with
        | nil =>
            cases slots with
            | nil => rfl
            | cons next slots => rfl
        | cons c after =>
            rw [htext] at hends
            simpa [bodyWith, interleave, continuesName] using hends
      have hrest := ih hafter (fun next hmem => hsound next (List.mem_cons_of_mem _ hmem))
        (fun next hmem => hparts next (List.mem_cons_of_mem _ hmem))
      have hbody : bodyWith first (slot :: slots) =
          first ++ '$' :: (slot.name ++ bodyWith slot.after slots) := interleave_cons _ _ _
      have hfilled : filledWith first (slot :: slots) =
          first ++ (slot.part ++ filledWith slot.after slots) := interleave_cons _ _ _
      rw [hbody, segments_append hfirst, fill_literals_append, segments_hole hname hcontinues,
        fill_hole_cons (hparts slot List.mem_cons_self), hrest, hfilled]
      rfl

end HostLink.Template
