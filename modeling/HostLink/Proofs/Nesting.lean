import HostLink.Proofs.Depth
import HostLink.Proofs.Parsing
import HostLink.Response

/-!
# How deep texts go

A text cannot go deeper than it has opening brackets, wherever they stand in it. And what is read of a
text that does not go too deep is not too deep to be shown.
-/

namespace HostLink

namespace Json

open Text

/-! ### Texts with few brackets -/

def isOpening (c : Char) : Bool :=
  c == '[' || c == '\x7b'

/-- How many characters could open a list or a record. -/
def openings (s : List Char) : Nat :=
  s.countP isOpening

theorem openings_cons_of_isOpening {c : Char} (hopens : isOpening c = true) (s : List Char) :
    openings (c :: s) = openings s + 1 :=
  List.countP_cons_of_pos hopens

theorem openings_cons_of_not_isOpening {c : Char} (hplain : isOpening c = false) (s : List Char) :
    openings (c :: s) = openings s :=
  List.countP_cons_of_neg (by rw [hplain]; exact Bool.false_ne_true)

theorem openings_append (s t : List Char) : openings (s ++ t) = openings s + openings t :=
  List.countP_append

theorem openings_le_append (front back : List Char) : openings back ≤ openings (front ++ back) := by
  rw [openings_append]
  exact Nat.le_add_left _ _

theorem openings_replicate {c : Char} (hplain : isOpening c = false) (count : Nat) :
    openings (List.replicate count c) = 0 := by
  rw [openings, List.countP_replicate, hplain, if_neg Bool.false_ne_true]

/-- Blanks are skipped, and what is left has no more brackets. -/
theorem exists_skipSpace (s : List Char) :
    ∃ tail, skipSpace (points s) = points tail ∧ openings tail ≤ openings s := by
  obtain ⟨gap, tail, rfl, -, hskip⟩ := exists_gap s
  exact ⟨tail, hskip, openings_le_append gap tail⟩

/-- What comes after the next character, and after the blanks there, has no more brackets. -/
theorem exists_skipSpace_of_skipSpace {s : List Char} {c : Char} {after : Source}
    (hs : skipSpace (points s) = .char c :: after) :
    ∃ tail, skipSpace after = points tail ∧ openings tail ≤ openings s := by
  obtain ⟨gap, inner, rfl, -, rfl⟩ := exists_gap_of_skipSpace hs
  obtain ⟨tail, hskip, htail⟩ := exists_skipSpace inner
  have hinner := openings_le_append (gap ++ [c]) inner
  rw [List.append_assoc] at hinner
  exact ⟨tail, hskip, Nat.le_trans htail hinner⟩

theorem StartsWith.openings_le {P : List Char → Prop} {rest : Source} {s : List Char}
    (hs : StartsWith P rest s) : ∃ back, rest = points back ∧ openings back ≤ openings s := by
  obtain ⟨front, back, rfl, hrest, -⟩ := hs
  exact ⟨back, hrest, openings_le_append front back⟩

theorem StartsUpTo.openings_le {c : Char} {P : List Char → Prop} {rest : Source} {s : List Char}
    (hs : StartsUpTo c P rest s) : ∃ back, rest = points back ∧ openings back ≤ openings s := by
  obtain ⟨front, back, rfl, hrest, -⟩ := hs
  have hback := openings_le_append (front ++ [c]) back
  rw [List.append_assoc] at hback
  exact ⟨back, hrest, hback⟩

/-- With this fuel, no text goes deeper than it has brackets. -/
structure StaysWithin (fuel : Nat) : Prop where
  value : ∀ {levels s}, openings s ≤ levels → overflowAt? fuel levels (points s) = none
  items : ∀ {levels s}, openings s ≤ levels → overflowOfItems? fuel levels (points s) = none
  members : ∀ {levels s}, openings s ≤ levels → overflowOfFields? fuel levels (points s) = none

variable {fuel levels : Nat}

theorem StaysWithin.value_succ (hfuel : StaysWithin fuel) {s : List Char}
    (hs : openings s ≤ levels) : overflowAt? (fuel + 1) levels (points s) = none := by
  rw [overflowAt?.eq_def]
  dsimp only
  split
  · rename_i hopens
    obtain ⟨c, tail, rfl, hc, -⟩ := points_eq_cons hopens
    obtain rfl := Point.char.inj hc
    rw [openings_cons_of_isOpening rfl] at hs
    exact absurd hs (Nat.not_succ_le_zero _)
  · rename_i hopens
    obtain ⟨c, tail, rfl, hc, rfl⟩ := points_eq_cons hopens
    obtain rfl := Point.char.inj hc
    rw [openings_cons_of_isOpening rfl] at hs
    obtain ⟨inner, hskip, hinner⟩ := exists_skipSpace tail
    rw [hskip]
    exact hfuel.items (Nat.le_trans hinner (Nat.le_of_succ_le_succ hs))
  · rename_i hopens
    obtain ⟨c, tail, rfl, hc, -⟩ := points_eq_cons hopens
    obtain rfl := Point.char.inj hc
    rw [openings_cons_of_isOpening rfl] at hs
    exact absurd hs (Nat.not_succ_le_zero _)
  · rename_i hopens
    obtain ⟨c, tail, rfl, hc, rfl⟩ := points_eq_cons hopens
    obtain rfl := Point.char.inj hc
    rw [openings_cons_of_isOpening rfl] at hs
    obtain ⟨inner, hskip, hinner⟩ := exists_skipSpace tail
    rw [hskip]
    exact hfuel.members (Nat.le_trans hinner (Nat.le_of_succ_le_succ hs))
  · rfl

theorem StaysWithin.items_succ (hfuel : StaysWithin fuel) {s : List Char}
    (hs : openings s ≤ levels) : overflowOfItems? (fuel + 1) levels (points s) = none := by
  rw [overflowOfItems?, hfuel.value hs]
  dsimp only
  cases hfirst : readValue fuel (points s) with
  | none => rfl
  | some read =>
      obtain ⟨v, rest⟩ := read
      obtain ⟨tail, rfl, htail⟩ := ((readsTexts fuel).value hfirst).openings_le
      dsimp only [Option.bind_eq_bind, Option.bind_some]
      split
      · rename_i hskip
        obtain ⟨inner, hskip', hinner⟩ := exists_skipSpace_of_skipSpace hskip
        rw [hskip']
        exact hfuel.items (Nat.le_trans hinner (Nat.le_trans htail hs))
      · rfl

theorem StaysWithin.members_succ (hfuel : StaysWithin fuel) {s : List Char}
    (hs : openings s ≤ levels) : overflowOfFields? (fuel + 1) levels (points s) = none := by
  rw [overflowOfFields?.eq_def]
  dsimp only
  split
  · rename_i hquote
    obtain ⟨c, tail, rfl, -, rfl⟩ := points_eq_cons hquote
    replace hs := Nat.le_trans (openings_le_append [c] tail) hs
    cases hname : readString (points tail) with
    | none => rfl
    | some read =>
        obtain ⟨ps, rest⟩ := read
        obtain ⟨back, rfl, hback⟩ := (startsUpTo_of_readString hname).openings_le
        replace hs := Nat.le_trans hback hs
        dsimp only [Option.bind_eq_bind, Option.bind_some]
        split
        · rename_i hcolon
          obtain ⟨inner, hskip, hinner⟩ := exists_skipSpace_of_skipSpace hcolon
          replace hs := Nat.le_trans hinner hs
          rw [hskip, hfuel.value hs]
          dsimp only
          cases hfirst : readValue fuel (points inner) with
          | none => rfl
          | some read =>
              obtain ⟨v, rest⟩ := read
              obtain ⟨tail, rfl, htail⟩ := ((readsTexts fuel).value hfirst).openings_le
              dsimp only [Option.bind_some]
              split
              · rename_i hcomma
                obtain ⟨more, hskip, hmore⟩ := exists_skipSpace_of_skipSpace hcomma
                rw [hskip]
                exact hfuel.members (Nat.le_trans hmore (Nat.le_trans htail hs))
              · rfl
        · rfl
  · rfl

theorem staysWithin (fuel : Nat) : StaysWithin fuel := by
  induction fuel with
  | zero => exact ⟨fun _ => rfl, fun _ => rfl, fun _ => rfl⟩
  | succ fuel ih => exact ⟨ih.value_succ, ih.items_succ, ih.members_succ⟩

/-- **A text goes no deeper than it has opening brackets.** -/
theorem overflow?_of_openings_le {s : List Char} (hs : openings s ≤ levels) :
    overflow? levels (points s) = none := by
  obtain ⟨tail, hskip, htail⟩ := exists_skipSpace s
  rw [overflow?, hskip]
  exact (staysWithin _).value (Nat.le_trans htail hs)

/-! ### Texts of brackets -/

theorem overflowAt?_brackets {count : Nat} (hdeep : levels < count) (rest : Source)
    (hfuel : 2 * levels < fuel) :
    overflowAt? fuel levels (List.replicate count (.char '[') ++ rest) = some .readingList := by
  induction levels generalizing count fuel with
  | zero =>
      obtain ⟨fuel, rfl⟩ := Nat.exists_eq_succ_of_ne_zero (Nat.ne_zero_of_lt hfuel)
      obtain ⟨count, rfl⟩ := Nat.exists_eq_succ_of_ne_zero (Nat.ne_zero_of_lt hdeep)
      rfl
  | succ levels ih =>
      -- A bracket takes two steps, one as a value and one as the first of its items.
      obtain ⟨fuel, rfl⟩ : ∃ f, fuel = f + 2 := ⟨fuel - 2, by omega⟩
      obtain ⟨count, rfl⟩ : ∃ n, count = n + 2 := ⟨count - 2, by omega⟩
      have hinner := ih (by omega : levels < count + 1) (by omega : 2 * levels < fuel)
      have hskip : skipSpace (List.replicate (count + 1) (.char '[') ++ rest) =
          List.replicate (count + 1) (.char '[') ++ rest := rfl
      rw [List.replicate_succ, List.cons_append, overflowAt?.eq_def]
      change overflowOfItems? (fuel + 1) levels (skipSpace _) = _
      rw [hskip, overflowOfItems?, hinner]

/-- **Of brackets that open lists, one more than there are levels is too many**, whatever follows. -/
theorem overflow?_brackets {count : Nat} (hdeep : levels < count) (rest : List Char) :
    overflow? levels (points (List.replicate count '[' ++ rest)) = some .readingList := by
  obtain ⟨others, rfl⟩ := Nat.exists_eq_succ_of_ne_zero (Nat.ne_zero_of_lt hdeep)
  have hpoints : points (List.replicate (others + 1) '[' ++ rest) =
      List.replicate (others + 1) (.char '[') ++ points rest := by
    rw [points_append, points, List.map_replicate]
  have hskip : skipSpace (List.replicate (others + 1) (.char '[') ++ points rest) =
      List.replicate (others + 1) (.char '[') ++ points rest := rfl
  rw [overflow?, hpoints, hskip]
  refine overflowAt?_brackets hdeep _ ?_
  rw [steps, List.length_append, List.length_replicate]
  omega

/-! ### What is read is not too deep to be shown -/

theorem fitsWithin_ofPoints (ps : List Point) : (Value.ofPoints ps).FitsWithin (levels + 1) := by
  unfold Value.ofPoints
  cases chars? ps <;> trivial

theorem fitsWithin_of_readNumber {negative : Bool} {s after : Source} {v : Value}
    (hread : readNumber negative s = some (v, after)) : v.FitsWithin (levels + 1) := by
  unfold readNumber at hread
  obtain ⟨⟨whole, rest⟩, -, hread⟩ := Option.bind_eq_some_iff.mp hread
  dsimp only at hread
  split at hread
  · split at hread
    · obtain ⟨rfl, -⟩ := Prod.mk.inj (Option.some.inj hread)
      trivial
    · cases hread
  · obtain ⟨rfl, -⟩ := Prod.mk.inj (Option.some.inj hread)
    trivial

theorem fitsWithin_of_readAtom {s after : Source} {v : Value}
    (hread : readAtom s = some (v, after)) : v.FitsWithin (levels + 1) := by
  have hword : ∀ {w : Value} {rest : Option Source}, rest.map (w, ·) = some (v, after) →
      w.FitsWithin (levels + 1) → v.FitsWithin (levels + 1) := by
    intro w rest hmap hw
    obtain ⟨_, -, heq⟩ := Option.map_eq_some_iff.mp hmap
    obtain ⟨rfl, -⟩ := Prod.mk.inj heq
    exact hw
  unfold readAtom at hread
  split at hread
  · exact hword hread trivial
  · exact hword hread trivial
  · exact hword hread trivial
  · exact hword hread trivial
  · exact hword hread trivial
  · split at hread
    · obtain ⟨rfl, -⟩ := Prod.mk.inj (Option.some.inj hread)
      trivial
    · exact fitsWithin_of_readNumber hread
  · exact fitsWithin_of_readNumber hread

/-- With this fuel, what is read without going too deep fits: reading takes no level for the
innermost values, and showing does. -/
structure ReadsFitting (fuel : Nat) : Prop where
  value : ∀ {levels s v after}, overflowAt? fuel levels s = none →
    readValue fuel s = some (v, after) → v.FitsWithin (levels + 1)
  items : ∀ {levels s items after}, overflowOfItems? fuel levels s = none →
    readItems fuel s = some (items, after) → ∀ v ∈ items, v.FitsWithin (levels + 1)
  members : ∀ {levels s fields after}, overflowOfFields? fuel levels s = none →
    readFields fuel s = some (fields, after) → ∀ field ∈ fields, field.2.FitsWithin (levels + 1)

theorem ReadsFitting.value_succ (hfuel : ReadsFitting fuel) {s after : Source} {v : Value}
    (hdepth : overflowAt? (fuel + 1) levels s = none)
    (hread : readValue (fuel + 1) s = some (v, after)) : v.FitsWithin (levels + 1) := by
  rw [readValue.eq_def] at hread
  dsimp only at hread
  split at hread
  · obtain ⟨⟨ps, rest⟩, -, heq⟩ := Option.map_eq_some_iff.mp hread
    obtain ⟨rfl, -⟩ := Prod.mk.inj heq
    exact fitsWithin_ofPoints ps
  · cases levels with
    | zero => cases hdepth
    | succ levels =>
        split at hread
        · obtain ⟨rfl, -⟩ := Prod.mk.inj (Option.some.inj hread)
          simp [Value.FitsWithin]
        · obtain ⟨⟨items, rest⟩, hitems, heq⟩ := Option.map_eq_some_iff.mp hread
          obtain ⟨rfl, -⟩ := Prod.mk.inj heq
          exact hfuel.items hdepth hitems
  · cases levels with
    | zero => cases hdepth
    | succ levels =>
        split at hread
        · obtain ⟨rfl, -⟩ := Prod.mk.inj (Option.some.inj hread)
          simp [Value.FitsWithin]
        · obtain ⟨⟨fields, rest⟩, hfields, heq⟩ := Option.map_eq_some_iff.mp hread
          obtain ⟨rfl, -⟩ := Prod.mk.inj heq
          obtain ⟨members, hmembers, hall⟩ :=
            Value.exists_ofFields_forall (hfuel.members hdepth hfields)
          rw [hmembers]
          exact hall
  · exact fitsWithin_of_readAtom hread

theorem ReadsFitting.items_succ (hfuel : ReadsFitting fuel) {s after : Source}
    {items : List Value} (hdepth : overflowOfItems? (fuel + 1) levels s = none)
    (hread : readItems (fuel + 1) s = some (items, after)) :
    ∀ v ∈ items, v.FitsWithin (levels + 1) := by
  rw [readItems] at hread
  obtain ⟨⟨v, rest⟩, hfirst, hread⟩ := Option.bind_eq_some_iff.mp hread
  rw [overflowOfItems?, hfirst] at hdepth
  cases hvalue : overflowAt? fuel levels s with
  | some descent =>
      rw [hvalue] at hdepth
      cases hdepth
  | none =>
      have hv := hfuel.value hvalue hfirst
      simp only [hvalue, Option.bind_eq_bind, Option.bind_some] at hdepth
      dsimp only at hread
      split at hread
      · obtain ⟨rfl, -⟩ := Prod.mk.inj (Option.some.inj hread)
        exact List.forall_mem_singleton.mpr hv
      · rename_i hcomma
        obtain ⟨⟨more, rest⟩, hmore, hread⟩ := Option.bind_eq_some_iff.mp hread
        obtain ⟨rfl, -⟩ := Prod.mk.inj (Option.some.inj hread)
        rw [hcomma] at hdepth
        exact List.forall_mem_cons.mpr ⟨hv, hfuel.items hdepth hmore⟩
      · cases hread

theorem ReadsFitting.members_succ (hfuel : ReadsFitting fuel) {s after : Source}
    {fields : List (FieldName × Value)} (hdepth : overflowOfFields? (fuel + 1) levels s = none)
    (hread : readFields (fuel + 1) s = some (fields, after)) :
    ∀ field ∈ fields, field.2.FitsWithin (levels + 1) := by
  rw [readFields.eq_def] at hread
  dsimp only at hread
  split at hread
  · obtain ⟨⟨name, rest⟩, hname, hread⟩ := Option.bind_eq_some_iff.mp hread
    rw [overflowOfFields?.eq_def] at hdepth
    simp only [hname, Option.bind_eq_bind, Option.bind_some] at hdepth
    dsimp only at hread
    split at hread
    · rename_i hcolon
      obtain ⟨⟨v, rest⟩, hfirst, hread⟩ := Option.bind_eq_some_iff.mp hread
      simp only [hcolon, hfirst, Option.bind_some] at hdepth
      split at hdepth
      · cases hdepth
      · rename_i hvalue
        have hv := hfuel.value hvalue hfirst
        dsimp only at hread
        split at hread
        · obtain ⟨rfl, -⟩ := Prod.mk.inj (Option.some.inj hread)
          exact List.forall_mem_singleton.mpr hv
        · rename_i hcomma
          obtain ⟨⟨more, rest⟩, hmore, hread⟩ := Option.bind_eq_some_iff.mp hread
          obtain ⟨rfl, -⟩ := Prod.mk.inj (Option.some.inj hread)
          rw [hcomma] at hdepth
          exact List.forall_mem_cons.mpr ⟨hv, hfuel.members hdepth hmore⟩
        · cases hread
    · cases hread
  · cases hread

theorem readsFitting (fuel : Nat) : ReadsFitting fuel := by
  induction fuel with
  | zero =>
      exact ⟨fun _ hread => by simp [readValue] at hread, fun _ hread => by simp [readItems] at hread,
        fun _ hread => by simp [readFields] at hread⟩
  | succ fuel ih => exact ⟨ih.value_succ, ih.items_succ, ih.members_succ⟩

theorem fitsWithin_of_read {s : Source} {v : Value} (hdepth : overflow? levels s = none)
    (hread : read s = some v) : v.FitsWithin (levels + 1) := by
  obtain ⟨⟨w, after⟩, hvalue, hread⟩ := Option.bind_eq_some_iff.mp hread
  dsimp only at hread
  split at hread
  · obtain rfl := Option.some.inj hread
    exact (readsFitting _).value hdepth hvalue
  · cases hread

end Json

namespace Response

/-- **What is read of an answer is shown**: the fields of an object that does not go too deep are not
too deep to be shown, and their numbers are not too long. -/
theorem isShownWithin_of_object? {levels : Nat} {raw : Value} {fields : List (FieldName × Value)}
    (hdepth : overflow? levels raw = none) (hobject : object? raw = some fields) :
    ∀ field ∈ fields, field.2.IsShownWithin levels := by
  unfold object? at hobject
  unfold overflow? at hdepth
  cases htext : rawText? raw with
  | none => simp [htext] at hobject
  | some ps =>
      rw [htext, Option.bind_some] at hobject hdepth
      split at hobject
      · rename_i hread
        obtain rfl := Option.some.inj hobject
        have hprintable := Value.isPrintable_record_iff.mp (Json.isPrintable_of_read hread)
        have hfits := Json.fitsWithin_of_read hdepth hread
        exact fun field hmem => ⟨hprintable field hmem, hfits field hmem⟩
      · cases hobject

theorem overflow?_brackets {levels count : Nat} (hdeep : levels < count) (rest : List Char) :
    overflow? levels (.text (String.ofList (List.replicate count '[' ++ rest))) =
      some .readingList := by
  obtain ⟨others, rfl⟩ := Nat.exists_eq_succ_of_ne_zero (Nat.ne_zero_of_lt hdeep)
  have htext : rawText? (.text (String.ofList (List.replicate (others + 1) '[' ++ rest))) =
      some (Text.points (List.replicate (others + 1) '[' ++ rest)) := by
    rw [rawText?, String.toList_ofList]
    rfl
  rw [overflow?, htext]
  exact Json.overflow?_brackets hdeep rest

/-- An answer with no more opening brackets than levels does not go too deep. -/
theorem overflow?_of_openings_le {levels : Nat} {raw : String}
    (hraw : Json.openings raw.toList ≤ levels) : overflow? levels (.text raw) = none := by
  unfold overflow? rawText?
  dsimp only
  split
  · rfl
  · exact Json.overflow?_of_openings_le hraw

end Response

end HostLink
