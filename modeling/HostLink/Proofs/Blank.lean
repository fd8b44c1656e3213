import HostLink.Text.Blank
import Mathlib.Data.List.TakeWhile

/-!
# Text without the blank at its ends

Only blank is lost when a text is trimmed, and more blank around it changes nothing.
-/

namespace HostLink.Text

theorem dropWhile_of_none {p : Char → Bool} {s : List Char} (hnone : ∀ c ∈ s, p c = false) :
    s.dropWhile p = s := by
  cases s with
  | nil => rfl
  | cons c rest => exact List.dropWhile_cons_of_neg (by simp [hnone c List.mem_cons_self])

theorem dropWhile_append_cons {p : Char → Bool} {c : Char} (hc : p c = false)
    (left right : List Char) :
    (left ++ c :: right).dropWhile p = left.dropWhile p ++ c :: right := by
  rw [List.dropWhile_append, List.dropWhile_cons_of_neg (by simp [hc])]
  split
  · rename_i hempty
    rw [List.isEmpty_iff.mp hempty, List.nil_append]
  · rfl

/-- What stands on either side of a character that is no blank is trimmed on its own. -/
theorem trim_append_cons {c : Char} (hc : isBlank c = false) (left right : List Char) :
    trim (left ++ c :: right) = left.dropWhile isBlank ++ c :: dropEndWhile isBlank right := by
  rw [trim, dropEndWhile, dropWhile_append_cons hc, List.reverse_append, List.reverse_cons,
    List.append_assoc, List.singleton_append, dropWhile_append_cons hc, List.reverse_append,
    List.reverse_cons, List.reverse_reverse, List.append_assoc, List.singleton_append, dropEndWhile]

theorem trim_of_ink {s : List Char} (hink : ∀ c ∈ s, isBlank c = false) : trim s = s := by
  unfold trim dropEndWhile
  rw [dropWhile_of_none hink, dropWhile_of_none, List.reverse_reverse]
  exact fun c hmem => hink c (List.mem_reverse.mp hmem)

theorem trim_eq_nil_iff {s : List Char} : trim s = [] ↔ ∀ c ∈ s, isBlank c = true := by
  unfold trim dropEndWhile
  rw [List.reverse_eq_nil_iff, List.dropWhile_eq_nil_iff]
  constructor
  · intro hall c hmem
    rw [← List.takeWhile_append_dropWhile (p := isBlank) (l := s)] at hmem
    rcases List.mem_append.mp hmem with hmem | hmem
    · exact List.mem_takeWhile_imp hmem
    · exact hall c (List.mem_reverse.mpr hmem)
  · intro hall c hmem
    exact hall c ((List.dropWhile_sublist _).subset (List.mem_reverse.mp hmem))

/-- Only blank is lost at the ends of a text. -/
theorem exists_padding (s : List Char) :
    ∃ front back, s = front ++ trim s ++ back ∧ ∀ c ∈ front ++ back, isBlank c = true := by
  have hrest : s.dropWhile isBlank =
      trim s ++ ((s.dropWhile isBlank).reverse.takeWhile isBlank).reverse := by
    rw [trim, dropEndWhile, ← List.reverse_append, List.takeWhile_append_dropWhile,
      List.reverse_reverse]
  refine ⟨s.takeWhile isBlank, ((s.dropWhile isBlank).reverse.takeWhile isBlank).reverse, ?_, ?_⟩
  · rw [List.append_assoc, ← hrest, List.takeWhile_append_dropWhile]
  · intro c hmem
    rcases List.mem_append.mp hmem with hmem | hmem
    · exact List.mem_takeWhile_imp hmem
    · exact List.mem_takeWhile_imp (List.mem_reverse.mp hmem)

theorem dropEndWhile_append_of_pos {p : Char → Bool} {back : List Char}
    (hback : ∀ c ∈ back, p c = true) (s : List Char) :
    dropEndWhile p (s ++ back) = dropEndWhile p s := by
  have hends : ∀ c ∈ back.reverse, p c = true := fun c hmem => hback c (List.mem_reverse.mp hmem)
  rw [dropEndWhile, List.reverse_append, List.dropWhile_append_of_pos hends, dropEndWhile]

/-- Blank around a text is trimmed with the blank that it has itself. -/
theorem trim_surrounded {front back : List Char} (hblank : ∀ c ∈ front ++ back, isBlank c = true)
    (s : List Char) : trim (front ++ s ++ back) = trim s := by
  have hfront : ∀ c ∈ front, isBlank c = true := fun c hmem =>
    hblank c (List.mem_append_left _ hmem)
  have hback : ∀ c ∈ back, isBlank c = true := fun c hmem =>
    hblank c (List.mem_append_right _ hmem)
  by_cases hs : ∀ c ∈ s, isBlank c = true
  · rw [trim_eq_nil_iff.mpr hs, trim_eq_nil_iff]
    intro c hmem
    rcases List.mem_append.mp hmem with hmem | hmem
    · exact (List.mem_append.mp hmem).elim (hfront c) (hs c)
    · exact hback c hmem
  · simp only [not_forall, Bool.not_eq_true] at hs
    obtain ⟨c, hmem, hc⟩ := hs
    obtain ⟨left, right, rfl⟩ := List.append_of_mem hmem
    have hgroup : front ++ (left ++ c :: right) ++ back =
        (front ++ left) ++ c :: (right ++ back) := by simp
    rw [hgroup, trim_append_cons hc, trim_append_cons hc, List.dropWhile_append_of_pos hfront,
      dropEndWhile_append_of_pos hback]

theorem trim_trim (s : List Char) : trim (trim s) = trim s := by
  obtain ⟨front, back, hs, hblank⟩ := exists_padding s
  have hsurrounded := trim_surrounded hblank (trim s)
  rw [← hs] at hsurrounded
  exact hsurrounded.symm

theorem trimmed_eq_nil_iff {s : String} : trimmed s = [] ↔ hasInk s = false := by
  unfold trimmed hasInk
  rw [trim_eq_nil_iff, List.any_eq_false]
  simp

end HostLink.Text
