import HostLink.Number.Shortest
import Mathlib.Data.List.TakeWhile

/-!
# The digits of a number with a point

The digits that are chosen for a number are read back as it. Zero is read back as no other number,
so something is left of them when the zeros at their end are taken away.
-/

namespace HostLink

open Text

namespace Text

theorem exists_mem_decimal_ne_zero {n : Nat} (hn : n ≠ 0) : ∃ c ∈ decimal n, c ≠ '0' := by
  induction n using Nat.strongRecOn with
  | _ n ih =>
      rw [decimal, Nat.toDigits_eq_if (by decide)]
      by_cases hsmall : n < 10
      · have hdigit : ∀ d < 10, d ≠ 0 → d.digitChar ≠ '0' := by decide
        rw [if_pos hsmall]
        exact ⟨_, List.mem_singleton_self _, hdigit n hsmall hn⟩
      · obtain ⟨c, hmem, hc⟩ := ih (n / 10) (by omega) (by omega)
        rw [if_neg hsmall]
        exact ⟨c, List.mem_append_left _ hmem, hc⟩

end Text

namespace Double

variable {significand : Nat}

theorem good_of_nearest? {good : Nat → Bool} {num den d : Nat}
    (hd : nearest? good num den = some d) : good d = true := by
  unfold nearest? at hd
  dsimp only at hd
  split at hd
  · cases hd
  · rename_i hlow _
    obtain rfl := Option.some.inj hd
    exact hlow
  · rename_i _ hhigh
    obtain rfl := Option.some.inj hd
    exact hhigh
  · rename_i hlow hhigh
    split at hd
    · obtain rfl := Option.some.inj hd
      exact hlow
    · split at hd
      · obtain rfl := Option.some.inj hd
        exact hhigh
      · obtain rfl := Option.some.inj hd
        -- Of two as near the even one is taken: it is one of the two.
        rcases Nat.mod_two_eq_zero_or_one (num / den) with heven | hodd
        · rwa [heven]
        · rwa [hodd]

theorem scaled_pos {m : Nat} (hm : 0 < m) (e k : Int) : 0 < (scaled m e k).1 := by
  have hpow : ∀ base n : Nat, 0 < base → 0 < Nat.pow base n := fun _ _ => Nat.pow_pos
  unfold scaled
  dsimp only
  refine Nat.mul_pos (Nat.mul_pos hm ?_) ?_
  · split
    · decide
    · exact hpow 2 _ (by decide)
  · split
    · decide
    · exact hpow 10 _ (by decide)

/-- Zero is below all that rounds to a number other than zero. -/
theorem readsBack_zero (hne : significand ≠ 0) (exponent k : Int) :
    readsBack significand exponent k 0 = false := by
  have hlow : 0 < (roundingInterval significand exponent).1 := by
    unfold roundingInterval
    dsimp only
    split <;> omega
  have hscaled := scaled_pos hlow (exponent - 2) k
  unfold readsBack
  dsimp only
  rw [Nat.zero_mul]
  split
  · rw [decide_eq_false (Nat.not_le.mpr hscaled), Bool.false_and]
  · rw [decide_eq_false (Nat.not_lt_zero _), Bool.false_and]

theorem shortestFrom_ne_zero (hne : significand ≠ 0) (exponent point : Int) (fuel count : Nat) :
    (shortestFrom significand exponent point fuel count).1 ≠ 0 := by
  induction fuel generalizing count with
  | zero => exact hne
  | succ fuel ih =>
      rw [shortestFrom]
      dsimp only
      split
      · rename_i d hd
        rintro rfl
        cases (good_of_nearest? hd).symm.trans (readsBack_zero hne _ _)
      · exact ih _

theorem shortestDigits_ne_nil (significand : Nat) (exponent : Int) :
    (shortestDigits significand exponent).1 ≠ [] := by
  unfold shortestDigits
  split
  · exact List.cons_ne_nil _ _
  · rename_i hne
    obtain ⟨c, hmem, hc⟩ := exists_mem_decimal_ne_zero
      (shortestFrom_ne_zero hne exponent (pointOf (scaled significand exponent 0).1
        (scaled significand exponent 0).2) 17 1)
    dsimp only
    intro hnil
    rw [List.reverse_eq_nil_iff, List.dropWhile_eq_nil_iff] at hnil
    exact hc (of_decide_eq_true (hnil c (List.mem_reverse.mpr hmem)))

end Double

end HostLink
