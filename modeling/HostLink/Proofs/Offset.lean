import HostLink.Offset
import HostLink.Proofs.Numeral

/-!
# Offsets that cannot be read

Any text is an offset but for decimal numerals of too many digits.
-/

namespace HostLink.Offset

open Text

/-- Whether text without blank at its ends is a decimal numeral of more digits than are read. -/
def isOverlong (s : List Char) : Bool :=
  isDecimal s && decide (decimalDigitLimit < (Text.splitSign s).2.length)

theorem splitSign_cases (s : List Char) :
    ∃ front : List Char, s = front ++ (splitSign s).2 ∧ ∀ c ∈ front, c = '-' ∨ c = '+' := by
  unfold splitSign
  split
  · exact ⟨['-'], rfl, by simp⟩
  · exact ⟨['+'], rfl, by simp⟩
  · exact ⟨[], rfl, by simp⟩

theorem isDecimal_iff {s : List Char} :
    isDecimal s = true ↔ (splitSign s).2 ≠ [] ∧ ∀ c ∈ (splitSign s).2, isAsciiDigit c = true := by
  simp [isDecimal]

theorem isBlank_of_isDecimal {s : List Char} (hdecimal : isDecimal s = true) :
    ∀ c ∈ s, isBlank c = false := by
  obtain ⟨front, hsplit, hfront⟩ := splitSign_cases s
  have hdigits := (isDecimal_iff.mp hdecimal).2
  intro c hmem
  rw [hsplit] at hmem
  rcases List.mem_append.mp hmem with hmem | hmem
  · rcases hfront c hmem with rfl | rfl <;> decide
  · obtain ⟨hlow, hhigh, -⟩ := asciiDigit?_of_isAsciiDigit (hdigits c hmem)
    exact isBlank_eq_false (by omega) (by omega)

theorem isPadding_of_isDecimal {s : List Char} (hdecimal : isDecimal s = true) :
    ∀ c ∈ s, isPadding c = false := fun c hmem =>
  isPadding_eq_false (isBlank_of_isDecimal hdecimal c hmem)

theorem hexDigits?_of_isDecimal {s : List Char} (hdecimal : isDecimal s = true) :
    hexDigits? s = none := by
  have hdigits := (isDecimal_iff.mp hdecimal).2
  unfold hexDigits?
  split
  · rename_i x digits
    have hx : isAsciiDigit x = true := hdigits x (by simp [splitSign])
    refine if_neg fun hmark => ?_
    rcases hmark.1 with rfl | rfl <;> revert hx <;> decide
  · rfl

theorem read_of_isDecimal {s : List Char} (hdecimal : isDecimal s = true) :
    Numeral.read .ten s =
      if decimalDigitLimit < (splitSign s).2.length then
        .error (.tooManyDigits (splitSign s).2.length)
      else .ok ⟨(splitSign s).1, (splitSign s).2.filterMap decimalDigit?⟩ := by
  obtain ⟨hne, hdigits⟩ := isDecimal_iff.mp hdecimal
  have hall : ∀ c ∈ (splitSign s).2, (decimalDigit? c).isSome = true := by
    intro c hmem
    rw [decimalDigit?_of_isAsciiDigit (hdigits c hmem)]
    exact hdigits c hmem
  have hread : readMagnitude .ten (splitSign s).2 =
      some ((splitSign s).2.filterMap decimalDigit?, []) :=
    readDigits_of_all (by decide) hne hall
  have hsign : splitSign s = ((splitSign s).1, (splitSign s).2) := rfl
  rw [Numeral.read_of_digits (dropWhile_of_none (isPadding_of_isDecimal hdecimal)) hsign hread,
    length_filterMap_of_all hall]
  simp only [true_and]

theorem ofTrimmed_of_isDecimal {s : List Char} (hdecimal : isDecimal s = true) :
    ofTrimmed s =
      if decimalDigitLimit < (splitSign s).2.length then
        .error (.numeralTooLong (splitSign s).2.length)
      else .ok (.ofNumeral .ten ⟨(splitSign s).1, (splitSign s).2.filterMap decimalDigit?⟩) := by
  rw [ofTrimmed, hexDigits?_of_isDecimal hdecimal]
  simp only [hdecimal, if_true, readNumeral, read_of_isDecimal hdecimal]
  by_cases hlong : decimalDigitLimit < (splitSign s).2.length
  · rw [if_pos hlong, if_pos hlong]
    rfl
  · rw [if_neg hlong, if_neg hlong]
    rfl

/-- **Only a decimal numeral with too many digits is no offset.** -/
theorem parse_eq (text : String) :
    (∃ offset, parse text = .ok offset ∧ isOverlong (trimmed text) = false) ∨
      (parse text = .error (.numeralTooLong (splitSign (trimmed text)).2.length) ∧
        isOverlong (trimmed text) = true) := by
  unfold parse isOverlong
  generalize trimmed text = s
  by_cases hdecimal : isDecimal s = true
  · rw [ofTrimmed_of_isDecimal hdecimal, hdecimal, Bool.true_and]
    by_cases hlong : decimalDigitLimit < (splitSign s).2.length
    · exact .inr ⟨if_pos hlong, decide_eq_true hlong⟩
    · exact .inl ⟨_, if_neg hlong, decide_eq_false hlong⟩
  · have hother : isDecimal s = false := by simpa using hdecimal
    rw [ofTrimmed, hother]
    cases hhex : hexDigits? s with
    | some digits => exact .inl ⟨_, rfl, rfl⟩
    | none => exact .inl ⟨.zero, rfl, rfl⟩

theorem parse_of_isOverlong {text : String} (hlong : isOverlong (trimmed text) = true) :
    parse text = .error (.numeralTooLong (splitSign (trimmed text)).2.length) := by
  rcases parse_eq text with ⟨offset, -, hshort⟩ | ⟨herror, -⟩
  · rw [hlong] at hshort
    cases hshort
  · exact herror

theorem parse_of_not_isOverlong {text : String} (hshort : isOverlong (trimmed text) = false) :
    ∃ offset, parse text = .ok offset := by
  rcases parse_eq text with ⟨offset, hparse, -⟩ | ⟨-, hlong⟩
  · exact ⟨offset, hparse⟩
  · rw [hlong] at hshort
    cases hshort

end HostLink.Offset
