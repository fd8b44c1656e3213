import HostLink.Proofs.Blank
import HostLink.Value.Number
import Mathlib.Tactic.IntervalCases

/-!
# Numerals and the addresses they stand for

Digits are read to the last one, decimal digits up to a limit. An address read from base sixteen is
the number that was written, wrapped around.
-/

namespace HostLink.Text

/-! ### Characters -/

theorem asciiDigit?_of_isAsciiDigit {c : Char} (hdigit : isAsciiDigit c = true) :
    0x30 ≤ c.toNat ∧ c.toNat ≤ 0x39 ∧ asciiDigit? c = some (c.toNat - 0x30) := by
  unfold isAsciiDigit asciiDigit? at hdigit
  by_cases hrange : (0x30 ≤ c.toNat && c.toNat ≤ 0x39) = true
  · have hbounds : 0x30 ≤ c.toNat ∧ c.toNat ≤ 0x39 := by simpa using hrange
    exact ⟨hbounds.1, hbounds.2, if_pos hrange⟩
  · rw [if_neg hrange] at hdigit
    cases hdigit

theorem decimalDigit?_of_isAsciiDigit {c : Char} (hdigit : isAsciiDigit c = true) :
    decimalDigit? c = asciiDigit? c := by
  obtain ⟨-, hle, -⟩ := asciiDigit?_of_isAsciiDigit hdigit
  exact if_pos (by omega)

theorem isBlank_eq_false {c : Char} (hlow : 0x21 ≤ c.toNat) (hhigh : c.toNat < 0x85) :
    isBlank c = false := by
  simp only [isBlank, Bool.or_eq_false_iff, Bool.and_eq_false_iff, decide_eq_false_iff_not,
    beq_eq_false_iff_ne]
  omega

theorem isPadding_eq_false {c : Char} (hblank : isBlank c = false) : isPadding c = false := by
  simp [isPadding, hblank]

/-! ### Digits -/

theorem readDigits_of_all {digit? : Char → Option Nat} (hmark : digit? '_' = none) {s : List Char}
    (hne : s ≠ []) (hall : ∀ c ∈ s, (digit? c).isSome = true) :
    readDigits digit? s = some (s.filterMap digit?, []) := by
  induction s with
  | nil => exact absurd rfl hne
  | cons c rest ih =>
      obtain ⟨d, hd⟩ := Option.isSome_iff_exists.mp (hall c List.mem_cons_self)
      cases rest with
      | nil => simp [readDigits, hd]
      | cons c' rest =>
          have hnext : (digit? c').isSome = true := hall c' (by simp)
          have hplain : c' ≠ '_' := by
            rintro rfl
            rw [hmark] at hnext
            cases hnext
          have hread := ih (List.cons_ne_nil _ _) fun e hmem => hall e (List.mem_cons_of_mem _ hmem)
          rw [readDigits]
          simp only [hd, hplain, if_false, hnext, if_true, hread, Option.map_some]
          rw [List.filterMap_cons_some hd]

theorem length_filterMap_of_all {digit? : Char → Option Nat} {s : List Char}
    (hall : ∀ c ∈ s, (digit? c).isSome = true) : (s.filterMap digit?).length = s.length := by
  induction s with
  | nil => rfl
  | cons c rest ih =>
      obtain ⟨d, hd⟩ := Option.isSome_iff_exists.mp (hall c List.mem_cons_self)
      rw [List.filterMap_cons_some hd, List.length_cons, List.length_cons,
        ih fun e hmem => hall e (List.mem_cons_of_mem _ hmem)]

/-- A numeral without blank is its sign and its digits, unless there are too many of these. -/
theorem Numeral.read_of_digits {radix : Radix} {s body : List Char} {negative : Bool}
    {digits : List Nat} (hfront : s.dropWhile isPadding = s)
    (hsign : splitSign s = (negative, body)) (hdigits : readMagnitude radix body = some (digits, [])) :
    Numeral.read radix s =
      if radix = .ten ∧ decimalDigitLimit < digits.length then
        .error (.tooManyDigits digits.length)
      else .ok ⟨negative, digits⟩ := by
  unfold Numeral.read
  rw [hfront, hsign]
  simp only [hdigits, List.all_nil, if_true]

/-! ### Digits of a number -/

theorem mem_toDigits {base n : Nat} {c : Char} (hbase : 1 < base) (hmem : c ∈ Nat.toDigits base n) :
    ∃ d < base, c = d.digitChar := by
  induction n using Nat.strongRecOn with
  | _ n ih =>
      rw [Nat.toDigits_eq_if hbase] at hmem
      by_cases hsmall : n < base
      · rw [if_pos hsmall] at hmem
        exact ⟨n, hsmall, List.mem_singleton.mp hmem⟩
      · rw [if_neg hsmall] at hmem
        rcases List.mem_append.mp hmem with hmem | hmem
        · exact ih (n / base) (Nat.div_lt_self (by omega) hbase) hmem
        · exact ⟨n % base, Nat.mod_lt _ (by omega), List.mem_singleton.mp hmem⟩

theorem foldl_toDigits {base : Nat} (hbase : 1 < base) {digit? : Char → Option Nat}
    (hdigit : ∀ d < base, digit? d.digitChar = some d) (n : Nat) :
    ((Nat.toDigits base n).filterMap digit?).foldl (fun m d => m * base + d) 0 = n := by
  induction n using Nat.strongRecOn with
  | _ n ih =>
      rw [Nat.toDigits_eq_if hbase]
      by_cases hsmall : n < base
      · rw [if_pos hsmall]
        simp [hdigit n hsmall]
      · have hlast := hdigit (n % base) (Nat.mod_lt n (by omega))
        have hfront := ih (n / base) (Nat.div_lt_self (by omega) hbase)
        rw [if_neg hsmall, List.filterMap_append, List.foldl_append, hfront]
        simp only [List.filterMap_cons, hlast, List.filterMap_nil, List.foldl_cons, List.foldl_nil]
        exact Nat.div_add_mod' n base

/-! ### Base sixteen -/

theorem hexDigit?_digitChar {d : Nat} (hd : d < 16) : hexDigit? d.digitChar = some d := by
  interval_cases d <;> decide

theorem toNat_digitChar_bounds {d : Nat} (hd : d < 16) :
    0x21 ≤ d.digitChar.toNat ∧ d.digitChar.toNat < 0x85 := by
  interval_cases d <;> decide

theorem mem_hex {n : Nat} {c : Char} (hmem : c ∈ hex n) : ∃ d < 16, c = d.digitChar :=
  mem_toDigits (by decide) hmem

theorem foldl_hex (n : Nat) :
    ((hex n).filterMap hexDigit?).foldl (fun m d => m * 16 + d) 0 = n :=
  foldl_toDigits (by decide) (fun _ => hexDigit?_digitChar) n

theorem hex_ne_nil (n : Nat) : hex n ≠ [] :=
  Nat.toDigits_ne_nil

theorem isSome_hexDigit?_of_mem_hex {n : Nat} {c : Char} (hmem : c ∈ hex n) :
    (hexDigit? c).isSome = true := by
  obtain ⟨d, hd, rfl⟩ := mem_hex hmem
  rw [hexDigit?_digitChar hd]
  rfl

theorem dropHexMark_of_digits {digits : List Char}
    (hall : ∀ c ∈ digits, (hexDigit? c).isSome = true) :
    dropHexMark ('0' :: 'x' :: digits) = digits := by
  have hmark : decimalDigit? '0' = some 0 := by decide
  have hplain : ∀ c rest, digits = c :: rest → c ≠ '_' := by
    rintro c rest rfl rfl
    exact absurd (hall '_' List.mem_cons_self) (by decide)
  simp only [dropHexMark, hmark, true_or, and_self, if_true]
  unfold dropUnderscore
  split
  · exact absurd rfl (hplain '_' _ rfl)
  · rfl

theorem read_of_hexDigits {digits : List Char} (hne : digits ≠ [])
    (hall : ∀ c ∈ digits, (hexDigit? c).isSome = true) :
    Numeral.read .sixteen ('0' :: 'x' :: digits) = .ok ⟨false, digits.filterMap hexDigit?⟩ := by
  have hdigits : readMagnitude .sixteen ('0' :: 'x' :: digits) =
      some (digits.filterMap hexDigit?, []) := by
    rw [readMagnitude, dropHexMark_of_digits hall]
    exact readDigits_of_all (by decide) hne hall
  rw [Numeral.read_of_digits (List.dropWhile_cons_of_neg (by decide)) rfl hdigits]
  simp

theorem read_hex (n : Nat) :
    Numeral.read .sixteen ('0' :: 'x' :: hex n) = .ok ⟨false, (hex n).filterMap hexDigit?⟩ :=
  read_of_hexDigits (hex_ne_nil n) fun _ => isSome_hexDigit?_of_mem_hex

end HostLink.Text

namespace HostLink.Address

open Text

/-- Wrapping around digit by digit is wrapping around at the end. -/
theorem ofDigits_eq (base : Nat) (digits : List Nat) :
    ofDigits base digits = ⟨BitVec.ofNat 32 (digits.foldl (fun n d => n * base + d) 0)⟩ := by
  have hfold : ∀ (digits : List Nat) (n : Nat),
      digits.foldl (fun w d => w * BitVec.ofNat 32 base + BitVec.ofNat 32 d) (BitVec.ofNat 32 n) =
        BitVec.ofNat 32 (digits.foldl (fun n d => n * base + d) n) := by
    intro digits
    induction digits with
    | nil => exact fun n => rfl
    | cons d rest ih =>
        intro n
        rw [List.foldl_cons, List.foldl_cons, ← ih, BitVec.ofNat_add, BitVec.ofNat_mul]
  exact congrArg Address.mk (hfold digits 0)

/-- The text of a number in base sixteen has no blank. -/
theorem trimmed_hex (n : Nat) :
    trimmed (String.ofList ('0' :: 'x' :: hex n)) = '0' :: 'x' :: hex n := by
  have hink : ∀ c ∈ '0' :: 'x' :: hex n, isBlank c = false := by
    intro c hmem
    rcases List.mem_cons.mp hmem with rfl | hmem
    · decide
    · rcases List.mem_cons.mp hmem with rfl | hmem
      · decide
      · obtain ⟨d, hd, rfl⟩ := mem_hex hmem
        exact isBlank_eq_false (toNat_digitChar_bounds hd).1 (toNat_digitChar_bounds hd).2
  rw [trimmed, String.toList_ofList]
  exact trim_of_ink hink

/-- **Base sixteen text is read as the number that was written**, wrapped around. -/
theorem ofText_hex (n : Nat) :
    ofText (String.ofList ('0' :: 'x' :: hex n)) = .ok ⟨BitVec.ofNat 32 n⟩ := by
  simp only [ofText, trimmed_hex, readNumeral, read_hex, Except.map, ofNumeral]
  rw [ofDigits_eq, Radix.toNat, foldl_hex]
  rfl

theorem toNat_ofNat (n : Nat) : toNat ⟨BitVec.ofNat 32 n⟩ = n % 2 ^ 32 :=
  BitVec.toNat_ofNat n 32

end HostLink.Address
