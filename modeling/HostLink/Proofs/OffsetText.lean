import HostLink.Proofs.NumberText
import HostLink.Proofs.Offset
import HostLink.Proofs.Trail
import Mathlib.Data.Nat.Digits.Defs

/-!
# Offsets as they are written

The digits of a text stand for a number. An offset is the number that its digits stand for, with its
sign if it is decimal, wrapped around. Text that is written in any other way is no offset, and
counts as zero.
-/

namespace HostLink

open Text
open Json (IsDigitOf IsSign)

/-! ### Digits and their number -/

namespace Text

/-- Digits in a base, and the number that they stand for: the last digit counts once, and any other
digit as often as its place says. -/
def Denotes (base : Nat) (s : List Char) (n : Nat) : Prop :=
  ∃ digits : List Nat, List.Forall₂ (fun c d => d < base ∧ IsDigitOf c d) s digits ∧
    n = Nat.ofDigits base digits.reverse

theorem weighted_eq_ofDigits (base : Nat) (digits : List Nat) :
    weighted base digits = Nat.ofDigits base digits := by
  induction digits with
  | nil => rfl
  | cons d rest ih => rw [weighted, ih, Nat.ofDigits_cons]

theorem positional_eq_ofDigits (base : Nat) (digits : List Nat) :
    positional base digits = Nat.ofDigits base digits.reverse := by
  rw [positional, joined_eq_weighted, weighted_eq_ofDigits]

variable {base n : Nat} {s : List Char}

theorem exists_denotes (hall : ∀ c ∈ s, ∃ d < base, IsDigitOf c d) : ∃ n, Denotes base s n := by
  have hdigits : ∃ digits : List Nat,
      List.Forall₂ (fun c d => d < base ∧ IsDigitOf c d) s digits := by
    induction s with
    | nil => exact ⟨[], .nil⟩
    | cons c rest ih =>
        obtain ⟨d, hd, hc⟩ := hall c List.mem_cons_self
        obtain ⟨digits, hrest⟩ := ih fun e hmem => hall e (List.mem_cons_of_mem _ hmem)
        exact ⟨d :: digits, .cons ⟨hd, hc⟩ hrest⟩
  obtain ⟨digits, hdigits⟩ := hdigits
  exact ⟨_, digits, hdigits, rfl⟩

section Readers

/-! Any reader of single digits finds the digits that stand for the number. -/

variable {digit? : Char → Option Nat}

theorem filterMap_of_forall₂ (hdigit : ∀ c d, d < base → IsDigitOf c d → digit? c = some d)
    {digits : List Nat} (hs : List.Forall₂ (fun c d => d < base ∧ IsDigitOf c d) s digits) :
    s.filterMap digit? = digits := by
  induction hs with
  | nil => rfl
  | cons hc _ ih => rw [List.filterMap_cons_some (hdigit _ _ hc.1 hc.2), ih]

theorem Denotes.isSome (hs : Denotes base s n)
    (hdigit : ∀ c d, d < base → IsDigitOf c d → digit? c = some d) :
    ∀ c ∈ s, (digit? c).isSome = true := by
  obtain ⟨digits, hdigits, -⟩ := hs
  induction hdigits with
  | nil => simp
  | cons hc _ ih =>
      refine List.forall_mem_cons.mpr ⟨?_, ih⟩
      rw [hdigit _ _ hc.1 hc.2]
      rfl

theorem Denotes.positional_eq (hs : Denotes base s n)
    (hdigit : ∀ c d, d < base → IsDigitOf c d → digit? c = some d) :
    positional base (s.filterMap digit?) = n := by
  obtain ⟨digits, hdigits, rfl⟩ := hs
  rw [filterMap_of_forall₂ hdigit hdigits, positional_eq_ofDigits]

end Readers

theorem hexDigit?_of_isDigitOf {c : Char} {d : Nat} (hc : IsDigitOf c d) :
    hexDigit? c = some d := by
  have hall : ∀ d < 16, hexDigit? d.digitChar = some d ∧
      hexDigit? d.digitChar.toUpper = some d := by decide
  obtain ⟨hd, rfl | rfl⟩ := hc
  · exact (hall d hd).1
  · exact (hall d hd).2

theorem asciiDigit?_of_isDigitOf {c : Char} {d : Nat} (hd : d < 10) (hc : IsDigitOf c d) :
    asciiDigit? c = some d := by
  have hall : ∀ d < 10, asciiDigit? d.digitChar = some d ∧
      asciiDigit? d.digitChar.toUpper = some d := by decide
  obtain ⟨-, rfl | rfl⟩ := hc
  · exact (hall d hd).1
  · exact (hall d hd).2

theorem decimalDigit?_of_isDigitOf {c : Char} {d : Nat} (hd : d < 10) (hc : IsDigitOf c d) :
    decimalDigit? c = some d := by
  have hdigit := asciiDigit?_of_isDigitOf hd hc
  rw [decimalDigit?_of_isAsciiDigit (by rw [isAsciiDigit, hdigit]; rfl), hdigit]

/-- The digits of a number stand for it. -/
theorem denotes_toDigits (hlow : 1 < base) (hhigh : base ≤ 16) (n : Nat) :
    Denotes base (Nat.toDigits base n) n := by
  have hall : ∀ c ∈ Nat.toDigits base n, ∃ d < base, IsDigitOf c d := by
    intro c hmem
    obtain ⟨d, hd, rfl⟩ := mem_toDigits hlow hmem
    exact ⟨d, hd, by omega, .inl rfl⟩
  obtain ⟨m, hm⟩ := exists_denotes hall
  have hvalue := hm.positional_eq fun _ _ _ => hexDigit?_of_isDigitOf
  rw [positional_eq_foldl, foldl_toDigits hlow fun d hd => hexDigit?_digitChar (by omega)] at hvalue
  exact hvalue ▸ hm

end Text

namespace Offset

/-! ### Forms of offsets -/

/-- The mark of base sixteen, and digits that stand for `n`. -/
inductive IsHexText : List Char → Nat → Prop
  | digits {x digits n} (hx : x = 'x' ∨ x = 'X') (hne : digits ≠ [])
      (hdigits : Denotes 16 digits n) : IsHexText ('0' :: x :: digits) n

/-- Decimal digits after an optional sign, with the number that they stand for and their count. -/
inductive IsDecimalText : List Char → Int → Nat → Prop
  | digits {negative sign digits n} (hsign : IsSign negative sign) (hne : digits ≠ [])
      (hdigits : Denotes 10 digits n) :
      IsDecimalText (sign ++ digits) (applySign negative n) digits.length

variable {t : List Char} {n count : Nat} {i : Int}

theorem ofHexDigits_of_denotes {digits : List Char} (hdigits : Denotes 16 digits n) :
    ofHexDigits digits = .ofInt n := by
  have hvalue := hdigits.positional_eq fun _ _ _ => Json.asciiHexDigit?_eq_some_iff.mpr
  rw [ofHexDigits, Address.ofDigits_eq, ← positional_eq_foldl, hvalue, Address.ofInt_natCast]

theorem hexDigits?_of_isHexText {x : Char} {digits : List Char} (hx : x = 'x' ∨ x = 'X')
    (hne : digits ≠ []) (hdigits : Denotes 16 digits n) :
    hexDigits? ('0' :: x :: digits) = some digits := by
  have hall := hdigits.isSome fun _ _ _ => Json.asciiHexDigit?_eq_some_iff.mpr
  rw [hexDigits?, if_pos ⟨hx, hne, List.all_eq_true.mpr hall⟩]

theorem IsHexText.ofTrimmed_eq (ht : IsHexText t n) : ofTrimmed t = .ok (.ofInt n) := by
  obtain ⟨hx, hne, hdigits⟩ := ht
  rw [ofTrimmed, hexDigits?_of_isHexText hx hne hdigits, ← ofHexDigits_of_denotes hdigits]

theorem exists_isHexText {digits : List Char} (hdigits : hexDigits? t = some digits) :
    ∃ n, IsHexText t n := by
  unfold hexDigits? at hdigits
  split at hdigits
  · rename_i x found
    by_cases hmark : (x = 'x' ∨ x = 'X') ∧ found ≠ [] ∧ found.all isAsciiHexDigit = true
    · obtain ⟨hx, hne, hall⟩ := hmark
      have hdigits : ∀ c ∈ found, ∃ d < 16, IsDigitOf c d := by
        intro c hmem
        obtain ⟨d, hd⟩ := Option.isSome_iff_exists.mp (List.all_eq_true.mp hall c hmem)
        have hc := Json.asciiHexDigit?_eq_some_iff.mp hd
        exact ⟨d, hc.1, hc⟩
      obtain ⟨n, hn⟩ := exists_denotes hdigits
      exact ⟨n, .digits hx hne hn⟩
    · rw [if_neg hmark] at hdigits
      cases hdigits
  · cases hdigits

theorem splitSign_of_isSign {negative : Bool} {sign digits : List Char}
    (hsign : IsSign negative sign) (hdigits : ∀ c ∈ digits, isAsciiDigit c = true) :
    Text.splitSign (sign ++ digits) = (negative, digits) := by
  cases hsign with
  | plus => rfl
  | minus => rfl
  | none =>
      rw [List.nil_append]
      unfold Text.splitSign
      split
      · exact absurd (hdigits '-' List.mem_cons_self) (by decide)
      · exact absurd (hdigits '+' List.mem_cons_self) (by decide)
      · rfl

theorem exists_isSign (s : List Char) :
    ∃ sign, IsSign (Text.splitSign s).1 sign ∧ s = sign ++ (Text.splitSign s).2 := by
  unfold Text.splitSign
  split
  · exact ⟨['-'], .minus, rfl⟩
  · exact ⟨['+'], .plus, rfl⟩
  · exact ⟨[], .none, rfl⟩

theorem isDecimal_of_digits {negative : Bool} {sign digits : List Char}
    (hsign : IsSign negative sign) (hne : digits ≠ [])
    (hdigits : ∀ c ∈ digits, isAsciiDigit c = true) : isDecimal (sign ++ digits) = true := by
  rw [isDecimal_iff, splitSign_of_isSign hsign hdigits]
  exact ⟨hne, hdigits⟩

theorem IsDecimalText.isDecimal (ht : IsDecimalText t i count) : isDecimal t = true := by
  obtain ⟨hsign, hne, hdigits⟩ := ht
  exact isDecimal_of_digits hsign hne (hdigits.isSome fun _ _ => asciiDigit?_of_isDigitOf)

theorem IsDecimalText.ofTrimmed_eq (ht : IsDecimalText t i count) :
    ofTrimmed t =
      if decimalDigitLimit < count then .error (.numeralTooLong count) else .ok (.ofInt i) := by
  have hdecimal := ht.isDecimal
  obtain ⟨hsign, hne, hdigits⟩ := ht
  have hall := hdigits.isSome fun _ _ => asciiDigit?_of_isDigitOf
  have hvalue := hdigits.positional_eq fun _ _ => decimalDigit?_of_isDigitOf
  rw [ofTrimmed_of_isDecimal hdecimal, splitSign_of_isSign hsign hall, Address.ofNumeral_eq,
    Numeral.toInt, Radix.toNat, hvalue]

theorem exists_isDecimalText (hdecimal : isDecimal t = true) :
    ∃ i count, IsDecimalText t i count := by
  obtain ⟨hne, hall⟩ := isDecimal_iff.mp hdecimal
  obtain ⟨sign, hsign, ht⟩ := exists_isSign t
  have hdigits : ∀ c ∈ (Text.splitSign t).2, ∃ d < 10, IsDigitOf c d := by
    intro c hmem
    obtain ⟨d, hd, rfl⟩ := Json.digitChar_of_isAsciiDigit (hall c hmem)
    exact ⟨d, hd, by omega, .inl rfl⟩
  obtain ⟨n, hn⟩ := exists_denotes hdigits
  have htext := IsDecimalText.digits hsign hne hn
  rw [← ht] at htext
  exact ⟨_, _, htext⟩

/-- Text of neither form counts as zero. -/
theorem ofTrimmed_of_other (hhex : ∀ n, ¬IsHexText t n)
    (hdecimal : ∀ i count, ¬IsDecimalText t i count) : ofTrimmed t = .ok .zero := by
  have hnone : hexDigits? t = none := by
    rw [Option.eq_none_iff_forall_ne_some]
    intro digits hdigits
    obtain ⟨n, hn⟩ := exists_isHexText hdigits
    exact hhex n hn
  have hfalse : ¬isDecimal t = true := by
    intro htrue
    obtain ⟨i, count, hi⟩ := exists_isDecimalText htrue
    exact hdecimal i count hi
  rw [ofTrimmed, hnone]
  exact if_neg hfalse

/-! ### Numbers as offsets -/

theorem isDecimalText_decimalInt (n : Int) :
    IsDecimalText (decimalInt n) n (decimal n.natAbs).length := by
  have hdigits : Denotes 10 (decimal n.natAbs) n.natAbs :=
    denotes_toDigits (by decide) (by decide) n.natAbs
  have hne : decimal n.natAbs ≠ [] := Nat.toDigits_ne_nil
  by_cases hneg : n < 0
  · have htext := IsDecimalText.digits .minus hne hdigits
    have hvalue : applySign true n.natAbs = n := by
      rw [applySign, if_pos rfl]
      omega
    rw [hvalue] at htext
    rw [decimalInt, if_pos hneg]
    exact htext
  · have htext := IsDecimalText.digits .none hne hdigits
    have hvalue : applySign false n.natAbs = n := by
      rw [applySign, if_neg Bool.false_ne_true]
      omega
    rw [hvalue] at htext
    rw [decimalInt, if_neg hneg]
    exact htext

theorem isHexText_hex (n : Nat) : IsHexText ('0' :: 'x' :: hex n) n :=
  .digits (.inl rfl) (hex_ne_nil n) (denotes_toDigits (by decide) (by decide) n)

/-- What texts are worth as offsets. -/
structure WorthAsWritten : Prop where
  hex : ∀ text n, IsHexText (trimmed text) n →
    ∃ a, ofValue (.text text) = .ok a ∧ a.toNat = n % 2 ^ 32
  decimal : ∀ text i count, IsDecimalText (trimmed text) i count → count ≤ decimalDigitLimit →
    ∃ a, ofValue (.text text) = .ok a ∧ (a.toNat : Int) = i % 2 ^ 32
  /-- Zeros in front count as digits, and the sign does not. -/
  overlong : ∀ text i count, IsDecimalText (trimmed text) i count → decimalDigitLimit < count →
    ∃ fault, ofValue (.text text) = .error fault ∧ fault.kind = .badValue
  other : ∀ text, (∀ n, ¬IsHexText (trimmed text) n) →
    (∀ i count, ¬IsDecimalText (trimmed text) i count) → ofValue (.text text) = .ok .zero
  absent : ofValue .null = .ok .zero
  /-- Every number that has a decimal text is worth itself. -/
  number : ∀ n : Int, n.natAbs < 10 ^ decimalDigitLimit →
    ∃ text a, (Value.int n).toText = .ok text ∧ ofValue (.text text) = .ok a ∧
      (a.toNat : Int) = n % 2 ^ 32
  hexNumber : ∀ n : Nat, ∃ a,
    ofValue (.text (String.ofList ('0' :: 'x' :: Text.hex n))) = .ok a ∧ a.toNat = n % 2 ^ 32

/-- **An offset is worth what is written**, and any other text is worth nothing. -/
theorem worthAsWritten : WorthAsWritten where
  hex text n hhex := by
    refine ⟨.ofInt n, hhex.ofTrimmed_eq, ?_⟩
    rw [Address.ofInt_natCast, Address.toNat_ofNat]
  decimal text i count hdecimal hshort :=
    ⟨.ofInt i, hdecimal.ofTrimmed_eq.trans (if_neg (Nat.not_lt.mpr hshort)),
      Address.toNat_ofInt i⟩
  overlong text i count hdecimal hlong :=
    ⟨.numeralTooLong count, hdecimal.ofTrimmed_eq.trans (if_pos hlong), rfl⟩
  other text hhex hdecimal := ofTrimmed_of_other hhex hdecimal
  absent := rfl
  number n hsmall := by
    have hdecimal := isDecimalText_decimalInt n
    have hwritten : decimalInt? n = some (decimalInt n) := by
      rw [decimalInt?, Nat.pow_eq, if_pos hsmall]
    have htext : (Value.int n).toText = .ok (String.ofList (decimalInt n)) := by
      simp only [Value.toText, Value.text?, Value.quoted?, hwritten]
    have hshort : (Text.decimal n.natAbs).length ≤ decimalDigitLimit :=
      Nat.toDigits_length 10 n.natAbs decimalDigitLimit (by decide) hsmall
    have htrimmed : trimmed (String.ofList (decimalInt n)) = decimalInt n := by
      rw [trimmed, String.toList_ofList, trim_of_ink (isBlank_of_isDecimal hdecimal.isDecimal)]
    refine ⟨_, .ofInt n, htext, ?_, Address.toNat_ofInt n⟩
    rw [ofValue, parse, htrimmed, hdecimal.ofTrimmed_eq, if_neg (Nat.not_lt.mpr hshort)]
  hexNumber n := by
    refine ⟨.ofInt n, ?_, ?_⟩
    · rw [ofValue, parse, Address.trimmed_hex, (isHexText_hex n).ofTrimmed_eq]
    · rw [Address.ofInt_natCast, Address.toNat_ofNat]

end Offset

end HostLink
