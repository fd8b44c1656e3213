import HostLink.Proofs.OffsetText
import HostLink.Proofs.Unparse
import Mathlib.Data.List.DropRight
import Mathlib.Data.List.Forall2

/-!
# Literals, as all readers take them

A literal can be read as a spec, as an offset and as the text of an address. All readers come to the
same address, which the last eight digits decide.
-/

namespace HostLink

open Text
open Json (IsDigitOf)

namespace Text

theorem lt_of_forall₂ {base : Nat} {s : List Char} {digits : List Nat}
    (hs : List.Forall₂ (fun c d => d < base ∧ IsDigitOf c d) s digits) :
    ∀ d ∈ digits, d < base := by
  induction hs with
  | nil => simp
  | cons hc _ ih => exact List.forall_mem_cons.mpr ⟨hc.1, ih⟩

/-- The last digits of a number are the remainder that they leave of it. -/
theorem Denotes.rtake {base n : Nat} {s : List Char} (hs : Denotes base s n) (hbase : 0 < base)
    (count : Nat) : Denotes base (s.rtake count) (n % base ^ count) := by
  obtain ⟨digits, hdigits, rfl⟩ := hs
  have hsmall : ∀ d ∈ digits.reverse, d < base := fun d hmem =>
    lt_of_forall₂ hdigits d (List.mem_reverse.mp hmem)
  refine ⟨digits.rtake count, ?_, ?_⟩
  · rw [List.rtake, List.rtake, hdigits.length_eq]
    exact List.forall₂_drop _ hdigits
  · rw [Nat.ofDigits_mod_pow_eq_ofDigits_take count hbase _ hsmall,
      List.rtake_eq_reverse_take_reverse, List.reverse_reverse]

end Text

namespace Address

variable {text : String} {digits : List Char} {n : Nat}

theorem ofText_of_digits (htext : trimmed text = '0' :: 'x' :: digits) (hne : digits ≠ [])
    (hdigits : Denotes 16 digits n) : ofText text = .ok (.ofInt n) := by
  have hread := read_of_hexDigits hne (hdigits.isSome fun _ _ _ => hexDigit?_of_isDigitOf)
  have hvalue := hdigits.positional_eq fun _ _ _ => hexDigit?_of_isDigitOf
  have hnumber : numberOfText text = .ok n := by
    rw [numberOfText, htext, readNumeral, hread]
    simp only [Except.map, Numeral.toInt, Radix.toNat, hvalue, applySign, Bool.false_eq_true,
      if_false]
  rw [ofText_eq, hnumber]
  rfl

end Address

namespace Descriptor

/-- What all readers make of a text that is a literal with blank around it. -/
structure IsReadAlike (text literal : String) (digits : List Char) (a : Address) : Prop where
  trimmed : Text.trimmed text = '0' :: 'x' :: digits
  number : ∃ n, Denotes 16 digits n ∧ a.toNat = n % 2 ^ 32
  lastEight : Denotes 16 (digits.rtake 8) a.toNat
  spec : literalAddress literal = a
  offset : Offset.ofValue (.text text) = .ok a
  address : Address.parse (.text text) = .ok a
  /-- The reader of addresses, which accepts more than digits, takes the literal for the same. -/
  literal : Address.parse (.text literal) = .ok a

/-- **A literal is the same address to all readers**, and none of them refuses it. -/
theorem literal_is_read_alike {text literal : String}
    (hclassify : classify (.text text) = .ok (.hexLiteral literal)) :
    ∃ digits a, IsReadAlike text literal digits a := by
  obtain ⟨-, hread⟩ := classify_eq_ok_iff.mp hclassify
  obtain ⟨digits, htext, hne, hall⟩ := hread.literal.mp ⟨literal, rfl⟩
  have hliteral : literal.toList = trimmed text := hread.unparse
  have htrimmed : trimmed literal = '0' :: 'x' :: digits := by
    rw [trimmed, hliteral, trimmed, trim_trim]
    exact htext
  obtain ⟨n, hn⟩ := exists_denotes fun c hmem => (hall c hmem).imp fun d hc => ⟨hc.1, hc⟩
  have hnumber : (Address.ofInt n).toNat = n % 2 ^ 32 := by
    rw [Address.ofInt_natCast, Address.toNat_ofNat]
  refine ⟨digits, .ofInt n, htext, ⟨n, hn, hnumber⟩, ?_, ?_, ?_, ?_, ?_⟩
  · rw [hnumber]
    exact hn.rtake (by decide) 8
  · rw [literalAddress, hliteral, htext]
    exact Offset.ofHexDigits_of_denotes hn
  · have hhex := Offset.IsHexText.digits (.inl rfl) hne hn
    rw [Offset.ofValue, Offset.parse, htext, hhex.ofTrimmed_eq]
  · exact Address.ofText_of_digits htext hne hn
  · exact Address.ofText_of_digits htrimmed hne hn

theorem padded_literal_is_read_alike :
    classify (.text "\t0x1fF00000010 ") = .ok (.hexLiteral "0x1fF00000010") ∧
      ∃ digits a, IsReadAlike "\t0x1fF00000010 " "0x1fF00000010" digits a :=
  ⟨rfl, literal_is_read_alike rfl⟩

end Descriptor

end HostLink
