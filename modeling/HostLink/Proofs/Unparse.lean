import HostLink.Proofs.Descriptor
import HostLink.Proofs.Spelling
import Mathlib.Data.List.Basic

/-!
# Specs read back

A text that is not blank is read as one descriptor. The marks in the text decide its form, and the
descriptor gives the text back, without the blank at its ends.
-/

namespace HostLink

open Text
open Json (IsDigitOf)

namespace Descriptor

/-! ### Forms of specs -/

/-- `0x` and digits of base sixteen, one at least. -/
def IsLiteralText (t : List Char) : Prop :=
  ∃ digits, t = '0' :: 'x' :: digits ∧ digits ≠ [] ∧ ∀ c ∈ digits, ∃ d, IsDigitOf c d

theorem isHexLiteral_iff {t : List Char} : isHexLiteral t = true ↔ IsLiteralText t := by
  have hdigit : ∀ c, isAsciiHexDigit c = true ↔ ∃ d, IsDigitOf c d := by
    intro c
    simp only [isAsciiHexDigit, Option.isSome_iff_exists, Json.asciiHexDigit?_eq_some_iff]
  constructor
  · intro hhex
    unfold isHexLiteral at hhex
    split at hhex
    · rename_i digits
      simp only [Bool.and_eq_true, Bool.not_eq_true', List.isEmpty_eq_false_iff, List.all_eq_true,
        hdigit] at hhex
      exact ⟨digits, rfl, hhex⟩
    · cases hhex
  · rintro ⟨digits, rfl, hne, hall⟩
    simpa [isHexLiteral, hne, hdigit] using hall

theorem isHexLiteral_eq_false_iff {t : List Char} :
    isHexLiteral t = false ↔ ¬IsLiteralText t := by
  rw [← isHexLiteral_iff, Bool.not_eq_true]

/-- The descriptor gives the text back. The marks in the text decide which form it has: each form
takes what the forms before it leave. -/
structure ReadFrom (d : Descriptor) (t : List Char) : Prop where
  unparse : d.unparse.toList = t
  literal : (∃ text, d = .hexLiteral text) ↔ IsLiteralText t
  symbol : (∃ name symbol, d = .moduleSymbol name symbol) ↔ ¬IsLiteralText t ∧ '!' ∈ t
  offset : (∃ name offset, d = .moduleOffset name offset) ↔
    ¬IsLiteralText t ∧ '!' ∉ t ∧ ':' ∈ t
  bare : (∃ name, d = .bareSymbol name) ↔ ¬IsLiteralText t ∧ '!' ∉ t ∧ ':' ∉ t
  /-- The first mark ends the module, and without a module there is nothing before it. -/
  ofSymbol : ∀ name symbol, d = .moduleSymbol name symbol →
    (name = none ↔ t.head? = some '!') ∧ ∀ known, name = some known → '!' ∉ known.toList
  ofOffset : ∀ name offset, d = .moduleOffset name offset → ':' ∉ name.toList

theorem toList_unparse_symbol (name : Option String) (symbol : String) :
    (unparse (.moduleSymbol name symbol)).toList =
      (name.getD "").toList ++ '!' :: symbol.toList := by
  simp [Descriptor.unparse]

theorem toList_unparse_offset (name offset : String) :
    (unparse (.moduleOffset name offset)).toList = name.toList ++ ':' :: offset.toList := by
  simp [Descriptor.unparse]

variable {d : Descriptor} {t : List Char}

theorem readFrom_literal (hliteral : IsLiteralText t) :
    (hexLiteral (String.ofList t)).ReadFrom t := by
  constructor <;> simp [hliteral, Descriptor.unparse]

theorem readFrom_symbol {name symbol : List Char} (hname : '!' ∉ name)
    (hother : ¬IsLiteralText (name ++ '!' :: symbol)) :
    (moduleSymbol (if name = [] then none else some (String.ofList name))
      (String.ofList symbol)).ReadFrom (name ++ '!' :: symbol) := by
  cases name with
  | nil => constructor <;> simp_all [Descriptor.unparse]
  | cons c name =>
      have hc : c ≠ '!' := fun heq => hname (heq ▸ List.mem_cons_self)
      constructor <;> simp_all [Descriptor.unparse]

theorem readFrom_offset {name offset : List Char} (hname : ':' ∉ name)
    (hplain : '!' ∉ name ++ ':' :: offset) (hother : ¬IsLiteralText (name ++ ':' :: offset)) :
    (moduleOffset (String.ofList name) (String.ofList offset)).ReadFrom
      (name ++ ':' :: offset) := by
  constructor <;> simp_all [Descriptor.unparse]

theorem readFrom_bare (hother : ¬IsLiteralText t) (hbang : '!' ∉ t) (hcolon : ':' ∉ t) :
    (bareSymbol (String.ofList t)).ReadFrom t := by
  constructor <;> simp [hother, hbang, hcolon, Descriptor.unparse]

theorem readFrom_ofTrimmed (t : List Char) : (ofTrimmed t).ReadFrom t := by
  by_cases hliteral : IsLiteralText t
  · rw [ofTrimmed_of_isHexLiteral (isHexLiteral_iff.mpr hliteral)]
    exact readFrom_literal hliteral
  · have hhex := isHexLiteral_eq_false_iff.mpr hliteral
    by_cases hbang : '!' ∈ t
    · obtain ⟨name, symbol, rfl, hname⟩ := List.eq_append_cons_of_mem hbang
      rw [ofTrimmed_symbol hname hhex]
      exact readFrom_symbol hname hliteral
    · by_cases hcolon : ':' ∈ t
      · obtain ⟨name, offset, rfl, hname⟩ := List.eq_append_cons_of_mem hcolon
        rw [ofTrimmed_offset hname hbang hhex]
        exact readFrom_offset hname hbang hliteral
      · rw [ofTrimmed_bare hbang hcolon hhex]
        exact readFrom_bare hliteral hbang hcolon

/-- No other descriptor is read from the text. -/
theorem ReadFrom.eq_ofTrimmed (hread : d.ReadFrom t) : d = ofTrimmed t := by
  by_cases hliteral : IsLiteralText t
  · obtain ⟨text, rfl⟩ := hread.literal.mpr hliteral
    obtain rfl : text.toList = t := hread.unparse
    rw [ofTrimmed_of_isHexLiteral (isHexLiteral_iff.mpr hliteral), String.ofList_toList]
  · have hhex := isHexLiteral_eq_false_iff.mpr hliteral
    by_cases hbang : '!' ∈ t
    · obtain ⟨name, symbol, rfl⟩ := hread.symbol.mpr ⟨hliteral, hbang⟩
      obtain ⟨hnone, hknown⟩ := hread.ofSymbol name symbol rfl
      have ht := hread.unparse
      rw [toList_unparse_symbol] at ht
      subst ht
      cases name with
      | none =>
          have hsymbol := ofTrimmed_symbol (List.not_mem_nil (a := '!')) hhex
          rw [if_pos rfl, String.ofList_toList] at hsymbol
          exact hsymbol.symm
      | some known =>
          have hne : known.toList ≠ [] := by
            intro hempty
            have hhead : (known.toList ++ '!' :: symbol.toList).head? = some '!' := by
              rw [hempty]
              rfl
            cases hnone.mpr hhead
          have hsymbol := ofTrimmed_symbol (hknown known rfl) hhex
          rw [if_neg hne, String.ofList_toList, String.ofList_toList] at hsymbol
          exact hsymbol.symm
    · by_cases hcolon : ':' ∈ t
      · obtain ⟨name, offset, rfl⟩ := hread.offset.mpr ⟨hliteral, hbang, hcolon⟩
        have ht := hread.unparse
        rw [toList_unparse_offset] at ht
        subst ht
        rw [ofTrimmed_offset (hread.ofOffset name offset rfl) hbang hhex, String.ofList_toList,
          String.ofList_toList]
      · obtain ⟨name, rfl⟩ := hread.bare.mpr ⟨hliteral, hbang, hcolon⟩
        obtain rfl : name.toList = t := hread.unparse
        rw [ofTrimmed_bare hbang hcolon hhex, String.ofList_toList]

/-- **A text is read as one descriptor**, that which gives it back in the form of its marks. -/
theorem readFrom_iff : d.ReadFrom t ↔ d = ofTrimmed t :=
  ⟨ReadFrom.eq_ofTrimmed, fun heq => heq ▸ readFrom_ofTrimmed t⟩

/-! ### Specs -/

theorem classify_of_trimmed_eq_nil {text : String} (hnil : trimmed text = []) :
    classify (.text text) = .error (.unsupportedSpec (.text text)) := by
  rw [classify, hnil]
  dsimp only
  rw [refuse, Value.quoted?]

theorem classify_of_trimmed_ne_nil {text : String} (hne : trimmed text ≠ []) :
    classify (.text text) = .ok (ofTrimmed (trimmed text)) := by
  refine classify_of_hasInk ?_
  by_contra hblank
  exact hne (trimmed_eq_nil_iff.mpr (by simpa using hblank))

theorem classify_eq_ok_iff {text : String} :
    classify (.text text) = .ok d ↔ trimmed text ≠ [] ∧ d.ReadFrom (trimmed text) := by
  by_cases hnil : trimmed text = []
  · rw [classify_of_trimmed_eq_nil hnil]
    exact iff_of_false nofun fun hread => hread.1 hnil
  · rw [classify_of_trimmed_ne_nil hnil, readFrom_iff, Except.ok.injEq, eq_comm]
    exact (and_iff_right hnil).symm

/-- Only the text between the blank at the ends counts. A failure shows the whole spec. -/
theorem classify_congr {text other : String} (hsame : trimmed text = trimmed other) :
    (classify (.text text)).mapError Fault.kind =
      (classify (.text other)).mapError Fault.kind := by
  by_cases hnil : trimmed text = []
  · rw [classify_of_trimmed_eq_nil hnil, classify_of_trimmed_eq_nil (hsame ▸ hnil)]
    rfl
  · rw [classify_of_trimmed_ne_nil hnil, classify_of_trimmed_ne_nil (hsame ▸ hnil), hsame]

/-- How specs and descriptors are texts of each other. -/
structure Unparses : Prop where
  /-- A text that is not blank is read as the only descriptor that gives it back in the form of its
  marks. -/
  reads : ∀ text : String, trimmed text ≠ [] →
    (∃ d, classify (.text text) = .ok d) ∧
      ∀ d, classify (.text text) = .ok d ↔ d.ReadFrom (trimmed text)
  rereads : ∀ (text : String) d, classify (.text text) = .ok d →
    classify (.text d.unparse) = .ok d
  /-- Blank around a text changes nothing, but that a failure shows it with the text. -/
  padded : ∀ front text back : List Char, (∀ c ∈ front ++ back, isBlank c = true) →
    (classify (.text (String.ofList (front ++ text ++ back)))).mapError Fault.kind =
      (classify (.text (String.ofList text))).mapError Fault.kind
  blank : ∀ text : String, (∀ c ∈ text.toList, isBlank c = true) →
    classify (.text text) = .error (.unsupportedSpec (.text text))

/-- **Specs and descriptors are texts of each other**, up to the blank around a spec. -/
theorem unparses : Unparses where
  reads text hne := by
    refine ⟨⟨_, classify_of_trimmed_ne_nil hne⟩, fun d => ?_⟩
    rw [classify_eq_ok_iff]
    exact and_iff_right hne
  rereads text d hclassify := by
    obtain ⟨hne, hread⟩ := classify_eq_ok_iff.mp hclassify
    have htrimmed : trimmed d.unparse = trimmed text := by
      rw [trimmed, hread.unparse, trimmed, trim_trim]
    rw [classify_eq_ok_iff, htrimmed]
    exact ⟨hne, hread⟩
  padded front text back hblank := by
    refine classify_congr ?_
    rw [trimmed, trimmed, String.toList_ofList, String.toList_ofList, trim_surrounded hblank]
  blank text hblank := classify_of_trimmed_eq_nil (trim_eq_nil_iff.mpr hblank)

end Descriptor

end HostLink
