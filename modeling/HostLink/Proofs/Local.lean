import HostLink.Proofs.Dealings
import HostLink.Proofs.Trail

/-!
# Specs that need no host

Addresses, whole numbers and base sixteen literals stand for an address by themselves: nothing is
called, heard or noted when they are resolved. What a spec came to is among them, in each of its
spellings. Any other text that is not blank costs one evaluation.
-/

namespace HostLink

/-! ### Literals in any case, and padded -/

namespace Text

theorem asciiHexDigit?_digitChar {d : Nat} (hd : d < 16) : asciiHexDigit? d.digitChar = some d := by
  interval_cases d <;> decide

/-- A digit is worth the same in upper and in lower case. -/
theorem asciiHexDigit?_toLower (c : Char) : asciiHexDigit? c.toLower = asciiHexDigit? c := by
  have hlow : ∀ n < 0x5b,
      asciiHexDigit? (Char.ofNat n).toLower = asciiHexDigit? (Char.ofNat n) := by decide
  by_cases hupper : c.val ≥ 'A'.val ∧ c.val ≤ 'Z'.val
  · have hc := hlow c.toNat (Nat.lt_succ_of_le (UInt32.le_iff_toNat_le.mp hupper.2))
    rwa [Char.ofNat_toNat] at hc
  · exact congrArg asciiHexDigit? (dif_neg hupper)

theorem isBlank_of_isAsciiHexDigit {c : Char} (hdigit : isAsciiHexDigit c = true) :
    isBlank c = false := by
  have hrange : 0x21 ≤ c.toNat ∧ c.toNat < 0x85 := by
    unfold isAsciiHexDigit asciiHexDigit? asciiDigit? letterDigit? at hdigit
    split at hdigit <;> split at hdigit <;> simp at * <;> omega
  exact isBlank_eq_false hrange.1 hrange.2

section

variable {digits : List Char} {n : Nat}

theorem isAsciiHexDigit_of_digits (hdigits : digits.map Char.toLower = hex n) :
    ∀ c ∈ digits, isAsciiHexDigit c = true := by
  intro c hmem
  have hlower : c.toLower ∈ hex n := hdigits ▸ List.mem_map_of_mem hmem
  obtain ⟨d, hd, heq⟩ := mem_hex hlower
  rw [isAsciiHexDigit, ← asciiHexDigit?_toLower, heq, asciiHexDigit?_digitChar hd]
  rfl

/-- Zeros in front and the case of the digits do not change the address. -/
theorem ofHexDigits_of_digits (hdigits : digits.map Char.toLower = hex n) (zeros : Nat) :
    Offset.ofHexDigits (List.replicate zeros '0' ++ digits) = .ofInt n := by
  have hzeros : ∀ zeros, ((List.replicate zeros '0').filterMap asciiHexDigit?).foldl
      (fun m d => m * 16 + d) 0 = 0 := by
    intro zeros
    induction zeros with
    | zero => rfl
    | succ zeros ih => exact ih
  have hlower : digits.filterMap asciiHexDigit? = (hex n).filterMap asciiHexDigit? := by
    rw [← hdigits, List.filterMap_map]
    exact List.filterMap_congr fun c _ => (asciiHexDigit?_toLower c).symm
  have hvalue : ((hex n).filterMap asciiHexDigit?).foldl (fun m d => m * 16 + d) 0 = n :=
    foldl_toDigits (by decide) (fun _ => asciiHexDigit?_digitChar) n
  rw [Offset.ofHexDigits, Address.ofDigits_eq, List.filterMap_append, List.foldl_append, hzeros,
    hlower, hvalue, Address.ofInt_natCast]

end

end Text

open Text

/-- Text of a base sixteen literal: a small `x`, digits of either case, any zeros before them, and
any blank around it all. -/
def IsLiteralOf (n : Nat) (text : String) : Prop :=
  ∃ (front digits back : List Char) (zeros : Nat), (∀ c ∈ front ++ back, isBlank c = true) ∧
    digits.map Char.toLower = hex n ∧
    text = String.ofList
      (front ++ '0' :: 'x' :: (List.replicate zeros '0' ++ digits) ++ back)

theorem IsLiteralOf.trimmed {n : Nat} {text : String} (hliteral : IsLiteralOf n text) :
    ∃ digits, trimmed text = '0' :: 'x' :: digits ∧ digits ≠ [] ∧
      (∀ c ∈ digits, isAsciiHexDigit c = true) ∧ Offset.ofHexDigits digits = .ofInt n := by
  obtain ⟨front, digits, back, zeros, hblank, hdigits, rfl⟩ := hliteral
  have hall : ∀ c ∈ List.replicate zeros '0' ++ digits, isAsciiHexDigit c = true := by
    intro c hmem
    rcases List.mem_append.mp hmem with hmem | hmem
    · rw [List.eq_of_mem_replicate hmem]
      decide
    · exact isAsciiHexDigit_of_digits hdigits c hmem
  have hne : digits ≠ [] := by
    rintro rfl
    exact hex_ne_nil n hdigits.symm
  refine ⟨List.replicate zeros '0' ++ digits, ?_, by simp [hne], hall,
    ofHexDigits_of_digits hdigits zeros⟩
  rw [Text.trimmed, String.toList_ofList, trim_surrounded hblank, trim_of_ink]
  intro c hmem
  rcases List.mem_cons.mp hmem with rfl | hmem
  · decide
  · rcases List.mem_cons.mp hmem with rfl | hmem
    · decide
    · exact isBlank_of_isAsciiHexDigit (hall c hmem)

/-- The text of an address is a literal of its number. -/
theorem Address.isLiteralOf_toText (a : Address) : IsLiteralOf a.toNat a.toText := by
  have hlower : ∀ c ∈ hex a.toNat, c.toLower = c := by
    have hdigit : ∀ d < 16, d.digitChar.toLower = d.digitChar := by decide
    intro c hmem
    obtain ⟨d, hd, rfl⟩ := mem_hex hmem
    exact hdigit d hd
  refine ⟨[], hex a.toNat, [], 0, by simp, ?_, ?_⟩
  · rw [List.map_congr_left hlower, List.map_id']
  · rw [List.append_nil]
    rfl

/-! ### Standing for an address -/

/-- Resolving the spec gives the address, and does nothing else. -/
def Value.StandsFor (spec : Value) (a : Address) : Prop :=
  ∀ (session : Session) (s : Surroundings), session.resolve spec s = ⟨.returned a, [], s⟩

/-- An address, its text and its number. -/
def Address.spellings (a : Address) : List Value :=
  [.address a, .text a.toText, .int a.toNat]

namespace Value

open Run

theorem standsFor_of_localAddress? {spec : Value} {d : Descriptor} {a : Address}
    (hother : ∀ b, spec ≠ .address b) (hclassify : Descriptor.classify spec = .ok d)
    (hlocal : d.localAddress? = some a) : spec.StandsFor a := by
  intro session s
  unfold Session.resolve
  split
  · exact absurd rfl (hother _)
  · rw [session.classify_of_ok hclassify, bind_of_pure (ofExcept_ok d)]
    simp only [hlocal]
    rfl

theorem standsFor_address (a : Address) : (Value.address a).StandsFor a :=
  fun _ _ => rfl

theorem standsFor_int (n : Int) : (Value.int n).StandsFor (.ofInt n) :=
  standsFor_of_localAddress? (fun _ => Value.noConfusion) rfl rfl

theorem standsFor_literal {n : Nat} {text : String} (hliteral : IsLiteralOf n text) :
    (Value.text text).StandsFor (.ofInt n) := by
  obtain ⟨digits, htrimmed, hne, hall, haddress⟩ := hliteral.trimmed
  have hhex : Descriptor.isHexLiteral (trimmed text) = true := by
    rw [htrimmed]
    simpa [Descriptor.isHexLiteral, hne] using hall
  have hink : hasInk text = true := by
    by_contra hblank
    rw [trimmed_eq_nil_iff.mpr (by simpa using hblank)] at htrimmed
    cases htrimmed
  refine standsFor_of_localAddress? (fun _ => Value.noConfusion)
    ((Descriptor.classify_of_hasInk hink).trans
      (congrArg Except.ok (Descriptor.ofTrimmed_of_isHexLiteral hhex))) ?_
  rw [Descriptor.localAddress?, Descriptor.literalAddress, String.toList_ofList, htrimmed]
  exact congrArg some haddress

/-- **An address is known in each of its spellings.** -/
theorem standsFor_of_mem_spellings {a : Address} {spec : Value} (hmem : spec ∈ a.spellings) :
    spec.StandsFor a := by
  have htext := standsFor_literal a.isLiteralOf_toText
  have hnumber := standsFor_int a.toNat
  rw [a.ofInt_toNat] at htext hnumber
  rcases List.mem_cons.mp hmem with rfl | hmem
  · exact standsFor_address a
  · rcases List.mem_cons.mp hmem with rfl | hmem
    · exact htext
    · rwa [List.mem_singleton.mp hmem]

end Value

/-! ### What needs the host, and what does not -/

namespace Session

/-- Which specs are resolved without the host, and what the others cost. -/
structure ResolvesLocally (session : Session) : Prop where
  address : ∀ (a : Address) (s : Surroundings), ∀ spec ∈ a.spellings,
    session.resolve spec s = ⟨.returned a, [], s⟩
  number : ∀ (n : Nat) (s : Surroundings), ∃ a : Address, a.toNat = n % 2 ^ 32 ∧
    session.resolve (.int n) s = ⟨.returned a, [], s⟩ ∧
    ∀ text, IsLiteralOf n text → session.resolve (.text text) s = ⟨.returned a, [], s⟩
  /-- What a spec came to is resolved again in the surroundings that it left behind. -/
  again : ∀ (spec : Value) (s after : Surroundings) (a : Address) (journal : Journal),
    session.resolve spec s = ⟨.returned a, journal, after⟩ →
      ∀ spec ∈ a.spellings, session.resolve spec after = ⟨.returned a, [], after⟩
  /-- Any other text is looked up by one program: the calls of the host are those of one evaluation
  of it, and so is what becomes of the host. -/
  once : ∀ text : String, trimmed text ≠ [] → Descriptor.isHexLiteral (trimmed text) = false →
    ∃ program, ∀ s, (session.resolve (.text text) s).dealings = session.errand program s

/-- **Addresses, numbers and literals need no host, and any other text needs it once.** -/
theorem resolvesLocally (session : Session) : session.ResolvesLocally where
  address a s spec hmem := Value.standsFor_of_mem_spellings hmem session s
  number n s := by
    refine ⟨.ofInt n, ?_, Value.standsFor_int n session s, fun text hliteral =>
      Value.standsFor_literal hliteral session s⟩
    rw [Address.ofInt_natCast, Address.toNat_ofNat]
  again spec s after a journal _ other hmem := Value.standsFor_of_mem_spellings hmem session after
  once text htrimmed hhex := by
    have hink : hasInk text = true := by
      by_contra hblank
      exact htrimmed (trimmed_eq_nil_iff.mpr (by simpa using hblank))
    obtain ⟨request, hrequest⟩ := Descriptor.request?_ofTrimmed hhex
    have hspec : (Value.text text).request? = some request := by
      rw [Value.request?, if_pos hink, hrequest]
    exact ⟨request.program, fun s => dealings_resolve session hspec s⟩

end Session

end HostLink
