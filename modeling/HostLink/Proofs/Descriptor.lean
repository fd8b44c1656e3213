import HostLink.Proofs.Blank
import HostLink.Proofs.Offset
import HostLink.Proofs.Request
import HostLink.Descriptor

/-!
# What specs name

A spec is refused, or stands for an address by itself, or makes a request of the host. The request
and what is made of its answer depend on the descriptor alone.
-/

namespace HostLink

open Text

/-- Specs that name something: addresses, integral values, and text that is not blank. A surrogate
is never blank. -/
def Value.IsSpec (v : Value) : Prop :=
  (∃ a, v = .address a) ∨ (∃ n, v.integral? = some n) ∨
    (∃ text, v = .text text ∧ hasInk text = true) ∨ ∃ ps, v = .ragged ps

/-- Specs that the host has to look up, as far as they are well formed. -/
def Value.IsSymbolic (v : Value) : Prop :=
  ∃ text, v = .text text ∧ hasInk text = true ∧ Descriptor.isHexLiteral (trimmed text) = false

theorem Value.IsSymbolic.isSpec {v : Value} (hsymbolic : v.IsSymbolic) : v.IsSpec := by
  obtain ⟨text, rfl, hink, -⟩ := hsymbolic
  exact .inr (.inr (.inl ⟨text, rfl, hink⟩))

theorem Value.isHexLiteral_of_not_isSymbolic {s : String} (hlocal : ¬(Value.text s).IsSymbolic)
    (hink : hasInk s = true) : Descriptor.isHexLiteral (trimmed s) = true := by
  by_contra hother
  exact hlocal ⟨s, rfl, hink, by simpa using hother⟩

namespace Descriptor

/-! ### Reading specs -/

theorem classify_of_hasInk {text : String} (hink : hasInk text = true) :
    classify (.text text) = .ok (ofTrimmed (trimmed text)) := by
  unfold classify
  cases htrimmed : trimmed text with
  | nil =>
      rw [trimmed_eq_nil_iff.mp htrimmed] at hink
      cases hink
  | cons c rest => simp only [htrimmed]

theorem classify_of_integral {v : Value} {n : Int} (hn : v.integral? = some n) :
    classify v = .ok (.numeric (.ofInt n)) := by
  unfold classify
  cases v with
  | text text => cases hn
  | _ => simp only [hn]

theorem classify_of_not_isSpec {v : Value} (hspec : ¬v.IsSpec) :
    classify v = .error (refuse v) := by
  have hintegral : v.integral? = none := by
    cases hn : v.integral? with
    | none => rfl
    | some n => exact absurd (.inr (.inl ⟨n, hn⟩)) hspec
  unfold classify
  cases v with
  | text text =>
      have hblank : hasInk text = false := by
        cases hink : hasInk text with
        | false => rfl
        | true => exact absurd (.inr (.inr (.inl ⟨text, rfl, hink⟩))) hspec
      simp only [trimmed_eq_nil_iff.mpr hblank]
  | _ => simp only [hintegral]

theorem splitAt?_of_notMem {mark : Char} {s : List Char} (hmark : mark ∉ s) :
    splitAt? mark s = none := by
  have hnone : s.dropWhile (· ≠ mark) = [] := by
    rw [List.dropWhile_eq_nil_iff]
    intro c hmem
    simpa using fun heq : c = mark => hmark (heq ▸ hmem)
  rw [splitAt?, hnone]

theorem splitAt?_append {mark : Char} {front : List Char} (hmark : mark ∉ front)
    (after : List Char) : splitAt? mark (front ++ mark :: after) = some (front, after) := by
  have hfront : ∀ c ∈ front, (decide (c ≠ mark)) = true := by
    intro c hmem
    simpa using fun heq : c = mark => hmark (heq ▸ hmem)
  rw [splitAt?, List.dropWhile_append_of_pos hfront, List.takeWhile_append_of_pos hfront,
    List.dropWhile_cons_of_neg (by simp), List.takeWhile_cons_of_neg (by simp), List.append_nil]

theorem ofTrimmed_symbol {name symbol : List Char} (hname : '!' ∉ name)
    (hhex : isHexLiteral (name ++ '!' :: symbol) = false) :
    ofTrimmed (name ++ '!' :: symbol) =
      .moduleSymbol (if name = [] then none else some (String.ofList name))
        (String.ofList symbol) := by
  unfold ofTrimmed
  rw [if_neg (by simp [hhex]), splitAt?_append hname]
  cases name <;> rfl

theorem ofTrimmed_offset {name offset : List Char} (hname : ':' ∉ name)
    (hplain : '!' ∉ name ++ ':' :: offset) (hhex : isHexLiteral (name ++ ':' :: offset) = false) :
    ofTrimmed (name ++ ':' :: offset) =
      .moduleOffset (String.ofList name) (String.ofList offset) := by
  unfold ofTrimmed
  rw [if_neg (by simp [hhex]), splitAt?_of_notMem hplain, splitAt?_append hname]

theorem ofTrimmed_bare {s : List Char} (hbang : '!' ∉ s) (hcolon : ':' ∉ s)
    (hhex : isHexLiteral s = false) : ofTrimmed s = .bareSymbol (String.ofList s) := by
  unfold ofTrimmed
  rw [if_neg (by simp [hhex]), splitAt?_of_notMem hbang, splitAt?_of_notMem hcolon]

/-! ### Asking the host -/

/-- The request of a descriptor; none for one that needs no host. -/
def request? : Descriptor → Option Request
  | .numeric _ | .hexLiteral _ => none
  | .moduleSymbol name symbol => some ⟨.resolveExport, Program.exportProgram name symbol⟩
  | .moduleOffset name _ => some ⟨.resolveModuleBase, Program.baseProgram name⟩
  | .bareSymbol name => some ⟨.resolveExport, Program.exportProgram none name⟩

/-- The address that a descriptor has by the pointer that its request found. -/
def place (found : Option Address) : Descriptor → Except Fault (Option Address)
  | .moduleOffset _ offset =>
    match found with
    | some base => (Offset.parse offset).map fun offset => some (base.add offset.toNat)
    | none => .ok none
  | _ => .ok found

@[simp] theorem place_none (d : Descriptor) : d.place none = .ok none := by
  cases d <;> rfl

theorem isSome_of_place {d : Descriptor} {pointer : Address} {placed : Option Address}
    (hplace : d.place (some pointer) = .ok placed) : placed.isSome = true := by
  cases d with
  | moduleOffset name offset =>
      rw [place] at hplace
      cases hparse : Offset.parse offset with
      | ok n =>
          rw [hparse] at hplace
          rw [← Except.ok.inj hplace]
          rfl
      | error fault =>
          rw [hparse] at hplace
          cases hplace
  | _ =>
      rw [← Except.ok.inj hplace]
      rfl

theorem localAddress?_of_request? {d : Descriptor} {request : Request}
    (hrequest : d.request? = some request) : d.localAddress? = none := by
  cases d with
  | numeric value => cases hrequest
  | hexLiteral text => cases hrequest
  | _ => rfl

theorem ofTrimmed_of_isHexLiteral {s : List Char} (hhex : isHexLiteral s = true) :
    ofTrimmed s = .hexLiteral (String.ofList s) :=
  if_pos hhex

theorem request?_ofTrimmed {s : List Char} (hhex : isHexLiteral s = false) :
    ∃ request, (ofTrimmed s).request? = some request := by
  have hother : ¬isHexLiteral s = true := by simp [hhex]
  unfold ofTrimmed
  rw [if_neg hother]
  split
  · exact ⟨_, rfl⟩
  · exact ⟨_, rfl⟩
  · split
    · exact ⟨_, rfl⟩
    · exact ⟨_, rfl⟩

/-- Only an offset that is too long leaves a pointer that was found without a place. -/
theorem place_eq_error_iff {d : Descriptor} {found : Option Address} {fault : Fault} :
    d.place found = .error fault ↔
      ∃ name offset base, d = .moduleOffset name offset ∧ found = some base ∧
        Offset.isOverlong (trimmed offset) = true ∧
        fault = .numeralTooLong (splitSign (trimmed offset)).2.length := by
  constructor
  · intro herror
    cases d with
    | moduleOffset name offset =>
        cases found with
        | none => cases herror
        | some base =>
            rcases Offset.parse_eq offset with ⟨n, hparse, -⟩ | ⟨hparse, hlong⟩
            · rw [place, hparse] at herror
              cases herror
            · rw [place, hparse] at herror
              exact ⟨name, offset, base, rfl, rfl, hlong, (Except.error.inj herror).symm⟩
    | _ => cases herror
  · rintro ⟨name, offset, base, rfl, rfl, hlong, rfl⟩
    rw [place, Offset.parse_of_isOverlong hlong]
    rfl

end Descriptor

/-- The request that a spec makes; none for one that needs no host. -/
def Value.request? : Value → Option Request
  | .text name => if hasInk name then (Descriptor.ofTrimmed (trimmed name)).request? else none
  | _ => none

theorem Value.request?_eq_none_iff {v : Value} : v.request? = none ↔ ¬v.IsSymbolic := by
  constructor
  · rintro hnone ⟨text, rfl, hink, hhex⟩
    obtain ⟨request, hrequest⟩ := Descriptor.request?_ofTrimmed hhex
    rw [Value.request?, if_pos hink, hrequest] at hnone
    cases hnone
  · intro hlocal
    cases v with
    | text text =>
        by_cases hink : hasInk text = true
        · rw [Value.request?, if_pos hink, Descriptor.ofTrimmed_of_isHexLiteral
            (Value.isHexLiteral_of_not_isSymbolic hlocal hink)]
          rfl
        · exact if_neg hink
    | _ => rfl

/-- A spec that is no request, and is not refused, has its address in itself. -/
theorem Descriptor.localAddress?_of_classify {v : Value} {d : Descriptor}
    (hclassify : classify v = .ok d) (hlocal : ¬v.IsSymbolic) : ∃ a, d.localAddress? = some a := by
  by_cases hspec : v.IsSpec
  · rcases hspec with ⟨a, rfl⟩ | ⟨n, hn⟩ | ⟨text, rfl, hink⟩ | ⟨ps, rfl⟩
    · obtain rfl := Except.ok.inj hclassify
      exact ⟨_, rfl⟩
    · rw [classify_of_integral hn] at hclassify
      obtain rfl := Except.ok.inj hclassify
      exact ⟨_, rfl⟩
    · rw [classify_of_hasInk hink] at hclassify
      obtain rfl := Except.ok.inj hclassify
      rw [ofTrimmed_of_isHexLiteral (Value.isHexLiteral_of_not_isSymbolic hlocal hink)]
      exact ⟨_, rfl⟩
    · cases hclassify
  · rw [classify_of_not_isSpec hspec] at hclassify
    cases hclassify

end HostLink
