import HostLink.Proofs.Parsing
import HostLink.Proofs.Shortest
import HostLink.Proofs.Trail
import HostLink.Session

/-!
# What is taken for a pointer

A pointer in an answer is a whole number, or text that is read as one in base sixteen. The text of
any other value holds a character that no numeral has, so that reading the text of every value, as
scans do, comes to the same.
-/

namespace HostLink

open Json (IsAtom IsNumber IsText Part)

namespace Text

/-! ### Characters that no numeral has -/

/-- The characters of base sixteen numerals, a sign apart, and of the blank around them. -/
def isNumeralChar (c : Char) : Bool :=
  (hexDigit? c).isSome || c == '_' || c == 'x' || c == 'X' || isPadding c

theorem mem_of_readDigits {digit? : Char → Option Nat} {s after : List Char} {digits : List Nat}
    (hread : readDigits digit? s = some (digits, after)) {c : Char} (hmem : c ∈ s) :
    (digit? c).isSome = true ∨ c = '_' ∨ c ∈ after := by
  fun_induction readDigits digit? s generalizing digits with
  | case1 => cases hread
  | case2 => cases hread
  | case3 d n hn =>
      left
      rw [List.mem_singleton.mp hmem, hn]
      rfl
  | case4 d n hn rest ih =>
      obtain ⟨⟨ds, after'⟩, htail, hpair⟩ := Option.map_eq_some_iff.mp hread
      cases hpair
      rcases List.mem_cons.mp hmem with rfl | hmem
      · simp [hn]
      · rcases List.mem_cons.mp hmem with rfl | hmem
        · simp
        · exact ih htail hmem
  | case5 d n hn d' rest hmark hdigit ih =>
      obtain ⟨⟨ds, after'⟩, htail, hpair⟩ := Option.map_eq_some_iff.mp hread
      cases hpair
      rcases List.mem_cons.mp hmem with rfl | hmem
      · simp [hn]
      · exact ih htail hmem
  | case6 d n hn d' rest hmark hdigit =>
      cases hread
      rcases List.mem_cons.mp hmem with rfl | hmem
      · simp [hn]
      · exact .inr (.inr hmem)

theorem mem_dropHexMark {s : List Char} {c : Char} (hmem : c ∈ s) :
    isNumeralChar c = true ∨ c ∈ dropHexMark s := by
  unfold dropHexMark
  split
  · rename_i zero x rest
    by_cases hmark : decimalDigit? zero = some 0 ∧ (x = 'x' ∨ x = 'X')
    · rw [if_pos hmark]
      rcases List.mem_cons.mp hmem with rfl | hmem
      · left
        simp [isNumeralChar, hexDigit?, hmark.1]
      · rcases List.mem_cons.mp hmem with rfl | hmem
        · left
          rcases hmark.2 with rfl | rfl <;> decide
        · unfold dropUnderscore
          split
          · rcases List.mem_cons.mp hmem with rfl | hmem
            · left
              decide
            · exact .inr hmem
          · exact .inr hmem
    · rw [if_neg hmark]
      exact .inr hmem
  · exact .inr hmem

theorem isNumeralChar_of_read {s : List Char} {n : Numeral}
    (hread : Numeral.read .sixteen s = .ok n) {c : Char}
    (hmem : c ∈ (splitSign (s.dropWhile isPadding)).2) : isNumeralChar c = true := by
  unfold Numeral.read at hread
  generalize splitSign (s.dropWhile isPadding) = split at hread hmem
  obtain ⟨negative, body⟩ := split
  dsimp only at hread hmem
  cases hdigits : readMagnitude .sixteen body with
  | none =>
      rw [hdigits] at hread
      cases hread
  | some found =>
      obtain ⟨digits, after⟩ := found
      rw [hdigits] at hread
      simp only [reduceCtorEq, false_and, if_false] at hread
      -- Each character is part of the mark, a digit, an underscore or blank after the digits.
      by_cases hafter : after.all isPadding = true
      · rcases mem_dropHexMark hmem with hchar | hmem
        · exact hchar
        · rcases mem_of_readDigits hdigits hmem with hdigit | rfl | hmem
          · simp [isNumeralChar, hdigit]
          · decide
          · simp [isNumeralChar, List.all_eq_true.mp hafter c hmem]
      · rw [if_neg hafter] at hread
        cases hread

theorem read_sixteen (s : List Char) :
    (∃ n, Numeral.read .sixteen s = .ok n) ∨ Numeral.read .sixteen s = .error .malformed := by
  unfold Numeral.read
  simp only [reduceCtorEq, false_and, if_false]
  split
  · exact .inr rfl
  · split
    · exact .inl ⟨_, rfl⟩
    · exact .inr rfl

/-! ### Texts that are no numerals -/

/-- A character that no numeral has, in text that may be blank around it: a sign is one where
something stands before it. -/
inductive HasForeign (s : List Char) : Prop
  | mk (left : List Char) (c : Char) (right : List Char) (htext : s = left ++ c :: right)
      (hink : isBlank c = false) (hforeign : isNumeralChar c = false)
      (hfront : (c ≠ '-' ∧ c ≠ '+') ∨ ∃ d ∈ left, isBlank d = false)

theorem HasForeign.ne_nil {s : List Char} (hs : HasForeign s) : s ≠ [] := by
  obtain ⟨left, c, right, rfl, -⟩ := hs
  exact List.append_ne_nil_of_right_ne_nil _ (List.cons_ne_nil _ _)

theorem HasForeign.append {s : List Char} (hs : HasForeign s) (front : List Char) :
    HasForeign (front ++ s) := by
  obtain ⟨left, c, right, rfl, hink, hforeign, hfront⟩ := hs
  refine ⟨front ++ left, c, right, (List.append_assoc ..).symm, hink, hforeign, ?_⟩
  exact hfront.imp_right fun ⟨d, hmem, hd⟩ => ⟨d, List.mem_append_right front hmem, hd⟩

theorem hasForeign_of_mem {s : List Char} {c : Char} (hmem : c ∈ s) (hink : isBlank c = false)
    (hforeign : isNumeralChar c = false) (hsign : c ≠ '-' ∧ c ≠ '+') : HasForeign s := by
  obtain ⟨left, right, rfl⟩ := List.append_of_mem hmem
  exact ⟨left, c, right, rfl, hink, hforeign, .inl hsign⟩

/-- Only the first character can be lost to the sign. -/
theorem mem_splitSign {left right : List Char} {c : Char}
    (hfront : (c ≠ '-' ∧ c ≠ '+') ∨ left ≠ []) : c ∈ (splitSign (left ++ c :: right)).2 := by
  cases left with
  | nil =>
      obtain ⟨hminus, hplus⟩ := hfront.resolve_right (fun hne => hne rfl)
      rw [List.nil_append, splitSign]
      · exact List.mem_cons_self
      · exact fun rest heq => hminus (List.cons.inj heq).1
      · exact fun rest heq => hplus (List.cons.inj heq).1
  | cons d left =>
      have hmem : c ∈ left ++ c :: right := List.mem_append_right left List.mem_cons_self
      rw [List.cons_append]
      unfold splitSign
      split
      · rename_i heq
        rwa [← (List.cons.inj heq).2]
      · rename_i heq
        rwa [← (List.cons.inj heq).2]
      · exact List.mem_cons_of_mem d hmem

theorem read_trim_of_hasForeign {s : List Char} (hs : HasForeign s) :
    Numeral.read .sixteen (trim s) = .error .malformed := by
  obtain ⟨left, c, right, rfl, hink, hforeign, hfront⟩ := hs
  refine (read_sixteen _).resolve_left ?_
  rintro ⟨n, hread⟩
  have hmem : c ∈ (splitSign ((trim (left ++ c :: right)).dropWhile isPadding)).2 := by
    rw [trim_append_cons hink, dropWhile_append_cons (isPadding_eq_false hink)]
    apply mem_splitSign
    refine hfront.imp_right ?_
    rintro ⟨d, hd, hblank⟩ hnil
    rw [List.dropWhile_eq_nil_iff] at hnil
    rw [← List.takeWhile_append_dropWhile (p := isBlank) (l := left)] at hd
    rcases List.mem_append.mp hd with hd | hd
    · simp [List.mem_takeWhile_imp hd] at hblank
    · exact absurd (hnil d hd) (by simp [isPadding_eq_false hblank])
  rw [isNumeralChar_of_read hread hmem] at hforeign
  cases hforeign

end Text

open Text

/-! ### Numbers with a point or a power -/

namespace Double

theorem hasForeign_positionalText (digits : List Char) (point : Int) :
    HasForeign (positionalText digits point) := by
  refine hasForeign_of_mem (c := '.') ?_ (by decide) (by decide) (by decide)
  unfold positionalText
  split <;> simp

theorem hasForeign_scientificText {digits : List Char} (hdigits : digits ≠ []) (point : Int) :
    HasForeign (scientificText digits point) := by
  unfold scientificText
  match digits with
  | [] => exact absurd rfl hdigits
  | [d] =>
      refine ⟨[d, 'e'], _, _, rfl, ?_, ?_, .inr ⟨'e', by simp, by decide⟩⟩
      · split <;> decide
      · split <;> decide
  | d :: d' :: rest =>
      exact hasForeign_of_mem (c := '.') (by simp) (by decide) (by decide) (by decide)

theorem hasForeign_magnitudeText (significand : Nat) (exponent : Int) :
    HasForeign (magnitudeText significand exponent) := by
  have hdigits := shortestDigits_ne_nil significand exponent
  unfold magnitudeText
  dsimp only
  split
  · exact hasForeign_positionalText _ _
  · exact hasForeign_scientificText hdigits _

theorem text_ne_nil (x : Double) : x.text ≠ [] := by
  cases x with
  | nan => decide
  | infinite negative => cases negative <;> decide
  | finite negative significand exponent =>
      rw [text]
      exact List.append_ne_nil_of_right_ne_nil _ (hasForeign_magnitudeText _ _).ne_nil

/-- No number with a point, a power or a word for itself is a numeral of base sixteen. -/
theorem read_text (x : Double) : Numeral.read .sixteen (trim x.text) = .error .malformed := by
  cases x with
  | nan => decide
  | infinite negative => cases negative <;> decide
  | finite negative significand exponent =>
      rw [text]
      exact read_trim_of_hasForeign ((hasForeign_magnitudeText significand exponent).append _)

end Double

namespace Address

theorem ofText_of_malformed {s : String}
    (hread : Numeral.read .sixteen (trimmed s) = .error .malformed) :
    ofText s = .error (.malformedNumeral .sixteen (.text (String.ofList (trimmed s)))) := by
  unfold ofText readNumeral
  simp only [hread]
  rfl

end Address

/-! ### Values as pointers -/

namespace Value

/-- The values that texts stand for. What the fields of a record hold does not matter here. -/
inductive IsPlain : Value → Prop
  | null : IsPlain .null
  | bool (b : Bool) : IsPlain (.bool b)
  | int (n : Int) : IsPlain (.int n)
  | float (x : Double) : IsPlain (.float x)
  | text (s : String) : IsPlain (.text s)
  | ragged {ps : List Point} (hps : chars? ps = none) : IsPlain (.ragged ps)
  | list {items : List Value} (hall : ∀ v ∈ items, IsPlain v) : IsPlain (.list items)
  | record (fields : List (FieldName × Value)) : IsPlain (.record fields)

theorem isPlain_ofPoints (ps : List Point) : (ofPoints ps).IsPlain := by
  unfold ofPoints
  cases hps : chars? ps with
  | some s => exact .text _
  | none => exact .ragged hps

theorem isPlain_ofFields (fields : List (FieldName × Value)) : (ofFields fields).IsPlain := by
  unfold ofFields
  split <;> exact .record _

theorem IsPlain.of_mem_list {items : List Value} (hlist : (Value.list items).IsPlain) {v : Value}
    (hmem : v ∈ items) : v.IsPlain := by
  cases hlist with
  | list hall => exact hall v hmem

/-- The pointer that a value stands for, before it is wrapped around. -/
inductive PointsTo : Value → Int → Prop
  | int (n : Int) : PointsTo (.int n) n
  | text {s : String} {n : Int} (hs : Address.numberOfText s = .ok n) : PointsTo (.text s) n

theorem PointsTo.unique {v : Value} {m n : Int} (hm : v.PointsTo m) (hn : v.PointsTo n) :
    m = n := by
  cases hm with
  | int => cases hn with
    | int => rfl
  | text hs => cases hn with
    | text hs' => exact Except.ok.inj (hs.symm.trans hs')

theorem PointsTo.isPlain {v : Value} {n : Int} (hn : v.PointsTo n) : v.IsPlain := by
  cases hn with
  | int => exact .int n
  | text => exact .text _

end Value

namespace Json

def Part.IsPlain : Part → Prop
  | .value v => v.IsPlain
  | .items vs => ∀ v ∈ vs, v.IsPlain
  | .object fields | .members fields => ∀ field ∈ fields, field.2.IsPlain

theorem IsNumber.isPlain {negative short : Bool} {v : Value} {s : List Char}
    (hs : IsNumber negative short v s) : v.IsPlain := by
  cases hs with
  | whole => exact .int _
  | real => exact .float _

theorem IsText.isPlain {short : Bool} {part : Part} {s : List Char} (hs : IsText short part s) :
    part.IsPlain := by
  induction hs with
  | atom hs =>
      cases hs with
      | null => exact .null
      | bool b => exact .bool b
      | nan | infinity | minusInfinity => exact .float _
      | number hs | minus hs => exact hs.isPlain
  | string => exact Value.isPlain_ofPoints _
  | emptyList => exact .list (by simp)
  | list _ _ ih => exact .list ih
  | record => exact Value.isPlain_ofFields _
  | emptyObject => exact fun field hmem => by cases hmem
  | object _ _ ih => exact ih
  | lastItem _ _ ih => exact List.forall_mem_singleton.mpr ih
  | nextItem _ _ _ _ ih ihs => exact List.forall_mem_cons.mpr ⟨ih, ihs⟩
  | lastMember _ _ _ _ _ ih => exact List.forall_mem_singleton.mpr ih
  | nextMember _ _ _ _ _ _ _ ih ihs => exact List.forall_mem_cons.mpr ⟨ih, ihs⟩

end Json

namespace Address

/-- A value whose text is no numeral is refused, and so is one without a text. -/
theorem read_error_of_malformed {v : Value}
    (hread : ∀ s, v.text? = some s → Numeral.read .sixteen (trim s) = .error .malformed) :
    ∃ fault, v.toText.bind ofText = .error fault ∧ fault.kind = .badValue := by
  unfold Value.toText
  cases htext : v.text? with
  | none => exact ⟨_, rfl, rfl⟩
  | some s =>
      have hmalformed : Numeral.read .sixteen (trimmed (String.ofList s)) = .error .malformed := by
        rw [trimmed, String.toList_ofList]
        exact hread s htext
      exact ⟨_, ofText_of_malformed hmalformed, rfl⟩

theorem kind_of_numberOfText {s : String} {fault : Fault} (herror : numberOfText s = .error fault) :
    fault.kind = .badValue := by
  unfold numberOfText readNumeral at herror
  rcases read_sixteen (trimmed s) with ⟨n, hread⟩ | hread
  · rw [hread] at herror
    cases herror
  · rw [hread] at herror
    obtain rfl := Except.error.inj herror
    rfl

theorem exists_surrogate {ps : List Point} (hps : chars? ps = none) : ∃ n, .surrogate n ∈ ps := by
  induction ps with
  | nil => cases hps
  | cons p ps ih =>
      cases p with
      | surrogate n => exact ⟨n, List.mem_cons_self⟩
      | char c =>
          have hrest : chars? ps = none := by
            cases hchars : chars? ps with
            | none => rfl
            | some s =>
                rw [chars?] at hchars
                simp [chars?, Point.char?, hchars] at hps
          obtain ⟨n, hmem⟩ := ih hrest
          exact ⟨n, List.mem_cons_of_mem _ hmem⟩

/-- The character that stands for a surrogate is no digit. -/
theorem hasForeign_shown {ps : List Point} (hps : chars? ps = none) :
    HasForeign (ps.map Point.shown) := by
  obtain ⟨n, hmem⟩ := exists_surrogate hps
  exact hasForeign_of_mem (c := '\uFFFD') (List.mem_map_of_mem hmem) (by decide) (by decide)
    (by decide)

/-- Of all values that are no whole numbers, only text may be read as a numeral. -/
theorem read_text?_of_isPlain {v : Value} (hv : v.IsPlain) (hint : ∀ n, v ≠ .int n)
    (htext : ∀ s, v ≠ .text s) {s : List Char} (hs : v.text? = some s) :
    Numeral.read .sixteen (trim s) = .error .malformed := by
  cases hv with
  | int n => exact absurd rfl (hint n)
  | text s => exact absurd rfl (htext s)
  | null =>
      simp only [Value.text?, Value.quoted?, Option.some.injEq] at hs
      subst hs
      decide
  | bool b =>
      simp only [Value.text?, Value.quoted?, Option.some.injEq] at hs
      subst hs
      cases b <;> decide
  | float x =>
      simp only [Value.text?, Value.quoted?, Option.some.injEq] at hs
      subst hs
      exact x.read_text
  | ragged hps =>
      simp only [Value.text?, Option.some.injEq] at hs
      subst hs
      exact read_trim_of_hasForeign (hasForeign_shown hps)
  | list hall =>
      simp only [Value.text?, Value.quoted?, Option.map_eq_some_iff] at hs
      obtain ⟨parts, -, rfl⟩ := hs
      apply read_trim_of_hasForeign
      exact hasForeign_of_mem (c := '[') List.mem_cons_self (by decide) (by decide) (by decide)
  | record fields =>
      simp only [Value.text?, Value.quoted?, Option.map_eq_some_iff] at hs
      obtain ⟨parts, -, rfl⟩ := hs
      apply read_trim_of_hasForeign
      exact hasForeign_of_mem (c := '\x7b') List.mem_cons_self (by decide) (by decide) (by decide)

/-- What the text of a value that is no whole number is read as: its pointer, or nothing for a reason
that callers can tell. -/
theorem read_cases {v : Value} (hv : v.IsPlain) (hint : ∀ n, v ≠ .int n) :
    (∃ n, v.PointsTo n ∧ v.toText.bind ofText = .ok (ofInt n)) ∨
      ((∀ n, ¬v.PointsTo n) ∧
        ∃ fault, v.toText.bind ofText = .error fault ∧ fault.kind = .badValue) := by
  -- Only text can be a numeral: every other value shows a character that no numeral has.
  by_cases htext : ∃ s, v = .text s
  · obtain ⟨s, rfl⟩ := htext
    have hread : (Value.text s).toText.bind ofText = (numberOfText s).map ofInt := by
      rw [← ofText_eq]
      simp [Value.toText, Value.text?, Except.bind]
    rw [hread]
    cases hnumber : numberOfText s with
    | ok n => exact .inl ⟨n, .text hnumber, rfl⟩
    | error fault =>
        refine .inr ⟨fun n hn => ?_, fault, rfl, kind_of_numberOfText hnumber⟩
        cases hn with
        | text hs => cases hnumber.symm.trans hs
  · rw [not_exists] at htext
    refine .inr ⟨fun n hn => ?_, read_error_of_malformed fun s hs =>
      read_text?_of_isPlain hv hint htext hs⟩
    cases hn with
    | int => exact hint n rfl
    | @text s _ hs => exact htext s rfl

theorem ofMatch?_eq_read {v : Value} (hint : ∀ n, v ≠ .int n) :
    ofMatch? v = (v.toText.bind ofText).toOption := by
  unfold ofMatch?
  split
  · exact absurd rfl (hint _)
  · cases v.toText <;> rfl

/-- Nothing and the truth values are refused at once, and their texts would be refused too. -/
theorem ofPointer?_eq_read {v : Value} (hint : ∀ n, v ≠ .int n) :
    ofPointer? v = (v.toText.bind ofText).toOption := by
  have hrefused : ∀ w : Value, w.IsPlain → (∀ n, w ≠ .int n) → (∀ n, ¬w.PointsTo n) →
      (w.toText.bind ofText).toOption = none := by
    intro w hw hint hnone
    rcases read_cases hw hint with ⟨n, hn, -⟩ | ⟨-, fault, hread, -⟩
    · exact absurd hn (hnone n)
    · rw [hread]
      rfl
  cases v with
  | null => exact (hrefused _ .null hint fun n => nofun).symm
  | bool b => exact (hrefused _ (.bool b) hint fun n => nofun).symm
  | int n => exact absurd rfl (hint n)
  | _ => rfl

/-- **A match is read like a pointer.** -/
theorem ofMatch?_eq_ofPointer? (v : Value) : ofMatch? v = ofPointer? v := by
  by_cases hint : ∀ n, v ≠ .int n
  · rw [ofMatch?_eq_read hint, ofPointer?_eq_read hint]
  · simp only [not_forall, not_not] at hint
    obtain ⟨n, rfl⟩ := hint
    rfl

/-- A pointer in an answer is a whole number, or text that is read as one. -/
theorem ofPointer?_eq_some_iff {v : Value} (hv : v.IsPlain) {a : Address} :
    ofPointer? v = some a ↔ ∃ n, v.PointsTo n ∧ a = ofInt n := by
  by_cases hint : ∀ n, v ≠ .int n
  · rw [ofPointer?_eq_read hint]
    rcases read_cases hv hint with ⟨n, hn, hread⟩ | ⟨hnone, fault, hread, -⟩
    · rw [hread]
      constructor
      · intro ha
        exact ⟨n, hn, (Option.some.inj ha).symm⟩
      · rintro ⟨m, hm, rfl⟩
        rw [hm.unique hn]
        rfl
    · rw [hread]
      refine iff_of_false nofun ?_
      rintro ⟨n, hn, -⟩
      exact hnone n hn
  · simp only [not_forall, not_not] at hint
    obtain ⟨n, rfl⟩ := hint
    constructor
    · intro ha
      exact ⟨n, .int n, (Option.some.inj ha).symm⟩
    · rintro ⟨m, ⟨⟩, rfl⟩
      rfl

/-- **Only a pointer is a match**, whatever else an answer holds. -/
theorem ofMatch?_eq_none_iff {v : Value} (hv : v.IsPlain) :
    ofMatch? v = none ↔ ∀ n, ¬v.PointsTo n := by
  rw [ofMatch?_eq_ofPointer?, Option.eq_none_iff_forall_ne_some]
  constructor
  · intro hnone n hn
    exact hnone _ ((ofPointer?_eq_some_iff hv).mpr ⟨n, hn, rfl⟩)
  · intro hnone a ha
    obtain ⟨n, hn, -⟩ := (ofPointer?_eq_some_iff hv).mp ha
    exact hnone n hn

theorem ofMatch?_of_pointsTo {v : Value} {n : Int} (hn : v.PointsTo n) :
    ofMatch? v = some (ofInt n) := by
  rw [ofMatch?_eq_ofPointer?, ofPointer?_eq_some_iff hn.isPlain]
  exact ⟨n, hn, rfl⟩

theorem kind_of_read_error {v : Value} (hv : v.IsPlain) (hint : ∀ n, v ≠ .int n) {fault : Fault}
    (herror : v.toText.bind ofText = .error fault) : fault.kind = .badValue := by
  rcases read_cases hv hint with ⟨n, -, hread⟩ | ⟨-, _, hread, hkind⟩
  · cases herror.symm.trans hread
  · rwa [Except.error.inj (herror.symm.trans hread)]

theorem numberOfText_hex (n : Nat) :
    numberOfText (String.ofList ('0' :: 'x' :: hex n)) = .ok n := by
  have hdigits : positional 16 ((hex n).filterMap hexDigit?) = n := by
    rw [positional_eq_foldl, foldl_hex]
  simp only [numberOfText, trimmed_hex, readNumeral, read_hex, Except.map, Numeral.toInt,
    Radix.toNat, hdigits, applySign, Bool.false_eq_true, if_false]

end Address

/-- A pointer as hosts write it. -/
def Value.written (n : Nat) : Value :=
  .text (String.ofList ('0' :: 'x' :: hex n))

theorem Value.pointsTo_written (n : Nat) : (written n).PointsTo n :=
  .text (Address.numberOfText_hex n)

end HostLink
