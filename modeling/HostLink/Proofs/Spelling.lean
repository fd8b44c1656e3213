import HostLink.Proofs.Numeral
import HostLink.Json.Reader

/-!
# Strings in any spelling

A character of a string may stand for itself, and it may be written by a short escape, by the number
of its code unit, or by those of a surrogate pair. However the characters are written, the string is
read as its text.
-/

namespace HostLink

open Text

theorem Text.chars?_points (s : List Char) : chars? (points s) = some s := by
  unfold chars? points
  induction s with
  | nil => rfl
  | cons c rest ih => simp [Point.char?, ih]

theorem FieldName.ofPoints_points (s : List Char) :
    FieldName.ofPoints (Text.points s) = .text (String.ofList s) := by
  rw [FieldName.ofPoints, Text.chars?_points]

namespace Value

theorem ofPoints_points (s : List Char) : ofPoints (points s) = .text (String.ofList s) := by
  rw [ofPoints, Text.chars?_points]

end Value

namespace Json

/-! ### Spellings -/

/-- A character that stands for itself in a string. -/
def isLiteral (c : Char) : Bool :=
  c != '"' && c != '\\' && 0x20 ≤ c.toNat

/-- The letters of short escapes, with the characters that they stand for. -/
def shortEscapes : List (Char × Char) :=
  [('"', '"'), ('\\', '\\'), ('/', '/'), ('b', '\x08'), ('f', '\x0c'), ('n', '\n'), ('r', '\r'),
    ('t', '\t')]

/-- A base sixteen digit, in either case. -/
def IsDigitOf (c : Char) (d : Nat) : Prop :=
  d < 16 ∧ (c = d.digitChar ∨ c = d.digitChar.toUpper)

/-- A code unit by its number, in four digits. -/
inductive IsUnit : Nat → List Char → Prop
  | digits {a b c d i j k l} (ha : IsDigitOf a i) (hb : IsDigitOf b j) (hc : IsDigitOf c k)
      (hd : IsDigitOf d l) : IsUnit (positional 16 [i, j, k, l]) [a, b, c, d]

/-- The ways to write a piece of a string. -/
inductive SpellsPiece : Piece → List Char → Prop
  | plain {c} (hc : isLiteral c = true) : SpellsPiece (.plain (.char c)) [c]
  | short {c e} (hmem : (e, c) ∈ shortEscapes) : SpellsPiece (.plain (.char c)) ['\\', e]
  | unit {n digits} (hunit : IsUnit n digits) : SpellsPiece (.unit n) ('\\' :: 'u' :: digits)

/-- The ways to write a string, piece by piece. -/
inductive SpellsPieces : List Piece → List Char → Prop
  | nil : SpellsPieces [] []
  | cons {piece pieces written others} (hpiece : SpellsPiece piece written)
      (hpieces : SpellsPieces pieces others) :
      SpellsPieces (piece :: pieces) (written ++ others)

/-- The code units of a character beyond the first plane. -/
def highUnit (c : Char) : Nat :=
  0xd800 + (c.toNat - 0x10000) / 0x400

def lowUnit (c : Char) : Nat :=
  0xdc00 + (c.toNat - 0x10000) % 0x400

/-- The ways to write a character in a string. -/
inductive SpellsChar : Char → List Char → Prop
  | plain {c} (hc : isLiteral c = true) : SpellsChar c [c]
  | short {c e} (hmem : (e, c) ∈ shortEscapes) : SpellsChar c ['\\', e]
  | unit {c digits} (hunit : IsUnit c.toNat digits) : SpellsChar c ('\\' :: 'u' :: digits)
  | pair {c high low} (hbig : 0x10000 ≤ c.toNat) (hhigh : IsUnit (highUnit c) high)
      (hlow : IsUnit (lowUnit c) low) :
      SpellsChar c ('\\' :: 'u' :: (high ++ '\\' :: 'u' :: low))

/-- The ways to write a text, character by character. -/
inductive Spells : List Char → List Char → Prop
  | nil : Spells [] []
  | cons {c s written others} (hc : SpellsChar c written) (hs : Spells s others) :
      Spells (c :: s) (written ++ others)

/-! ### Points of a text -/

@[simp] theorem points_nil : points [] = [] :=
  rfl

@[simp] theorem points_cons (c : Char) (s : List Char) : points (c :: s) = .char c :: points s :=
  rfl

@[simp] theorem points_append (s t : List Char) : points (s ++ t) = points s ++ points t :=
  List.map_append

theorem points_eq_cons {s : List Char} {p : Point} {rest : Source} (hs : points s = p :: rest) :
    ∃ c others, s = c :: others ∧ p = .char c ∧ points others = rest := by
  obtain ⟨c, others, rfl, hp, hrest⟩ := List.map_eq_cons_iff.mp hs
  exact ⟨c, others, rfl, hp.symm, hrest⟩

/-! ### Numbers of code units -/

theorem asciiHexDigit?_eq_some_iff {c : Char} {d : Nat} :
    asciiHexDigit? c = some d ↔ IsDigitOf c d := by
  constructor
  · intro hdigit
    have hall : ∀ n < 128, (asciiHexDigit? (Char.ofNat n)).all (fun d =>
        d < 16 ∧ (Char.ofNat n = d.digitChar ∨ Char.ofNat n = d.digitChar.toUpper)) = true := by
      decide
    have hsmall : c.toNat < 128 := by
      by_contra hbig
      have hnone : asciiHexDigit? c = none := by
        simp only [asciiHexDigit?, asciiDigit?, letterDigit?, Bool.and_eq_true, decide_eq_true_eq]
        rw [if_neg (by omega), if_neg (by omega), if_neg (by omega)]
        rfl
      cases hnone.symm.trans hdigit
    have hc := hall c.toNat hsmall
    rw [Char.ofNat_toNat, hdigit] at hc
    simpa [IsDigitOf] using hc
  · rintro ⟨hd, hc⟩
    have hall : ∀ d < 16, asciiHexDigit? d.digitChar = some d ∧
        asciiHexDigit? d.digitChar.toUpper = some d := by decide
    rcases hc with rfl | rfl
    · exact (hall d hd).1
    · exact (hall d hd).2

theorem codeUnit?_eq_some_iff {a b c d : Char} {n : Nat} :
    codeUnit? (.char a) (.char b) (.char c) (.char d) = some n ↔ IsUnit n [a, b, c, d] := by
  constructor
  · intro hunit
    unfold codeUnit? at hunit
    split at hunit
    · rename_i ha hb hc hd
      obtain rfl := Option.some.inj hunit
      exact .digits (asciiHexDigit?_eq_some_iff.mp ha) (asciiHexDigit?_eq_some_iff.mp hb)
        (asciiHexDigit?_eq_some_iff.mp hc) (asciiHexDigit?_eq_some_iff.mp hd)
    · cases hunit
  · rintro ⟨ha, hb, hc, hd⟩
    simp only [codeUnit?, hexDigit?, Point.char?, Option.bind_some,
      asciiHexDigit?_eq_some_iff.mpr ha, asciiHexDigit?_eq_some_iff.mpr hb,
      asciiHexDigit?_eq_some_iff.mpr hc, asciiHexDigit?_eq_some_iff.mpr hd]

/-! ### Reading pieces -/

theorem readPieces_of_isLiteral {c : Char} (hc : isLiteral c = true) (rest : Source) :
    readPieces (.char c :: rest) = push (.plain (.char c)) (readPieces rest) := by
  obtain ⟨hquote, hslash, hprinted⟩ : c ≠ '"' ∧ c ≠ '\\' ∧ 0x20 ≤ c.toNat := by
    simpa [isLiteral, and_assoc] using hc
  have hcontrol : isControl (.char c) = false := by simp [isControl, hprinted]
  rw [readPieces.eq_def]
  split
  · rename_i heq
    cases heq
  · rename_i heq
    exact absurd (Point.char.inj (List.cons.inj heq).1) hquote
  · rename_i heq
    exact absurd (Point.char.inj (List.cons.inj heq).1) hslash
  · rename_i p after _ _ heq
    obtain ⟨rfl, rfl⟩ := List.cons.inj heq
    rw [hcontrol]
    rfl

theorem shortEscape?_eq_some_iff {e c : Char} :
    shortEscape? (.char e) = some c ↔ (e, c) ∈ shortEscapes := by
  constructor
  · intro hescape
    unfold shortEscape? at hescape
    split at hescape <;> simp_all [shortEscapes, eq_comm]
  · intro hmem
    simp only [shortEscapes, List.mem_cons, Prod.mk.injEq, List.not_mem_nil, or_false] at hmem
    rcases hmem with ⟨rfl, rfl⟩ | ⟨rfl, rfl⟩ | ⟨rfl, rfl⟩ | ⟨rfl, rfl⟩ | ⟨rfl, rfl⟩ |
      ⟨rfl, rfl⟩ | ⟨rfl, rfl⟩ | ⟨rfl, rfl⟩ <;> rfl

/-- A piece is read from any of its spellings. -/
theorem SpellsPiece.read {piece : Piece} {written : List Char} (hpiece : SpellsPiece piece written)
    (rest : Source) : readPieces (points written ++ rest) = push piece (readPieces rest) := by
  cases hpiece with
  | plain hc => exact readPieces_of_isLiteral hc rest
  | short hmem =>
      simp only [shortEscapes, List.mem_cons, Prod.mk.injEq, List.not_mem_nil, or_false] at hmem
      rcases hmem with ⟨rfl, rfl⟩ | ⟨rfl, rfl⟩ | ⟨rfl, rfl⟩ | ⟨rfl, rfl⟩ | ⟨rfl, rfl⟩ |
        ⟨rfl, rfl⟩ | ⟨rfl, rfl⟩ | ⟨rfl, rfl⟩ <;> rfl
  | unit hunit =>
      cases hunit with
      | @digits a b c d i j k l ha hb hc hd =>
          have hcode := codeUnit?_eq_some_iff.mpr (IsUnit.digits ha hb hc hd)
          simp only [points_cons, points_nil, List.cons_append, List.nil_append]
          rw [readPieces.eq_def]
          simp only [hcode]

/-- Pieces are read up to the quote that closes the string. -/
theorem SpellsPieces.read {pieces : List Piece} {written : List Char}
    (hpieces : SpellsPieces pieces written) (rest : Source) :
    readPieces (points written ++ .char '"' :: rest) = some (pieces, rest) := by
  induction hpieces with
  | nil => rfl
  | cons hpiece hpieces ih =>
      rw [points_append, List.append_assoc, hpiece.read, ih]
      rfl

/-- A text that starts with one that has the property, up to the character, and what follows. -/
def StartsUpTo (c : Char) (P : List Char → Prop) (rest : Source) (s : List Char) : Prop :=
  ∃ front back, s = front ++ c :: back ∧ rest = points back ∧ P front

theorem startsUpTo_of_push {piece : Piece} {pieces : List Piece} {front tail : List Char}
    {rest : Source} {read : Option (List Piece × Source)} (hpiece : SpellsPiece piece front)
    (hpush : push piece read = some (pieces, rest))
    (htail : ∀ {pieces}, read = some (pieces, rest) →
      StartsUpTo '"' (SpellsPieces pieces) rest tail) :
    StartsUpTo '"' (SpellsPieces pieces) rest (front ++ tail) := by
  obtain ⟨⟨others, after⟩, hread, heq⟩ := Option.map_eq_some_iff.mp hpush
  obtain ⟨rfl, rfl⟩ := Prod.mk.inj heq
  obtain ⟨inner, back, rfl, hrest, hpieces⟩ := htail hread
  exact ⟨front ++ inner, back, (List.append_assoc _ _ _).symm, hrest, .cons hpiece hpieces⟩

/-- What is read as pieces spells them. -/
theorem startsUpTo_of_readPieces {s : Source} {pieces : List Piece} {rest : Source}
    (hread : readPieces s = some (pieces, rest)) {written : List Char} (hs : points written = s) :
    StartsUpTo '"' (SpellsPieces pieces) rest written := by
  fun_induction readPieces s generalizing pieces written with
  | case1 | case3 | case5 | case7 | case8 => cases hread
  | case2 after =>
      obtain ⟨rfl, rfl⟩ := Prod.mk.inj (Option.some.inj hread)
      obtain ⟨c, back, rfl, hc, hback⟩ := points_eq_cons hs
      obtain rfl := Point.char.inj hc
      exact ⟨[], back, rfl, hback.symm, .nil⟩
  | case4 a b c d after n hcode ih =>
      obtain ⟨slash, s₁, rfl, hslash, h₁⟩ := points_eq_cons hs
      obtain ⟨u, s₂, rfl, hu, h₂⟩ := points_eq_cons h₁
      obtain ⟨a, s₃, rfl, rfl, h₃⟩ := points_eq_cons h₂
      obtain ⟨b, s₄, rfl, rfl, h₄⟩ := points_eq_cons h₃
      obtain ⟨c, s₅, rfl, rfl, h₅⟩ := points_eq_cons h₄
      obtain ⟨d, s₆, rfl, rfl, h₆⟩ := points_eq_cons h₅
      obtain rfl := Point.char.inj hslash
      obtain rfl := Point.char.inj hu
      exact startsUpTo_of_push (.unit (codeUnit?_eq_some_iff.mp hcode)) hread
        fun hafter => ih hafter h₆
  | case6 e after _ c hescape ih =>
      obtain ⟨slash, s₁, rfl, hslash, h₁⟩ := points_eq_cons hs
      obtain ⟨e, s₂, rfl, rfl, h₂⟩ := points_eq_cons h₁
      obtain rfl := Point.char.inj hslash
      exact startsUpTo_of_push (.short (shortEscape?_eq_some_iff.mp hescape)) hread
        fun hafter => ih hafter h₂
  | case9 p after hquote hslash hcontrol ih =>
      obtain ⟨c, s₁, rfl, rfl, h₁⟩ := points_eq_cons hs
      have hliteral : isLiteral c = true := by
        simp only [isControl, decide_eq_true_eq, Nat.not_lt, Point.char.injEq, imp_false]
          at hquote hslash hcontrol
        simp [isLiteral, hquote, hslash, hcontrol]
      exact startsUpTo_of_push (.plain hliteral) hread fun hafter => ih hafter h₁

/-! ### Characters of pieces -/

theorem toNat_cases (c : Char) : c.toNat < 0xd800 ∨ 0xdfff < c.toNat ∧ c.toNat < 0x110000 :=
  c.valid

/-- The number of a character is that of no surrogate. -/
theorem unitPoint_toNat (c : Char) : unitPoint c.toNat = .char c := by
  have hvalid : c.toNat.isValidChar := c.valid
  have hsurrogate : (isHighSurrogate c.toNat || isLowSurrogate c.toNat) = false := by
    have hcases := toNat_cases c
    simp only [isHighSurrogate, isLowSurrogate, Bool.or_eq_false_iff, Bool.and_eq_false_iff,
      decide_eq_false_iff_not]
    omega
  rw [unitPoint, Point.ofNat?, if_neg (by simp [hsurrogate]), scalar?, if_pos hvalid]
  simp [Char.ofNat_toNat]

theorem joinPieces_unit (c : Char) (rest : List Piece) :
    joinPieces (.unit c.toNat :: rest) = .char c :: joinPieces rest := by
  have hhigh : isHighSurrogate c.toNat = false := by
    have hcases := toNat_cases c
    simp only [isHighSurrogate, Bool.and_eq_false_iff, decide_eq_false_iff_not]
    omega
  cases rest with
  | nil => rw [joinPieces.eq_def]; simp [unitPoint_toNat]
  | cons piece rest =>
      cases piece with
      | plain p => rw [joinPieces.eq_def]; simp only [unitPoint_toNat]
      | unit m => rw [joinPieces.eq_def]; simp [hhigh, unitPoint_toNat]

theorem joinPieces_pair {c : Char} (hbig : 0x10000 ≤ c.toNat) (rest : List Piece) :
    joinPieces (.unit (highUnit c) :: .unit (lowUnit c) :: rest) = .char c :: joinPieces rest := by
  have hcases := toNat_cases c
  have hhigh : 0xd800 ≤ highUnit c ∧ highUnit c ≤ 0xdbff := by
    unfold highUnit
    omega
  have hlow : 0xdc00 ≤ lowUnit c ∧ lowUnit c ≤ 0xdfff := by
    unfold lowUnit
    omega
  have hjoin : joinSurrogates (highUnit c) (lowUnit c) = c := by
    have hnumber : 0x10000 + (highUnit c - 0xd800) * 0x400 + (lowUnit c - 0xdc00) = c.toNat := by
      simp only [highUnit, lowUnit]
      omega
    rw [joinSurrogates, hnumber, Char.ofNat_toNat]
  rw [joinPieces.eq_def]
  simp [isHighSurrogate, isLowSurrogate, hhigh, hlow, hjoin]

theorem SpellsPieces.append {left right : List Piece} {written others : List Char}
    (hleft : SpellsPieces left written) (hright : SpellsPieces right others) :
    SpellsPieces (left ++ right) (written ++ others) := by
  induction hleft with
  | nil => exact hright
  | cons hpiece _ ih =>
      rw [List.append_assoc]
      exact .cons hpiece ih

theorem SpellsPiece.single {piece : Piece} {written : List Char}
    (hpiece : SpellsPiece piece written) : SpellsPieces [piece] written := by
  have hpieces := SpellsPieces.cons hpiece .nil
  rwa [List.append_nil] at hpieces

/-- A character that is spelled is one piece, or the two of a surrogate pair. -/
theorem SpellsChar.pieces {c : Char} {written : List Char} (hc : SpellsChar c written) :
    ∃ pieces, SpellsPieces pieces written ∧
      ∀ rest, joinPieces (pieces ++ rest) = .char c :: joinPieces rest := by
  cases hc with
  | plain hc =>
      exact ⟨_, (SpellsPiece.plain hc).single, fun rest => by
        rw [List.singleton_append, joinPieces]⟩
  | short hmem =>
      exact ⟨_, (SpellsPiece.short hmem).single, fun rest => by
        rw [List.singleton_append, joinPieces]⟩
  | unit hunit => exact ⟨_, (SpellsPiece.unit hunit).single, joinPieces_unit c⟩
  | pair hbig hhigh hlow =>
      exact ⟨_, .cons (.unit hhigh) (SpellsPiece.unit hlow).single, joinPieces_pair hbig⟩

/-- **A text that is spelled is what its pieces are joined to**, however its characters are
written. -/
theorem Spells.pieces {s written : List Char} (hs : Spells s written) :
    ∃ pieces, SpellsPieces pieces written ∧ joinPieces pieces = points s := by
  induction hs with
  | nil => exact ⟨[], .nil, rfl⟩
  | cons hc hs ih =>
      obtain ⟨pieces, hpieces, hjoin⟩ := hc.pieces
      obtain ⟨others, hothers, htext⟩ := ih
      exact ⟨pieces ++ others, hpieces.append hothers, by rw [hjoin, htext, points_cons]⟩

theorem spells_of_isLiteral {s : List Char} (hs : s.all isLiteral = true) : Spells s s := by
  induction s with
  | nil => exact .nil
  | cons c s ih =>
      simp only [List.all_cons, Bool.and_eq_true] at hs
      exact .cons (.plain hs.1) (ih hs.2)

end Json

end HostLink
