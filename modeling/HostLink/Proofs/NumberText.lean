import HostLink.Proofs.Spelling

/-!
# Words and numbers as text

The texts of the values that have no parts: words, and numbers with or without a point and a power
of ten. A whole number may be too long to be read.
-/

namespace HostLink.Json

open Text

/-! ### Texts of numbers -/

def AreDigits (s : List Char) : Prop :=
  ∀ c ∈ s, isAsciiDigit c = true

def digitsOf (s : List Char) : List Nat :=
  s.filterMap asciiDigit?

/-- Digits without a leading zero, unless zero is the only one. -/
inductive IsWhole : List Nat → List Char → Prop
  | zero : IsWhole [0] ['0']
  | digits {c s} (hc : c ≠ '0') (hall : AreDigits (c :: s)) : IsWhole (digitsOf (c :: s)) (c :: s)

/-- The digits after a point, if there is one. -/
inductive IsPart : List Nat → List Char → Prop
  | none : IsPart [] []
  | digits {s} (hne : s ≠ []) (hall : AreDigits s) : IsPart (digitsOf s) ('.' :: s)

inductive IsSign : Bool → List Char → Prop
  | none : IsSign false []
  | plus : IsSign false ['+']
  | minus : IsSign true ['-']

/-- The power of ten, if there is one. -/
inductive IsPower : Option Int → List Char → Prop
  | none : IsPower none []
  | digits {mark negative sign s} (hmark : mark = 'e' ∨ mark = 'E') (hsign : IsSign negative sign)
      (hne : s ≠ []) (hall : AreDigits s) :
      IsPower (some (applySign negative (positional 10 (digitsOf s)))) (mark :: (sign ++ s))

/-- The texts of numbers, after the minus of a negative one. The truth value says whether a number
is short enough to be read. -/
inductive IsNumber (negative : Bool) : Bool → Value → List Char → Prop
  | whole {digits s} (hwhole : IsWhole digits s) :
      IsNumber negative (decide (digits.length ≤ decimalDigitLimit))
        (.int (applySign negative (positional 10 digits))) s
  | real {digits part power s s' s''} (hwhole : IsWhole digits s) (hpart : IsPart part s')
      (hpower : IsPower power s'') (hreal : part ≠ [] ∨ power ≠ none) :
      IsNumber negative true
        (.float (.ofDecimal negative (positional 10 (digits ++ part))
          (power.getD 0 - part.length))) (s ++ (s' ++ s''))

def word (b : Bool) : List Char :=
  if b then "true".toList else "false".toList

/-- The texts of values without parts. -/
inductive IsAtom : Bool → Value → List Char → Prop
  | null : IsAtom true .null "null".toList
  | bool (b : Bool) : IsAtom true (.bool b) (word b)
  | nan : IsAtom true (.float .nan) "NaN".toList
  | infinity : IsAtom true (.float (.infinite false)) "Infinity".toList
  | minusInfinity : IsAtom true (.float (.infinite true)) ('-' :: "Infinity".toList)
  | number {short v s} (hs : IsNumber false short v s) : IsAtom short v s
  | minus {short v s} (hs : IsNumber true short v s) : IsAtom short v ('-' :: s)

/-! ### What may follow -/

/-- No such code point comes next. -/
def Avoids (mark : Point → Bool) (rest : Source) : Prop :=
  ∀ p ∈ rest.head?, mark p = false

theorem Avoids.mono {mark mark' : Point → Bool} {rest : Source} (hrest : Avoids mark rest)
    (hmark : ∀ p, mark p = false → mark' p = false) : Avoids mark' rest :=
  fun p hmem => hmark p (hrest p hmem)

def isPartMark (p : Point) : Bool :=
  isDigit p || p == .char '.'

def isNumberMark (p : Point) : Bool :=
  isPartMark p || p == .char 'e' || p == .char 'E'

/-- What may follow a value: nothing, a blank, a comma, or a bracket that closes. -/
def Ends (rest : Source) : Prop :=
  ∀ p ∈ rest.head?, p ∈ points [' ', '\t', '\n', '\r', ',', ']', '\x7d']

theorem Ends.avoids {rest : Source} (hends : Ends rest) : Avoids isNumberMark rest := by
  have hall : ∀ p ∈ points [' ', '\t', '\n', '\r', ',', ']', '\x7d'], isNumberMark p = false := by
    decide
  exact fun p hmem => hall p (hends p hmem)

theorem Avoids.partMark {rest : Source} (hrest : Avoids isNumberMark rest) :
    Avoids isPartMark rest := by
  refine hrest.mono fun p hp => ?_
  simp only [isNumberMark, Bool.or_eq_false_iff] at hp
  exact hp.1.1

theorem Avoids.digit {rest : Source} (hrest : Avoids isPartMark rest) : Avoids isDigit rest := by
  refine hrest.mono fun p hp => ?_
  simp only [isPartMark, Bool.or_eq_false_iff] at hp
  exact hp.1

/-! ### Numbers that are read -/

theorem splitDigits_points {s : List Char} (hs : AreDigits s) {rest : Source}
    (hrest : Avoids isDigit rest) : splitDigits (points s ++ rest) = (digitsOf s, rest) := by
  have hdigits : ∀ p ∈ points s, isDigit p = true := by
    intro p hmem
    obtain ⟨c, hc, rfl⟩ := List.mem_map.mp hmem
    exact hs c hc
  have hstop : rest.takeWhile isDigit = [] ∧ rest.dropWhile isDigit = rest := by
    cases rest with
    | nil => exact ⟨rfl, rfl⟩
    | cons p rest => simp [hrest p rfl]
  rw [splitDigits, List.takeWhile_append_of_pos hdigits, List.dropWhile_append_of_pos hdigits,
    hstop.1, hstop.2, List.append_nil, points, List.filterMap_map]
  rfl

theorem length_digitsOf {s : List Char} (hs : AreDigits s) : (digitsOf s).length = s.length :=
  length_filterMap_of_all hs

theorem digitsOf_ne_nil {s : List Char} (hs : AreDigits s) (hne : s ≠ []) : digitsOf s ≠ [] := by
  intro hnil
  have hlength := length_digitsOf hs
  rw [hnil, List.length_nil] at hlength
  exact hne (List.length_eq_zero_iff.mp hlength.symm)

theorem eq_zero_of_asciiDigit? {c : Char} (hc : asciiDigit? c = some 0) : c = '0' := by
  obtain ⟨hlow, -, hvalue⟩ := asciiDigit?_of_isAsciiDigit (c := c) (by rw [isAsciiDigit, hc]; rfl)
  have hzero : c.toNat - 0x30 = 0 := Option.some.inj (hvalue.symm.trans hc)
  have hcode : c.toNat = 0x30 := by omega
  rw [← Char.ofNat_toNat c, hcode]

theorem IsWhole.read {digits : List Nat} {s : List Char} (hwhole : IsWhole digits s) {rest : Source}
    (hrest : Avoids isDigit rest) : readWhole (points s ++ rest) = some (digits, rest) := by
  cases hwhole with
  | zero => rfl
  | @digits c s hc hall =>
      have hsplit := splitDigits_points hall hrest
      obtain ⟨d, hd⟩ := Option.isSome_iff_exists.mp (hall c List.mem_cons_self)
      have hdigit : digit? (.char c) = some d := hd
      rw [points_cons, List.cons_append] at hsplit ⊢
      rw [readWhole, hdigit]
      split
      · rename_i heq
        cases heq
      · rename_i heq
        obtain rfl := Option.some.inj heq
        exact absurd (eq_zero_of_asciiDigit? hd) hc
      · rw [hsplit]

theorem IsPart.read {part : List Nat} {s : List Char} (hpart : IsPart part s) {rest : Source}
    (hrest : Avoids isPartMark rest) : readPart (points s ++ rest) = (part, rest) := by
  cases hpart with
  | none =>
      rw [points_nil, List.nil_append]
      cases rest with
      | nil => rfl
      | cons p rest =>
          have hp := hrest p rfl
          rw [readPart.eq_def]
          split
          · rename_i heq
            obtain rfl := (List.cons.inj heq).1
            cases hp
          · rfl
  | @digits s hne hall =>
      have hsplit := splitDigits_points hall hrest.digit
      rw [points_cons, List.cons_append, readPart, hsplit]
      split
      · rename_i heq
        exact absurd (Prod.mk.inj heq).1 (digitsOf_ne_nil hall hne)
      · rfl

theorem IsSign.read {negative : Bool} {s : List Char} (hsign : IsSign negative s) {c : Char}
    (hc : isAsciiDigit c = true) (rest : Source) :
    splitSign (points s ++ .char c :: rest) = (negative, .char c :: rest) := by
  cases hsign with
  | plus => rfl
  | minus => rfl
  | none =>
      rw [points_nil, List.nil_append, splitSign.eq_def]
      split
      · rename_i heq
        obtain rfl := Point.char.inj (List.cons.inj heq).1
        cases hc
      · rename_i heq
        obtain rfl := Point.char.inj (List.cons.inj heq).1
        cases hc
      · rfl

theorem IsPower.read {power : Option Int} {s : List Char} (hpower : IsPower power s) {rest : Source}
    (hrest : Avoids isNumberMark rest) : readPower (points s ++ rest) = (power, rest) := by
  cases hpower with
  | none =>
      rw [points_nil, List.nil_append]
      cases rest with
      | nil => rfl
      | cons p rest =>
          have hp := hrest p rfl
          simp only [isNumberMark, Bool.or_eq_false_iff, beq_eq_false_iff_ne] at hp
          rw [readPower, if_neg (by simp [hp.1.2, hp.2])]
  | @digits mark negative sign s hmark hsign hne hall =>
      obtain ⟨c, others, rfl⟩ := List.exists_cons_of_ne_nil hne
      have hmark' : Point.char mark = .char 'e' ∨ Point.char mark = .char 'E' := by
        simpa using hmark
      have hsplit := splitDigits_points hall hrest.partMark.digit
      have hsigned := hsign.read (hall c List.mem_cons_self) (points others ++ rest)
      have hopen : points (mark :: (sign ++ c :: others)) ++ rest =
          .char mark :: (points sign ++ .char c :: (points others ++ rest)) := by
        simp
      rw [points_cons, List.cons_append] at hsplit
      rw [hopen, readPower, if_pos hmark', hsigned]
      dsimp only
      rw [hsplit]
      split
      · rename_i heq
        exact absurd (Prod.mk.inj heq).1 (digitsOf_ne_nil hall hne)
      · rename_i heq
        obtain ⟨rfl, rfl⟩ := Prod.mk.inj heq
        rfl

/-! What follows the digits of a number is what follows its whole part. -/

theorem IsPower.avoids {power : Option Int} {s : List Char} (hpower : IsPower power s)
    {rest : Source} (hrest : Avoids isNumberMark rest) : Avoids isPartMark (points s ++ rest) := by
  cases hpower with
  | none => exact hrest.partMark
  | digits hmark =>
      intro p hmem
      obtain rfl := Option.some.inj hmem
      rcases hmark with rfl | rfl <;> rfl

theorem IsPart.avoids {part : List Nat} {s : List Char} (hpart : IsPart part s) {rest : Source}
    (hrest : Avoids isPartMark rest) : Avoids isDigit (points s ++ rest) := by
  cases hpart with
  | none => exact hrest.digit
  | digits =>
      intro p hmem
      obtain rfl := Option.some.inj hmem
      rfl

/-- A number is read as its value, unless it is whole and too long. -/
theorem IsNumber.read {negative short : Bool} {v : Value} {s : List Char}
    (hs : IsNumber negative short v s) {rest : Source} (hends : Ends rest) :
    readNumber negative (points s ++ rest) = if short then some (v, rest) else none := by
  have hrest := hends.avoids
  cases hs with
  | @whole digits s hwhole =>
      have hdigits := hwhole.read hrest.partMark.digit
      have hpart : readPart rest = ([], rest) := IsPart.none.read hrest.partMark
      have hpower : readPower rest = (none, rest) := IsPower.none.read hrest
      rw [readNumber, hdigits]
      simp only [Option.bind_eq_bind, Option.bind_some, hpart, hpower, List.isEmpty_nil,
        Option.isNone_none, Bool.and_self, if_true, decide_eq_true_eq]
      rfl
  | @real digits part power s s' s'' hwhole hpart hpower hreal =>
      have hafter := hpower.avoids hrest
      have hdigits := hwhole.read (hpart.avoids hafter)
      have hopen : points (s ++ (s' ++ s'')) ++ rest =
          points s ++ (points s' ++ (points s'' ++ rest)) := by
        simp
      have hother : (part.isEmpty && power.isNone) = false := by
        rcases hreal with hreal | hreal
        · simp [hreal]
        · cases power with
          | none => exact absurd rfl hreal
          | some n => simp
      rw [hopen, readNumber, hdigits]
      simp only [Option.bind_eq_bind, Option.bind_some, hpart.read hafter, hpower.read hrest,
        hother, if_false, Bool.false_eq_true, if_true]
      rfl

/-! ### Atoms that are read -/

theorem digitChar_of_isAsciiDigit {c : Char} (hc : isAsciiDigit c = true) :
    ∃ d < 10, c = Nat.digitChar d := by
  obtain ⟨hlow, hhigh, -⟩ := asciiDigit?_of_isAsciiDigit hc
  have hall : ∀ n < 10, Nat.digitChar n = Char.ofNat (n + 0x30) := by decide
  refine ⟨c.toNat - 0x30, by omega, ?_⟩
  rw [hall _ (by omega), Nat.sub_add_cancel hlow, Char.ofNat_toNat]

theorem IsNumber.eq_cons {negative short : Bool} {v : Value} {s : List Char}
    (hs : IsNumber negative short v s) : ∃ c others, s = c :: others ∧ isAsciiDigit c = true := by
  have hwhole : ∀ {digits s}, IsWhole digits s →
      ∃ c others, s = c :: others ∧ isAsciiDigit c = true := by
    rintro digits s (_ | ⟨hc, hall⟩)
    · exact ⟨_, _, rfl, by decide⟩
    · exact ⟨_, _, rfl, hall _ List.mem_cons_self⟩
  cases hs with
  | whole hs => exact hwhole hs
  | real hs =>
      obtain ⟨c, others, rfl, hc⟩ := hwhole hs
      exact ⟨c, _, rfl, hc⟩

/-- A text that starts with a digit is that of a number. -/
theorem readValue_digit {c : Char} (hc : isAsciiDigit c = true) (fuel : Nat) (rest : Source) :
    readValue (fuel + 1) (.char c :: rest) = readNumber false (.char c :: rest) := by
  obtain ⟨d, hd, rfl⟩ := digitChar_of_isAsciiDigit hc
  rw [readValue.eq_def]
  interval_cases d <;> rfl

theorem readValue_minus {c : Char} (hc : isAsciiDigit c = true) (fuel : Nat) (rest : Source) :
    readValue (fuel + 1) (.char '-' :: .char c :: rest) = readNumber true (.char c :: rest) := by
  obtain ⟨d, hd, rfl⟩ := digitChar_of_isAsciiDigit hc
  rw [readValue.eq_def]
  interval_cases d <;> rfl

/-- A value without parts is read from its text, unless it is a number that is too long. -/
theorem IsAtom.read {short : Bool} {v : Value} {s : List Char} (hs : IsAtom short v s)
    (fuel : Nat) {rest : Source} (hends : Ends rest) :
    readValue (fuel + 1) (points s ++ rest) = if short then some (v, rest) else none := by
  cases hs with
  | bool b =>
      rw [readValue.eq_def]
      cases b <;> rfl
  | null | nan | infinity | minusInfinity =>
      rw [readValue.eq_def]
      rfl
  | number hs =>
      obtain ⟨c, others, rfl, hc⟩ := hs.eq_cons
      exact (readValue_digit hc fuel _).trans (hs.read hends)
  | minus hs =>
      obtain ⟨c, others, rfl, hc⟩ := hs.eq_cons
      exact (readValue_minus hc fuel _).trans (hs.read hends)

/-! ### What is read is a text -/

/-- A text that starts with one that has the property, and what follows. -/
def StartsWith (P : List Char → Prop) (rest : Source) (s : List Char) : Prop :=
  ∃ front back, s = front ++ back ∧ rest = points back ∧ P front

theorem startsWith_digits_of_splitDigits {s : List Char} {digits : List Nat} {rest : Source}
    (hread : splitDigits (points s) = (digits, rest)) :
    StartsWith (fun front => AreDigits front ∧ digits = digitsOf front) rest s := by
  obtain ⟨rfl, rfl⟩ := Prod.mk.inj hread
  have hdigit : isDigit ∘ Point.char = isAsciiDigit := rfl
  refine ⟨s.takeWhile isAsciiDigit, s.dropWhile isAsciiDigit,
    List.takeWhile_append_dropWhile.symm, ?_, fun c hmem => List.mem_takeWhile_imp hmem, ?_⟩
  · rw [points, points, List.dropWhile_map, hdigit]
  · rw [points, List.takeWhile_map, hdigit, List.filterMap_map]
    rfl

theorem avoids_of_splitDigits {s : Source} {digits : List Nat} {rest : Source}
    (hread : splitDigits s = (digits, rest)) : Avoids isDigit rest := by
  obtain ⟨-, rfl⟩ := Prod.mk.inj hread
  intro p hmem
  have hstop := List.head?_dropWhile_not isDigit s
  rwa [show (s.dropWhile isDigit).head? = some p from hmem] at hstop

theorem startsWith_whole_of_readWhole {s : List Char} {digits : List Nat} {rest : Source}
    (hread : readWhole (points s) = some (digits, rest)) : StartsWith (IsWhole digits) rest s := by
  cases s with
  | nil => cases hread
  | cons c s =>
      rw [points_cons, readWhole] at hread
      split at hread
      · cases hread
      · rename_i hzero
        obtain ⟨rfl, rfl⟩ := Prod.mk.inj (Option.some.inj hread)
        obtain rfl := eq_zero_of_asciiDigit? hzero
        exact ⟨['0'], s, rfl, rfl, .zero⟩
      · rename_i d hzero hd
        have hsplit := Option.some.inj hread
        have hdigit : isDigit (.char c) = true := by rw [isDigit, hd]; rfl
        have havoids := avoids_of_splitDigits hsplit
        obtain ⟨front, back, hs, rfl, hall, rfl⟩ :=
          startsWith_digits_of_splitDigits (s := c :: s) hsplit
        cases front with
        | nil =>
            rw [List.nil_append] at hs
            rw [← hs] at havoids
            cases (havoids _ rfl).symm.trans hdigit
        | cons c' front =>
            obtain ⟨rfl, rfl⟩ := List.cons.inj hs
            refine ⟨c :: front, back, rfl, rfl, .digits ?_ hall⟩
            rintro rfl
            exact hzero (Option.some.inj hd).symm

theorem startsWith_part_of_readPart {s : List Char} {part : List Nat} {rest : Source}
    (hread : readPart (points s) = (part, rest)) : StartsWith (IsPart part) rest s := by
  have hnone : ([], points s) = (part, rest) → StartsWith (IsPart part) rest s := by
    intro heq
    obtain ⟨rfl, rfl⟩ := Prod.mk.inj heq
    exact ⟨[], s, rfl, rfl, .none⟩
  rw [readPart.eq_def] at hread
  split at hread
  · rename_i after heq
    split at hread
    · exact hnone hread
    · rename_i hfound
      obtain ⟨c, tail, rfl, hc, rfl⟩ := points_eq_cons heq
      obtain rfl := Point.char.inj hc
      obtain ⟨front, back, rfl, hrest, hall, rfl⟩ := startsWith_digits_of_splitDigits hread
      refine ⟨'.' :: front, back, rfl, hrest, .digits ?_ hall⟩
      rintro rfl
      exact hfound _ hread
  · exact hnone hread

theorem startsWith_sign_of_splitSign {s : List Char} {negative : Bool} {rest : Source}
    (hread : splitSign (points s) = (negative, rest)) : StartsWith (IsSign negative) rest s := by
  rw [splitSign.eq_def] at hread
  split at hread
  · rename_i after heq
    obtain ⟨rfl, rfl⟩ := Prod.mk.inj hread
    obtain ⟨c, tail, rfl, hc, rfl⟩ := points_eq_cons heq
    obtain rfl := Point.char.inj hc
    exact ⟨['-'], tail, rfl, rfl, .minus⟩
  · rename_i after heq
    obtain ⟨rfl, rfl⟩ := Prod.mk.inj hread
    obtain ⟨c, tail, rfl, hc, rfl⟩ := points_eq_cons heq
    obtain rfl := Point.char.inj hc
    exact ⟨['+'], tail, rfl, rfl, .plus⟩
  · obtain ⟨rfl, rfl⟩ := Prod.mk.inj hread
    exact ⟨[], s, rfl, rfl, .none⟩

theorem startsWith_power_of_readPower {s : List Char} {power : Option Int} {rest : Source}
    (hread : readPower (points s) = (power, rest)) : StartsWith (IsPower power) rest s := by
  have hnone : (none, points s) = (power, rest) → StartsWith (IsPower power) rest s := by
    intro heq
    obtain ⟨rfl, rfl⟩ := Prod.mk.inj heq
    exact ⟨[], s, rfl, rfl, .none⟩
  cases s with
  | nil => exact hnone hread
  | cons mark s =>
      rw [points_cons, readPower] at hread
      by_cases hmark : Point.char mark = .char 'e' ∨ Point.char mark = .char 'E'
      · rw [if_pos hmark] at hread
        rcases hsign : splitSign (points s) with ⟨negative, body⟩
        obtain ⟨sign, tail, rfl, rfl, hsigned⟩ := startsWith_sign_of_splitSign hsign
        rw [hsign] at hread
        dsimp only at hread
        split at hread
        · exact hnone hread
        · rename_i digits after hfound hsplit
          obtain ⟨rfl, rfl⟩ := Prod.mk.inj hread
          obtain ⟨front, back, rfl, rfl, hall, rfl⟩ := startsWith_digits_of_splitDigits hsplit
          refine ⟨mark :: (sign ++ front), back, by simp, rfl, .digits ?_ hsigned ?_ hall⟩
          · simpa using hmark
          · rintro rfl
            exact hfound rfl
      · rw [if_neg hmark] at hread
        exact hnone hread

theorem IsPart.eq_nil {s : List Char} (hpart : IsPart [] s) : s = [] := by
  generalize hnil : ([] : List Nat) = digits at hpart
  cases hpart with
  | none => rfl
  | digits hne hall => exact absurd hnil.symm (digitsOf_ne_nil hall hne)

theorem IsPower.eq_nil {s : List Char} (hpower : IsPower Option.none s) : s = [] := by
  cases hpower
  rfl

/-- What is read as a number is short enough. -/
theorem startsWith_number_of_readNumber {negative : Bool} {s : List Char} {v : Value}
    {rest : Source} (hread : readNumber negative (points s) = some (v, rest)) :
    StartsWith (IsNumber negative true v) rest s := by
  unfold readNumber at hread
  obtain ⟨⟨digits, rest₁⟩, hfirst, hread⟩ := Option.bind_eq_some_iff.mp hread
  obtain ⟨front, s₁, rfl, rfl, hwhole⟩ := startsWith_whole_of_readWhole hfirst
  dsimp only at hread
  rcases hsecond : readPart (points s₁) with ⟨part, rest₂⟩
  obtain ⟨front₁, s₂, rfl, rfl, hpart⟩ := startsWith_part_of_readPart hsecond
  rcases hthird : readPower (points s₂) with ⟨power, rest₃⟩
  obtain ⟨front₂, s₃, rfl, rfl, hpower⟩ := startsWith_power_of_readPower hthird
  rw [hsecond] at hread
  dsimp only at hread
  rw [hthird] at hread
  dsimp only at hread
  by_cases honly : (part.isEmpty && power.isNone) = true
  · rw [if_pos honly] at hread
    have hshort : digits.length ≤ decimalDigitLimit := by
      by_contra hlong
      rw [if_neg hlong] at hread
      cases hread
    rw [if_pos hshort] at hread
    obtain ⟨rfl, rfl⟩ := Prod.mk.inj (Option.some.inj hread)
    obtain ⟨rfl, rfl⟩ : part = [] ∧ power = none := by simpa using honly
    obtain rfl := hpart.eq_nil
    obtain rfl := hpower.eq_nil
    have hnumber : IsNumber negative _ _ front := .whole hwhole
    rw [decide_eq_true hshort] at hnumber
    exact ⟨front, s₃, rfl, rfl, hnumber⟩
  · rw [if_neg honly] at hread
    obtain ⟨rfl, rfl⟩ := Prod.mk.inj (Option.some.inj hread)
    refine ⟨front ++ (front₁ ++ front₂), s₃, by simp, rfl, .real hwhole hpart hpower ?_⟩
    by_contra hnone
    simp only [ne_eq, not_or, Decidable.not_not] at hnone
    simp [hnone] at honly

theorem startsWith_of_after? {w s : List Char} {rest : Source}
    (hafter : after? w (points s) = some rest) : StartsWith (· = w) rest s := by
  induction w generalizing s with
  | nil =>
      obtain rfl := Option.some.inj hafter
      exact ⟨[], s, rfl, rfl, rfl⟩
  | cons c w ih =>
      cases s with
      | nil => cases hafter
      | cons c' s =>
          rw [points_cons, after?] at hafter
          by_cases hc : Point.char c' = .char c
          · rw [if_pos hc] at hafter
            obtain ⟨front, back, rfl, hrest, rfl⟩ := ih hafter
            obtain rfl := Point.char.inj hc
            exact ⟨c' :: front, back, rfl, hrest, rfl⟩
          · rw [if_neg hc] at hafter
            cases hafter

/-- What is read as a value without parts is a text of it. -/
theorem startsWith_atom_of_readAtom {s : List Char} {v : Value} {rest : Source}
    (hread : readAtom (points s) = some (v, rest)) : StartsWith (IsAtom true v) rest s := by
  have hword : ∀ {c : Char} {w : List Char} {u : Value} {after : Source},
      points s = .char c :: after → (after? w after).map (u, ·) = some (v, rest) →
      IsAtom true u (c :: w) → StartsWith (IsAtom true v) rest s := by
    intro c w u after hs hmap hatom
    obtain ⟨c', tail, rfl, hc, rfl⟩ := points_eq_cons hs
    obtain rfl := Point.char.inj hc
    obtain ⟨found, hafter, heq⟩ := Option.map_eq_some_iff.mp hmap
    obtain ⟨rfl, rfl⟩ := Prod.mk.inj heq
    obtain ⟨front, back, rfl, rfl, rfl⟩ := startsWith_of_after? hafter
    exact ⟨c :: front, back, rfl, rfl, hatom⟩
  unfold readAtom at hread
  split at hread
  · rename_i hs
    exact hword hs hread .null
  · rename_i hs
    exact hword hs hread (.bool true)
  · rename_i hs
    exact hword hs hread (.bool false)
  · rename_i hs
    exact hword hs hread .nan
  · rename_i hs
    exact hword hs hread .infinity
  · rename_i after hs
    split at hread
    · rename_i found hafter
      exact hword hs (by rw [hafter]; exact hread) .minusInfinity
    · obtain ⟨c, tail, rfl, hc, rfl⟩ := points_eq_cons hs
      obtain rfl := Point.char.inj hc
      obtain ⟨front, back, rfl, rfl, hnumber⟩ := startsWith_number_of_readNumber hread
      exact ⟨'-' :: front, back, rfl, rfl, .minus hnumber⟩
  · obtain ⟨front, back, rfl, rfl, hnumber⟩ := startsWith_number_of_readNumber hread
    exact ⟨front, back, rfl, rfl, .number hnumber⟩

end HostLink.Json
