import HostLink.Literal
import Mathlib.Data.Option.Basic

/-!
# Literals give their text back

A grammar says how a literal may write each code point and where it ends. No text begins with a
literal in two ways, the reader takes exactly the literals that hold text, and what is written for a
text is one of its literals. So reading undoes writing, whatever follows.
-/

namespace HostLink.Literal

open Text

/-! ### The grammar of literals -/

/-- How a literal may write a code point. -/
inductive Writes : Point → List Char → Prop where
  | plain {c : Char} (hquote : c ≠ '"') (hslash : c ≠ '\\') (hline : isLineTerminator c = false) :
      Writes (.char c) [c]
  | slash : Writes (.char '\\') ['\\', '\\']
  | quote : Writes (.char '"') ['\\', '"']
  | lineFeed : Writes (.char '\n') ['\\', 'n']
  | carriageReturn : Writes (.char '\r') ['\\', 'r']
  | unit {a b c d : Char} {p : Point} (hunit : (codeUnit? a b c d).bind Point.ofNat? = some p) :
      Writes p ['\\', 'u', a, b, c, d]

inductive WritesAll : List Point → List Char → Prop where
  | nil : WritesAll [] []
  | cons {p : Point} {part : List Char} {ps : List Point} {body : List Char}
      (hfirst : Writes p part) (hrest : WritesAll ps body) : WritesAll (p :: ps) (part ++ body)

/-- The text begins with a literal of these code points, and `rest` is what follows it. -/
def BeginsWith (text : List Char) (ps : List Point) (rest : List Char) : Prop :=
  ∃ body, WritesAll ps body ∧ text = '"' :: (body ++ '"' :: rest)

theorem Writes.ne_quote {p : Point} {part rest after : List Char} (hwrites : Writes p part) :
    part ++ rest ≠ '"' :: after := by
  cases hwrites with
  | plain hquote => simp [hquote]
  | _ => simp

theorem Writes.unique {p p' : Point} {part part' rest rest' : List Char} (hwrites : Writes p part)
    (hwrites' : Writes p' part') (htext : part ++ rest = part' ++ rest') :
    p = p' ∧ rest = rest' := by
  cases hwrites <;> cases hwrites' <;> grind

theorem WritesAll.unique {ps ps' : List Point} {body body' rest rest' : List Char}
    (hwrites : WritesAll ps body) (hwrites' : WritesAll ps' body')
    (htext : body ++ '"' :: rest = body' ++ '"' :: rest') : ps = ps' ∧ rest = rest' := by
  -- A written part never begins with a quote, so both readings end at the same place.
  induction hwrites generalizing ps' body' with
  | nil =>
      cases hwrites' with
      | nil => simpa using htext
      | cons hfirst' hrest' =>
          rw [List.nil_append, List.append_assoc] at htext
          exact absurd htext.symm hfirst'.ne_quote
  | cons hfirst hrest ih =>
      rw [List.append_assoc] at htext
      cases hwrites' with
      | nil => exact absurd htext hfirst.ne_quote
      | cons hfirst' hrest' =>
          rw [List.append_assoc] at htext
          obtain ⟨rfl, htail⟩ := hfirst.unique hfirst' htext
          obtain ⟨rfl, hafter⟩ := ih hrest' htail
          exact ⟨rfl, hafter⟩

theorem BeginsWith.unique {text rest rest' : List Char} {ps ps' : List Point}
    (hbegins : BeginsWith text ps rest) (hbegins' : BeginsWith text ps' rest') :
    ps = ps' ∧ rest = rest' := by
  obtain ⟨body, hbody, rfl⟩ := hbegins
  obtain ⟨body', hbody', htext⟩ := hbegins'
  exact hbody.unique hbody' (List.cons.inj htext).2

/-! ### The reader takes the literals that hold text

It refuses one that writes a surrogate on its own, which no text holds.
-/

theorem scalar?_eq_some_iff {n : Nat} {c : Char} :
    scalar? n = some c ↔ Point.ofNat? n = some (.char c) := by
  rw [Point.ofNat?]
  split
  · rename_i hsurrogate
    have hinvalid : ¬ n.isValidChar := by
      simp only [isHighSurrogate, isLowSurrogate, Bool.or_eq_true, Bool.and_eq_true,
        decide_eq_true_eq] at hsurrogate
      simp only [Nat.isValidChar]
      omega
    simp [scalar?, hinvalid]
  · simp

theorem bind_scalar?_eq_some_iff {unit : Option Nat} {c : Char} :
    unit.bind scalar? = some c ↔ unit.bind Point.ofNat? = some (.char c) := by
  simp [Option.bind_eq_some_iff, scalar?_eq_some_iff]

theorem readBody_append_of_writes {c : Char} {part : List Char} (hwrites : Writes (.char c) part)
    (rest : List Char) :
    readBody (part ++ rest) = (readBody rest).map fun read => (c :: read.1, read.2) := by
  generalize hp : Point.char c = p at hwrites
  cases hwrites with
  | plain hquote hslash hline =>
      cases hp
      rw [List.singleton_append, readBody]
      · cases hread : readBody rest <;> simp [hline]
      · exact hquote
      · exact hslash
  | unit hunit =>
      subst hp
      rw [← bind_scalar?_eq_some_iff] at hunit
      cases hread : readBody rest <;> simp [readBody, hread, hunit]
  | _ =>
      cases hp
      cases hread : readBody rest <;> simp [readBody, hread]

theorem readBody_append_of_writesAll {s body : List Char} (hwrites : WritesAll (points s) body)
    (rest : List Char) : readBody (body ++ '"' :: rest) = some (s, rest) := by
  induction s generalizing body with
  | nil =>
      cases hwrites
      rfl
  | cons c s ih =>
      cases hwrites with
      | cons hfirst hrest =>
          rw [List.append_assoc, readBody_append_of_writes hfirst, ih hrest]
          rfl

theorem exists_of_readBody_append {c : Char} {part after s rest : List Char}
    (hwrites : Writes (.char c) part) (hread : readBody (part ++ after) = some (s, rest)) :
    ∃ s', s = c :: s' ∧ readBody after = some (s', rest) := by
  rw [readBody_append_of_writes hwrites, Option.map_eq_some_iff] at hread
  obtain ⟨⟨s', rest'⟩, hafter, hpair⟩ := hread
  cases hpair
  exact ⟨s', rfl, hafter⟩

/-- What is read starts with the closing quote, or with a character as a literal may write it. -/
theorem readBody_cases {text s rest : List Char} (hread : readBody text = some (s, rest)) :
    (∃ after, text = '"' :: after) ∨
      ∃ c part after, Writes (.char c) part ∧ text = part ++ after := by
  fun_cases readBody text with
  | case1 => cases hread
  | case2 after => exact .inl ⟨after, rfl⟩
  | case3 a b c d after =>
      right
      cases hunit : (codeUnit? a b c d).bind scalar? with
      | none => simp [readBody, hunit] at hread
      | some ch => exact ⟨ch, _, after, .unit (bind_scalar?_eq_some_iff.mp hunit), rfl⟩
  | case4 after => exact .inr ⟨_, _, after, .slash, rfl⟩
  | case5 after => exact .inr ⟨_, _, after, .quote, rfl⟩
  | case6 after => exact .inr ⟨_, _, after, .lineFeed, rfl⟩
  | case7 after => exact .inr ⟨_, _, after, .carriageReturn, rfl⟩
  | case8 => simp_all [readBody]
  | case9 => cases hread
  | case10 c after hquote hslash hline => simp [readBody, hline] at hread
  | case11 c after hquote hslash hline =>
      exact .inr ⟨c, _, after, .plain hquote hslash (by simpa using hline), rfl⟩

theorem exists_of_readBody {text s rest : List Char} (hread : readBody text = some (s, rest)) :
    ∃ body, WritesAll (points s) body ∧ text = body ++ '"' :: rest := by
  induction s generalizing text with
  | nil =>
      rcases readBody_cases hread with ⟨after, rfl⟩ | ⟨c, part, after, hwrites, rfl⟩
      · cases hread
        exact ⟨[], .nil, rfl⟩
      · obtain ⟨s', hs, -⟩ := exists_of_readBody_append hwrites hread
        cases hs
  | cons c s ih =>
      rcases readBody_cases hread with ⟨after, rfl⟩ | ⟨c', part, after, hwrites, rfl⟩
      · cases hread
      · obtain ⟨s', hs, hafter⟩ := exists_of_readBody_append hwrites hread
        cases hs
        obtain ⟨body, hbody, rfl⟩ := ih hafter
        exact ⟨part ++ body, .cons hwrites hbody, (List.append_assoc ..).symm⟩

theorem read_eq_some_iff {text s rest : List Char} :
    read text = some (s, rest) ↔ BeginsWith text (points s) rest := by
  constructor
  · intro hread
    fun_cases read text with
    | case1 after =>
        obtain ⟨body, hbody, rfl⟩ := exists_of_readBody hread
        exact ⟨body, hbody, rfl⟩
    | case2 => simp_all [read]
  · rintro ⟨body, hbody, rfl⟩
    exact readBody_append_of_writesAll hbody rest

/-! ### What is written -/

theorem escape_cons (c : Char) (s : List Char) : escape (c :: s) = escapeChar c ++ escape s :=
  List.flatMap_cons

/-- The six characters that are escaped. -/
def IsEscaped (c : Char) : Prop :=
  c = '\\' ∨ c = '"' ∨ c = '\n' ∨ c = '\r' ∨ c = '\u2028' ∨ c = '\u2029'

/-- A character is escaped in one of six ways, or it is written as it is and then is neither a
quote, nor a backslash, nor a line terminator. -/
theorem escapeChar_cases (c : Char) :
    (IsEscaped c ∧ ∃ rest, escapeChar c = '\\' :: rest) ∨
      (escapeChar c = [c] ∧ c ≠ '"' ∧ c ≠ '\\' ∧ isLineTerminator c = false) := by
  by_cases hescaped : IsEscaped c
  · left
    refine ⟨hescaped, ?_⟩
    rcases hescaped with rfl | rfl | rfl | rfl | rfl | rfl <;> exact ⟨_, rfl⟩
  · right
    simp only [IsEscaped, not_or] at hescaped
    obtain ⟨hslash, hquote, hfeed, hreturn, hline, hparagraph⟩ := hescaped
    refine ⟨?_, hquote, hslash, ?_⟩
    · simp [escapeChar, hslash, hquote, hfeed, hreturn, hline, hparagraph]
    · simp [isLineTerminator, hfeed, hreturn, hline, hparagraph]

theorem writes_escapeChar (c : Char) : Writes (.char c) (escapeChar c) := by
  rcases escapeChar_cases c with ⟨hescaped, -⟩ | ⟨hplain, hquote, hslash, hline⟩
  · rcases hescaped with rfl | rfl | rfl | rfl | rfl | rfl
    · exact .slash
    · exact .quote
    · exact .lineFeed
    · exact .carriageReturn
    · exact .unit (by decide)
    · exact .unit (by decide)
  · rw [hplain]
    exact .plain hquote hslash hline

theorem writesAll_escape (s : List Char) : WritesAll (points s) (escape s) := by
  induction s with
  | nil => exact .nil
  | cons c s ih =>
      rw [escape_cons]
      exact .cons (writes_escapeChar c) ih

theorem readBody_escape_append (s rest : List Char) :
    readBody (escape s ++ '"' :: rest) = some (s, rest) :=
  readBody_append_of_writesAll (writesAll_escape s) rest

theorem beginsWith_quote_append (s rest : List Char) :
    BeginsWith (quote s ++ rest) (points s) rest :=
  ⟨escape s, writesAll_escape s, by simp [quote]⟩

theorem read_quote_append (s rest : List Char) : read (quote s ++ rest) = some (s, rest) :=
  read_eq_some_iff.mpr (beginsWith_quote_append s rest)

theorem isLineTerminator_of_mem_escapeChar {c d : Char} (hmem : d ∈ escapeChar c) :
    isLineTerminator d = false := by
  rcases escapeChar_cases c with ⟨hescaped, -⟩ | ⟨hplain, -, -, hline⟩
  · have hall : (escapeChar c).all (fun d => !isLineTerminator d) = true := by
      rcases hescaped with rfl | rfl | rfl | rfl | rfl | rfl <;> decide
    simpa using List.all_eq_true.mp hall d hmem
  · rw [hplain, List.mem_singleton] at hmem
    exact hmem ▸ hline

theorem isLineTerminator_of_mem_quote {s : List Char} {d : Char} (hmem : d ∈ quote s) :
    isLineTerminator d = false := by
  simp only [quote, List.cons_append, List.mem_cons, List.mem_append, List.not_mem_nil,
    or_false] at hmem
  rcases hmem with rfl | hmem | rfl
  · rfl
  · obtain ⟨c, -, hc⟩ := List.mem_flatMap.mp hmem
    exact isLineTerminator_of_mem_escapeChar hc
  · rfl

/-! ### Literals of arguments -/

theorem ofValue_text (s : String) : ofValue (.text s) = .ok (quote s.toList) := by
  simp [ofValue, Value.toText, Value.text?, Except.map]

/-- A text that may be missing: the word that stands for it is no literal. -/
theorem exists_read_ofValue (s : Option String) :
    ∃ literal, ofValue (.ofOption s) = .ok literal ∧
      read literal = s.map fun s => (s.toList, []) := by
  cases s with
  | none => exact ⟨_, rfl, rfl⟩
  | some s => exact ⟨_, ofValue_text s, by simpa using read_quote_append s.toList []⟩

theorem ofValue_injective : Function.Injective fun s : Option String => ofValue (.ofOption s) := by
  intro s t heq
  obtain ⟨literal, hliteral, hread⟩ := exists_read_ofValue s
  obtain ⟨literal', hliteral', hread'⟩ := exists_read_ofValue t
  have hsame : literal = literal' := Except.ok.inj (hliteral.symm.trans (heq.trans hliteral'))
  rw [hsame, hread'] at hread
  have hpair : Function.Injective fun s : String => (s.toList, ([] : List Char)) := by
    intro s t hpairs
    exact String.toList_inj.mp (Prod.mk.inj hpairs).1
  exact (Option.map_injective hpair hread).symm

/-- **Literals are read back in every context.** The reader accepts exactly the literals of the
grammar that hold text. What is written for a text is read as that text with the rest left as it
was, the grammar admits no other reading, and different arguments have different literals. -/
theorem literals_read_back :
    (∀ text s rest : List Char, read text = some (s, rest) ↔ BeginsWith text (points s) rest) ∧
    (∀ (s : String) (rest : List Char), ∃ literal,
      ofValue (.text s) = .ok literal ∧
      read (literal ++ rest) = some (s.toList, rest) ∧
      ∀ ps after, BeginsWith (literal ++ rest) ps after ↔ ps = points s.toList ∧ after = rest) ∧
    (Function.Injective fun s : Option String => ofValue (.ofOption s)) := by
  refine ⟨fun text s rest => read_eq_some_iff, ?_, ofValue_injective⟩
  intro s rest
  have hbegins := beginsWith_quote_append s.toList rest
  refine ⟨_, ofValue_text s, read_quote_append s.toList rest, fun ps after => ⟨?_, ?_⟩⟩
  · intro hother
    exact hother.unique hbegins
  · rintro ⟨rfl, rfl⟩
    exact hbegins

end HostLink.Literal
