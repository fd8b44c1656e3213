import HostLink.Proofs.Literal
import HostLink.Proofs.Template

/-!
# The layout of a program

A scanner takes program text apart into code and double-quoted literals, knowing nothing of how the
text was made. On text that was put together from code without quotes and from written literals it
finds exactly that code and those literals, so that the code does not depend on what the literals
hold.
-/

namespace HostLink.Program

open Literal Template

/-- Where a scanner stands. -/
inductive Mode where
  | code
  | literal
  /-- Inside a literal, after a backslash. -/
  | escaped
  deriving DecidableEq, Repr

/-- Pieces of code, and the raw content of the literals between them. -/
structure Layout where
  code : List (List Char)
  literals : List (List Char)
  /-- Whether every literal has its closing quote. -/
  closed : Bool
  deriving DecidableEq, Repr

namespace Layout

def afterCode (text : List Char) (l : Layout) : Layout :=
  { l with code := l.code.modifyHead (text ++ ·) }

def afterContent (text : List Char) (l : Layout) : Layout :=
  { l with literals := l.literals.modifyHead (text ++ ·) }

@[simp]
theorem afterCode_nil (l : Layout) : l.afterCode [] = l := by
  obtain ⟨code, literals, closed⟩ := l
  cases code <;> rfl

@[simp]
theorem afterCode_afterCode (s t : List Char) (l : Layout) :
    (l.afterCode t).afterCode s = l.afterCode (s ++ t) := by
  simp [afterCode, Function.comp_def]

@[simp]
theorem afterContent_afterContent (s t : List Char) (l : Layout) :
    (l.afterContent t).afterContent s = l.afterContent (s ++ t) := by
  simp [afterContent, Function.comp_def]

/-- The values that the literals are read as. -/
def values (l : Layout) : List (Option (List Char)) :=
  l.literals.map fun raw =>
    match readBody (raw ++ ['"']) with
    | some (value, []) => some value
    | _ => none

end Layout

/-- A literal runs from a quote to the next quote that no backslash goes before. -/
def scanFrom : Mode → List Char → Layout
  | .code, [] => ⟨[[]], [], true⟩
  | .literal, [] => ⟨[], [[]], false⟩
  | .escaped, [] => ⟨[], [[]], false⟩
  | .code, c :: rest =>
    if c = '"' then
      let l := scanFrom .literal rest
      { l with code := [] :: l.code }
    else (scanFrom .code rest).afterCode [c]
  | .literal, c :: rest =>
    if c = '"' then
      let l := scanFrom .code rest
      { l with literals := [] :: l.literals }
    else (scanFrom (if c = '\\' then .escaped else .literal) rest).afterContent [c]
  | .escaped, c :: rest => (scanFrom .literal rest).afterContent [c]

def scan (program : String) : Layout :=
  scanFrom .code program.toList

/-! ### What the scanner finds -/

theorem scanFrom_code_append {text : List Char} (hplain : '"' ∉ text) (rest : List Char) :
    scanFrom .code (text ++ rest) = (scanFrom .code rest).afterCode text := by
  induction text with
  | nil => simp
  | cons c text ih =>
      simp only [List.mem_cons, not_or] at hplain
      rw [List.cons_append, scanFrom, if_neg (Ne.symm hplain.1), ih hplain.2,
        Layout.afterCode_afterCode]
      rfl

/-- However a character is escaped, the scanner is still inside the literal after it. -/
theorem scanFrom_literal_escapeChar (c : Char) (rest : List Char) :
    scanFrom .literal (escapeChar c ++ rest) =
      (scanFrom .literal rest).afterContent (escapeChar c) := by
  rcases escapeChar_cases c with ⟨hescaped, -⟩ | ⟨hplain, hquote, hslash, -⟩
  · rcases hescaped with rfl | rfl | rfl | rfl | rfl | rfl <;>
      simp [escapeChar, scanFrom]
  · simp [hplain, scanFrom, hquote, hslash]

theorem scanFrom_literal_escape (s rest : List Char) :
    scanFrom .literal (escape s ++ '"' :: rest) =
      { scanFrom .code rest with literals := escape s :: (scanFrom .code rest).literals } := by
  induction s with
  | nil => simp [escape, scanFrom]
  | cons c s ih =>
      rw [escape_cons, List.append_assoc, scanFrom_literal_escapeChar, ih]
      simp [Layout.afterContent]

theorem scanFrom_quote (s rest : List Char) :
    scanFrom .code (quote s ++ rest) =
      { scanFrom .code rest with
        code := [] :: (scanFrom .code rest).code
        literals := escape s :: (scanFrom .code rest).literals } := by
  rw [quote, List.cons_append, List.cons_append, List.append_assoc, List.singleton_append,
    scanFrom, if_pos rfl, scanFrom_literal_escape]

/-! ### Programs put together -/

/-- Code that goes on with literals of values, each with the code that follows it. -/
def assemble (first : List Char) (rest : List (List Char × List Char)) : List Char :=
  interleave first (rest.map fun pair => (quote pair.1, pair.2))

/-- **The scanner finds what was put together.** The code is the given code and the literals are
read as the given values, whatever these are. -/
theorem scanFrom_assemble {first : List Char} {rest : List (List Char × List Char)}
    (hfirst : '"' ∉ first) (hrest : ∀ pair ∈ rest, '"' ∉ pair.2) :
    scanFrom .code (assemble first rest) =
      ⟨first :: rest.map (·.2), rest.map fun pair => escape pair.1, true⟩ := by
  induction rest generalizing first with
  | nil =>
      have hscan := scanFrom_code_append hfirst []
      simpa [assemble, interleave, scanFrom, Layout.afterCode] using hscan
  | cons pair rest ih =>
      have htail := ih (hrest pair List.mem_cons_self)
        fun next hmem => hrest next (List.mem_cons_of_mem _ hmem)
      rw [assemble, List.map_cons, interleave_cons, scanFrom_code_append hfirst]
      change (scanFrom .code (quote pair.1 ++ assemble pair.2 rest)).afterCode first = _
      rw [scanFrom_quote, htail]
      simp [Layout.afterCode]

theorem values_of_escaped {l : Layout} {values : List (List Char)}
    (hliterals : l.literals = values.map escape) : l.values = values.map some := by
  rw [Layout.values, hliterals, List.map_map]
  apply List.map_congr_left
  intro s _
  simp [readBody_escape_append]

def IsOneLine (s : List Char) : Prop :=
  ∀ c ∈ s, isLineTerminator c = false

theorem isOneLine_append {s t : List Char} : IsOneLine (s ++ t) ↔ IsOneLine s ∧ IsOneLine t := by
  simp only [IsOneLine, List.mem_append, or_imp, forall_and]

theorem isOneLine_assemble {first : List Char} {rest : List (List Char × List Char)}
    (hfirst : IsOneLine first) (hrest : ∀ pair ∈ rest, IsOneLine pair.2) :
    IsOneLine (assemble first rest) := by
  rw [assemble, interleave, isOneLine_append]
  refine ⟨hfirst, ?_⟩
  intro c hmem
  simp only [List.flatMap_map, List.mem_flatMap, List.mem_append] at hmem
  obtain ⟨pair, hpair, hquote | hcode⟩ := hmem
  · exact isLineTerminator_of_mem_quote hquote
  · exact hrest pair hpair c hcode

end HostLink.Program
