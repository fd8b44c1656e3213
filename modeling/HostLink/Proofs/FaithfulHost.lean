import HostLink.Proofs.Answer
import HostLink.Proofs.Resolve

/-!
# Resolving with a faithful host

A faithful host knows the two programs that ask for pointers by their code, reads the names out of
their literals, and answers from its tables. With such a host a spec is resolved to what the tables
say of it: one call, whatever characters the names hold.
-/

namespace HostLink

open Literal Text

namespace Program

/-! ### Reading programs -/

/-- What follows a piece of code at the front of a program. -/
def after? (code program : List Char) : Option (List Char) :=
  if code.isPrefixOf program then some (program.drop code.length) else none

/-- An argument at the front of a program, and what follows: a literal, or the word for none. -/
def readArgument (program : List Char) : Option (Option (List Char) × List Char) :=
  match after? nullWord program with
  | some rest => some (none, rest)
  | none => (Literal.read program).map fun (name, rest) => (some name, rest)

/-- The module and the symbol that a program asks for an export of. -/
def readExport (program : List Char) : Option (Option (List Char) × List Char) := do
  let rest ← after? exportStart program
  let (name, rest) ← readArgument rest
  let rest ← after? comma rest
  let (symbol, rest) ← Literal.read rest
  if rest = exportEnd then some (name, symbol) else none

/-- The module that a program asks the base of. -/
def readBase (program : List Char) : Option (List Char) := do
  let rest ← after? baseStart program
  let (name, rest) ← Literal.read rest
  if rest = baseCheck ++ (quote notFound ++ baseEnd) then some name else none

theorem after?_append (code rest : List Char) : after? code (code ++ rest) = some rest := by
  rw [after?, if_pos (List.isPrefixOf_iff_prefix.mpr (List.prefix_append code rest)),
    List.drop_left]

theorem readArgument_argument (name : Option String) (rest : List Char) :
    readArgument (argument name ++ rest) = some (name.map String.toList, rest) := by
  cases name with
  | none => rw [readArgument, argument, after?_append, Option.map_none]
  | some name =>
      have hother : after? nullWord (quote name.toList ++ rest) = none := rfl
      rw [readArgument, argument, hother, read_quote_append]
      rfl

theorem readExport_exportProgram (name : Option String) (symbol : String) :
    readExport (exportProgram name symbol).toList =
      some (name.map String.toList, symbol.toList) := by
  have hprogram : (exportProgram name symbol).toList =
      exportStart ++ (argument name ++ (comma ++ (quote symbol.toList ++ exportEnd))) := by
    simp [-String.reduceToList, exportProgram, Template.filledWith, exportSlots, slot,
      Template.interleave, argument]
  rw [hprogram, readExport, after?_append]
  simp only [Option.bind_eq_bind, Option.bind_some, readArgument_argument, after?_append,
    read_quote_append, if_true]

theorem readBase_baseProgram (name : String) :
    readBase (baseProgram name).toList = some name.toList := by
  have hprogram : (baseProgram name).toList =
      baseStart ++ (quote name.toList ++ (baseCheck ++ (quote notFound ++ baseEnd))) := by
    simp [-String.reduceToList, baseProgram, Template.filledWith, baseSlots, slot,
      Template.interleave, argument]
  rw [hprogram, readBase, after?_append]
  simp only [Option.bind_eq_bind, Option.bind_some, read_quote_append, if_true]

theorem readExport_baseProgram (name : String) : readExport (baseProgram name).toList = none := by
  have hprogram : ∃ rest, (baseProgram name).toList = baseStart ++ rest :=
    ⟨_, String.toList_ofList⟩
  obtain ⟨rest, hprogram⟩ := hprogram
  have hother : after? exportStart (baseStart ++ rest) = none := by
    unfold after? exportStart baseStart
    repeat rw [String.toList_ofList]
    rfl
  rw [hprogram, readExport, hother]
  rfl

end Program

/-! ### Tables -/

/-- What a host knows: the pointers that modules export, and where modules are. -/
structure Tables where
  /-- Without a module, every loaded one is searched. -/
  exports : Option String → String → Option Nat
  modules : String → Option Nat

namespace Tables

open Program Response

/-- The answer to one of the two programs that ask for pointers. -/
def answer? (tables : Tables) (program : String) : Option String :=
  match readExport program.toList with
  | some (name, symbol) =>
    match tables.exports (name.map String.ofList) (String.ofList symbol) with
    | some pointer => some (pointerTo pointer)
    | none => some noPointer
  | none =>
    match readBase program.toList with
    | some name =>
      match tables.modules (String.ofList name) with
      | some base => some (pointerTo base)
      | none => some (failureWith notFound)
    | none => none

/-- The function answers the two programs from the tables, and does anything with others. -/
def AnsweredBy (tables : Tables) (f : Function) : Prop :=
  ∀ calls program raw, tables.answer? program = some raw →
    f.respond calls [.text program] = .returns (.text raw)

def function (tables : Tables) : Function where
  respond _ args :=
    match args with
    | [.text program] => .returns (((tables.answer? program).map Value.text).getD .null)
    | _ => .returns .null

theorem answeredBy_function (tables : Tables) : tables.AnsweredBy tables.function := by
  intro calls program raw hanswer
  simp only [function, hanswer, Option.map_some, Option.getD_some]

/-- A pointer of any size, as far as addresses go. -/
def wrapped (n : Nat) : Address :=
  ⟨BitVec.ofNat 32 n⟩

theorem answer?_exportProgram (tables : Tables) (name : Option String) (symbol : String) :
    ∃ raw, tables.answer? (exportProgram name symbol) = some raw ∧
      Json.openings raw.toList = 1 ∧ pointer? raw = (tables.exports name symbol).map wrapped := by
  have hname : (name.map String.toList).map String.ofList = name := by
    cases name <;> simp
  unfold answer?
  rw [readExport_exportProgram]
  dsimp only
  rw [hname, String.ofList_toList]
  cases tables.exports name symbol with
  | some pointer => exact ⟨_, rfl, openings_pointerTo pointer, pointer?_pointerTo pointer⟩
  | none => exact ⟨_, rfl, openings_noPointer, pointer?_noPointer⟩

theorem answer?_baseProgram (tables : Tables) (name : String) :
    ∃ raw, tables.answer? (baseProgram name) = some raw ∧
      Json.openings raw.toList = 1 ∧ pointer? raw = (tables.modules name).map wrapped := by
  have hnotFound : notFound.all Json.isLiteral = true ∧ Json.openings notFound = 0 := by
    unfold notFound
    decide
  unfold answer?
  rw [readExport_baseProgram, readBase_baseProgram]
  dsimp only
  rw [String.ofList_toList]
  cases tables.modules name with
  | some base => exact ⟨_, rfl, openings_pointerTo base, pointer?_pointerTo base⟩
  | none =>
      exact ⟨_, rfl, openings_failureWith hnotFound.2, pointer?_failureWith hnotFound.1⟩

theorem answer?_of_request? (tables : Tables) {d : Descriptor} {request : Request}
    (hrequest : d.request? = some request) :
    ∃ raw, tables.answer? request.program = some raw ∧ Json.openings raw.toList = 1 := by
  cases d with
  | numeric value => cases hrequest
  | hexLiteral text => cases hrequest
  | moduleSymbol name symbol =>
      obtain rfl := Option.some.inj hrequest
      obtain ⟨raw, hanswer, hflat, -⟩ := tables.answer?_exportProgram name symbol
      exact ⟨raw, hanswer, hflat⟩
  | moduleOffset name offset =>
      obtain rfl := Option.some.inj hrequest
      obtain ⟨raw, hanswer, hflat, -⟩ := tables.answer?_baseProgram name
      exact ⟨raw, hanswer, hflat⟩
  | bareSymbol name =>
      obtain rfl := Option.some.inj hrequest
      obtain ⟨raw, hanswer, hflat, -⟩ := tables.answer?_exportProgram none name
      exact ⟨raw, hanswer, hflat⟩

theorem toNat_getD_wrapped (entry : Option Nat) :
    ((entry.map wrapped).getD .zero).toNat = entry.getD 0 % 2 ^ 32 := by
  cases entry with
  | some n => exact Address.toNat_ofNat n
  | none => rfl

theorem toNat_add_wrapped (base offset : Nat) :
    ((wrapped base).add offset).toNat = (base + offset) % 2 ^ 32 := by
  unfold wrapped Address.add Address.toNat
  rw [BitVec.ofInt_natCast, ← BitVec.ofNat_add, BitVec.toNat_ofNat]

end Tables

namespace Session

open Run

variable {tables : Tables} {f : Function} {config : Config} {s : Surroundings}

theorem lookup_of_answer (hquiet : s.IsQuiet)
    (hlimit : ∀ calls args, Link.TakesAnswer config.bridge.timeout (f.delay calls args))
    (hdirect : s.host.direct = some f) (hfaithful : tables.AnsweredBy f) (request : Request)
    {raw : String} (hanswer : tables.answer? request.program = some raw)
    (hflat : Json.openings raw.toList = 1) :
    ((make config true).lookup request s).outcome = .returned (Response.pointer? raw) ∧
      ((make config true).lookup request s).journal.calls =
        [(.direct, [.text request.program])] := by
  have hevaluated : ((make config true).link.evaluate request.program s).outcome =
        .returned raw ∧
      ((make config true).link.evaluate request.program s).journal =
        [.call .direct [.text request.program]] :=
    Link.evaluate_handedOver rfl hdirect (hlimit _ _)
      (hfaithful f.calls request.program raw hanswer) (congrArg Except.ok String.ofList_toList)
  have hreads : (make config true).Reads raw := reads_of_openings_eq_one hflat
  obtain ⟨hfound, hcalls⟩ := lookup_of_returned hquiet hevaluated.1
  rw [hevaluated.2] at hcalls
  exact ⟨pointer?_of_reads hreads ▸ hfound, hcalls⟩

theorem resolveWithHost_of_export (hquiet : s.IsQuiet)
    (hlimit : ∀ calls args, Link.TakesAnswer config.bridge.timeout (f.delay calls args))
    (hdirect : s.host.direct = some f) (hfaithful : tables.AnsweredBy f) (spec : Value)
    {d : Descriptor} {name : Option String} {symbol : String}
    (hrequest : d.request? = some ⟨.resolveExport, Program.exportProgram name symbol⟩)
    (hplace : ∀ found, d.place found = .ok found) :
    ∃ a, ((make config true).resolveWithHost spec d s).outcome = .returned a ∧
      a.toNat = (tables.exports name symbol).getD 0 % 2 ^ 32 := by
  obtain ⟨raw, hanswer, hflat, hpointer⟩ := tables.answer?_exportProgram name symbol
  have hfound := (lookup_of_answer hquiet hlimit hdirect hfaithful
    ⟨.resolveExport, Program.exportProgram name symbol⟩ hanswer hflat).1
  rw [hpointer] at hfound
  exact ⟨_, (resolveWithHost_of_placed spec hquiet hrequest hfound (hplace _)).1,
    Tables.toNat_getD_wrapped _⟩

/-- A descriptor of an offset is resolved to its distance from the base. -/
theorem resolveWithHost_of_base (hquiet : s.IsQuiet)
    (hlimit : ∀ calls args, Link.TakesAnswer config.bridge.timeout (f.delay calls args))
    (hdirect : s.host.direct = some f) (hfaithful : tables.AnsweredBy f) (spec : Value)
    (name : String) {offset : String} {n : Address} (hparse : Offset.parse offset = .ok n) :
    ∃ a, ((make config true).resolveWithHost spec (.moduleOffset name offset) s).outcome =
        .returned a ∧
      a.toNat = match tables.modules name with
        | some base => (base + n.toNat) % 2 ^ 32
        | none => 0 := by
  obtain ⟨raw, hanswer, hflat, hpointer⟩ := tables.answer?_baseProgram name
  have hfound := (lookup_of_answer hquiet hlimit hdirect hfaithful
    ⟨.resolveModuleBase, Program.baseProgram name⟩ hanswer hflat).1
  rw [hpointer] at hfound
  cases hmodule : tables.modules name with
  | none =>
      rw [hmodule] at hfound
      have hplace : (Descriptor.moduleOffset name offset).place none = .ok none :=
        Descriptor.place_none _
      exact ⟨_, (resolveWithHost_of_placed spec hquiet rfl hfound hplace).1, rfl⟩
  | some base =>
      rw [hmodule] at hfound
      have hplace : (Descriptor.moduleOffset name offset).place (some (Tables.wrapped base)) =
          .ok (some ((Tables.wrapped base).add n.toNat)) := by
        rw [Descriptor.place, hparse]
        rfl
      exact ⟨_, (resolveWithHost_of_placed spec hquiet rfl hfound hplace).1,
        Tables.toNat_add_wrapped base n.toNat⟩

/-- **Resolving with a faithful host gives what the tables say**, if it answers within the limit. Any
text that is neither blank nor a hexadecimal literal costs one call. With `!` it is the export of
that symbol, and with `:` the base of the module and the offset from it, unless the offset is a
decimal numeral that is too long; any other text is a symbol of any module. -/
theorem resolve_faithful (hquiet : s.IsQuiet)
    (hlimit : ∀ calls args, Link.TakesAnswer config.bridge.timeout (f.delay calls args))
    (hdirect : s.host.direct = some f) (hfaithful : tables.AnsweredBy f) {spec : String}
    (hink : trimmed spec ≠ []) (hhex : Descriptor.isHexLiteral (trimmed spec) = false) :
    (∃ program, ((make config true).resolve (.text spec) s).journal.calls =
      [(.direct, [.text program])]) ∧
    (∀ name symbol, trimmed spec = name ++ '!' :: symbol → '!' ∉ name →
      ∃ a, ((make config true).resolve (.text spec) s).outcome = .returned a ∧
        a.toNat = (tables.exports (if name = [] then none else some (String.ofList name))
          (String.ofList symbol)).getD 0 % 2 ^ 32) ∧
    (∀ name offset, '!' ∉ trimmed spec → trimmed spec = name ++ ':' :: offset → ':' ∉ name →
      Offset.isOverlong (trimmed (String.ofList offset)) = false →
      ∃ a n, ((make config true).resolve (.text spec) s).outcome = .returned a ∧
        Offset.parse (String.ofList offset) = .ok n ∧
        a.toNat = match tables.modules (String.ofList name) with
          | some base => (base + n.toNat) % 2 ^ 32
          | none => 0) ∧
    ('!' ∉ trimmed spec → ':' ∉ trimmed spec →
      ∃ a, ((make config true).resolve (.text spec) s).outcome = .returned a ∧
        a.toNat = (tables.exports none (String.ofList (trimmed spec))).getD 0 % 2 ^ 32) := by
  have hspec : hasInk spec = true := by
    rw [← Bool.not_eq_false, ← trimmed_eq_nil_iff]
    exact hink
  rw [resolve_of_symbolic _ hspec hhex]
  refine ⟨?_, ?_, ?_, ?_⟩
  · obtain ⟨request, hrequest⟩ := Descriptor.request?_ofTrimmed hhex
    obtain ⟨raw, hanswer, hflat⟩ := tables.answer?_of_request? hrequest
    obtain ⟨hfound, hcalls⟩ :=
      lookup_of_answer hquiet hlimit hdirect hfaithful request hanswer hflat
    exact ⟨request.program, (calls_resolveWithHost _ hquiet hrequest hfound).trans hcalls⟩
  · intro name symbol htext hname
    rw [htext] at hhex ⊢
    rw [Descriptor.ofTrimmed_symbol hname hhex]
    exact resolveWithHost_of_export hquiet hlimit hdirect hfaithful _ rfl fun _ => rfl
  · intro name offset hbang htext hname hshort
    obtain ⟨n, hparse⟩ := Offset.parse_of_not_isOverlong hshort
    rw [htext] at hbang hhex ⊢
    rw [Descriptor.ofTrimmed_offset hname hbang hhex]
    obtain ⟨a, houtcome, htoNat⟩ := resolveWithHost_of_base hquiet hlimit hdirect hfaithful
      (.text spec) (String.ofList name) hparse
    exact ⟨a, n, houtcome, hparse, htoNat⟩
  · intro hbang hcolon
    rw [Descriptor.ofTrimmed_bare hbang hcolon hhex]
    exact resolveWithHost_of_export hquiet hlimit hdirect hfaithful _ rfl fun _ => rfl

/-- Exports of two modules, one of them beyond the addresses, and a module with a base. -/
def someTables : Tables where
  exports name symbol :=
    if name = some "a\"b" ∧ symbol = "f$g" then some (2 ^ 32 + 16)
    else if name = none ∧ symbol = "main" then some 7
    else none
  modules name := if name = "m" then some (2 ^ 32 - 1) else none

/-- A module whose name holds a quote, and a pointer that wraps around. -/
theorem quoted_module_is_found :
    ∃ a, ((make {} true).resolve (.text " a\"b!f$g ")
        ⟨⟨.given [], some someTables.function⟩, some .silent⟩).outcome = .returned a ∧
      a.toNat = 16 := by
  have hquiet : Surroundings.IsQuiet ⟨⟨.given [], some someTables.function⟩, some .silent⟩ := by
    intro o ho heard e
    obtain rfl := Option.some.inj ho
    rfl
  have hlimit : ∀ calls args, Link.TakesAnswer ({} : Config).bridge.timeout
      (someTables.function.delay calls args) :=
    fun _ _ _ hnone => by cases hnone
  have hink : trimmed " a\"b!f$g " ≠ [] := by decide
  obtain ⟨a, houtcome, htoNat⟩ := (resolve_faithful hquiet hlimit rfl
    someTables.answeredBy_function hink (by decide)).2.1 ['a', '"', 'b'] ['f', '$', 'g']
    (by decide) (by decide)
  refine ⟨a, houtcome, ?_⟩
  rw [htoNat]
  decide

end Session

end HostLink
