import HostLink.Proofs.Program
import HostLink.Request
import Mathlib.Data.List.Basic
import Mathlib.Data.Option.Basic

/-!
# The text of the requests

Each request that carries names or patterns is fixed code with one literal for each of them. So the
code is the same for all of them, the literals are read as exactly these names, and the program
tells them apart.
-/

namespace HostLink.Program

open Literal Template

/-! ### The code of the requests -/

def catchCode : String :=
  " \x7d catch (e) \x7b return JSON.stringify(\x7bok:false, error:String(e)\x7d); \x7d \x7d)();"

def exportStart : List Char :=
  "(function()\x7b try \x7b var a = Module.findExportByName(".toList

def comma : List Char :=
  ", ".toList

def exportEnd : List Char :=
  "); return JSON.stringify(\x7bok:true, __r: a ? ptr(a).toString() : null\x7d);".toList ++
    catchCode.toList

def baseStart : List Char :=
  "(function()\x7b try \x7b var m = Process.findModuleByName(".toList

def baseCheck : List Char :=
  "); if (!m) return JSON.stringify(\x7bok:false, error:".toList

def baseEnd : List Char :=
  "\x7d); return JSON.stringify(\x7bok:true, __r: m.base.toString()\x7d);".toList ++
    catchCode.toList

def scanStart : List Char :=
  "(function()\x7b try \x7b var mod = Process.findModuleByName(".toList

def scanCheck : List Char :=
  "); if (!mod) return JSON.stringify(\x7bok:false, error:".toList

def scanCall : List Char :=
  "\x7d); var matches = Memory.scanSync(mod.base, mod.size, ".toList

def scanEnd : List Char :=
  (").map(function(m)\x7b return ptr(m.address).toString(); \x7d); " ++
    "return JSON.stringify(\x7bok:true, matches:matches\x7d);").toList ++ catchCode.toList

def installStart : List Char :=
  "(function()\x7b try \x7b var target = ptr(".toList

def installEnter : List Char :=
  "); Interceptor.attach(target, \x7bonEnter: ".toList

def installLeave : List Char :=
  ", onLeave: ".toList

def installEnd : List Char :=
  "\x7d); return JSON.stringify(\x7bok:true\x7d);".toList ++ catchCode.toList

def nullWord : List Char :=
  "null".toList

/-- The error that programs report when the host has no such module. -/
def notFound : List Char :=
  "module not found".toList

/-- Code that opens no hole, no literal and no line. -/
def isPlain (s : List Char) : Bool :=
  s.all fun c => c != '$' && c != '"' && !isLineTerminator c

theorem isPlain_append {s t : List Char} (hs : isPlain s = true) (ht : isPlain t = true) :
    isPlain (s ++ t) = true := by
  simp only [isPlain, List.all_append, Bool.and_eq_true] at *
  exact ⟨hs, ht⟩

theorem isPlain_iff {s : List Char} :
    isPlain s = true ↔ '$' ∉ s ∧ '"' ∉ s ∧ IsOneLine s := by
  simp only [isPlain, List.all_eq_true, Bool.and_eq_true, bne_iff_ne, Bool.not_eq_true', IsOneLine]
  constructor
  · intro hall
    exact ⟨fun hmem => (hall _ hmem).1.1 rfl, fun hmem => (hall _ hmem).1.2 rfl,
      fun c hmem => (hall c hmem).2⟩
  · rintro ⟨hdollar, hquote, hline⟩ c hmem
    exact ⟨⟨fun heq => hdollar (heq ▸ hmem), fun heq => hquote (heq ▸ hmem)⟩, hline c hmem⟩

/-- All the code there is in these requests. -/
def pieces : List (List Char) :=
  [exportStart, comma, exportEnd, baseStart, baseCheck, baseEnd, scanStart, scanCheck, scanCall,
    scanEnd, installStart, installEnter, installLeave, installEnd, nullWord, notFound]

theorem isPlain_of_mem_pieces {s : List Char} (hmem : s ∈ pieces) : isPlain s = true := by
  revert s
  rw [← List.all_eq_true]
  unfold pieces exportStart comma exportEnd baseStart baseCheck baseEnd scanStart scanCheck
    scanCall scanEnd installStart installEnter installLeave installEnd nullWord notFound catchCode
  rw [String.toList_append]
  repeat rw [String.toList_ofList]
  decide

/-! ### Requests rendered -/

/-- An argument that may be missing, as it stands in a program. -/
def argument : Option String → List Char
  | none => nullWord
  | some s => quote s.toList

theorem ofValue_ofOption (name : Option String) :
    Literal.ofValue (.ofOption name) = .ok (argument name) := by
  cases name with
  | none => rfl
  | some s => exact ofValue_text s

theorem literals_ofOption (args : List (String × Option String)) :
    literals (args.map fun arg => (arg.1, .ofOption arg.2)) =
      .ok (args.map fun arg => (arg.1, argument arg.2)) := by
  induction args with
  | nil => rfl
  | cons arg args ih =>
      rw [List.map_cons, literals, ofValue_ofOption, ih]
      rfl

def slot (name : String) (value : Option String) (after : List Char) : Slot :=
  ⟨name.toList, argument value, after⟩

theorem ofTemplate_bodyWith (args : List (String × Option String))
    (fragments : List (String × Value)) {kind : RequestKind} {first : List Char}
    {slots : List Slot} (hfirst : '$' ∉ first) (hsound : ∀ slot ∈ slots, slot.isSound = true)
    (hparts : ∀ slot ∈ slots,
      filling (args.map fun arg => (arg.1, argument arg.2)) fragments slot.name =
        some (.ok slot.part)) :
    Request.ofTemplate kind (bodyWith first slots)
        (args.map fun arg => (arg.1, .ofOption arg.2)) fragments =
      .ok ⟨kind, String.ofList (filledWith first slots)⟩ := by
  simp only [Request.ofTemplate, render, literals_ofOption]
  change Except.map _ (fill (filling _ fragments) _) = _
  rw [fill_segments_bodyWith hfirst hsound hparts]
  rfl

/-! ### The text of each request -/

def exportSlots (name : Option String) (symbol : String) : List Slot :=
  [slot "module" name comma, slot "symbol" (some symbol) exportEnd]

def baseSlots (name : String) : List Slot :=
  [slot "module" (some name) (baseCheck ++ (quote notFound ++ baseEnd))]

def scanSlots (name pattern : String) : List Slot :=
  [slot "module" (some name) (scanCheck ++ (quote notFound ++ scanCall)),
    slot "pattern" (some pattern) scanEnd]

/-- The address is a literal, and the callbacks stand as they are. -/
def installSlots (address : Address) (callbacks : Callbacks) : List Slot :=
  [slot "address" (some address.toText) installEnter,
    ⟨"on_enter".toList, (Request.halfOrNone callbacks.onEnter).toList, installLeave⟩,
    ⟨"on_leave".toList, (Request.halfOrNone callbacks.onLeave).toList, installEnd⟩]

/-- The names of the holes, with the code after them. -/
def holes : List (String × List Char) :=
  [("module", comma), ("symbol", exportEnd), ("module", baseCheck ++ (quote notFound ++ baseEnd)),
    ("module", scanCheck ++ (quote notFound ++ scanCall)), ("pattern", scanEnd),
    ("address", installEnter), ("on_enter", installLeave), ("on_leave", installEnd)]

theorem isSound_slot {name : String} {after : List Char} (hmem : (name, after) ∈ holes)
    (part : List Char) : (Slot.mk name.toList part after).isSound = true := by
  have hall : (holes.all fun hole => (Slot.mk hole.1.toList [] hole.2).isSound) = true := by
    unfold holes comma exportEnd baseCheck baseEnd scanCheck scanCall scanEnd installEnter
      installLeave installEnd notFound catchCode
    repeat rw [String.toList_append]
    repeat rw [String.toList_ofList]
    decide
  have hsound := List.all_eq_true.mp hall (name, after) hmem
  unfold Slot.isSound at hsound ⊢
  exact hsound

section

set_option maxRecDepth 2000

theorem wrap_resolveExportBody (name : Option String) (symbol : String) :
    Request.wrap Request.resolveExportBody = bodyWith exportStart (exportSlots name symbol) := by
  unfold Request.wrap Request.wrapperStart Request.resolveExportBody Request.resultField
    Request.wrapperEnd exportSlots slot exportStart comma exportEnd catchCode
  repeat rw [String.toList_append]
  repeat rw [String.toList_ofList]
  rfl

theorem wrap_resolveModuleBaseBody (name : String) :
    Request.wrap Request.resolveModuleBaseBody = bodyWith baseStart (baseSlots name) := by
  unfold Request.wrap Request.wrapperStart Request.resolveModuleBaseBody Request.resultField
    Request.wrapperEnd baseSlots slot baseStart baseCheck baseEnd notFound catchCode
  repeat rw [String.toList_append]
  repeat rw [String.toList_ofList]
  rfl

theorem wrap_scanPatternBody (name pattern : String) :
    Request.wrap Request.scanPatternBody = bodyWith scanStart (scanSlots name pattern) := by
  unfold Request.wrap Request.wrapperStart Request.scanPatternBody Request.wrapperEnd scanSlots
    slot scanStart scanCheck scanCall scanEnd notFound catchCode
  repeat rw [String.toList_append]
  repeat rw [String.toList_ofList]
  rfl

theorem wrap_installInterceptBody (address : Address) (callbacks : Callbacks) :
    Request.wrap Request.installInterceptBody =
      bodyWith installStart (installSlots address callbacks) := by
  unfold Request.wrap Request.wrapperStart Request.installInterceptBody Request.wrapperEnd
    installSlots slot installStart installEnter installLeave installEnd catchCode
  repeat rw [String.toList_append]
  repeat rw [String.toList_ofList]
  rfl

end

def exportProgram (name : Option String) (symbol : String) : String :=
  String.ofList (filledWith exportStart (exportSlots name symbol))

def baseProgram (name : String) : String :=
  String.ofList (filledWith baseStart (baseSlots name))

def scanProgram (name pattern : String) : String :=
  String.ofList (filledWith scanStart (scanSlots name pattern))

def installProgram (address : Address) (callbacks : Callbacks) : String :=
  String.ofList (filledWith installStart (installSlots address callbacks))

theorem resolveExport_eq (name : Option String) (symbol : String) :
    Request.resolveExport (.ofOption name) (.text symbol) =
      .ok ⟨.resolveExport, exportProgram name symbol⟩ := by
  rw [Request.resolveExport, wrap_resolveExportBody name symbol]
  refine ofTemplate_bodyWith [("module", name), ("symbol", some symbol)] []
    (isPlain_iff.mp (isPlain_of_mem_pieces (by simp [pieces]))).1 ?_ ?_
  · simp only [exportSlots, List.forall_mem_cons, List.not_mem_nil, false_implies, implies_true,
      and_true]
    exact ⟨isSound_slot (by simp [holes]) _, isSound_slot (by simp [holes]) _⟩
  · simp [-String.reduceToList, filling, exportSlots, slot, List.lookup_cons]

theorem resolveModuleBase_eq (name : String) :
    Request.resolveModuleBase (.text name) = .ok ⟨.resolveModuleBase, baseProgram name⟩ := by
  rw [Request.resolveModuleBase, wrap_resolveModuleBaseBody name]
  refine ofTemplate_bodyWith [("module", some name)] []
    (isPlain_iff.mp (isPlain_of_mem_pieces (by simp [pieces]))).1 ?_ ?_
  · simp only [baseSlots, List.mem_singleton, forall_eq]
    exact isSound_slot (by simp [holes]) _
  · simp [-String.reduceToList, filling, baseSlots, slot]

theorem scanPattern_eq (name pattern : String) :
    Request.scanPattern (.text name) (.text pattern) =
      .ok ⟨.scanPattern, scanProgram name pattern⟩ := by
  rw [Request.scanPattern, wrap_scanPatternBody name pattern]
  refine ofTemplate_bodyWith [("module", some name), ("pattern", some pattern)] []
    (isPlain_iff.mp (isPlain_of_mem_pieces (by simp [pieces]))).1 ?_ ?_
  · simp only [scanSlots, List.forall_mem_cons, List.not_mem_nil, false_implies, implies_true,
      and_true]
    exact ⟨isSound_slot (by simp [holes]) _, isSound_slot (by simp [holes]) _⟩
  · simp [-String.reduceToList, filling, scanSlots, slot, List.lookup_cons]

theorem installIntercept_eq (address : Address) (callbacks : Callbacks) :
    Request.installIntercept address callbacks =
      .ok ⟨.installIntercept, installProgram address callbacks⟩ := by
  rw [Request.installIntercept, wrap_installInterceptBody address callbacks]
  refine ofTemplate_bodyWith [("address", some address.toText)] _
    (isPlain_iff.mp (isPlain_of_mem_pieces (by simp [pieces]))).1 ?_ ?_
  · simp only [installSlots, List.forall_mem_cons, List.not_mem_nil, false_implies, implies_true,
      and_true]
    exact ⟨isSound_slot (by simp [holes]) _, isSound_slot (by simp [holes]) _,
      isSound_slot (by simp [holes]) _⟩
  · simp [-String.reduceToList, filling, installSlots, slot,
      List.lookup_cons, Value.toText, Value.text?, Except.map]

/-! ### The layout of each request -/

/-- A program of this code on one line, with literals that are read as these values. -/
structure HasLayout (program : String) (code : List (List Char)) (values : List (List Char)) :
    Prop where
  code_eq : (scan program).code = code
  values_eq : (scan program).values = values.map some
  closed : (scan program).closed = true
  oneLine : IsOneLine program.toList

theorem hasLayout_assemble {first : List Char} (rest : List (List Char × List Char))
    (hfirst : isPlain first = true) (hrest : ∀ pair ∈ rest, pair.2 ∈ pieces) :
    HasLayout (String.ofList (assemble first rest)) (first :: rest.map (·.2))
      (rest.map (·.1)) := by
  have hscan : scan (String.ofList (assemble first rest)) =
      ⟨first :: rest.map (·.2), rest.map fun pair => escape pair.1, true⟩ := by
    rw [scan, String.toList_ofList]
    exact scanFrom_assemble (isPlain_iff.mp hfirst).2.1
      fun pair hmem => (isPlain_iff.mp (isPlain_of_mem_pieces (hrest pair hmem))).2.1
  refine ⟨by rw [hscan], ?_, by rw [hscan], ?_⟩
  · exact values_of_escaped (by rw [hscan, List.map_map]; rfl)
  · rw [String.toList_ofList]
    exact isOneLine_assemble (isPlain_iff.mp hfirst).2.2
      fun pair hmem => (isPlain_iff.mp (isPlain_of_mem_pieces (hrest pair hmem))).2.2

theorem HasLayout.values_inj {program : String} {code code' values values' : List (List Char)}
    (h : HasLayout program code values) (h' : HasLayout program code' values') :
    values = values' := by
  have hvalues := h.values_eq.symm.trans h'.values_eq
  exact (List.map_injective_iff.mpr (Option.some_injective _)) hvalues

theorem hasLayout_exportProgram (name symbol : String) :
    HasLayout (exportProgram (some name) symbol) [exportStart, comma, exportEnd]
      [name.toList, symbol.toList] :=
  hasLayout_assemble [(name.toList, comma), (symbol.toList, exportEnd)]
    (isPlain_of_mem_pieces (by simp [pieces]))
    (by simp [pieces])

/-- Without a module the word that stands for it is part of the code. -/
theorem hasLayout_exportProgram_none (symbol : String) :
    HasLayout (exportProgram none symbol) [exportStart ++ (nullWord ++ comma), exportEnd]
      [symbol.toList] := by
  have hprogram : filledWith exportStart (exportSlots none symbol) =
      assemble (exportStart ++ (nullWord ++ comma)) [(symbol.toList, exportEnd)] := by
    simp [filledWith, exportSlots, slot, assemble, interleave, argument]
  rw [exportProgram, hprogram]
  exact hasLayout_assemble _
    (isPlain_append (isPlain_of_mem_pieces (by simp [pieces]))
      (isPlain_append (isPlain_of_mem_pieces (by simp [pieces]))
        (isPlain_of_mem_pieces (by simp [pieces]))))
    (by simp [pieces])

theorem hasLayout_baseProgram (name : String) :
    HasLayout (baseProgram name) [baseStart, baseCheck, baseEnd] [name.toList, notFound] := by
  have hprogram : filledWith baseStart (baseSlots name) =
      assemble baseStart [(name.toList, baseCheck), (notFound, baseEnd)] := by
    simp [filledWith, baseSlots, slot, assemble, interleave, argument]
  rw [baseProgram, hprogram]
  exact hasLayout_assemble _ (isPlain_of_mem_pieces (by simp [pieces])) (by simp [pieces])

theorem hasLayout_scanProgram (name pattern : String) :
    HasLayout (scanProgram name pattern) [scanStart, scanCheck, scanCall, scanEnd]
      [name.toList, notFound, pattern.toList] := by
  have hprogram : filledWith scanStart (scanSlots name pattern) =
      assemble scanStart
        [(name.toList, scanCheck), (notFound, scanCall), (pattern.toList, scanEnd)] := by
    simp [filledWith, scanSlots, slot, assemble, interleave, argument]
  rw [scanProgram, hprogram]
  exact hasLayout_assemble _ (isPlain_of_mem_pieces (by simp [pieces])) (by simp [pieces])

theorem exportProgram_inj {name name' : Option String} {symbol symbol' : String}
    (heq : exportProgram name symbol = exportProgram name' symbol') :
    name = name' ∧ symbol = symbol' := by
  cases name with
  | none =>
      have hlayout := hasLayout_exportProgram_none symbol
      rw [heq] at hlayout
      cases name' with
      | none =>
          simpa [String.toList_inj] using hlayout.values_inj (hasLayout_exportProgram_none symbol')
      | some name' =>
          simpa [String.toList_inj] using hlayout.values_inj (hasLayout_exportProgram name' symbol')
  | some name =>
      have hlayout := hasLayout_exportProgram name symbol
      rw [heq] at hlayout
      cases name' with
      | none =>
          simpa [String.toList_inj] using hlayout.values_inj (hasLayout_exportProgram_none symbol')
      | some name' =>
          simpa [String.toList_inj] using hlayout.values_inj (hasLayout_exportProgram name' symbol')

theorem baseProgram_inj {name name' : String} (heq : baseProgram name = baseProgram name') :
    name = name' := by
  have hlayout := hasLayout_baseProgram name
  rw [heq] at hlayout
  simpa [String.toList_inj] using hlayout.values_inj (hasLayout_baseProgram name')

theorem scanProgram_inj {name name' pattern pattern' : String}
    (heq : scanProgram name pattern = scanProgram name' pattern') :
    name = name' ∧ pattern = pattern' := by
  have hlayout := hasLayout_scanProgram name pattern
  rw [heq] at hlayout
  simpa [String.toList_inj] using hlayout.values_inj (hasLayout_scanProgram name' pattern')

/-- **Names and patterns never change the structure of a program.** For each request the code is
fixed, the literals are read as the arguments in their order (with the error text for a module that
is not there, where the request has one), no line ends inside the program, and other arguments give
another program. -/
theorem arguments_stay_in_literals :
    (∀ name symbol : String, ∃ program,
      Request.resolveExport (.text name) (.text symbol) = .ok ⟨.resolveExport, program⟩ ∧
      HasLayout program [exportStart, comma, exportEnd] [name.toList, symbol.toList]) ∧
    (∀ symbol : String, ∃ program,
      Request.resolveExport .null (.text symbol) = .ok ⟨.resolveExport, program⟩ ∧
      HasLayout program [exportStart ++ (nullWord ++ comma), exportEnd] [symbol.toList]) ∧
    (∀ name : String, ∃ program,
      Request.resolveModuleBase (.text name) = .ok ⟨.resolveModuleBase, program⟩ ∧
      HasLayout program [baseStart, baseCheck, baseEnd] [name.toList, notFound]) ∧
    (∀ name pattern : String, ∃ program,
      Request.scanPattern (.text name) (.text pattern) = .ok ⟨.scanPattern, program⟩ ∧
      HasLayout program [scanStart, scanCheck, scanCall, scanEnd]
        [name.toList, notFound, pattern.toList]) ∧
    (Function.Injective fun args : Option String × String =>
      (Request.resolveExport (.ofOption args.1) (.text args.2)).map Request.program) ∧
    (Function.Injective fun name : String =>
      (Request.resolveModuleBase (.text name)).map Request.program) ∧
    (Function.Injective fun args : String × String =>
      (Request.scanPattern (.text args.1) (.text args.2)).map Request.program) := by
  refine ⟨?_, ?_, ?_, ?_, ?_, ?_, ?_⟩
  · intro name symbol
    exact ⟨_, resolveExport_eq (some name) symbol, hasLayout_exportProgram name symbol⟩
  · intro symbol
    exact ⟨_, resolveExport_eq none symbol, hasLayout_exportProgram_none symbol⟩
  · intro name
    exact ⟨_, resolveModuleBase_eq name, hasLayout_baseProgram name⟩
  · intro name pattern
    exact ⟨_, scanPattern_eq name pattern, hasLayout_scanProgram name pattern⟩
  · intro left right heq
    beta_reduce at heq
    rw [resolveExport_eq, resolveExport_eq] at heq
    obtain ⟨hname, hsymbol⟩ := exportProgram_inj (Except.ok.inj heq)
    exact Prod.ext hname hsymbol
  · intro left right heq
    beta_reduce at heq
    rw [resolveModuleBase_eq, resolveModuleBase_eq] at heq
    exact baseProgram_inj (Except.ok.inj heq)
  · intro left right heq
    beta_reduce at heq
    rw [scanPattern_eq, scanPattern_eq] at heq
    obtain ⟨hname, hpattern⟩ := scanProgram_inj (Except.ok.inj heq)
    exact Prod.ext hname hpattern

end HostLink.Program
