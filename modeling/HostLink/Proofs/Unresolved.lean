import HostLink.Proofs.Answer
import HostLink.Proofs.Resolve

/-!
# How resolving goes wrong

Resolving is meant to end in an address, in the refusal of a spec that names nothing, or for want of
an entry point; and a failure that the host reports is meant to give address zero. Here is exactly
when this is so.
-/

namespace HostLink

open Text

/-! ### A host with one answer -/

/-- The function handed over answers everything with the same text, and an observer listens. -/
def Surroundings.answering (raw : String) : Surroundings where
  host := {
    environment := .given []
    direct := some { respond := fun _ _ => .returns (.text raw) } }
  observer := some .silent

namespace Surroundings

theorem isQuiet_answering (raw : String) : (answering raw).IsQuiet := by
  rintro o heq heard e
  obtain rfl := Option.some.inj heq
  rfl

theorem answers_answering (raw : String) : (answering raw).host.Answers := by
  refine ⟨fun f hf calls args => ?_, fun name => trivial⟩
  obtain rfl := Option.some.inj hf
  exact Reply.noConfusion

theorem evaluate_answering_of_probes {link : Link} {label : String}
    (hprobes : link.probes = [.handedOver label]) (hlimit : link.settings.timeout = none)
    (program raw : String) : (link.evaluate program (answering raw)).outcome = .returned raw := by
  have hreply : Function.respond { respond := fun _ _ => .returns (.text raw) } 0 [.text program] =
      .returns (.text raw) := rfl
  have htakes : Link.TakesAnswer link.settings.timeout 0 := by
    rw [hlimit]
    rintro t ⟨⟩
  exact (Link.evaluate_handedOver hprobes (s := answering raw) rfl htakes hreply
    (congrArg Except.ok String.ofList_toList)).1

theorem evaluate_answering (program raw : String) :
    ((Session.make {} true).link.evaluate program (answering raw)).outcome = .returned raw :=
  evaluate_answering_of_probes rfl rfl program raw

end Surroundings

namespace Session

variable {session : Session} {s : Surroundings} {spec : Value}

/-! ### The failures of resolving -/

/-- Resolving fails as it is described: a spec that names nothing is refused, a spec that the host
has to look up needs an entry point, and nothing else goes wrong. -/
structure FailsAsDescribed (session : Session) (spec : Value) (s : Surroundings) : Prop where
  ends : (∃ a, (session.resolve spec s).outcome = .returned a) ∨
    (session.resolve spec s).Raises .unsupportedSpec ∨
    (session.resolve spec s).Raises .noEntryPoint
  refuses_iff : (session.resolve spec s).Raises .unsupportedSpec ↔ ¬spec.IsSpec
  misses_iff : (session.resolve spec s).Raises .noEntryPoint ↔
    spec.IsSymbolic ∧ session.link.candidatesIn s.host = []

/-- The host gives a base for the spec, and the offset from it has too many digits to be read. -/
def MeetsOverlongOffset (session : Session) (spec : Value) (s : Surroundings) : Prop :=
  ∃ text name offset base, spec = .text text ∧ hasInk text = true ∧
    Descriptor.ofTrimmed (trimmed text) = .moduleOffset name offset ∧
    Offset.isOverlong (trimmed offset) = true ∧
    (session.lookup ⟨.resolveModuleBase, Program.baseProgram name⟩ s).outcome =
      .returned (some base)

theorem MeetsOverlongOffset.isSymbolic (hmeets : session.MeetsOverlongOffset spec s) :
    spec.IsSymbolic := by
  obtain ⟨text, name, offset, base, rfl, hink, hdescriptor, -⟩ := hmeets
  refine ⟨text, rfl, hink, ?_⟩
  by_contra hhex
  rw [Descriptor.ofTrimmed_of_isHexLiteral (by simpa using hhex)] at hdescriptor
  cases hdescriptor

theorem MeetsOverlongOffset.resolve (hmeets : session.MeetsOverlongOffset spec s) :
    ∃ digits, (session.resolve spec s).outcome = .raised (.numeralTooLong digits) := by
  have hsymbolic := hmeets.isSymbolic
  obtain ⟨text, name, offset, base, rfl, hink, hdescriptor, hlong, hfound⟩ := hmeets
  obtain ⟨_, heq, -, hhex⟩ := hsymbolic
  obtain rfl := Value.text.inj heq
  refine ⟨(splitSign (trimmed offset)).2.length, ?_⟩
  rw [resolve_of_symbolic session hink hhex, hdescriptor]
  exact (resolveWithHost_of_misplaced _ rfl hfound
    (Descriptor.place_eq_error_iff.mpr ⟨name, offset, base, rfl, rfl, hlong, rfl⟩)).1

theorem failsAsDescribed_of_returned {a : Address} (hspec : spec.IsSpec)
    (hfound : spec.IsSymbolic → session.link.candidatesIn s.host ≠ [])
    (houtcome : (session.resolve spec s).outcome = .returned a) :
    session.FailsAsDescribed spec s := by
  refine ⟨.inl ⟨a, houtcome⟩, ?_, ?_⟩
  · exact iff_of_false (Result.not_raises _ houtcome) (not_not_intro hspec)
  · exact iff_of_false (Result.not_raises _ houtcome) fun hmissing => hfound hmissing.1 hmissing.2

/-- Failures of two more kinds are not described: of values that are no good, and of the stack. -/
theorem not_failsAsDescribed {fault : Fault}
    (hkind : fault.kind = .badValue ∨ fault.kind = .recursion)
    (houtcome : (session.resolve spec s).outcome = .raised fault) :
    ¬session.FailsAsDescribed spec s := by
  have hother : fault.kind ≠ .unsupportedSpec ∧ fault.kind ≠ .noEntryPoint := by
    rcases hkind with hkind | hkind <;> rw [hkind] <;>
      exact ⟨FaultKind.noConfusion, FaultKind.noConfusion⟩
  intro hdescribed
  rcases hdescribed.ends with ⟨a, ha⟩ | hraises | hraises
  · rw [houtcome] at ha
    cases ha
  · exact hother.1 ((Result.raises_iff houtcome).mp hraises)
  · exact hother.2 ((Result.raises_iff houtcome).mp hraises)

theorem failsAsDescribed_iff_of_not_isSpec (hspec : ¬spec.IsSpec) :
    session.FailsAsDescribed spec s ↔ spec.IsShownWithin session.link.levels := by
  have houtcome := congrArg Result.outcome (session.resolve_of_not_isSpec hspec s)
  by_cases hshown : spec.IsShownWithin session.link.levels
  · rw [refusal_of_isShownWithin hshown] at houtcome
    refine iff_of_true ⟨.inr (.inl ⟨_, houtcome, rfl⟩), ?_, ?_⟩ hshown
    · exact iff_of_true ⟨_, houtcome, rfl⟩ hspec
    · rw [Result.raises_iff houtcome]
      exact iff_of_false FaultKind.noConfusion fun hmissing => hspec hmissing.1.isSpec
  · exact iff_of_false (not_failsAsDescribed (isHindrance_refusal hshown).kind houtcome) hshown

/-- Without an entry point, a spec that needs one fails for want of it. -/
theorem failsAsDescribed_of_no_candidates (hquiet : s.IsQuiet) (hsymbolic : spec.IsSymbolic)
    (hnone : session.link.candidatesIn s.host = []) :
    session.FailsAsDescribed spec s ∧ ¬session.MeetsOverlongOffset spec s := by
  have hlookup := lookup_of_no_candidates hquiet hnone
  have houtcome : (session.resolve spec s).outcome =
      .raised (.noEntryPoint session.link.settings.entryPointNames) := by
    obtain ⟨text, rfl, hink, hhex⟩ := hsymbolic
    obtain ⟨request, hrequest⟩ := Descriptor.request?_ofTrimmed hhex
    rw [resolve_of_symbolic session hink hhex]
    exact resolveWithHost_of_raised _ hrequest (hlookup request)
  refine ⟨⟨.inr (.inr ⟨_, houtcome, rfl⟩), ?_, ?_⟩, ?_⟩
  · rw [Result.raises_iff houtcome]
    exact iff_of_false FaultKind.noConfusion (not_not_intro hsymbolic.isSpec)
  · exact iff_of_true ⟨_, houtcome, rfl⟩ ⟨hsymbolic, hnone⟩
  · rintro ⟨_, name, offset, base, -, -, -, -, hfound⟩
    rw [hlookup] at hfound
    cases hfound

theorem failsAsDescribed_iff_of_isSymbolic (hquiet : s.IsQuiet)
    (hends : Link.EndsWaits session.link.settings.timeout ∨ s.host.Answers)
    (hsymbolic : spec.IsSymbolic) :
    session.FailsAsDescribed spec s ↔ ¬session.MeetsOverlongOffset spec s := by
  by_cases hnone : session.link.candidatesIn s.host = []
  · obtain ⟨hdescribed, hshort⟩ := failsAsDescribed_of_no_candidates hquiet hsymbolic hnone
    exact iff_of_true hdescribed hshort
  · have hspec := hsymbolic.isSpec
    obtain ⟨text, rfl, hink, hhex⟩ := hsymbolic
    obtain ⟨request, hrequest⟩ := Descriptor.request?_ofTrimmed hhex
    have hresolve := resolve_of_symbolic session hink hhex
    obtain ⟨found, hfound⟩ := lookup_returns hquiet hnone hends request
    cases hplace : (Descriptor.ofTrimmed (trimmed text)).place found with
    | ok placed =>
        have houtcome := (resolveWithHost_of_placed (.text text) hquiet hrequest hfound hplace).1
        rw [← hresolve] at houtcome
        refine iff_of_true (failsAsDescribed_of_returned hspec (fun _ => hnone) houtcome) ?_
        intro hmeets
        obtain ⟨digits, hraised⟩ := hmeets.resolve
        rw [houtcome] at hraised
        cases hraised
    | error fault =>
        have houtcome := (resolveWithHost_of_misplaced (.text text) hrequest hfound hplace).1
        rw [← hresolve] at houtcome
        obtain ⟨name, offset, base, hdescriptor, rfl, hlong, rfl⟩ :=
          Descriptor.place_eq_error_iff.mp hplace
        rw [hdescriptor] at hrequest
        obtain rfl := Option.some.inj hrequest
        exact iff_of_false (not_failsAsDescribed (.inl rfl) houtcome) (not_not_intro
          ⟨text, name, offset, base, rfl, hink, hdescriptor, hlong, hfound⟩)

/-- **The failures of resolving are as described exactly when** a refused spec can be shown in the
message, with no number in it too long and nothing in it too deep, and no base that the host gives
meets an offset of too many digits. Text in specs is well formed. -/
theorem failsAsDescribed_iff (hquiet : s.IsQuiet)
    (hends : Link.EndsWaits session.link.settings.timeout ∨ s.host.Answers)
    (hwhole : ∀ ps, spec ≠ .ragged ps) :
    session.FailsAsDescribed spec s ↔
      (spec.IsSpec ∨ spec.IsShownWithin session.link.levels) ∧ ¬session.MeetsOverlongOffset spec s := by
  by_cases hspec : spec.IsSpec
  · rw [and_iff_right (.inl hspec)]
    by_cases hsymbolic : spec.IsSymbolic
    · exact failsAsDescribed_iff_of_isSymbolic hquiet hends hsymbolic
    · obtain ⟨a, houtcome⟩ := resolve_of_local hspec hwhole hsymbolic s
      exact iff_of_true
        (failsAsDescribed_of_returned hspec (fun hneeds => absurd hneeds hsymbolic) houtcome)
        fun hmeets => hsymbolic hmeets.isSymbolic
  · rw [failsAsDescribed_iff_of_not_isSpec hspec, or_iff_right hspec, and_iff_left]
    exact fun hmeets => hspec hmeets.isSymbolic.isSpec

theorem lookup_answering (request : Request) {raw : String} (hreads : (make {} true).Reads raw) :
    ((make {} true).lookup request (.answering raw)).outcome =
      .returned (Response.pointer? raw) := by
  rw [← pointer?_of_reads hreads]
  exact (lookup_of_returned (Surroundings.isQuiet_answering raw)
    (Surroundings.evaluate_answering request.program raw)).1

theorem null_fails_as_described :
    FailsAsDescribed (make {} true) .null (.answering Response.noPointer) := by
  refine (failsAsDescribed_iff (Surroundings.isQuiet_answering _)
    (.inr (Surroundings.answers_answering _)) (fun ps => Value.noConfusion)).mpr ⟨?_, ?_⟩
  · exact .inr ⟨⟨_, by rw [Value.quoted?]⟩, trivial⟩
  · rintro ⟨text, name, offset, base, heq, -⟩
    cases heq

def zerosAfter (count : Nat) : String :=
  String.ofList ('m' :: ':' :: List.replicate count '0')

theorem trimmed_zeros {front : List Char} (hfront : front.all (fun c => !isBlank c) = true)
    (count : Nat) :
    trimmed (String.ofList (front ++ List.replicate count '0')) =
      front ++ List.replicate count '0' := by
  rw [trimmed, String.toList_ofList]
  refine trim_of_ink fun c hmem => ?_
  rcases List.mem_append.mp hmem with hmem | hmem
  · simpa using List.all_eq_true.mp hfront c hmem
  · rw [List.eq_of_mem_replicate hmem]
    decide

theorem meetsOverlongOffset_zerosAfter {count : Nat} (hlong : decimalDigitLimit < count + 1) :
    MeetsOverlongOffset (make {} true) (.text (zerosAfter (count + 1)))
      (.answering (Response.pointerTo 16)) := by
  have htrimmed : trimmed (zerosAfter (count + 1)) =
      ['m'] ++ ':' :: List.replicate (count + 1) '0' :=
    trimmed_zeros (by decide : ['m', ':'].all (fun c => !isBlank c) = true) (count + 1)
  have hfound := lookup_answering
    ⟨.resolveModuleBase, Program.baseProgram (String.ofList ['m'])⟩ (reads_of_openings_eq_one (Response.openings_pointerTo 16))
  rw [Response.pointer?_pointerTo] at hfound
  refine ⟨_, _, String.ofList (List.replicate (count + 1) '0'), _, rfl, ?_, ?_, ?_, hfound⟩
  · rw [hasInk, zerosAfter, String.toList_ofList]
    rfl
  · rw [htrimmed]
    exact Descriptor.ofTrimmed_offset (by decide) (by simp) rfl
  · have hzeros := trimmed_zeros (List.all_nil : [].all (fun c => !isBlank c) = true) (count + 1)
    rw [List.nil_append] at hzeros
    have hsign : splitSign (List.replicate (count + 1) '0') =
        (false, List.replicate (count + 1) '0') := rfl
    rw [hzeros, Offset.isOverlong, Bool.and_eq_true, decide_eq_true_eq, Offset.isDecimal_iff, hsign]
    refine ⟨⟨List.cons_ne_nil _ _, fun c hmem => ?_⟩, ?_⟩
    · rw [List.eq_of_mem_replicate hmem]
      decide
    · rwa [List.length_replicate]

/-- A base that the host gave is lost when the offset from it has one digit too many. -/
theorem overlong_offset_fails_otherwise :
    ¬FailsAsDescribed (make {} true) (.text (zerosAfter 4301))
      (.answering (Response.pointerTo 16)) := by
  have hlong : decimalDigitLimit < 4300 + 1 := by decide
  obtain ⟨digits, houtcome⟩ := (meetsOverlongOffset_zerosAfter hlong).resolve
  exact not_failsAsDescribed (.inl rfl) houtcome

/-! ### Failures that the host reports -/

/-- The spec was given up: the address is zero, and the observer heard that nothing was found. -/
def IsUnresolved (spec : Value) (result : Result Address) : Prop :=
  result.outcome = .returned .zero ∧
    result.journal.eventsOf .resolved = [.resolved spec .zero false]

/-- **A reported failure is taken as one exactly when no pointer comes with it** that can be read. The
answer is any object, for any of the specs that the host has to look up. -/
theorem isUnresolved_of_failure_iff (hquiet : s.IsQuiet) (hheard : s.observer.isSome = true)
    {text raw : String} {request : Request} {fields : List (FieldName × Value)}
    (hsymbolic : (Value.text text).IsSymbolic)
    (hrequest : (Descriptor.ofTrimmed (trimmed text)).request? = some request)
    (hraw : (session.link.evaluate request.program s).outcome = .returned raw)
    (hobject : Response.object? (.text raw) = some fields) :
    Value.field? "ok" fields = some (.bool false) →
      (IsUnresolved (.text text) (session.resolve (.text text) s) ↔ ¬session.Reads raw ∨
        (Value.field? Request.resultField fields).bind Address.ofPointer? = none) := by
  intro _
  obtain ⟨_, heq, hink, hhex⟩ := hsymbolic
  obtain rfl := Value.text.inj heq
  have hfound := (lookup_of_returned hquiet hraw).1
  rw [← Response.pointer?_of_object? hobject, ← pointer?_eq_none_iff,
    resolve_of_symbolic session hink hhex]
  cases hpointer : session.pointer? raw with
  | none =>
      rw [hpointer] at hfound
      obtain ⟨houtcome, -, hevents⟩ := resolveWithHost_of_placed (.text text) hquiet hrequest
        hfound (Descriptor.place_none _)
      refine iff_of_true ⟨houtcome, ?_⟩ rfl
      rw [hevents, Surroundings.told, if_pos hheard]
      rfl
  | some pointer =>
      rw [hpointer] at hfound
      refine iff_of_false ?_ (by simp)
      rintro ⟨hzero, hunheard⟩
      cases hplace : (Descriptor.ofTrimmed (trimmed text)).place (some pointer) with
      | error fault =>
          rw [(resolveWithHost_of_misplaced _ hrequest hfound hplace).1] at hzero
          cases hzero
      | ok placed =>
          have hevents := (resolveWithHost_of_placed (.text text) hquiet hrequest hfound hplace).2.2
          rw [hunheard, Descriptor.isSome_of_place hplace, Surroundings.told, if_pos hheard]
            at hevents
          simp [Journal.eventsOf, Event.kind] at hevents

theorem missing_symbol_is_unresolved :
    IsUnresolved (.text "main") ((make {} true).resolve (.text "main")
      (.answering (Response.failureWith "no such symbol".toList))) := by
  have hobject := Response.object?_answer false
    (by decide : "error".toList.all Json.isLiteral = true) (by decide)
    (Json.reads_string (by decide : "no such symbol".toList.all Json.isLiteral = true))
  have hrequest : (Descriptor.ofTrimmed (trimmed "main")).request? =
      some ⟨.resolveExport, Program.exportProgram none "main"⟩ := by
    have hmain : Descriptor.ofTrimmed (trimmed "main") = .bareSymbol "main" := by decide
    rw [hmain, Descriptor.request?]
  exact (isUnresolved_of_failure_iff (Surroundings.isQuiet_answering _) rfl
    ⟨"main", rfl, by decide, by decide⟩ hrequest (Surroundings.evaluate_answering _ _)
    hobject rfl).mpr (.inr rfl)

def failureBeside (n : Nat) : String :=
  String.ofList (Json.answer false "__r".toList (Json.string ('0' :: 'x' :: hex n)))

/-- A pointer beside a failure is taken for the address. -/
theorem failure_beside_pointer_is_resolved :
    ∃ fields, Response.object? (.text (failureBeside 16)) = some fields ∧
      Value.field? "ok" fields = some (.bool false) ∧
      ((make {} true).resolve (.text "main") (.answering (failureBeside 16))).outcome =
        .returned (.ofInt 16) ∧
      ¬IsUnresolved (.text "main")
        ((make {} true).resolve (.text "main") (.answering (failureBeside 16))) := by
  have hobject := Response.object?_answer false
    (by decide : "__r".toList.all Json.isLiteral = true) (by decide)
    (Json.reads_string (Json.isLiteral_string_hex 16))
  have hmain : Descriptor.ofTrimmed (trimmed "main") = .bareSymbol "main" := by decide
  have hpointer : Response.pointer? (failureBeside 16) = some (.ofInt 16) := by
    rw [failureBeside, Response.pointer?_answer (Json.reads_string (Json.isLiteral_string_hex 16)),
      Response.ofPointer?_hex]
    rfl
  have hreads : (make {} true).Reads (failureBeside 16) := by
    refine reads_of_openings_eq_one ?_
    rw [failureBeside, String.toList_ofList, Json.openings_answer, Json.openings_string]
    decide
  have hfound := lookup_answering ⟨.resolveExport, Program.exportProgram none "main"⟩ hreads
  rw [hpointer] at hfound
  have hplace : (Descriptor.bareSymbol "main").place (some (.ofInt 16)) =
      .ok (some (.ofInt 16)) := rfl
  have houtcome : ((make {} true).resolve (.text "main") (.answering (failureBeside 16))).outcome =
      .returned (.ofInt 16) := by
    rw [resolve_of_symbolic _ (by decide) (by decide), hmain]
    exact (resolveWithHost_of_placed _ (Surroundings.isQuiet_answering _) rfl hfound hplace).1
  refine ⟨_, hobject, rfl, houtcome, fun hunresolved => ?_⟩
  have hzero := houtcome.symm.trans hunresolved.1
  exact absurd (Outcome.returned.inj hzero) (by decide)

end Session

end HostLink
