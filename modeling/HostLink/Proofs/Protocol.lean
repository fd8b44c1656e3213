import HostLink.Host.Script
import HostLink.Proofs.Answer
import HostLink.Proofs.Operation
import HostLink.Proofs.Turns

/-!
# The protocol of events

What an observer hears of operations, one after another, is one word for each of them. A word is
made of round trips, each of them told by two events that follow each other, and of one event that
tells that the operation was completed. What the operations find out in between does not matter.
-/

namespace HostLink

namespace Session

open Run

/-! ### Words -/

/-- One evaluation as it is heard: before and after, with the same program, and with whether there
was an answer. -/
def IsRoundTrip (session : Session) (trip : Trip) (word : List Event) : Prop :=
  ∃ result succeeded,
    word = [.evalStart (cut trip.program), .evalEnd (cut trip.program) result succeeded] ∧
      (succeeded = true ↔
        ∃ raw, (session.link.evaluate trip.program trip.start).outcome = .returned raw)

/-- What may be heard of an operation that starts in these surroundings. Text in specs is well
formed. -/
inductive IsWord (session : Session) : Operation → Surroundings → List Event → Prop
  /-- Addresses, numbers and literals need no host, and what names nothing is refused. -/
  | resolve_local {spec s} (hwhole : ∀ ps, spec ≠ .ragged ps) (hlocal : ¬spec.IsSymbolic) :
      IsWord session (.resolve spec) s []
  | resolve_returned {spec s request trip a found} (hrequest : spec.request? = some request)
      (htrip : session.IsRoundTrip ⟨request.program, s⟩ trip)
      (hreturned : (session.resolve spec s).outcome = .returned a) :
      IsWord session (.resolve spec) s (trip ++ [.resolved spec a found])
  | resolve_failed {spec s request trip} (hrequest : spec.request? = some request)
      (htrip : session.IsRoundTrip ⟨request.program, s⟩ trip)
      (hfailed : ∀ a, (session.resolve spec s).outcome ≠ .returned a) :
      IsWord session (.resolve spec) s trip
  /-- Callbacks are looked at first. -/
  | install_refused {spec v s fault} (hcallbacks : Callbacks.coerce v = .error fault) :
      IsWord session (.install spec v) s []
  | install_unresolved {spec v s callbacks word} (hcallbacks : Callbacks.coerce v = .ok callbacks)
      (hword : IsWord session (.resolve spec) s word)
      (hfailed : ∀ a, (session.resolve spec s).outcome ≠ .returned a) :
      IsWord session (.install spec v) s word
  | install_returned {spec v s callbacks address word trip}
      (hcallbacks : Callbacks.coerce v = .ok callbacks)
      (hword : IsWord session (.resolve spec) s word)
      (hresolved : (session.resolve spec s).outcome = .returned address)
      (htrip : session.IsRoundTrip ⟨Program.installProgram address callbacks,
        (session.resolve spec s).surroundings⟩ trip)
      (hreturned : (session.install spec v s).outcome = .returned true) :
      IsWord session (.install spec v) s (word ++ (trip ++
        [.interceptInstalled address callbacks.onEnter.isSome callbacks.onLeave.isSome]))
  | install_failed {spec v s callbacks address word trip}
      (hcallbacks : Callbacks.coerce v = .ok callbacks)
      (hword : IsWord session (.resolve spec) s word)
      (hresolved : (session.resolve spec s).outcome = .returned address)
      (htrip : session.IsRoundTrip ⟨Program.installProgram address callbacks,
        (session.resolve spec s).surroundings⟩ trip)
      (hfailed : (session.install spec v s).outcome ≠ .returned true) :
      IsWord session (.install spec v) s (word ++ trip)
  | scan_returned {name pattern s found trip}
      (htrip : session.IsRoundTrip ⟨Program.scanProgram name pattern, s⟩ trip)
      (hreturned : (session.scan (.text name) (.text pattern) s).outcome = .returned found) :
      IsWord session (.scan name pattern) s
        (trip ++ [.scanComplete (.text name) (.text pattern) found.length])
  | scan_failed {name pattern s trip}
      (htrip : session.IsRoundTrip ⟨Program.scanProgram name pattern, s⟩ trip)
      (hfailed : ∀ found, (session.scan (.text name) (.text pattern) s).outcome ≠ .returned found) :
      IsWord session (.scan name pattern) s trip
  | evaluate {program s trip} (htrip : session.IsRoundTrip ⟨program, s⟩ trip) :
      IsWord session (.evaluate program) s trip

/-- One word after another, each in the surroundings that the operation before it left behind. -/
inductive Spells (session : Session) : List Operation → Surroundings → List Event → Prop
  | nil {s} : Spells session [] s []
  | cons {operation rest s word words} (hword : session.IsWord operation s word)
      (hrest : Spells session rest (session.perform operation s).surroundings words) :
      Spells session (operation :: rest) s (word ++ words)

/-- Operations one after another, whatever becomes of them. -/
def performAll (session : Session) : List Operation → Run Unit
  | [] => Pure.pure ()
  | operation :: rest => do
    let _ ← attempt (session.perform operation)
    session.performAll rest

/-! ### Surroundings in which words are complete -/

/-- The observer hears everything and raises nothing, evaluations end, and their failures can be
shown. -/
structure IsOrderly (session : Session) (s : Surroundings) : Prop where
  quiet : s.IsQuiet
  heard : s.observer.isSome = true
  ends : Link.EndsWaits session.link.settings.timeout ∨ s.host.Answers
  legible : session.link.Legible s.host

variable {session : Session} {s : Surroundings}

/-- Whatever a session does leaves order behind it, and it ends. -/
theorem IsOrderly.after {α : Type} {x : Run α} (horderly : session.IsOrderly s)
    (hx : session.Composed x) :
    session.IsOrderly (x s).surroundings ∧ (x s).outcome ≠ .stalled := by
  have hsuits : session.Suits (runContract s False) := suits_runContract (.inr horderly.ends)
  obtain ⟨houtcome, -, hquiet, hpresent, hleads⟩ :=
    hsuits.obeys_composed (fun _ => trivial) hx s ⟨horderly.quiet, rfl, .refl⟩
  refine ⟨⟨hquiet, hpresent.trans horderly.heard, ?_, horderly.legible.of_leads hleads⟩, ?_⟩
  · exact horderly.ends.imp id fun hanswers => hanswers.of_leads hleads
  · intro hstalled
    rw [hstalled] at houtcome
    exact houtcome

theorem IsOrderly.after_perform (horderly : session.IsOrderly s) (operation : Operation) :
    session.IsOrderly (session.perform operation s).surroundings :=
  (horderly.after (session.composed_perform operation)).1

/-- **A round trip is heard in full.** -/
theorem IsOrderly.isRoundTrip (horderly : session.IsOrderly s) (program : String) :
    session.IsRoundTrip ⟨program, s⟩ (session.heard ⟨program, s⟩) := by
  have hends := (horderly.after (.evaluate program)).2
  unfold IsRoundTrip Session.heard ending?
  cases houtcome : (session.link.evaluate program s).outcome with
  | returned raw => exact ⟨cut raw, true, rfl, iff_of_true rfl ⟨raw, rfl⟩⟩
  | raised fault =>
      obtain ⟨message, hmessage⟩ :=
        Option.isSome_iff_exists.mp (horderly.legible.isSome_message? houtcome)
      simp only [hmessage, Option.map_some]
      exact ⟨String.ofList message, false, rfl, iff_of_false Bool.noConfusion (by simp)⟩
  | stalled => exact absurd houtcome hends

/-! ### Operations spell words -/

theorem isWord_resolve (horderly : session.IsOrderly s) {spec : Value}
    (hwhole : ∀ ps, spec ≠ .ragged ps) :
    session.IsWord (.resolve spec) s (session.resolve spec s).journal.events := by
  cases hrequest : spec.request? with
  | none =>
      have hlocal := Value.request?_eq_none_iff.mp hrequest
      rw [events_resolve_of_local hlocal]
      exact .resolve_local hwhole hlocal
  | some request =>
      have htrip := horderly.isRoundTrip request.program
      cases concludes_resolve horderly.quiet horderly.heard hrequest with
      | returned a e hreturned hlast hevents =>
          obtain ⟨found, rfl⟩ := hlast
          rw [hevents]
          exact .resolve_returned hrequest htrip hreturned
      | failed hfailed hevents =>
          rw [hevents]
          exact .resolve_failed hrequest htrip hfailed

theorem isWord_install (horderly : session.IsOrderly s) {spec : Value}
    (hwhole : ∀ ps, spec ≠ .ragged ps) (v : Value) :
    session.IsWord (.install spec v) s (session.install spec v s).journal.events := by
  cases hcallbacks : Callbacks.coerce v with
  | error fault =>
      rw [install_of_refused hcallbacks]
      exact .install_refused hcallbacks
  | ok callbacks =>
      have hword := isWord_resolve horderly hwhole
      by_cases hreturned : ∃ address, (session.resolve spec s).outcome = .returned address
      · obtain ⟨address, hresolved⟩ := hreturned
        obtain ⟨houtcome, hevents⟩ := install_of_resolved hcallbacks hresolved
        have hafter := (horderly.after (session.composed_resolve spec)).1
        have htrip := hafter.isRoundTrip (Program.installProgram address callbacks)
        rw [hevents]
        cases concludes_attach hafter.quiet hafter.heard address callbacks with
        | returned done e hdone hlast hattached =>
            obtain ⟨rfl, rfl⟩ := hlast
            rw [hattached]
            exact .install_returned hcallbacks hword hresolved htrip (houtcome.trans hdone)
        | failed hfailed hattached =>
            rw [hattached]
            exact .install_failed hcallbacks hword hresolved htrip
              fun hdone => hfailed true (houtcome.symm.trans hdone)
      · have hfailed : ∀ a, (session.resolve spec s).outcome ≠ .returned a :=
          fun a ha => hreturned ⟨a, ha⟩
        rw [(install_of_unresolved hcallbacks hfailed).2]
        exact .install_unresolved hcallbacks hword hfailed

theorem isWord_scan (horderly : session.IsOrderly s) (name pattern : String) :
    session.IsWord (.scan name pattern) s
      (session.scan (.text name) (.text pattern) s).journal.events := by
  have htrip := horderly.isRoundTrip (Program.scanProgram name pattern)
  cases concludes_scan horderly.quiet horderly.heard name pattern with
  | returned found e hreturned hlast hevents =>
      obtain rfl := hlast
      rw [hevents]
      exact .scan_returned htrip hreturned
  | failed hfailed hevents =>
      rw [hevents]
      exact .scan_failed htrip hfailed

theorem isWord_perform (horderly : session.IsOrderly s) (operation : Operation)
    (hwhole : operation.IsWhole) :
    session.IsWord operation s (session.perform operation s).journal.events := by
  cases operation with
  | resolve spec =>
      rw [perform, events_void]
      exact isWord_resolve horderly hwhole
  | install spec v =>
      rw [perform, events_void]
      exact isWord_install horderly hwhole v
  | scan name pattern =>
      rw [perform, events_void]
      exact isWord_scan horderly name pattern
  | evaluate program =>
      rw [perform, events_void, events_evaluate horderly.quiet horderly.heard]
      exact .evaluate (horderly.isRoundTrip program)

theorem performAll_cons (horderly : session.IsOrderly s) (operation : Operation)
    (rest : List Operation) :
    (session.performAll (operation :: rest) s).journal =
      (session.perform operation s).journal ++
        (session.performAll rest (session.perform operation s).surroundings).journal := by
  have hends := (horderly.after (session.composed_perform operation)).2
  rw [performAll]
  cases houtcome : (session.perform operation s).outcome with
  | returned _ => rw [attempt_bind_of_returned houtcome]
  | raised fault => rw [attempt_bind_of_raised houtcome]
  | stalled => exact absurd houtcome hends

theorem spells_events (horderly : session.IsOrderly s) {operations : List Operation}
    (hwhole : ∀ operation ∈ operations, operation.IsWhole) :
    session.Spells operations s (session.performAll operations s).journal.events := by
  induction operations generalizing s with
  | nil => exact .nil
  | cons operation rest ih =>
      obtain ⟨hfirst, hrest⟩ := List.forall_mem_cons.mp hwhole
      rw [performAll_cons horderly, Journal.events_append]
      exact .cons (isWord_perform horderly operation hfirst)
        (ih (horderly.after_perform operation) hrest)

/-! ### Round trips are never interleaved -/

/-- Every evaluation that is heard of ends in the next event, and none ends that did not start. -/
inductive Paired : List Event → Prop
  | nil : Paired []
  | roundTrip {program result succeeded rest} (hrest : Paired rest) :
      Paired (.evalStart program :: .evalEnd program result succeeded :: rest)
  | other {e rest} (hother : e.kind ∉ [.evalStart, .evalEnd]) (hrest : Paired rest) :
      Paired (e :: rest)

theorem Paired.append {left right : List Event} (hleft : Paired left) (hright : Paired right) :
    Paired (left ++ right) := by
  induction hleft with
  | nil => exact hright
  | roundTrip _ ih => exact .roundTrip ih
  | other hother _ ih => exact .other hother ih

theorem IsRoundTrip.paired {trip : Trip} {word : List Event}
    (htrip : session.IsRoundTrip trip word) : Paired word := by
  obtain ⟨result, succeeded, rfl, -⟩ := htrip
  exact .roundTrip .nil

/-- That an operation was completed may be heard after its evaluations. -/
theorem IsRoundTrip.paired_concat {trip : Trip} {word : List Event}
    (htrip : session.IsRoundTrip trip word) {e : Event}
    (hother : e.kind ∉ [.evalStart, .evalEnd]) : Paired (word ++ [e]) :=
  htrip.paired.append (.other hother .nil)

theorem IsWord.paired {operation : Operation} {word : List Event}
    (hword : session.IsWord operation s word) : Paired word := by
  induction hword with
  | resolve_local _ _ => exact .nil
  | resolve_returned _ htrip _ => exact htrip.paired_concat (by simp [Event.kind])
  | resolve_failed _ htrip _ => exact htrip.paired
  | install_refused _ => exact .nil
  | install_unresolved _ _ _ ih => exact ih
  | install_returned _ _ _ htrip _ ih =>
      exact ih.append (htrip.paired_concat (by simp [Event.kind]))
  | install_failed _ _ _ htrip _ ih => exact ih.append htrip.paired
  | scan_returned htrip _ => exact htrip.paired_concat (by simp [Event.kind])
  | scan_failed htrip _ => exact htrip.paired
  | evaluate htrip => exact htrip.paired

theorem Spells.paired {operations : List Operation} {words : List Event}
    (hspells : session.Spells operations s words) : Paired words := by
  induction hspells with
  | nil => exact .nil
  | cons hword _ ih => exact hword.paired.append ih

/-- **What is heard of a run is one word for each operation**, and round trips in it are never
interleaved with anything. -/
theorem performAll_spells (horderly : session.IsOrderly s) (operations : List Operation)
    (hwhole : ∀ operation ∈ operations, operation.IsWhole) :
    session.Spells operations s (session.performAll operations s).journal.events ∧
      Paired (session.performAll operations s).journal.events := by
  have hspells := spells_events horderly hwhole
  exact ⟨hspells, hspells.paired⟩

/-- The function handed over gives a pointer once, and fails from then on. -/
def wavering : Surroundings where
  host := {
    environment := .given []
    direct := some (.scripted [.returns (.text (Response.pointerTo 16)),
      .raises (.raised .general [.text "refused", .text "again"])]) }
  observer := some .silent

theorem respond_wavering (calls : Nat) (args : List Value) :
    (Function.scripted [.returns (.text (Response.pointerTo 16)),
        .raises (.raised .general [.text "refused", .text "again"])]).respond calls args =
      if calls = 0 then .returns (.text (Response.pointerTo 16))
      else .raises (.raised .general [.text "refused", .text "again"]) := by
  match calls with
  | 0 => rfl
  | 1 => rfl
  | _ + 2 => rfl

theorem isOrderly_wavering : (make {} true).IsOrderly wavering where
  quiet o ho heard e := by
    obtain rfl := Option.some.inj ho
    rfl
  heard := rfl
  ends := by
    refine .inr ⟨fun f hf calls args => ?_, fun name => trivial⟩
    obtain rfl := Option.some.inj hf
    rw [respond_wavering]
    split <;> exact Reply.noConfusion
  legible := by
    refine Link.legible_handedOver "evaluator" {} fun f hf calls args fault hreply => ?_
    obtain rfl := Option.some.inj hf
    rw [respond_wavering] at hreply
    split at hreply
    · cases hreply
    · exact ⟨.general, ["refused", "again"], (Reply.raises.inj hreply).symm⟩

/-- A spec is resolved, then callbacks are not installed, and a scan comes to nothing. -/
theorem wavering_host_spells :
    (make {} true).Spells
        [.resolve (.text "main"), .install (.text "m!s") (.callbacks ⟨some "f", none⟩),
          .scan "m" "00 ??", .evaluate "1 + 1"] wavering
        ((make {} true).performAll
          [.resolve (.text "main"), .install (.text "m!s") (.callbacks ⟨some "f", none⟩),
            .scan "m" "00 ??", .evaluate "1 + 1"] wavering).journal.events ∧
      Paired ((make {} true).performAll
        [.resolve (.text "main"), .install (.text "m!s") (.callbacks ⟨some "f", none⟩),
          .scan "m" "00 ??", .evaluate "1 + 1"] wavering).journal.events := by
  refine performAll_spells isOrderly_wavering _ ?_
  simp only [List.forall_mem_cons, List.not_mem_nil, false_implies, implies_true, and_true]
  exact ⟨fun ps => Value.noConfusion, fun ps => Value.noConfusion, trivial, trivial⟩

end Session

end HostLink
