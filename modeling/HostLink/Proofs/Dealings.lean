import HostLink.Proofs.Operation

/-!
# What operations have to do with the host

A run calls the host, it is heard to start evaluations, and it leaves a host behind. Whatever the
observer answers, a request that is sent has to do with the host what one evaluation of its program
has to do with it, and so has a spec that is looked up.
-/

namespace HostLink

def Entry.IsCall : Entry → Prop
  | .call .. => True
  | _ => False

theorem Journal.calls_eq_nil {journal : Journal} (hnone : ∀ e ∈ journal, ¬e.IsCall) :
    journal.calls = [] := by
  refine List.filterMap_eq_nil_iff.mpr fun e hmem => ?_
  cases e with
  | call target args => exact absurd trivial (hnone _ hmem)
  | event e => rfl
  | note channel level message => rfl

structure Dealings where
  calls : List (Target × List Value)
  /-- The evaluations that were heard to start. -/
  starts : List Event
  host : Host

def Result.dealings {α : Type} (result : Result α) : Dealings :=
  ⟨result.journal.calls, result.journal.eventsOf .evalStart, result.surroundings.host⟩

/-- The host is left alone, and no evaluation starts. -/
def Contract.aside (host : Host) : Contract where
  inv s := s.host = host
  entry e := ¬e.IsCall ∧ ¬e.IsEventOf .evalStart

namespace Surroundings

/-- How the observer answers an event, if it answers with a failure. -/
def refusal? (s : Surroundings) (e : Event) : Option Fault :=
  s.observer.bind fun o => o.respond o.heard e

theorem IsQuiet.refusal? {s : Surroundings} (hquiet : s.IsQuiet) (e : Event) :
    s.refusal? e = none := by
  rw [Surroundings.refusal?, Option.bind_eq_none_iff]
  exact fun o ho => hquiet o ho o.heard e

theorem eventsOf_told {s : Surroundings} {e : Event} {kind : EventKind} (hkind : e.kind = kind) :
    (s.told e).eventsOf kind = (s.told e).events := by
  unfold told
  by_cases hobserver : s.observer.isSome = true
  · rw [if_pos hobserver]
    exact congrArg Option.toList (if_pos hkind)
  · rw [if_neg hobserver]
    rfl

end Surroundings

namespace Run

variable {α β : Type} {x : Run α} {f : α → Run β}

theorem emit_apply (e : Event) (s : Surroundings) :
    emit e s = ⟨match s.refusal? e with
      | none => .returned ()
      | some fault => .raised fault, s.told e, s.afterEvent⟩ := by
  obtain ⟨host, observer⟩ := s
  cases observer with
  | none => rfl
  | some o =>
      simp only [emit, Surroundings.refusal?, Option.bind_some]
      cases o.respond o.heard e <;> rfl

/-- What comes after and leaves the host alone does not count. -/
theorem dealings_bind (hf : ∀ host a, Obeys (.aside host) (f a)) (s : Surroundings) :
    ((x >>= f) s).dealings = (x s).dealings := by
  rw [bind_apply]
  cases (x s).outcome with
  | returned a =>
      obtain ⟨-, hjournal, hhost⟩ := hf _ a (x s).surroundings rfl
      have hcalls := Journal.calls_eq_nil fun e hmem => (hjournal e hmem).1
      have hstarts := Journal.eventsOf_eq_nil fun e hmem => (hjournal e hmem).2
      simp only [Result.dealings, Journal.calls_append, Journal.eventsOf_append, hcalls, hstarts,
        List.append_nil]
      exact congrArg _ hhost
  | raised fault => rfl
  | stalled => rfl

theorem dealings_emit_bind (e : Event) (g : Unit → Run β) (s : Surroundings) :
    ((emit e >>= g) s).dealings = match s.refusal? e with
      | none =>
        let after := (g () s.afterEvent).dealings
        ⟨after.calls, (s.told e).eventsOf .evalStart ++ after.starts, after.host⟩
      | some _ => ⟨[], (s.told e).eventsOf .evalStart, s.host⟩ := by
  rw [bind_apply, emit_apply]
  cases s.refusal? e with
  | none =>
      simp only [Result.dealings, Journal.calls_append, Surroundings.calls_told, List.nil_append,
        Journal.eventsOf_append]
  | some fault =>
      simp only [Result.dealings, Surroundings.calls_told]
      rfl

theorem dealings_attempt (x : Run α) (s : Surroundings) :
    (attempt x s).dealings = (x s).dealings := by
  rw [attempt_apply]
  rfl

theorem aside_note (host : Host) (channel : Channel) (level : Level)
    (message : Option (List Char)) : Obeys (.aside host) (note channel level message) :=
  obeys_note fun _ => ⟨id, id⟩

theorem aside_emit (host : Host) {e : Event} (hkind : e.kind ≠ .evalStart) :
    Obeys (.aside host) (emit e) :=
  obeys_emit ⟨id, hkind⟩ (fun _ => trivial) fun _ => id

theorem aside_ofExcept (host : Host) (r : Except Fault α) : Obeys (.aside host) (ofExcept r) :=
  obeys_ofExcept fun _ _ => trivial

end Run

namespace Session

open Run

variable {session : Session} {spec : Value} {request : Request} {d : Descriptor}

/-- What one evaluation of a program has to do with the host: nothing, if the observer keeps it from
starting. -/
def errand (session : Session) (program : String) (s : Surroundings) : Dealings :=
  let starts := (s.told (.evalStart (cut program))).events
  match s.refusal? (.evalStart (cut program)) with
  | none =>
    let result := session.link.evaluate program s
    ⟨result.journal.calls, starts, result.surroundings.host⟩
  | some _ => ⟨[], starts, s.host⟩

/-- An observer that was just told of the start is not told of anything by the link. -/
theorem dealings_link_evaluate (link : Link) (program : String) (s : Surroundings) :
    (link.evaluate program s.afterEvent).dealings =
      ⟨(link.evaluate program s).journal.calls, [],
        (link.evaluate program s).surroundings.host⟩ := by
  have hsuits : Obeys .silent (link.evaluate program) :=
    (Link.suits_silent link.settings.timeout).obeys_evaluate trivial program
  have hstarts : (link.evaluate program s.afterEvent).journal.eventsOf .evalStart = [] :=
    Journal.eventsOf_eq_nil fun e hmem hevent =>
      (hsuits _ trivial).journal e hmem (by cases e <;> trivial)
  obtain ⟨outcome, journal, host, hrun⟩ := Link.ignoresObserver_evaluate link program s.host
  have hafter : link.evaluate program s.afterEvent = _ := hrun s.afterEvent.observer
  have hbefore : link.evaluate program s = _ := hrun s.observer
  rw [Result.dealings, hstarts, hafter, hbefore]

theorem dealings_evaluate (session : Session) (program : String) (s : Surroundings) :
    (session.evaluate program s).dealings = session.errand program s := by
  unfold evaluate
  rw [dealings_emit_bind, dealings_bind, dealings_attempt, dealings_link_evaluate]
  · have hstarts : (s.told (.evalStart (cut program))).eventsOf .evalStart =
        (s.told (.evalStart (cut program))).events := Surroundings.eventsOf_told rfl
    unfold errand
    cases s.refusal? (.evalStart (cut program)) with
    | none => simp only [hstarts, List.append_nil]
    | some fault => simp only [hstarts]
  · intro host answer
    cases answer with
    | error fault =>
        apply Obeys.bind (obeys_messageOf trivial)
        intro message
        exact Obeys.bind (aside_emit host EventKind.noConfusion) fun _ => obeys_raise trivial
    | ok raw => exact Obeys.bind (aside_emit host EventKind.noConfusion) fun _ => obeys_pure raw

theorem dealings_send (session : Session) (request : Request) (s : Surroundings) :
    (session.send request s).dealings = session.errand request.program s := by
  unfold send
  rw [dealings_bind, dealings_evaluate]
  intro host raw
  have hnote : ∀ channel level text, (Contract.aside host).entry (.note channel level text) :=
    fun _ _ _ => ⟨id, id⟩
  apply Obeys.bind (obeys_decode (fun _ => trivial) hnote session (.text raw))
  intro response
  by_cases hok : (!response.ok) = true
  · simp only [hok, if_true]
    exact Obeys.bind (aside_note host _ _ _) fun _ => obeys_pure response
  · simp only [hok, if_false, Bool.false_eq_true]
    exact obeys_pure response

theorem dealings_lookup (session : Session) (request : Request) (s : Surroundings) :
    (session.lookup request s).dealings = session.errand request.program s := by
  unfold lookup
  rw [dealings_bind, dealings_attempt, dealings_send]
  intro host answer
  cases answer with
  | error fault =>
      by_cases hkind : fault.kind = .noEntryPoint
      · simp only [hkind, if_true]
        exact obeys_raise trivial
      · simp only [hkind, if_false]
        exact Obeys.bind (aside_note host _ _ _) fun _ => obeys_pure none
  | ok response => exact obeys_pure _

theorem dealings_build_bind {β : Type} (request : Request) (f : Request → Run β)
    (s : Surroundings) :
    ((build (.ok request) >>= f) s).dealings = (f request s).dealings := by
  have hbuilt : (build (.ok request) s).outcome = .returned request := rfl
  rw [bind_of_returned hbuilt]
  rfl

/-- A spec that needs no host leaves everything as it was. -/
theorem resolve_apply_of_local (session : Session) (hlocal : spec.request? = none)
    (s : Surroundings) :
    ∃ outcome, session.resolve spec s = ⟨outcome, [], s⟩ := by
  unfold resolve
  split
  · exact ⟨_, rfl⟩
  · cases hclassify : Descriptor.classify spec with
    | error fault =>
        rw [session.classify_of_error hclassify]
        exact ⟨_, rfl⟩
    | ok d =>
        obtain ⟨a, ha⟩ :=
          Descriptor.localAddress?_of_classify hclassify (Value.request?_eq_none_iff.mp hlocal)
        rw [session.classify_of_ok hclassify, bind_of_pure (ofExcept_ok _)]
        simp only [ha]
        exact ⟨_, rfl⟩

theorem resolve_of_request? (session : Session) (hrequest : spec.request? = some request) :
    ∃ d : Descriptor, d.request? = some request ∧
      session.resolve spec = session.resolveWithHost spec d := by
  have hsymbolic : spec.IsSymbolic := by
    by_contra hlocal
    cases hrequest.symm.trans (Value.request?_eq_none_iff.mpr hlocal)
  obtain ⟨text, rfl, hink, hhex⟩ := hsymbolic
  rw [Value.request?, if_pos hink] at hrequest
  exact ⟨_, hrequest, resolve_of_symbolic session hink hhex⟩

/-- **A spec that is looked up costs one evaluation.** -/
theorem dealings_resolve (session : Session) (hrequest : spec.request? = some request)
    (s : Surroundings) :
    (session.resolve spec s).dealings = session.errand request.program s := by
  obtain ⟨d, hd, hresolve⟩ := resolve_of_request? session hrequest
  rw [hresolve]
  unfold resolveWithHost
  rw [dealings_bind, locate_of_request? session hd, dealings_build_bind, dealings_bind,
    dealings_lookup]
  · exact fun host found => aside_ofExcept host _
  · intro host found
    cases found with
    | none =>
        simp only [Option.isNone_none, if_true]
        apply Obeys.bind (aside_note host _ _ _)
        intro _
        exact Obeys.bind (aside_emit host EventKind.noConfusion) fun _ => obeys_pure _
    | some address =>
        simp only [Option.isNone_some, if_false, Bool.false_eq_true]
        exact Obeys.bind (aside_emit host EventKind.noConfusion) fun _ => obeys_pure _

theorem dealings_attach (session : Session) (a : Address) (callbacks : Callbacks)
    (s : Surroundings) :
    (session.attach a callbacks s).dealings =
      session.errand (Program.installProgram a callbacks) s := by
  unfold attach
  rw [Program.installIntercept_eq, dealings_build_bind, dealings_bind, dealings_send]
  intro host response
  by_cases hok : (!response.ok) = true
  · simp only [hok, if_true]
    exact Obeys.bind (aside_ofExcept host _) fun _ => obeys_raise trivial
  · simp only [hok, if_false, Bool.false_eq_true]
    apply Obeys.bind (aside_note host _ _ _)
    intro _
    exact Obeys.bind (aside_emit host EventKind.noConfusion) fun _ => obeys_pure true

/-- Where nothing is refused, an errand makes the calls of its evaluation. -/
theorem calls_of_dealings {α : Type} {result : Result α} {program : String} {s : Surroundings}
    (hquiet : s.IsQuiet) (hdealings : result.dealings = session.errand program s) :
    result.journal.calls = (session.link.evaluate program s).journal.calls := by
  have hcalls := congrArg Dealings.calls hdealings
  rwa [errand, hquiet.refusal?] at hcalls

/-- An observer hears that the evaluation of an errand starts. -/
theorem starts_of_dealings {α : Type} {result : Result α} {program : String} {s : Surroundings}
    (hheard : s.observer.isSome = true) (hdealings : result.dealings = session.errand program s) :
    result.journal.eventsOf .evalStart = [.evalStart (cut program)] := by
  have hstarts := congrArg Dealings.starts hdealings
  rw [← Surroundings.events_told hheard]
  refine hstarts.trans ?_
  unfold errand
  cases s.refusal? (.evalStart (cut program)) <;> rfl

end Session

end HostLink
