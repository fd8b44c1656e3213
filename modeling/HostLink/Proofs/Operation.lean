import HostLink.Proofs.Composed
import HostLink.Proofs.Events

/-!
# Operations

What a session is asked to do, as data. An operation leaves the observer quiet and the host as calls
have left it, and it stalls only where a call of the host may.
-/

namespace HostLink

namespace Session

open Run

variable {session : Session} {s : Surroundings} {spec : Value}

/-! ### Installing -/

theorem install_of_refused {v : Value} {fault : Fault} (hrefused : Callbacks.coerce v = .error fault)
    (spec : Value) (s : Surroundings) : session.install spec v s = ⟨.raised fault, [], s⟩ := by
  unfold install
  rw [hrefused]
  rfl

variable {v : Value} {callbacks : Callbacks}

/-- At a spec that was resolved, what is heard of an installation is heard of the attachment. -/
theorem install_of_resolved {address : Address} (hcallbacks : Callbacks.coerce v = .ok callbacks)
    (hresolved : (session.resolve spec s).outcome = .returned address) :
    (session.install spec v s).outcome =
        (session.attach address callbacks (session.resolve spec s).surroundings).outcome ∧
      (session.install spec v s).journal.events = (session.resolve spec s).journal.events ++
        (session.attach address callbacks (session.resolve spec s).surroundings).journal.events := by
  unfold install
  rw [hcallbacks, bind_of_pure (ofExcept_ok callbacks), bind_of_returned hresolved]
  by_cases hzero : address.isZero = true
  · simp only [hzero, if_true]
    rw [outcome_note_bind, Journal.events_append, events_note_bind]
    exact ⟨rfl, rfl⟩
  · simp only [hzero, if_false, Bool.false_eq_true, Journal.events_append, and_self]

theorem install_of_unresolved (hcallbacks : Callbacks.coerce v = .ok callbacks)
    (hfailed : ∀ a, (session.resolve spec s).outcome ≠ .returned a) :
    (∀ done, (session.install spec v s).outcome ≠ .returned done) ∧
      (session.install spec v s).journal.events = (session.resolve spec s).journal.events := by
  unfold install
  rw [hcallbacks, bind_of_pure (ofExcept_ok callbacks)]
  cases houtcome : (session.resolve spec s).outcome with
  | returned a => exact absurd houtcome (hfailed a)
  | raised fault =>
      rw [bind_of_raised houtcome]
      exact ⟨fun done => by simp, rfl⟩
  | stalled =>
      rw [bind_of_stalled houtcome]
      exact ⟨fun done => by simp, rfl⟩

end Session

/-! ### Operations as data -/

/-- What a session is asked to do. -/
inductive Operation where
  | resolve (spec : Value)
  | install (spec callbacks : Value)
  | scan (moduleName pattern : String)
  | evaluate (program : String)

/-- Text in specs is well formed. -/
def Operation.IsWhole : Operation → Prop
  | .resolve spec | .install spec _ => ∀ ps, spec ≠ .ragged ps
  | _ => True

/-- A run for what it does; what it gives back is left out. -/
def Run.void {α : Type} (x : Run α) : Run Unit := do
  let _ ← x
  pure ()

namespace Session

def perform (session : Session) : Operation → Run Unit
  | .resolve spec => Run.void (session.resolve spec)
  | .install spec callbacks => Run.void (session.install spec callbacks)
  | .scan moduleName pattern => Run.void (session.scan (.text moduleName) (.text pattern))
  | .evaluate program => Run.void (session.evaluate program)

/-- What an operation gives back. -/
inductive Product where
  | address (a : Address)
  | installed (done : Bool)
  | found (addresses : List Address)
  | text (s : String)

def produce (session : Session) : Operation → Run Product
  | .resolve spec => do
    let a ← session.resolve spec
    pure (.address a)
  | .install spec callbacks => do
    let done ← session.install spec callbacks
    pure (.installed done)
  | .scan moduleName pattern => do
    let addresses ← session.scan (.text moduleName) (.text pattern)
    pure (.found addresses)
  | .evaluate program => do
    let s ← session.evaluate program
    pure (.text s)

/-- What operations give back, one after another, whatever becomes of each. -/
def produceAll (session : Session) : List Operation → Run (List (Except Fault Product))
  | [] => pure []
  | operation :: rest => do
    let answer ← Run.attempt (session.produce operation)
    let answers ← session.produceAll rest
    pure (answer :: answers)

open Run

theorem events_void {α : Type} (x : Run α) (s : Surroundings) :
    (void x s).journal.events = (x s).journal.events :=
  events_bind (fun _ => obeys_pure ()) s

variable {session : Session}

theorem composed_perform (session : Session) (operation : Operation) :
    session.Composed (session.perform operation) := by
  cases operation with
  | resolve spec => exact .bind (session.composed_resolve spec) fun _ => .pure ()
  | install spec callbacks =>
      exact .bind (session.composed_install spec callbacks) fun _ => .pure ()
  | scan moduleName pattern =>
      exact .bind (session.composed_scan (.text moduleName) (.text pattern)) fun _ => .pure ()
  | evaluate program => exact .bind (session.composed_evaluate program) fun _ => .pure ()

theorem composed_produce (session : Session) (operation : Operation) :
    session.Composed (session.produce operation) := by
  cases operation with
  | resolve spec => exact .bind (session.composed_resolve spec) fun _ => .pure _
  | install spec callbacks => exact .bind (session.composed_install spec callbacks) fun _ => .pure _
  | scan moduleName pattern =>
      exact .bind (session.composed_scan (.text moduleName) (.text pattern)) fun _ => .pure _
  | evaluate program => exact .bind (session.composed_evaluate program) fun _ => .pure _

theorem composed_produceAll (session : Session) (operations : List Operation) :
    session.Composed (session.produceAll operations) := by
  induction operations with
  | nil => exact .pure []
  | cons operation rest ih =>
      apply Composed.bind (.attempt (session.composed_produce operation))
      intro answer
      exact .bind ih fun answers => .pure (answer :: answers)

/-- The observer stays, quiet as it is, and the host is as calls have left it. -/
def runContract (origin : Surroundings) (stalls : Prop) : Contract where
  inv s := s.IsQuiet ∧ s.observer.isSome = origin.observer.isSome ∧ origin.host.Leads s.host
  stalls := stalls

theorem suits_runContract {origin : Surroundings} {stalls : Prop}
    (hends : stalls ∨ Link.EndsWaits session.link.settings.timeout ∨ origin.host.Answers) :
    session.Suits (runContract origin stalls) where
  link := by
    refine ⟨fun s target args hinv => ?_, fun _ _ => trivial, ?_, fun _ _ => trivial,
      fun _ _ _ => trivial⟩
    · exact ⟨hinv.1, hinv.2.1, hinv.2.2.call target args⟩
    · refine hends.imp id fun hends => hends.imp id fun hanswers s hinv => ?_
      exact hanswers.of_leads hinv.2.2
  fault _ := trivial
  inv_event s hinv := ⟨hinv.1.afterEvent, (s.isSome_afterEvent).trans hinv.2.1, hinv.2.2⟩
  event _ _ := trivial

end Session

end HostLink
