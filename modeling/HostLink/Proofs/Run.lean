import HostLink.Run

/-!
# Runs

A run is made of smaller ones, one after the other. Here are the equations for a run whose first
part is known to return, to fail or to stall, the contracts that a run obeys when its parts do, and
the runs that take no notice of an observer.
-/

namespace HostLink

namespace Journal

/-- The calls of the host, in order. -/
def calls (journal : Journal) : List (Target × List Value) :=
  journal.filterMap fun
    | .call target args => some (target, args)
    | _ => none

/-- All that the observer heard, in order. -/
def events (journal : Journal) : List Event :=
  journal.filterMap fun
    | .event e => some e
    | _ => none

/-- The events of a kind that the observer heard, in order. -/
def eventsOf (kind : EventKind) (journal : Journal) : List Event :=
  journal.filterMap fun
    | .event e => if e.kind = kind then some e else none
    | _ => none

@[simp] theorem calls_nil : calls [] = [] :=
  rfl

@[simp] theorem calls_append (left right : Journal) :
    calls (left ++ right) = calls left ++ calls right :=
  List.filterMap_append

@[simp] theorem events_nil : events [] = [] :=
  rfl

@[simp] theorem events_append (left right : Journal) :
    events (left ++ right) = events left ++ events right :=
  List.filterMap_append

@[simp] theorem eventsOf_nil (kind : EventKind) : eventsOf kind [] = [] :=
  rfl

@[simp] theorem eventsOf_append (kind : EventKind) (left right : Journal) :
    eventsOf kind (left ++ right) = eventsOf kind left ++ eventsOf kind right :=
  List.filterMap_append

end Journal

/-! ### Kinds of entries -/

namespace Entry

def IsEvent : Entry → Prop
  | .event _ => True
  | _ => False

def IsEventOf (kind : EventKind) : Entry → Prop
  | .event e => e.kind = kind
  | _ => False

end Entry

namespace Journal

@[simp] theorem calls_note (channel : Channel) (level : Level) (message : Option (List Char)) :
    calls (message.map fun text => .note channel level (String.ofList text)).toList = [] := by
  cases message <;> rfl

@[simp] theorem events_note (channel : Channel) (level : Level) (message : Option (List Char)) :
    events (message.map fun text => .note channel level (String.ofList text)).toList = [] := by
  cases message <;> rfl

@[simp] theorem eventsOf_note (kind : EventKind) (channel : Channel) (level : Level)
    (message : Option (List Char)) :
    eventsOf kind (message.map fun text => .note channel level (String.ofList text)).toList =
      [] := by
  cases message <;> rfl

end Journal

theorem Journal.events_eq_nil {journal : Journal} (hnone : ∀ e ∈ journal, ¬e.IsEvent) :
    journal.events = [] := by
  refine List.filterMap_eq_nil_iff.mpr fun e hmem => ?_
  cases e with
  | call target args => rfl
  | event e => exact absurd trivial (hnone _ hmem)
  | note channel level message => rfl

theorem Journal.eventsOf_eq_nil {kind : EventKind} {journal : Journal}
    (hnone : ∀ e ∈ journal, ¬e.IsEventOf kind) : journal.eventsOf kind = [] := by
  refine List.filterMap_eq_nil_iff.mpr fun e hmem => ?_
  cases e with
  | call target args => rfl
  | event e => exact if_neg (hnone _ hmem)
  | note channel level message => rfl

/-! ### Quiet surroundings -/

namespace Surroundings

/-- No observer answers an event with a failure. -/
def IsQuiet (s : Surroundings) : Prop :=
  ∀ o, s.observer = some o → ∀ heard e, o.respond heard e = none

/-- The surroundings after an event that the observer heard. -/
def afterEvent (s : Surroundings) : Surroundings :=
  { s with observer := s.observer.map fun o => { o with heard := o.heard + 1 } }

/-- What is written of an event: it is, where there is an observer. -/
def told (s : Surroundings) (e : Event) : Journal :=
  if s.observer.isSome then [.event e] else []

theorem told_congr {s t : Surroundings} (hpresent : s.observer.isSome = t.observer.isSome) :
    s.told = t.told := by
  funext e
  rw [told, told, hpresent]

@[simp] theorem calls_told (s : Surroundings) (e : Event) : (s.told e).calls = [] := by
  unfold told
  by_cases hobserver : s.observer.isSome = true
  · rw [if_pos hobserver]
    rfl
  · rw [if_neg hobserver]
    rfl

theorem events_told {s : Surroundings} (hheard : s.observer.isSome = true) (e : Event) :
    (s.told e).events = [e] := by
  rw [told, if_pos hheard]
  rfl

@[simp] theorem isSome_afterEvent (s : Surroundings) :
    s.afterEvent.observer.isSome = s.observer.isSome :=
  Option.isSome_map

theorem IsQuiet.afterEvent {s : Surroundings} (hquiet : s.IsQuiet) : s.afterEvent.IsQuiet := by
  intro o ho heard e
  obtain ⟨o', ho', rfl⟩ := Option.map_eq_some_iff.mp ho
  exact hquiet o' ho' heard e

end Surroundings

namespace Run

variable {α β : Type} {x : Run α} {f : α → Run β} {s : Surroundings}

/-! ### One step after another -/

theorem bind_apply (x : Run α) (f : α → Run β) (s : Surroundings) :
    (x >>= f) s = match (x s).outcome with
      | .returned a => ⟨(f a (x s).surroundings).outcome,
          (x s).journal ++ (f a (x s).surroundings).journal,
          (f a (x s).surroundings).surroundings⟩
      | .raised fault => ⟨.raised fault, (x s).journal, (x s).surroundings⟩
      | .stalled => ⟨.stalled, (x s).journal, (x s).surroundings⟩ := by
  change Run.bind x f s = _
  unfold Run.bind
  generalize x s = result
  obtain ⟨outcome, journal, after⟩ := result
  cases outcome <;> rfl

theorem bind_of_returned {a : α} (hx : (x s).outcome = .returned a) :
    (x >>= f) s = ⟨(f a (x s).surroundings).outcome,
      (x s).journal ++ (f a (x s).surroundings).journal,
      (f a (x s).surroundings).surroundings⟩ := by
  rw [bind_apply, hx]

theorem bind_of_raised {fault : Fault} (hx : (x s).outcome = .raised fault) :
    (x >>= f) s = ⟨.raised fault, (x s).journal, (x s).surroundings⟩ := by
  rw [bind_apply, hx]

theorem bind_of_stalled (hx : (x s).outcome = .stalled) :
    (x >>= f) s = ⟨.stalled, (x s).journal, (x s).surroundings⟩ := by
  rw [bind_apply, hx]

theorem bind_of_pure {a : α} (hx : x s = ⟨.returned a, [], s⟩) : (x >>= f) s = f a s := by
  rw [bind_of_returned (a := a) (by rw [hx]), hx]
  rfl

theorem bind_pure (x : Run α) : (x >>= fun a => Pure.pure a) = x := by
  funext s
  rw [bind_apply]
  generalize x s = result
  obtain ⟨outcome, journal, after⟩ := result
  cases outcome with
  | returned a =>
      exact congrArg (fun j => Result.mk (.returned a) j after) (List.append_nil journal)
  | raised fault => rfl
  | stalled => rfl

@[simp] theorem pure_apply (a : α) : (Pure.pure a : Run α) s = ⟨.returned a, [], s⟩ :=
  rfl

@[simp] theorem raise_apply (fault : Fault) :
    (raise fault : Run α) s = ⟨.raised fault, [], s⟩ :=
  rfl

@[simp] theorem ofExcept_ok (a : α) : (ofExcept (.ok a) : Run α) s = ⟨.returned a, [], s⟩ :=
  rfl

@[simp] theorem ofExcept_error (fault : Fault) :
    (ofExcept (.error fault) : Run α) s = ⟨.raised fault, [], s⟩ :=
  rfl

theorem delayOf_apply (target : Target) (args : List Value) :
    delayOf target args s = ⟨.returned (s.host.delay target args), [], s⟩ :=
  rfl

theorem attempt_apply (x : Run α) (s : Surroundings) :
    attempt x s = ⟨match (x s).outcome with
      | .returned a => .returned (.ok a)
      | .raised fault => .returned (.error fault)
      | .stalled => .stalled, (x s).journal, (x s).surroundings⟩ := by
  unfold attempt
  generalize x s = result
  obtain ⟨outcome, journal, after⟩ := result
  cases outcome <;> rfl

theorem attempt_of_returned {a : α} (hx : (x s).outcome = .returned a) :
    attempt x s = ⟨.returned (.ok a), (x s).journal, (x s).surroundings⟩ := by
  rw [attempt_apply, hx]

theorem attempt_of_raised {fault : Fault} (hx : (x s).outcome = .raised fault) :
    attempt x s = ⟨.returned (.error fault), (x s).journal, (x s).surroundings⟩ := by
  rw [attempt_apply, hx]

theorem attempt_of_stalled (hx : (x s).outcome = .stalled) :
    attempt x s = ⟨.stalled, (x s).journal, (x s).surroundings⟩ := by
  rw [attempt_apply, hx]

theorem settle_apply (x : Run α) (s : Surroundings) :
    settle x s = ⟨.returned (match (x s).outcome with
      | .returned a => some (.ok a)
      | .raised fault => some (.error fault)
      | .stalled => none), (x s).journal, (x s).surroundings⟩ := by
  unfold settle
  generalize x s = result
  obtain ⟨outcome, journal, after⟩ := result
  cases outcome <;> rfl

theorem note_apply (channel : Channel) (level : Level) (message : Option (List Char)) :
    note channel level message s =
      ⟨.returned (),
        (message.map fun text => .note channel level (String.ofList text)).toList, s⟩ := by
  cases message <;> rfl

theorem emit_of_isQuiet (hquiet : s.IsQuiet) (e : Event) :
    emit e s = ⟨.returned (), s.told e, s.afterEvent⟩ := by
  obtain ⟨host, observer⟩ := s
  cases observer with
  | none => rfl
  | some o =>
      have hsilent := hquiet o rfl o.heard e
      simp only [emit, hsilent]
      rfl

theorem attempt_bind_of_returned {g : Except Fault α → Run β} {a : α}
    (hx : (x s).outcome = .returned a) :
    (attempt x >>= g) s = ⟨(g (.ok a) (x s).surroundings).outcome,
      (x s).journal ++ (g (.ok a) (x s).surroundings).journal,
      (g (.ok a) (x s).surroundings).surroundings⟩ := by
  rw [bind_of_returned (a := .ok a) (by rw [attempt_of_returned hx]), attempt_of_returned hx]

theorem attempt_bind_of_raised {g : Except Fault α → Run β} {fault : Fault}
    (hx : (x s).outcome = .raised fault) :
    (attempt x >>= g) s = ⟨(g (.error fault) (x s).surroundings).outcome,
      (x s).journal ++ (g (.error fault) (x s).surroundings).journal,
      (g (.error fault) (x s).surroundings).surroundings⟩ := by
  rw [bind_of_returned (a := .error fault) (by rw [attempt_of_raised hx]), attempt_of_raised hx]

theorem note_bind (channel : Channel) (level : Level) (message : Option (List Char))
    (g : Unit → Run β) :
    (note channel level message >>= g) s = ⟨(g () s).outcome,
      (message.map fun text => .note channel level (String.ofList text)).toList ++ (g () s).journal,
      (g () s).surroundings⟩ := by
  rw [bind_of_returned (a := ()) (by rw [note_apply]), note_apply]

theorem outcome_note_bind (channel : Channel) (level : Level) (message : Option (List Char))
    (g : Unit → Run β) : ((note channel level message >>= g) s).outcome = (g () s).outcome := by
  rw [note_bind]

theorem events_note_bind (channel : Channel) (level : Level) (message : Option (List Char))
    (g : Unit → Run β) :
    ((note channel level message >>= g) s).journal.events = (g () s).journal.events := by
  rw [note_bind]
  simp

theorem eventsOf_bind_of_returned {a : α} (hx : (x s).outcome = .returned a) (kind : EventKind) :
    ((x >>= f) s).journal.eventsOf kind =
      (x s).journal.eventsOf kind ++ (f a (x s).surroundings).journal.eventsOf kind := by
  rw [bind_of_returned hx]
  exact Journal.eventsOf_append ..

theorem emit_bind (hquiet : s.IsQuiet) (e : Event) (g : Unit → Run β) :
    (emit e >>= g) s = ⟨(g () s.afterEvent).outcome, s.told e ++ (g () s.afterEvent).journal,
      (g () s.afterEvent).surroundings⟩ := by
  rw [bind_of_returned (a := ()) (by rw [emit_of_isQuiet hquiet]), emit_of_isQuiet hquiet]

theorem messageOf_apply (fault : Fault) :
    messageOf fault s =
      ⟨match fault.message? with
        | some text => .returned (String.ofList text)
        | none => .raised .numberTooLong, [], s⟩ := by
  unfold messageOf
  cases fault.message? <;> rfl

theorem callHost_apply (target : Target) (args : List Value) :
    callHost target args s =
      ⟨match (s.host.call target args).1 with
        | .returns v => .returned v
        | .raises fault => .raised fault
        | .hangs => .stalled, [.call (s.host.settle target) args],
        { s with host := (s.host.call target args).2 }⟩ :=
  rfl

end Run

/-! ### Kinds of failures -/

/-- The run ended in a failure of the kind. -/
def Result.Raises {α : Type} (result : Result α) (kind : FaultKind) : Prop :=
  ∃ fault, result.outcome = .raised fault ∧ fault.kind = kind

theorem Result.raises_iff {α : Type} {result : Result α} {fault : Fault} {kind : FaultKind}
    (houtcome : result.outcome = .raised fault) : result.Raises kind ↔ fault.kind = kind := by
  constructor
  · rintro ⟨other, hother, hkind⟩
    obtain rfl : fault = other := Outcome.raised.inj (houtcome.symm.trans hother)
    exact hkind
  · exact fun hkind => ⟨fault, houtcome, hkind⟩

theorem Result.not_raises {α : Type} {result : Result α} {a : α} (kind : FaultKind)
    (houtcome : result.outcome = .returned a) : ¬result.Raises kind := by
  rintro ⟨fault, hfault, -⟩
  rw [houtcome] at hfault
  cases hfault

/-! ### Contracts -/

/-- What may come of a run that starts in surroundings with a property. -/
structure Contract where
  /-- Holds before the run, and again after it. -/
  inv : Surroundings → Prop := fun _ => True
  /-- The failures that the run may raise. -/
  fault : Fault → Prop := fun _ => True
  /-- Whether the run may stall. -/
  stalls : Prop := True
  /-- The entries that the run may write. -/
  entry : Entry → Prop := fun _ => True

namespace Contract

variable {α : Type}

def Allows (c : Contract) : Outcome α → Prop
  | .returned _ => True
  | .raised fault => c.fault fault
  | .stalled => c.stalls

structure Holds (c : Contract) (result : Result α) : Prop where
  outcome : c.Allows result.outcome
  journal : ∀ e ∈ result.journal, c.entry e
  surroundings : c.inv result.surroundings

end Contract

namespace Run

variable {α β : Type} {x : Run α} {f : α → Run β} {c : Contract}

def Obeys (c : Contract) (x : Run α) : Prop :=
  ∀ s, c.inv s → c.Holds (x s)

theorem obeys_pure (a : α) : Obeys c (Pure.pure a : Run α) :=
  fun _ hinv => ⟨trivial, by simp, hinv⟩

theorem obeys_raise {fault : Fault} (hfault : c.fault fault) : Obeys c (raise fault : Run α) :=
  fun _ hinv => ⟨hfault, by simp, hinv⟩

theorem obeys_ofExcept {r : Except Fault α} (hfault : ∀ fault, r = .error fault → c.fault fault) :
    Obeys c (ofExcept r) := by
  cases r with
  | ok a => exact obeys_pure a
  | error fault => exact obeys_raise (hfault fault rfl)

theorem Obeys.bind (hx : Obeys c x) (hf : ∀ a, Obeys c (f a)) : Obeys c (x >>= f) := by
  intro s hinv
  have hfirst := hx s hinv
  cases houtcome : (x s).outcome with
  | returned a =>
      have hsecond := hf a _ hfirst.surroundings
      rw [bind_of_returned houtcome]
      refine ⟨hsecond.outcome, ?_, hsecond.surroundings⟩
      intro e hmem
      rcases List.mem_append.mp hmem with hmem | hmem
      · exact hfirst.journal e hmem
      · exact hsecond.journal e hmem
  | raised fault =>
      rw [bind_of_raised houtcome]
      have hallows := hfirst.outcome
      rw [houtcome] at hallows
      exact ⟨hallows, hfirst.journal, hfirst.surroundings⟩
  | stalled =>
      rw [bind_of_stalled houtcome]
      have hallows := hfirst.outcome
      rw [houtcome] at hallows
      exact ⟨hallows, hfirst.journal, hfirst.surroundings⟩

theorem Obeys.attempt (hx : Obeys { c with fault := fun _ => True } x) :
    Obeys c (attempt x) := by
  intro s hinv
  have hfirst := hx s hinv
  cases houtcome : (x s).outcome with
  | returned a =>
      rw [attempt_of_returned houtcome]
      exact ⟨trivial, hfirst.journal, hfirst.surroundings⟩
  | raised fault =>
      rw [attempt_of_raised houtcome]
      exact ⟨trivial, hfirst.journal, hfirst.surroundings⟩
  | stalled =>
      rw [attempt_of_stalled houtcome]
      have hallows := hfirst.outcome
      rw [houtcome] at hallows
      exact ⟨hallows, hfirst.journal, hfirst.surroundings⟩

theorem obeys_note {channel : Channel} {level : Level} {message : Option (List Char)}
    (hentry : ∀ text, c.entry (.note channel level text)) :
    Obeys c (note channel level message) := by
  intro s hinv
  rw [note_apply]
  refine ⟨trivial, fun e hmem => ?_, hinv⟩
  obtain ⟨text, -, rfl⟩ := Option.map_eq_some_iff.mp (Option.mem_toList.mp hmem)
  exact hentry _

theorem obeys_messageOf {fault : Fault} (hfault : c.fault .numberTooLong) :
    Obeys c (messageOf fault) := by
  unfold messageOf
  cases fault.message? with
  | some text => exact obeys_pure _
  | none => exact obeys_raise hfault

theorem obeys_emit {e : Event} (hentry : c.entry (.event e)) (hfault : ∀ fault, c.fault fault)
    (hinv : ∀ s : Surroundings, c.inv s → c.inv s.afterEvent) : Obeys c (emit e) := by
  intro s hs
  have hafter := hinv s hs
  obtain ⟨host, observer⟩ := s
  cases observer with
  | none => exact ⟨trivial, by simp [emit], hs⟩
  | some o =>
      simp only [emit]
      cases o.respond o.heard e with
      | none => exact ⟨trivial, by simpa using hentry, hafter⟩
      | some fault => exact ⟨hfault fault, by simpa using hentry, hafter⟩

/-! ### Runs that take no notice of an observer -/

/-- Neither tells an observer anything nor looks at one. -/
def IgnoresObserver (x : Run α) : Prop :=
  ∀ host, ∃ outcome journal host', ∀ observer,
    x ⟨host, observer⟩ = ⟨outcome, journal, ⟨host', observer⟩⟩

theorem ignoresObserver_pure (a : α) : IgnoresObserver (Pure.pure a : Run α) :=
  fun host => ⟨_, _, host, fun _ => rfl⟩

theorem ignoresObserver_raise (fault : Fault) : IgnoresObserver (raise fault : Run α) :=
  fun host => ⟨_, _, host, fun _ => rfl⟩

theorem ignoresObserver_ofExcept (r : Except Fault α) : IgnoresObserver (ofExcept r) := by
  cases r with
  | ok a => exact ignoresObserver_pure a
  | error fault => exact ignoresObserver_raise fault

theorem ignoresObserver_note (channel : Channel) (level : Level) (message : Option (List Char)) :
    IgnoresObserver (note channel level message) :=
  fun host => ⟨_, _, host, fun _ => note_apply channel level message⟩

theorem ignoresObserver_messageOf (fault : Fault) : IgnoresObserver (messageOf fault) :=
  fun host => ⟨_, _, host, fun _ => messageOf_apply fault⟩

theorem IgnoresObserver.bind (hx : IgnoresObserver x) (hf : ∀ a, IgnoresObserver (f a)) :
    IgnoresObserver (x >>= f) := by
  intro host
  obtain ⟨outcome, journal, host', hfirst⟩ := hx host
  cases outcome with
  | returned a =>
      obtain ⟨outcome', journal', host'', hsecond⟩ := hf a host'
      refine ⟨outcome', journal ++ journal', host'', fun observer => ?_⟩
      rw [bind_of_returned (a := a) (by rw [hfirst]), hfirst, hsecond]
  | raised fault =>
      refine ⟨.raised fault, journal, host', fun observer => ?_⟩
      have hraised : (x ⟨host, observer⟩).outcome = .raised fault := by rw [hfirst]
      rw [bind_of_raised hraised, hfirst]
  | stalled =>
      refine ⟨.stalled, journal, host', fun observer => ?_⟩
      rw [bind_of_stalled (by rw [hfirst]), hfirst]

theorem IgnoresObserver.attempt (hx : IgnoresObserver x) : IgnoresObserver (attempt x) := by
  intro host
  obtain ⟨outcome, journal, host', hfirst⟩ := hx host
  refine ⟨(Run.attempt x ⟨host, none⟩).outcome, journal, host', fun observer => ?_⟩
  rw [attempt_apply, attempt_apply, hfirst, hfirst]

/-- With the same host, the run is the same for any observer, which it leaves as it was. -/
theorem IgnoresObserver.congr (hx : IgnoresObserver x) {s t : Surroundings}
    (hhost : s.host = t.host) :
    (x s).outcome = (x t).outcome ∧ (x s).journal = (x t).journal ∧
      (x s).surroundings.observer = s.observer := by
  obtain ⟨host, observer⟩ := s
  obtain ⟨host', observer'⟩ := t
  obtain rfl : host = host' := hhost
  obtain ⟨outcome, journal, after, hrun⟩ := hx host
  rw [hrun, hrun]
  exact ⟨rfl, rfl, rfl⟩

end Run

end HostLink
