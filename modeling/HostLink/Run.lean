import HostLink.Host.Basic

/-!
Operations that call the host, tell an observer and keep notes. A run takes the surroundings and
gives an outcome, the journal of what it did, in order, and the surroundings afterwards.
-/

namespace HostLink

inductive EventKind where
  | evalStart
  | evalEnd
  | resolved
  | interceptInstalled
  | scanComplete
  deriving DecidableEq, Repr

/-- What an observer is told. How long it took is left out, as no clock is modelled. -/
inductive Event where
  | evalStart (program : String)
  | evalEnd (program result : String) (succeeded : Bool)
  | resolved (spec : Value) (address : Address) (succeeded : Bool)
  | interceptInstalled (address : Address) (onEnter onLeave : Bool)
  | scanComplete (moduleName pattern : Value) (count : Nat)

def Event.kind : Event → EventKind
  | .evalStart _ => .evalStart
  | .evalEnd .. => .evalEnd
  | .resolved .. => .resolved
  | .interceptInstalled .. => .interceptInstalled
  | .scanComplete .. => .scanComplete

inductive Channel where
  | evaluator
  | decoder
  | requests
  | executor
  | resolver
  | installer
  | scanner
  deriving DecidableEq, Repr

inductive Level where
  | debug
  | info
  | warning
  deriving DecidableEq, Repr

inductive Entry where
  | call (target : Target) (args : List Value)
  | event (e : Event)
  | note (channel : Channel) (level : Level) (message : String)

abbrev Journal := List Entry

/-- Hears every event, and may answer one with a failure. -/
structure Observer where
  /-- The answer to an event, given how many were heard before. -/
  respond : Nat → Event → Option Fault
  heard : Nat := 0

namespace Observer

def silent : Observer where
  respond _ _ := none

def failingAt (n : Nat) (fault : Fault) : Observer where
  respond heard _ := if heard + 1 = n then some fault else none

def failingOn (kind : EventKind) (fault : Fault) : Observer where
  respond _ e := if e.kind = kind then some fault else none

end Observer

structure Surroundings where
  host : Host
  observer : Option Observer := none

inductive Outcome (α : Type) where
  | returned (a : α)
  | raised (fault : Fault)
  /-- A call of the host never came back, and nothing limits the wait. -/
  | stalled

structure Result (α : Type) where
  outcome : Outcome α
  journal : Journal
  surroundings : Surroundings

def Run (α : Type) : Type :=
  Surroundings → Result α

namespace Run

def pure {α : Type} (a : α) : Run α :=
  fun s => ⟨.returned a, [], s⟩

/-- Goes on after a run that returned; the journals follow each other. -/
def bind {α β : Type} (x : Run α) (f : α → Run β) : Run β := fun s =>
  match x s with
  | ⟨.returned a, journal, s⟩ =>
    let next := f a s
    ⟨next.outcome, journal ++ next.journal, next.surroundings⟩
  | ⟨.raised fault, journal, s⟩ => ⟨.raised fault, journal, s⟩
  | ⟨.stalled, journal, s⟩ => ⟨.stalled, journal, s⟩

instance : Monad Run where
  pure := Run.pure
  bind := Run.bind

def raise {α : Type} (fault : Fault) : Run α :=
  fun s => ⟨.raised fault, [], s⟩

def ofExcept {α : Type} : Except Fault α → Run α
  | .ok a => Run.pure a
  | .error fault => raise fault

def ofOutcome {α : Type} (outcome : Outcome α) : Run α :=
  fun s => ⟨outcome, [], s⟩

/-- A failure becomes a value; a stalled run stays stalled. -/
def attempt {α : Type} (x : Run α) : Run (Except Fault α) := fun s =>
  match x s with
  | ⟨.returned a, journal, s⟩ => ⟨.returned (.ok a), journal, s⟩
  | ⟨.raised fault, journal, s⟩ => ⟨.returned (.error fault), journal, s⟩
  | ⟨.stalled, journal, s⟩ => ⟨.stalled, journal, s⟩

/-- Waits for as long as it takes for a slot to be filled: it stays empty when the run stalls. -/
def settle {α : Type} (x : Run α) : Run (Option (Except Fault α)) := fun s =>
  match x s with
  | ⟨.returned a, journal, s⟩ => ⟨.returned (some (.ok a)), journal, s⟩
  | ⟨.raised fault, journal, s⟩ => ⟨.returned (some (.error fault)), journal, s⟩
  | ⟨.stalled, journal, s⟩ => ⟨.returned none, journal, s⟩

def surroundings : Run Surroundings :=
  fun s => ⟨.returned s, [], s⟩

def changeHost (change : Host → Host) : Run Unit :=
  fun s => ⟨.returned (), [], { s with host := change s.host }⟩

/-- A note without text, because a value in it has none, is not written. -/
def note (channel : Channel) (level : Level) (message : Option (List Char)) : Run Unit := fun s =>
  match message with
  | some text => ⟨.returned (), [.note channel level (String.ofList text)], s⟩
  | none => ⟨.returned (), [], s⟩

/-- Tells the observer, if there is one. The event is heard even when the answer is a failure. -/
def emit (e : Event) : Run Unit := fun s =>
  match s.observer with
  | none => ⟨.returned (), [], s⟩
  | some o =>
    let heard : Surroundings := { s with observer := some { o with heard := o.heard + 1 } }
    match o.respond o.heard e with
    | none => ⟨.returned (), [.event e], heard⟩
    | some fault => ⟨.raised fault, [.event e], heard⟩

def callHost (target : Target) (args : List Value) : Run Value := fun s =>
  let (reply, host) := s.host.call target args
  let outcome := match reply with
    | .returns v => .returned v
    | .raises fault => .raised fault
    | .hangs => .stalled
  ⟨outcome, [.call (s.host.settle target) args], { s with host := host }⟩

/-- How long a call takes that is made now. -/
def delayOf (target : Target) (args : List Value) : Run Nat :=
  fun s => ⟨.returned (s.host.delay target args), [], s⟩

def messageOf (fault : Fault) : Run String :=
  match fault.message? with
  | some text => Run.pure (String.ofList text)
  | none => raise .numberTooLong

end Run

end HostLink
