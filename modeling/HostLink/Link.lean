import HostLink.Callbacks
import HostLink.Run
import HostLink.Text.Utf8
import HostLink.Value.Nesting

/-!
The link to a host. Probes find the entry points that the host has at the moment; a program is run
by the first of them that answers. An entry point that fails hands over to the next, unless its
failure is itself a failed evaluation; one that does not answer in time ends the evaluation. A wait
that goes wrong by its own limit is taken for a failure of the entry point.
-/

namespace HostLink

structure Candidate where
  label : String
  target : Target
  /-- Arguments that go before the program. -/
  leading : List Value := []

inductive Probe where
  /-- A native call of an object, which is told by a selector what to do. -/
  | nativeCall (object member : String) (selector : Value)
  | hostMethod (object member : String)
  | globalFunction (name : String)
  /-- The function that the caller handed over, whatever the host has. -/
  | handedOver (label : String)

namespace Probe

def candidate : Probe → Candidate
  | .nativeCall object member selector =>
    ⟨Settings.memberLabel object member, .member object member, [selector]⟩
  | .hostMethod object member => ⟨Settings.memberLabel object member, .member object member, []⟩
  | .globalFunction name => ⟨name, .global name, []⟩
  | .handedOver label => ⟨label, .direct, []⟩

def find? (p : Probe) (host : Host) : Option Candidate :=
  match host.function? p.candidate.target with
  | some _ => some p.candidate
  | none => none

end Probe

/-- The probes in the order of trial; another selector of the native call is the last resort. -/
def Settings.probesWith (s : Settings) (selector fallback : Value) : List Probe :=
  .nativeCall s.hostObject s.nativeCall selector :: .hostMethod s.hostObject s.evalMethod ::
    s.globalEvaluators.map Probe.globalFunction ++ [.nativeCall s.hostObject s.nativeCall fallback]

def Settings.probes (s : Settings) : List Probe :=
  s.probesWith (.text s.evalSelector) (.text s.fallbackSelector)

/-- What a host returned, as text: nothing is empty text, and bytes are UTF-8. -/
def Value.asText : Value → Except Fault String
  | .null => .ok ""
  | .bytes bs | .buffer bs => .ok (String.ofList (Text.Utf8.decodeLossy bs))
  | v => v.toText

/-- The text of what a host returned, if there are so many levels of the stack to show it. -/
def Value.asTextWithin (levels : Nat) (v : Value) : Except Fault String :=
  match v.hindrance? levels with
  | some fault => .error fault
  | none => v.asText

namespace Candidate

/-- All that an entry point is called with. -/
def arguments (c : Candidate) (program : String) : List Value :=
  c.leading ++ [.text program]

def call (c : Candidate) (program : String) : Run Value :=
  Run.callHost c.target (c.arguments program)

/-- What is handed on of a slot that may be empty. -/
def handedOn (otherwise : Outcome Value) : Option (Except Fault Value) → Outcome Value
  | some (.ok v) => .returned v
  | some (.error fault) => .raised fault
  | none => otherwise

/--
What a wait comes to, for an answer that is in the slot after a delay; without one it never is. A
limit below zero, or beyond all doubles, is no limit, whatever the answer. Under a limit that no
clock counts, an answer is taken only if it is there before the wait.
-/
def awaited (limit : Timeout) (label : String) (delay : Nat) (slot : Option (Except Fault Value)) :
    Outcome Value :=
  if limit.isNegative then .raised .negativeTimeout
  else
    match limit.ending with
    | .passes => handedOn (.raised (.timedOut label limit)) (slot.filter fun _ => limit.covers delay)
    | .endless => handedOn .stalled slot
    | .exceeds .beyondClock =>
      handedOn (.raised (.badTimeout .beyondClock)) (slot.filter fun _ => delay == 0)
    | .exceeds .beyondDouble => .raised (.badTimeout .beyondDouble)

/-- Calls and waits for the answer, at most as long as the limit says. -/
def callWithin (limit : Option Timeout) (c : Candidate) (program : String) : Run Value :=
  match limit with
  | none => c.call program
  | some t => do
    let delay ← Run.delayOf c.target (c.arguments program)
    let slot ← Run.settle (c.call program)
    Run.ofOutcome (awaited t c.label delay slot)

end Candidate

structure Link where
  settings : Settings
  probes : List Probe
  /--
  How many values may lie within each other, below the outermost one, before the stack is exhausted.
  What the stack holds already counts against it, which differs little from one place to another; the
  same is taken for all of them.
  -/
  room : Nat := 900

namespace Link

/-- The levels of the stack that are left for reading or showing a value. -/
def levels (link : Link) : Nat :=
  link.room + 1

def ofSettings (s : Settings) : Link where
  settings := s
  probes := s.probes

def handedOver (label : String) (s : Settings) : Link where
  settings := s
  probes := [.handedOver label]

def candidatesIn (link : Link) (host : Host) : List Candidate :=
  link.probes.filterMap (·.find? host)

def candidates (link : Link) : Run (List Candidate) := do
  let s ← Run.surroundings
  pure (link.candidatesIn s.host)

def name (link : Link) : Run (Option String) := do
  let found ← link.candidates
  pure (found.head?.map (·.label))

def allFailed (last : Fault) : Run Value := do
  let _ ← Run.messageOf (.allFailed last)
  Run.raise (.allFailed last)

/-- Tries candidates in turn; `last` is how the one before them failed. -/
def firstAnswer (limit : Option Timeout) (program : String) (last : Fault) :
    List Candidate → Run Value
  | [] => allFailed last
  | c :: rest => do
    let answer ← Run.attempt (c.callWithin limit program)
    match answer with
    | .ok v => pure v
    | .error fault =>
      if fault.kind = .evaluationFailed then Run.raise fault
      else do
        Run.note .evaluator .debug (fault.message?.map fun text =>
          "Host entry point ".toList ++ c.label.toList ++ " failed: ".toList ++ text)
        firstAnswer limit program fault rest

/-- Runs a program in the host and gives back the text of the result. -/
def evaluate (link : Link) (program : String) : Run String := do
  let found ← link.candidates
  let missing := Fault.noEntryPoint link.settings.entryPointNames
  if found.isEmpty then Run.raise missing
  else do
    let answer ← firstAnswer link.settings.timeout program missing found
    Run.ofExcept (answer.asTextWithin link.levels)

end Link

end HostLink
