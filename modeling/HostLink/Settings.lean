import HostLink.Number.Shortest

/-!
The names under which a host's entry points are looked for, and how long one call may take.
-/

namespace HostLink

inductive Timeout where
  | whole (n : Int)
  | seconds (x : Double)
  deriving DecidableEq, Repr

namespace Timeout

def text : Timeout → List Char
  | .whole n => Text.decimalInt n
  | .seconds x => x.text

def isNegative : Timeout → Bool
  | .whole n => n < 0
  | .seconds x => x.isNegative

/-- The nanoseconds of a second. -/
def second : Nat := Nat.pow 10 9

/-- No clock counts this many nanoseconds. -/
def clockRange : Nat := Nat.pow 2 63

/-- How a limit is too long to be waited for. -/
inductive Excess where
  /-- It is beyond what a clock counts, so that no wait can be begun: only what is there already is
  taken. -/
  | beyondClock
  /-- It is a whole number beyond all doubles, of which no time is made: nothing is taken. -/
  | beyondDouble
  deriving DecidableEq, Repr

/-- How a wait for an answer that never comes ends. -/
inductive Ending where
  | passes
  /-- A limit that is no number is never reached. -/
  | endless
  | exceeds (excess : Excess)
  deriving DecidableEq, Repr

def endingAt (nanoseconds : Int) : Ending :=
  if clockRange ≤ nanoseconds then .exceeds .beyondClock else .passes

def ending : Timeout → Ending
  | .whole n =>
    match Double.ofInt n with
    | .finite .. => endingAt (n * second)
    | _ => .exceeds .beyondDouble
  | .seconds .nan => .endless
  | .seconds (.infinite _) => .exceeds .beyondClock
  | .seconds (.finite negative significand exponent) =>
    endingAt (Double.truncate negative (significand * second) exponent)

/-- Whether what comes after so many nanoseconds comes within the limit. -/
def covers (delay : Nat) : Timeout → Bool
  | .whole n => delay ≤ n * second
  | .seconds .nan => true
  | .seconds (.infinite negative) => !negative
  | .seconds (.finite negative significand exponent) =>
    delay ≤ Double.truncate negative (significand * second) exponent

end Timeout

structure Settings where
  hostObject : String := "h5gg"
  nativeCall : String := "callNative"
  evalMethod : String := "eval"
  evalSelector : String := "frida_eval"
  fallbackSelector : String := "frida_exec"
  globalEvaluators : List String := ["frida_eval", "frida_exec"]
  /-- Nothing means that a call is waited for without end. -/
  timeout : Option Timeout := none
  deriving DecidableEq, Repr

namespace Settings

def memberLabel (object member : String) : String :=
  object ++ "." ++ member

def entryPointNames (s : Settings) : List String :=
  memberLabel s.hostObject s.nativeCall :: memberLabel s.hostObject s.evalMethod ::
    s.globalEvaluators

end Settings

end HostLink
