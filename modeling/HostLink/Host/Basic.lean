import HostLink.Host.Builtin

/-!
The host as far as this library sees it: the names in it, and calls of the functions among them.
-/

namespace HostLink

/-- Names given by the caller, or those around the program: built in ones and, before them, its own. -/
inductive Environment where
  | given (names : Names)
  | ambient (builtin main : Names)

namespace Environment

/-- The names around a program; `machine` has the built in functions that depend on where it runs. -/
def around (machine builtin main : Names) : Environment :=
  .ambient ((Names.builtin machine).overlay builtin) ((Names.ownBuiltin machine).overlay main)

def lookup (name : String) : Environment → Option Item
  | .given names => names.lookup name
  | .ambient builtin main => (main.lookup name).or (builtin.lookup name)

def set (name : String) (item : Item) : Environment → Environment
  | .given names => .given (names.set name item)
  | .ambient builtin main => .ambient builtin (main.set name item)

def erase (name : String) : Environment → Environment
  | .given names => .given (names.erase name)
  | .ambient builtin main =>
    if main.has name then .ambient builtin (main.erase name)
    else .ambient (builtin.erase name) main

def update (name : String) (change : Item → Item) : Environment → Environment
  | .given names => .given (names.update name change)
  | .ambient builtin main =>
    if main.has name then .ambient builtin (main.update name change)
    else .ambient (builtin.update name change) main

/-- What a name stands for; one that nothing is known of stands for the absent value. -/
def item (name : String) (environment : Environment) : Item :=
  (environment.lookup name).getD (.plain .null)

end Environment

inductive Target where
  /-- The function that the caller handed over. -/
  | direct
  | global (name : String)
  | member (object name : String)
  deriving DecidableEq, Repr

structure Host where
  environment : Environment
  direct : Option Function := none

namespace Host

/-- A function has itself as the member by which it is called. -/
def settle (host : Host) (target : Target) : Target :=
  match target with
  | .member object name =>
    match host.environment.item object with
    | .function _ => if name = Item.callName then .global object else target
    | _ => target
  | _ => target

def settledFunction? (host : Host) : Target → Option Function
  | .direct => host.direct
  | .global name => (host.environment.item name).function?
  | .member object name => (host.environment.item object).memberFunction? name

def function? (host : Host) (target : Target) : Option Function :=
  host.settledFunction? (host.settle target)

def isBuiltin (host : Host) (target : Target) : Bool :=
  (host.function? target).any (·.builtin)

def afterCall (host : Host) (args : List Value) : Target → Host
  | .direct => { host with direct := host.direct.map Function.countCall }
  | .global name => { host with environment := host.environment.update name Item.afterCall }
  | .member object name =>
    { host with environment := host.environment.update object (Item.afterMemberCall name args) }

def call (host : Host) (target : Target) (args : List Value) : Reply × Host :=
  match host.function? target with
  | some f => (f.respond f.calls args, host.afterCall args (host.settle target))
  | none => (.raises .notCallable, host)

/-- How long the answer to a call takes. -/
def delay (host : Host) (target : Target) (args : List Value) : Nat :=
  match host.function? target with
  | some f => f.delay f.calls args
  | none => 0

end Host

end HostLink
