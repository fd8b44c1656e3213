import HostLink.Host.Family

/-!
What names of the host stand for: functions that answer by how often they were called and with what,
objects with members, kinds of values, and plain values.
-/

namespace HostLink

inductive Reply where
  | returns (v : Value)
  | raises (fault : Fault)
  /-- The call never comes back. -/
  | hangs

def Reply.ofExcept : Except Fault Value → Reply
  | .ok v => .returns v
  | .error fault => .raises fault

structure Function where
  /-- The answer to a call, given how many calls went before and the arguments. -/
  respond : Nat → List Value → Reply
  /-- The nanoseconds until the answer is there; without any, it is there before it is waited for. -/
  delay : Nat → List Value → Nat := fun _ _ => 0
  calls : Nat := 0
  /-- Whether every host has the function, so that calling it tells nothing about this one. -/
  builtin : Bool := false

namespace Function

def countCall (f : Function) : Function :=
  { f with calls := f.calls + 1 }

def ofAnswer (answer : List Value → Except Fault Value) : Function where
  respond _ args := .ofExcept (answer args)
  builtin := true

end Function

inductive Item where
  | function (f : Function)
  | object (members : List (String × Item))
  /-- A kind of values, which makes them when it is called. -/
  | kind (k : Kind)
  /-- A kind of objects that are no values. -/
  | family (f : Family)
  | plain (v : Value)

abbrev Names := List (String × Item)

namespace Names

def set (name : String) (item : Item) : Names → Names
  | [] => [(name, item)]
  | (n, i) :: rest => if n = name then (n, item) :: rest else (n, i) :: set name item rest

def erase (name : String) (names : Names) : Names :=
  names.filter fun entry => entry.1 ≠ name

def has (name : String) (names : Names) : Bool :=
  (names.lookup name).isSome

def update (name : String) (change : Item → Item) (names : Names) : Names :=
  match names.lookup name with
  | some item => set name (change item) names
  | none => names

/-- The names of both; of a name in both the later one counts. -/
def overlay (names later : Names) : Names :=
  later.foldl (fun known entry => set entry.1 entry.2 known) names

end Names

namespace Item

def function? : Item → Option Function
  | .function f => some f
  | .kind k => some (.ofAnswer k.make)
  | .family f => some (.ofAnswer f.make)
  | _ => none

def callName : String := "__call__"

/-- Members that a function has and that any value has, answered without looking at the function. -/
def ofFunctionMember (builtin : Bool) (name : String) (args : List Value) : Except Fault Value :=
  match name, args with
  | "__setattr__", [.text _, _] => if builtin then .error .notText else .ok .null
  | name, args => (Value.null.callMember name args).answer

def memberFunction? (name : String) : Item → Option Function
  | .object members =>
    match members.lookup name with
    | some member => member.function?
    | none =>
      if Kind.sealed.hasMember name then
        some (.ofAnswer fun args => ((Value.sealed "").callMember name args).answer)
      else none
  | .function f =>
    if name = callName then some f
    else if Kind.sharedNames.contains name || (name == "__get__" && !f.builtin) then
      some (.ofAnswer (ofFunctionMember f.builtin name))
    else none
  | .kind k => if k.hasKindMember name then some (.ofAnswer (k.callMember name)) else none
  | .family f => if f.hasMember name then some (.ofAnswer (f.callMember name)) else none
  | .plain v =>
    if v.kind.hasMember name then some (.ofAnswer fun args => (v.callMember name args).answer)
    else none

def afterCall : Item → Item
  | .function f => .function f.countCall
  | item => item

/-- The item after a call of a member of it, which may change a value. -/
def afterMemberCall (name : String) (args : List Value) : Item → Item
  | .object members => .object (Names.update name afterCall members)
  | .plain v => .plain (v.callMember name args).after
  | item => item

end Item

end HostLink
