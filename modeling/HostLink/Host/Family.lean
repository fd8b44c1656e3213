import HostLink.Host.Member

/-!
Kinds of objects that are no values: a host has them by name, to be called and asked for members.
-/

namespace HostLink

structure Family where
  name : String
  /-- Makes an object of the family. -/
  make : List Value → Except Fault Value
  /-- The members beyond those of all kinds. -/
  members : List String := []
  /-- Those of the members of all kinds that the family has in a form of its own. -/
  reshaped : List String := []
  /-- Those of the members of all kinds that the family lacks. -/
  lacking : List String := []
  /-- Makes an object of the next wider family. -/
  widen : List Value → Except Fault Value := fun _ => .error .wrongKind

namespace Family

def shown (f : Family) : Value :=
  .sealed ("<class '" ++ f.name ++ "'>")

def hasMember (f : Family) (name : String) : Bool :=
  (Kind.sharedNames.contains name || Kind.metaNames.contains name || f.members.contains name) &&
    !f.lacking.contains name

/-- Calls a member; the widest family holds every value. -/
def callMember (f : Family) (name : String) (args : List Value) : Except Fault Value :=
  match name, args with
  | "__call__", args => f.make args
  | "__base__", args => f.widen args
  | "__class__", [v] => .ok v.kind.shown
  | "__instancecheck__", [_] => .ok (.bool (f.name == "object"))
  | "__prepare__", _ => .ok (.record [])
  | "__class_getitem__", [.text s] =>
    if f.members.contains name then (Member.ofItems f.name s).getD (.error .wrongKind)
    else .error .wrongKind
  | name, args =>
    if f.members.contains name || f.reshaped.contains name then .error .wrongKind
    else if (name == "__or__" || name == "__ror__") && args.length == 1 then .ok Member.undecided
    else Member.inherited name args

end Family

end HostLink
