import HostLink.Host.Member.Collection
import HostLink.Host.Member.Name

/-!
Calls of the members that values have: what they answer, and what the value is afterwards.
-/

namespace HostLink

namespace Member

def comparison? (name : String) : Option (String → String → Bool) :=
  match name with
  | "__eq__" => some (· == ·)
  | "__ne__" => some (· != ·)
  | "__lt__" => some fun s t => decide (s < t)
  | "__le__" => some fun s t => decide (s ≤ t)
  | "__gt__" => some fun s t => decide (t < s)
  | "__ge__" => some fun s t => decide (t ≤ s)
  | _ => none

/-- Text compares with text; no value but a text knows how it compares with one. -/
def compared (compare : String → String → Bool) (self other : Value) : Value :=
  match self, other with
  | .text s, .text t => .bool (compare s t)
  | _, _ => undecided

def isFixed : Kind → Bool
  | .null | .bool | .int | .float | .text | .bytes | .group | .decimal | .fraction => true
  | _ => false

def attribute? (self : Value) (name : String) : Option Value :=
  match self, name with
  | .address a, "address" | .address a, "_address" => some (.int a.toNat)
  | .callbacks c, "on_enter" => some (.ofOption c.onEnter)
  | .callbacks c, "on_leave" => some (.ofOption c.onLeave)
  | .int n, "real" | .int n, "numerator" => some (.int n)
  | .int _, "imag" => some (.int 0)
  | .int _, "denominator" => some (.int 1)
  | .bool b, "real" | .bool b, "numerator" => some (.int (if b then 1 else 0))
  | .bool _, "imag" => some (.int 0)
  | .bool _, "denominator" => some (.int 1)
  | .float x, "real" => some (.float x)
  | .float _, "imag" => some (.float (.zero false))
  | .decimal d, "real" => some (.decimal d)
  | .decimal _, "imag" => some (.decimal (.finite false 0 0))
  | .fraction num den, "real" => some (.fraction num den)
  | .fraction _ _, "imag" => some (.int 0)
  | .fraction num _, "numerator" | .fraction num _, "_numerator" => some (.int num)
  | .fraction _ den, "denominator" | .fraction _ den, "_denominator" => some (.int den)
  | .null, "__doc__" => some .null
  | _, _ => none

def shared (self : Value) (name : String) (args : List Value) : Answer :=
  match comparison? name, args with
  | some compare, [other] => some (.ok (compared compare self other))
  | _, _ =>
    match name, args with
    | "__class__", args => some (self.kind.make args)
    | "__subclasshook__", _ => some (.ok undecided)
    | "__format__", [.text spec] => some ((self.laidOut spec.toList).map ofText)
    | "__init__", _ => if isFixed self.kind then some (.ok .null) else none
    | "__getattribute__", [.text name] =>
      if name = "__class__" then some (.ok self.kind.shown)
      else
        match attribute? self name with
        | some v => some (.ok v)
        | none => some (.error .notText)
    | "__getstate__", [] => some (.ok .null)
    | "__delattr__", [.text name] =>
      some (.error (if name = "__class__" then .wrongKind else .notText))
    | "__setattr__", [.text _, _] => some (.error .notText)
    | "__str__", [] => some (self.toText.map .text)
    | "__repr__", [] => some (self.quotedText.map ofText)
    | "__pow__", [_, _] | "__rpow__", [_, _] =>
      if [.int, .bool, .decimal].contains self.kind then some (.ok undecided) else none
    | name, [_] =>
      if self.kind.undecidedOperators.contains name then some (.ok undecided) else none
    | _, _ => none

def ofFloatMember (name : String) (args : List Value) : Answer :=
  match name, args with
  | "fromhex", [.text s] =>
    match Double.ofHex? s.toList with
    | some (.infinite negative) =>
      if s.toList.any Text.isAsciiDigit then some (.error .infiniteNumber)
      else some (.ok (.float (.infinite negative)))
    | some x => some (.ok (.float x))
    | none => bad "invalid hexadecimal floating-point string"
  | "__getformat__", [.text s] =>
    if s = "double" ∨ s = "float" then text "IEEE, little-endian".toList
    else bad "__getformat__() argument 1 must be 'double' or 'float'"
  | _, _ => none

/-- The bytes of a whole number, the last one first. -/
def bytesFromLast : Nat → Nat → List UInt8
  | 0, _ => []
  | count + 1, n => UInt8.ofNat (n % 256) :: bytesFromLast count (n / 256)

def byteOrder? (name : String) : Option Text.ByteOrder :=
  match name with
  | "big" => some .big
  | "little" => some .little
  | _ => none

def ofWholeMember (n : Int) (make : Int → Value) (name : String) (args : List Value) : Answer :=
  match name, args with
  | "from_bytes", [v, .text order] =>
    match byteOrder? order, v with
    | none, _ => bad "byteorder must be either 'little' or 'big'"
    | some order, .bytes bs | some order, .buffer bs =>
      let bs := if order = .big then bs else bs.reverse
      some (.ok (make (bs.foldl (fun n b => n * 256 + b.toNat) 0)))
    | _, _ => none
  | "to_bytes", [count, .text order] =>
    match count.index?, byteOrder? order with
    | none, _ => none
    | some _, none => bad "byteorder must be either 'little' or 'big'"
    | some count, some order =>
      if count < 0 then bad "length argument must be non-negative"
      else if n < 0 ∨ Nat.pow 256 count.toNat ≤ n.toNat then some (.error .infiniteNumber)
      else
        let bs := bytesFromLast count.toNat n.toNat
        some (.ok (.bytes (if order = .big then bs.reverse else bs)))
  | _, _ => none

def partNames : List String :=
  ["_add", "_div", "_divmod", "_floordiv", "_mod", "_mul", "_operator_fallbacks", "_sub"]

def ofFractionMember (name : String) (args : List Value) : Answer :=
  match name, args with
  | "_richcmp", [v, _] =>
    if [.bool, .int, .float, .fraction].contains v.kind then none else some (.ok undecided)
  | name, args => if partNames.contains name && args.length == 1 then some (.error .notText) else none

def ofAddressMember (a : Address) (name : String) (args : List Value) : Effect :=
  let self := Value.address a
  match name, args with
  | "add", [v] => some ⟨(a.addValue v).map .address, self⟩
  | "from_string", [v] => some ⟨(Address.parse v).map .address, self⟩
  | "__init__", [v] =>
    match Address.ofValue v with
    | .ok b => becoming (.address b)
    | .error fault => failing fault self
  | "__setattr__", [_, _] => failing .immutableAddress self
  | _, _ => none

def frozenField (change : String) (field : Value) : Fault :=
  match field.quoted? with
  | some name => .raised .frozen [.text ("cannot " ++ change ++ " field " ++ String.ofList name)]
  | none => .numberTooLong

def ofCallbacksMember (c : Callbacks) (name : String) (args : List Value) : Effect :=
  let self := Value.callbacks c
  let made (r : Except Fault Callbacks) : Effect :=
    match r with
    | .ok c => becoming (.callbacks c)
    | .error fault => failing fault self
  match name, args with
  | "coerce", [v] => some ⟨(Callbacks.coerce v).map .callbacks, self⟩
  | "__init__", [enter] => made (Callbacks.make enter .null)
  | "__init__", [enter, leave] => made (Callbacks.make enter leave)
  | "__setattr__", [field, _] => failing (frozenField "assign to" field) self
  | "__delattr__", [field] => failing (frozenField "delete" field) self
  | _, _ => none

def own (self : Value) (name : String) (args : List Value) : Effect :=
  match self with
  | .text s => Answer.keeping (ofTextMember s.toList name args) self
  | .float _ => Answer.keeping (ofFloatMember name args) self
  | .int n => Answer.keeping (ofWholeMember n .int name args) self
  | .bool b => Answer.keeping
      (ofWholeMember (if b then 1 else 0) (fun n => .bool (n != 0)) name args) self
  | .list items => ofListMember items name args
  | .group items => Answer.keeping (ofGroupMember items name args) self
  | .record fields => ofRecordMember fields name args
  | .bytes bs => Answer.keeping (ofBytesMember .bytes bs name args) self
  | .buffer bs => ofBufferMember bs name args
  | .address a => ofAddressMember a name args
  | .callbacks c => ofCallbacksMember c name args
  | .ordinal _ =>
    match name, args with
    | "__init__", [_] => becoming self
    | _, _ => none
  | .sealed _ =>
    match name, args with
    | "__init__", [.text s] => becoming (.sealed s)
    | "__setattr__", [.text _, _] => becoming self
    | _, _ => none
  | .decimal _ | .fraction _ _ =>
    match name, args with
    | "__deepcopy__", [_] => some ⟨.ok self, self⟩
    | name, args =>
      if self.kind = .fraction then Answer.keeping (ofFractionMember name args) self else none
  | _ => none

end Member

def Value.callMember (self : Value) (name : String) (args : List Value) : Member.Outcome :=
  match Member.own self name args with
  | some outcome => outcome
  | none => ⟨(Member.shared self name args).getD (.error .wrongKind), self⟩

/-- Members of all kinds, of which a kind need not have its own. -/
def Member.inherited (name : String) (args : List Value) : Except Fault Value :=
  match name, args with
  | "__str__", [v] => v.quotedText.map Member.ofText
  | "__getstate__", [_] => .ok .null
  | "__init__", _ :: _ => .ok .null
  | "__sizeof__", [.text _] => .ok (.int 80)
  | "__ne__", [.text s, .text t] => .ok (.bool (s != t))
  | "__format__", [v, .text ""] => v.toText.map .text
  | "__subclasshook__", _ => .ok Member.undecided
  | "__delattr__", [_, .text _] => .error .notText
  | name, [_, _] => if (Member.comparison? name).isSome then .ok Member.undecided else .error .wrongKind
  | _, _ => .error .wrongKind

namespace Kind

def sample : Kind → Value
  | .bool => .bool false
  | .int => .int 0
  | .float => .float (.zero false)
  | .text => .text ""
  | .bytes => .bytes []
  | .buffer => .buffer []
  | .list => .list []
  | .group => .group []
  | .record => .record []
  | _ => .null

def standing : List String :=
  ["__class_getitem__", "__getformat__", "__init_subclass__", "__new__", "__subclasshook__",
    "from_bytes", "fromhex", "fromkeys", "maketrans"]

def metaNames : List String :=
  ["__base__", "__call__", "__instancecheck__", "__or__", "__prepare__", "__ror__",
    "__subclasscheck__", "__subclasses__", "mro"]

def hasKindMember (kind : Kind) (name : String) : Bool :=
  kind.hasMember name || metaNames.contains name

def isWhole (kind : Kind) : Bool :=
  kind == .int || kind == .bool

/-- Whether a value is of a kind; truth values are whole numbers too. -/
def includes (kind : Kind) (v : Value) : Bool :=
  v.kind == kind || (kind == .int && v.kind.isWhole)

/-- Whether the members of a kind take a value; truth values have theirs from whole numbers. -/
def takes (kind : Kind) (v : Value) : Bool :=
  v.kind == kind || (kind.isWhole && v.kind.isWhole)

/-- Calls a member of a kind: one that stands for itself, or one of the value that comes first. -/
def callMember (kind : Kind) (name : String) (args : List Value) : Except Fault Value :=
  match name, args with
  | "__call__", args => kind.make args
  | "__base__", args => if kind = .bool then Kind.int.make args else .error .wrongKind
  | "__class__", [v] => .ok v.kind.shown
  | "__instancecheck__", [v] => .ok (.bool (kind.includes v))
  | "__prepare__", _ => .ok (.record [])
  | name, args =>
    if standing.contains name then (kind.sample.callMember name args).answer
    else if !kind.hasMember name && (name == "__or__" || name == "__ror__") && args.length == 1 then
      .ok Member.undecided
    else
      match args with
      | v :: rest =>
        if kind.takes v then (v.callMember name rest).answer
        else if sharedNames.contains name && !kind.reshapedNames.contains name then
          Member.inherited name args
        else .error .wrongKind
      | [] => .error .wrongKind

end Kind

end HostLink
