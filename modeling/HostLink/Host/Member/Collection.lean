import HostLink.Host.Member.Text

/-!
What the members of lists, records and bytes answer, and what the collection is afterwards.
-/

namespace HostLink.Member

open Text

structure Outcome where
  answer : Except Fault Value
  after : Value

/-- What a member does; nothing when it has no use for the arguments. -/
abbrev Effect := Option Outcome

def Answer.keeping (answer : Answer) (v : Value) : Effect :=
  answer.map fun a => ⟨a, v⟩

/-- Changes the value and gives nothing. -/
def becoming (v : Value) : Effect :=
  some ⟨.ok .null, v⟩

def failing (fault : Fault) (v : Value) : Effect :=
  some ⟨.error fault, v⟩

def isText (t : String) : Value → Bool
  | .text s => s == t
  | _ => false

def ofItems (kind item : String) : Answer :=
  some (.ok (.sealed (String.ofList (kind.toList ++ '[' :: quoted item.toList ++ [']']))))

/-! ### Lists -/

/-- Where to insert: below zero it counts from the end. -/
def insertAt (items : List Value) (index : Int) (v : Value) : List Value :=
  let place := if index < 0 then (items.length + index).toNat else index.toNat
  items.take place ++ v :: items.drop place

/-- The place that an index is of; below zero it counts from the end. -/
def placeOf? (count : Nat) (index : Int) : Option Nat :=
  let place := if index < 0 then index + count else index
  if place < 0 ∨ (count : Int) ≤ place then none else some place.toNat

def ofListMember (items : List Value) (name : String) (args : List Value) : Effect :=
  let self := Value.list items
  match name, args with
  | "__len__", [] => Answer.keeping (number items.length) self
  | "append", [v] => becoming (.list (items ++ [v]))
  | "extend", [.text s] => becoming (.list (items ++ Value.characters s.toList))
  | "__iadd__", [.text s] =>
    let v := Value.list (items ++ Value.characters s.toList)
    some ⟨.ok v, v⟩
  | "__init__", [.text s] => becoming (.list (Value.characters s.toList))
  | "insert", [place, v] => place.index?.bind fun n => becoming (.list (insertAt items n v))
  | "__setitem__", [place, v] => place.index?.bind fun n =>
    match placeOf? items.length n with
    | some n => becoming (.list (items.set n v))
    | none => failing .indexOutOfRange self
  | "__contains__", [.text s] => Answer.keeping (truth (items.any (isText s))) self
  | "count", [.text s] => Answer.keeping (number (items.countP (isText s))) self
  | "index", [.text s] =>
    match items.findIdx? (isText s) with
    | some n => Answer.keeping (number n) self
    | none => failing (malformedText (String.ofList (quoted s.toList ++ " is not in list".toList))) self
  | "remove", [.text s] =>
    if items.any (isText s) then becoming (.list (items.eraseP (isText s)))
    else failing (malformedText "list.remove(x): x not in list") self
  | "__class_getitem__", [.text s] => Answer.keeping (ofItems "list" s) self
  | _, _ => none

def ofGroupMember (items : List Value) (name : String) (args : List Value) : Answer :=
  match name, args with
  | "__init__", _ => some (.ok .null)
  | "__contains__", [.text s] => truth (items.any (isText s))
  | "count", [.text s] => number (items.countP (isText s))
  | "index", [.text s] =>
    match items.findIdx? (isText s) with
    | some n => number n
    | none => bad "tuple.index(x): x not in tuple"
  | "__class_getitem__", [.text s] => ofItems "tuple" s
  | _, _ => none

/-! ### Records -/

def without (name : FieldName) (fields : List (FieldName × Value)) : List (FieldName × Value) :=
  fields.filter (·.1 != name)

def unknownField (name : String) (v : Value) : Effect :=
  failing (.raised .missingKey [.text name]) v

def ofNames (s : List Char) (v : Value) : Value :=
  .ofFields (s.map fun c => (.text (String.ofList [c]), v))

def withDefault (fields : List (FieldName × Value)) (name : String) (key default : Value) : Effect :=
  let self := Value.record fields
  let found := match key with
    | .text k => Value.field? k fields
    | _ => none
  match name, key with
  | "get", _ => some ⟨.ok (found.getD default), self⟩
  | "pop", .text k => some ⟨.ok (found.getD default), .record (without k fields)⟩
  | "pop", _ => some ⟨.ok default, self⟩
  | "setdefault", .text k =>
    some ⟨.ok (found.getD default), .record (match found with
      | some _ => fields
      | none => Value.put k default fields)⟩
  | "setdefault", _ => some ⟨.ok default, self⟩
  | _, _ => none

def textName? : Value → Option FieldName
  | .text s => some (.text s)
  | _ => none

def isHashable : Value → Bool
  | .list _ | .record _ | .buffer _ => false
  | _ => true

def ofRecordMember (fields : List (FieldName × Value)) (name : String) (args : List Value) :
    Effect :=
  let self := Value.record fields
  match name, args with
  | "__len__", [] => Answer.keeping (number fields.length) self
  | "__init__", [.text s] | "update", [.text s] =>
    if s.isEmpty then becoming self else failing Value.notPairs self
  | "__ior__", [.text s] =>
    if s.isEmpty then some ⟨.ok self, self⟩ else failing Value.notPairs self
  | "__contains__", [.text s] => Answer.keeping (truth (Value.field? s fields).isSome) self
  | "get", [.text s] => some ⟨.ok ((Value.field? s fields).getD .null), self⟩
  | "setdefault", [.text s] => withDefault fields name (.text s) .null
  | "__getitem__", [.text s] =>
    match Value.field? s fields with
    | some v => some ⟨.ok v, self⟩
    | none => unknownField s self
  | "pop", [.text s] =>
    match Value.field? s fields with
    | some v => some ⟨.ok v, .record (without s fields)⟩
    | none => unknownField s self
  | "__delitem__", [.text s] =>
    if (Value.field? s fields).isSome then becoming (.record (without s fields))
    else unknownField s self
  | "__setitem__", [.text s, v] => becoming (.record (Value.put s v fields))
  | "__setitem__", [key, _] => if isHashable key then becoming self else none
  | "fromkeys", [.text s] => some ⟨.ok (ofNames s.toList .null), self⟩
  | "fromkeys", [.text s, v] => some ⟨.ok (ofNames s.toList v), self⟩
  | "fromkeys", [.record names, v] => some ⟨.ok (.record (names.map fun (name, _) => (name, v))), self⟩
  | "__class_getitem__", [.text s] => Answer.keeping (ofItems "dict" s) self
  | "fromkeys", [.list items, v] =>
    (items.mapM textName?).map fun names => ⟨.ok (.ofFields (names.map fun n => (n, v))), self⟩
  | "pop", [key, default] =>
    if fields.isEmpty || isHashable key then withDefault fields name key default else none
  | name, [key, default] => if isHashable key then withDefault fields name key default else none
  | _, _ => none

/-! ### Bytes -/

def hexText (separator : List Char) (bs : List UInt8) : List Char :=
  separatedBy separator (bs.map fun b => hexFixed 2 b.toNat)

/-- The bytes of pairs of digits, between which there may be blank, or where there is no digit. -/
def readHexPairs (place : Nat) : List Char → Except Nat (List UInt8)
  | [] => .ok []
  | c :: rest =>
    if isPadding c && isAscii c then readHexPairs (place + 1) rest
    else
      match asciiHexDigit? c, rest with
      | none, _ => .error place
      | some _, [] => .error (place + 1)
      | some x, d :: rest =>
        match asciiHexDigit? d with
        | none => .error (place + 1)
        | some y => (readHexPairs (place + 2) rest).map (UInt8.ofNat (x * 16 + y) :: ·)

/-- Members of bytes, which may be in a buffer; `make` puts bytes where these ones are from. -/
def ofBytesMember (make : List UInt8 → Value) (bs : List UInt8) (name : String)
    (args : List Value) : Answer :=
  match name, args with
  | "__len__", [] => number bs.length
  | "decode", [.text s] => some (Value.decoded bs s "strict")
  | "decode", [.text s, .text remedy] => some (Value.decoded bs s remedy)
  | "__rmod__", [_] => some (.ok undecided)
  | "hex", [.text s] =>
    match s.toList with
    | [c] =>
      if isAscii c then text (hexText [c] bs) else bad "sep must be ASCII."
    | _ => bad "sep must be length 1."
  | "fromhex", [.text s] =>
    match readHexPairs 0 s.toList with
    | .ok bs => some (.ok (make bs))
    | .error place => bad ("non-hexadecimal number found in fromhex() arg at position " ++
        String.ofList (decimal place))
  | "join", [.text ""] => some (.ok (make []))
  | _, _ => none

def ofBufferMember (bs : List UInt8) (name : String) (args : List Value) : Effect :=
  match name, args with
  | "extend", [.text ""] => becoming (.buffer bs)
  | "__init__", [.text s, .text charset] =>
    match Value.encoded s charset "strict" with
    | .ok bs => becoming (.buffer bs)
    | .error fault => failing fault (.buffer bs)
  | name, args => Answer.keeping (ofBytesMember .buffer bs name args) (.buffer bs)

end HostLink.Member
