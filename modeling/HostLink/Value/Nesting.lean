import HostLink.Fault

/-!
Showing a value takes a level of the stack for the value itself, and one for every value that it lies
within. Here is what keeps a value from being shown on a stack with so many levels left: the first
value that lies too deep, or the first number that is too long.
-/

namespace HostLink.Value

def hindranceOfNumber? (n : Int) : Option Fault :=
  if (Text.decimalInt? n).isSome then none else some .numberTooLong

mutual

def hindrance? (levels : Nat) (v : Value) : Option Fault :=
  match levels with
  | 0 => some (.stackExhausted .showing)
  | levels + 1 =>
    match v with
    | .int n | .ordinal n => hindranceOfNumber? n
    | .fraction num den => (hindranceOfNumber? num).or (hindranceOfNumber? den)
    | .list items | .group items | .failure _ items => hindranceOfItems? levels items
    | .record fields => hindranceOfFields? levels fields
    | _ => none
termination_by structural v

def hindranceOfItems? (levels : Nat) (items : List Value) : Option Fault :=
  match items with
  | [] => none
  | v :: rest => (hindrance? levels v).or (hindranceOfItems? levels rest)
termination_by structural items

def hindranceOfFields? (levels : Nat) (fields : List (FieldName × Value)) : Option Fault :=
  match fields with
  | [] => none
  | field :: rest => (hindranceOfField? levels field).or (hindranceOfFields? levels rest)
termination_by structural fields

def hindranceOfField? (levels : Nat) (field : FieldName × Value) : Option Fault :=
  match field with
  | (_, v) => hindrance? levels v
termination_by structural field

end

end HostLink.Value
