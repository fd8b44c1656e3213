import HostLink.Fault

/-!
When values are equal, the hash of numbers and addresses, and counting distinct values. An address
equals whole numbers and addresses by number, and no other value.
-/

namespace HostLink

/-- Whole numbers are hashed modulo this prime. -/
def hashModulus : Nat := Nat.pow 2 61 - 1

/-- The remainder with the sign of the number, except that -1 is kept for failures. -/
def numberHash (n : Int) : Int :=
  let h := n.tmod hashModulus
  if h = -1 then -2 else h

def Address.hash (a : Address) : Int :=
  numberHash a.toNat

inductive Exact where
  | finite (num : Int) (den : Nat)
  | infinite (negative : Bool)

namespace Exact

def same : Exact → Exact → Bool
  | .finite n d, .finite n' d' => n * d' == n' * d
  | .infinite negative, .infinite negative' => negative == negative'
  | _, _ => false

end Exact

namespace Value

def exactNumber? : Value → Option Exact
  | .bool b => some (.finite (if b then 1 else 0) 1)
  | .int n => some (.finite n 1)
  | .float (.finite negative significand exponent) =>
    let (num, den) := Double.fraction negative significand exponent
    some (.finite num den)
  | .float (.infinite negative) => some (.infinite negative)
  | .decimal (.finite negative coefficient exponent) =>
    let (num, den) := Decimal.fraction negative coefficient exponent
    some (.finite num den)
  | .decimal (.infinite negative) => some (.infinite negative)
  | .fraction num den => some (.finite num den)
  | _ => none

/-- Equality of two values that are not the same object; lists and records do not occur here. -/
def same (v w : Value) : Bool :=
  match v, w with
  | .address a, .address b => a == b
  | .address a, .int n => (a.toNat : Int) == n
  | .int n, .address a => n == a.toNat
  | .text s, .text t => s == t
  | .ragged s, .ragged t => s == t
  | .bytes s, .bytes t => s == t
  | .callbacks c, .callbacks d => c == d
  | .null, .null => true
  | v, w =>
    match v.exactNumber?, w.exactNumber? with
    | some x, some y => x.same y
    | _, _ => false

def isHashable : Value → Bool
  | .list _ | .record _ | .buffer _ | .decimal (.nan _ true _) => false
  | _ => true

/-- The values kept when each is added unless an equal one is there. -/
def distinct (vs : List Value) : List Value :=
  vs.foldl (fun kept v => if kept.any (same · v) then kept else kept ++ [v]) []

def countDistinct (vs : List Value) : Except Fault Nat :=
  if vs.all isHashable then .ok (distinct vs).length else .error .unhashable

/-- Equality with any value, as the operator gives it: an address equals numbers only. -/
def equalsAddress (v : Value) (a : Address) : Bool :=
  same v (.address a)

end Value

end HostLink
