import HostLink.Host.Member
import HostLink.Proofs.Numeral
import HostLink.Value.Equality

/-!
# Addresses made one from another

Adding to an address makes another one and leaves the first as it was. Here are the addresses that a
run of additions leaves behind, mixed with additions and assignments that are refused. They are the
sums of the offsets so far, wrapped around, whatever the size and the sign of the offsets.
-/

namespace HostLink.Address

open Text

/-! ### Whole numbers that are wrapped around -/

theorem toNat_ofInt (n : Int) : ((ofInt n).toNat : Int) = n % 2 ^ 32 := by
  unfold ofInt toNat
  rw [BitVec.toNat_ofInt]
  omega

theorem toNat_lt (a : Address) : a.toNat < 2 ^ 32 :=
  a.word.isLt

theorem ofInt_natCast (n : Nat) : ofInt n = ⟨BitVec.ofNat 32 n⟩ :=
  congrArg Address.mk (BitVec.ofInt_natCast 32 n)

theorem ofInt_toNat (a : Address) : ofInt a.toNat = a := by
  rw [ofInt_natCast, toNat, BitVec.ofNat_toNat, BitVec.setWidth_eq]

theorem add_ofInt (m n : Int) : (ofInt m).add n = ofInt (m + n) :=
  congrArg Address.mk (BitVec.ofInt_add m n).symm

/-! ### Text as a number -/

/-- The number that base sixteen text stands for, before it is wrapped around. -/
def numberOfText (s : String) : Except Fault Int :=
  (readNumeral .sixteen (.text (String.ofList (trimmed s))) (trimmed s)).map (Numeral.toInt .sixteen)

theorem ofNumeral_eq (radix : Radix) (n : Numeral) : ofNumeral radix n = ofInt (n.toInt radix) := by
  have hdigits : ofDigits radix.toNat n.digits = ofInt (positional radix.toNat n.digits) := by
    rw [ofInt_natCast, ofDigits_eq, positional_eq_foldl]
  unfold ofNumeral Numeral.toInt applySign
  cases n.negative with
  | false => exact hdigits
  | true =>
      simp only [if_true, hdigits]
      exact congrArg Address.mk (BitVec.ofInt_neg ..).symm

/-- Wrapping around digit by digit comes to the number that the text stands for. -/
theorem ofText_eq (s : String) : ofText s = (numberOfText s).map ofInt := by
  unfold ofText numberOfText
  dsimp only
  cases readNumeral .sixteen (.text (String.ofList (trimmed s))) (trimmed s) with
  | ok n => exact congrArg Except.ok (ofNumeral_eq .sixteen n)
  | error fault => rfl

/-- **The text of an address is read as that address.** -/
theorem ofText_toText (a : Address) : ofText a.toText = .ok a := by
  have htext : a.toText = String.ofList ('0' :: 'x' :: hex a.toNat) := rfl
  rw [htext, ofText_hex, ← ofInt_natCast, ofInt_toNat]

/-- What an address is made from. -/
inductive Origin where
  | number (n : Int)
  | text (s : String)

namespace Origin

def make : Origin → Except Fault Address
  | .number n => ofValue (.int n)
  | .text s => ofText s

/-- The number that the address stands for, before it is wrapped around. -/
def number? : Origin → Except Fault Int
  | .number n => .ok n
  | .text s => numberOfText s

theorem make_eq (origin : Origin) : origin.make = origin.number?.map ofInt := by
  cases origin with
  | number n => rfl
  | text s => exact ofText_eq s

end Origin

/-! ### Steps -/

/-- What is done to the objects that there are, of which the first is the current one. -/
inductive Step where
  | add (offset : Int)
  /-- The operator, with the current object on its left. -/
  | plus (operand : Value)
  /-- The operator, with the current object on its right. -/
  | plusFrom (operand : Value)
  /-- Assigns to the field of the object at a place. -/
  | assign (place : Nat) (v : Value)

namespace Step

/-- Goes on to the address that was made of the current one. -/
def goOn (objects : List Value) (made : Address → Except Fault Address) :
    Except Fault Value × List Value :=
  match objects with
  | .address a :: _ =>
    match made a with
    | .ok b => (.ok (.address b), .address b :: objects)
    | .error fault => (.error fault, objects)
  | _ => (.error .refusedOperand, objects)

/-- What a step is answered, and the objects that there are after it. -/
def take (objects : List Value) : Step → Except Fault Value × List Value
  | .add n => goOn objects (·.addValue (.int n))
  | .plus v | .plusFrom v => goOn objects (·.plus v)
  | .assign place v =>
    match objects[place]? with
    | some object =>
      let outcome := object.callMember "__setattr__" [.text "_address", v]
      (outcome.answer, objects.set place outcome.after)
    | none => (.error .indexOutOfRange, objects)

/-- The number that a step adds; operators add whole numbers and nothing else. -/
def offset? : Step → Option Int
  | .add n | .plus (.int n) | .plusFrom (.int n) => some n
  | _ => none

/-- Why a step that adds nothing is refused. -/
def refusal (objects : List Value) : Step → Fault
  | .assign place _ => if place < objects.length then .immutableAddress else .indexOutOfRange
  | _ => .refusedOperand

theorem take_of_offset {step : Step} {offset : Int} (hoffset : step.offset? = some offset) (n : Int)
    (earlier : List Value) :
    step.take (.address (ofInt n) :: earlier) =
      (.ok (.address (ofInt (n + offset))),
        .address (ofInt (n + offset)) :: .address (ofInt n) :: earlier) := by
  rw [← add_ofInt]
  cases step with
  | add m =>
      obtain rfl := Option.some.inj hoffset
      rfl
  | plus v | plusFrom v =>
      cases v with
      | int m =>
          obtain rfl := Option.some.inj hoffset
          rfl
      | _ => cases hoffset
  | assign place v => cases hoffset

theorem take_assign {objects : List Value} {place : Nat} {a : Address}
    (hobject : objects[place]? = some (.address a)) (v : Value) :
    (assign place v).take objects = (.error .immutableAddress, objects) := by
  obtain ⟨hplace, hget⟩ := List.getElem?_eq_some_iff.mp hobject
  have hanswer : (Value.address a).callMember "__setattr__" [.text "_address", v] =
      ⟨.error .immutableAddress, .address a⟩ := rfl
  unfold take
  simp only [hobject, hanswer]
  rw [← hget, List.set_getElem_self]

/-- **What is refused changes nothing.** -/
theorem take_of_refused {step : Step} (hoffset : step.offset? = none) (current : Address)
    (earlier : List Address) :
    step.take ((current :: earlier).map .address) =
      (.error (step.refusal ((current :: earlier).map .address)),
        (current :: earlier).map .address) := by
  cases step with
  | add m => cases hoffset
  | plus v | plusFrom v =>
      cases v with
      | int m => cases hoffset
      | _ => rfl
  | assign place v =>
      have hobject : ((current :: earlier).map Value.address)[place]? =
          (current :: earlier)[place]?.map .address := List.getElem?_map
      have hlength : ((current :: earlier).map Value.address).length = (current :: earlier).length :=
        List.length_map ..
      cases hget : (current :: earlier)[place]? with
      | some a =>
          rw [take_assign (hobject.trans (congrArg _ hget)), refusal, hlength,
            if_pos (List.getElem?_eq_some_iff.mp hget).1]
      | none =>
          rw [take, hobject, hget, refusal, hlength,
            if_neg (Nat.not_lt.mpr (List.getElem?_eq_none_iff.mp hget))]
          rfl

end Step

/-! ### Runs -/

def takeAll (steps : List Step) (objects : List Value) : List Value :=
  steps.foldl (fun objects step => (step.take objects).2) objects

/-- The numbers that steps add, in order. -/
def offsets (steps : List Step) : List Int :=
  steps.filterMap Step.offset?

/-- The sums of a number and the first few offsets, the last sum first. -/
def sums (n : Int) (offsets : List Int) : List Int :=
  (offsets.scanl (· + ·) n).reverse

theorem sums_nil (n : Int) : sums n [] = [n] :=
  rfl

theorem sums_cons (n offset : Int) (offsets : List Int) :
    sums n (offset :: offsets) = sums (n + offset) offsets ++ [n] := by
  rw [sums, List.scanl_cons, List.reverse_cons, sums]

theorem head?_sums (n : Int) (offsets : List Int) :
    (sums n offsets).head? = some (n + offsets.sum) := by
  induction offsets generalizing n with
  | nil => simp [sums_nil]
  | cons offset rest ih =>
      rw [sums_cons, List.head?_append, ih, List.sum_cons, ← Int.add_assoc]
      rfl

/-- **The addresses that there are after a run are the sums of the offsets so far.** -/
theorem takeAll_eq (steps : List Step) (n : Int) (earlier : List Address) :
    takeAll steps ((ofInt n :: earlier).map .address) =
      ((sums n (offsets steps)).map ofInt ++ earlier).map .address := by
  induction steps generalizing n earlier with
  | nil => rfl
  | cons step rest ih =>
      rw [takeAll, List.foldl_cons]
      change takeAll rest (step.take _).2 = _
      cases hoffset : step.offset? with
      | none =>
          have hskipped : offsets (step :: rest) = offsets rest := List.filterMap_cons_none hoffset
          rw [Step.take_of_refused hoffset, hskipped, ih]
      | some offset =>
          have hadded : offsets (step :: rest) = offset :: offsets rest :=
            List.filterMap_cons_some hoffset
          rw [List.map_cons, Step.take_of_offset hoffset, hadded, sums_cons, List.map_append]
          exact (ih (n + offset) (ofInt n :: earlier)).trans (by simp)

theorem takeAll_ofInt (steps : List Step) (n : Int) :
    takeAll steps [.address (ofInt n)] =
      ((sums n (offsets steps)).map ofInt).map .address := by
  have hrun := takeAll_eq steps n []
  rwa [List.append_nil] at hrun

/-- The current object is the last sum, and there are only addresses behind it. -/
theorem exists_takeAll (steps : List Step) (n : Int) :
    ∃ earlier : List Address, takeAll steps [.address (ofInt n)] =
      (ofInt (n + (offsets steps).sum) :: earlier).map .address := by
  have hhead : ((sums n (offsets steps)).map ofInt).head? =
      some (ofInt (n + (offsets steps).sum)) := by
    rw [List.head?_map, head?_sums]
    rfl
  obtain ⟨earlier, hall⟩ := List.head?_eq_some_iff.mp hhead
  exact ⟨earlier, by rw [takeAll_ofInt, hall]⟩

theorem head?_takeAll (steps : List Step) (n : Int) :
    (takeAll steps [.address (ofInt n)]).head? =
      some (.address (ofInt (n + (offsets steps).sum))) := by
  obtain ⟨earlier, hall⟩ := exists_takeAll steps n
  rw [hall]
  rfl

/-- What there is after a run of steps that starts at an address, which stands for `n`. -/
structure AddsUp (start : Address) (n : Int) (steps : List Step) : Prop where
  /-- Every object that was ever made is an address: a sum of offsets so far. -/
  trail : takeAll steps [.address start] =
    (sums n (offsets steps)).map fun sum => .address (ofInt sum)
  bounded : ∀ v ∈ takeAll steps [.address start], ∃ a : Address, v = .address a ∧ a.toNat < 2 ^ 32
  current : ∃ a : Address, (takeAll steps [.address start]).head? = some (.address a) ∧
    (a.toNat : Int) = (n + (offsets steps).sum) % 2 ^ 32
  /-- Other steps that add as much come to the same address, in any order and grouping. -/
  regrouped : ∀ others : List Step, (offsets others).sum = (offsets steps).sum →
    (takeAll others [.address start]).head? = (takeAll steps [.address start]).head?
  /-- A number that is added makes one more address, and those that there are stay. -/
  accepted : ∀ (step : Step) (offset : Int), step.offset? = some offset →
    ∃ a : Address, step.take (takeAll steps [.address start]) =
      (.ok (.address a), .address a :: takeAll steps [.address start])
  refused : ∀ step : Step, step.offset? = none →
    step.take (takeAll steps [.address start]) =
      (.error (step.refusal (takeAll steps [.address start])), takeAll steps [.address start])
  reread : ∀ a, .address a ∈ takeAll steps [.address start] →
    ∃ b, ofText a.toText = .ok b ∧ Value.same (.address b) (.address a) = true

theorem addsUp_ofInt (n : Int) (steps : List Step) : AddsUp (ofInt n) n steps where
  trail := by
    rw [takeAll_ofInt, List.map_map]
    rfl
  bounded v hmem := by
    rw [takeAll_ofInt] at hmem
    obtain ⟨a, -, rfl⟩ := List.mem_map.mp hmem
    exact ⟨a, rfl, a.toNat_lt⟩
  current := ⟨_, head?_takeAll steps n, toNat_ofInt _⟩
  regrouped others hsum := by rw [head?_takeAll, head?_takeAll, hsum]
  accepted step offset hoffset := by
    obtain ⟨earlier, hall⟩ := exists_takeAll steps n
    rw [hall, List.map_cons, Step.take_of_offset hoffset]
    exact ⟨_, rfl⟩
  refused step hoffset := by
    obtain ⟨earlier, hall⟩ := exists_takeAll steps n
    rw [hall]
    exact Step.take_of_refused hoffset _ earlier
  reread a _ := ⟨a, ofText_toText a, by simp [Value.same]⟩

/-- **Offsets add up modulo 2^32**, and what is refused leaves all addresses as they are. -/
theorem addsUp_of_made {origin : Origin} {start : Address} (hmade : origin.make = .ok start)
    (steps : List Step) : ∃ n, origin.number? = .ok n ∧ AddsUp start n steps := by
  rw [Origin.make_eq] at hmade
  cases hnumber : origin.number? with
  | error fault =>
      rw [hnumber] at hmade
      cases hmade
  | ok n =>
      rw [hnumber] at hmade
      obtain rfl : ofInt n = start := Except.ok.inj hmade
      exact ⟨n, rfl, addsUp_ofInt n steps⟩

/-- Minus one, with more than 2^32 added to it, and a truth value and an assignment refused. -/
theorem minus_one_adds_up :
    Origin.make (.text " -0x0_1 ") = .ok (ofInt (-1)) ∧
      ∃ n, Origin.number? (.text " -0x0_1 ") = .ok n ∧ AddsUp (ofInt (-1)) n
        [.plusFrom (.int 4294967301), .plus (.bool true), .assign 1 (.int 0), .add (-3)] :=
  ⟨rfl, addsUp_of_made rfl _⟩

end HostLink.Address
