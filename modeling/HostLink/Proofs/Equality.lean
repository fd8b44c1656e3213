import HostLink.Proofs.Trail
import Mathlib.Data.Finset.Card

/-!
# Equality and hash by number

Addresses and whole numbers are compared by the numbers that they stand for, across the two kinds as
well, and one number has one hash. An address is the side that knows how: a whole number on the left
has no answer about an address, and then the address is asked.

A set looks for a value by its hash first and compares only values with the same hash. So it keeps
one value for each number when equal values have equal hashes and equality is transitive, whatever
the order in which the values come.
-/

namespace HostLink

/-! ### What an address answers -/

namespace Address

/-- What an address answers when it is asked whether it equals a value. -/
def answer? (a : Address) : Value → Option Bool
  | .address b => some (a == b)
  | .int n => some ((a.toNat : Int) == n)
  | _ => none

theorem same_eq_answer? (a : Address) (v : Value) :
    Value.same (.address a) v = (a.answer? v).getD false := by
  cases v <;> rfl

/-- A value on the left has no answer about an address, but for another address. -/
theorem equalsAddress_eq_answer? (v : Value) (a : Address) :
    v.equalsAddress a = (a.answer? v).getD false := by
  unfold Value.equalsAddress
  cases v with
  | address b => exact BEq.comm
  | int n => exact BEq.comm
  | float x => cases x <;> rfl
  | decimal x => cases x <;> rfl
  | _ => rfl

theorem toNat_inj {a b : Address} : a.toNat = b.toNat ↔ a = b := by
  cases a
  cases b
  simp only [toNat, BitVec.toNat_inj, mk.injEq]

end Address

/-! ### Addresses and whole numbers -/

/-- An address, or a whole number of any size and sign. -/
inductive Whole where
  | address (a : Address)
  | int (n : Int)

namespace Whole

def value : Whole → Value
  | address a => .address a
  | int n => .int n

def number : Whole → Int
  | address a => a.toNat
  | int n => n

/-- Equality as it is decided for values of every kind. -/
def same (v w : Whole) : Bool :=
  Value.same v.value w.value

def hash : Whole → Int
  | address a => a.hash
  | int n => numberHash n

/-- What a value answers itself when it is asked whether it equals another one. -/
def answer? : Whole → Whole → Option Bool
  | address a, w => a.answer? w.value
  | int m, int n => some (m == n)
  | int _, address _ => none

/-- What a value answers itself when it is asked whether it differs from another one. An address
turns around what it says about equality. -/
def denial? : Whole → Whole → Option Bool
  | address a, w => (a.answer? w.value).map (!·)
  | int m, int n => some (m != n)
  | int _, address _ => none

/-- The left side is asked, and the right side when the left one has no answer. -/
def asked (ask : Whole → Whole → Option Bool) (v w : Whole) : Option Bool :=
  (ask v w).or (ask w v)

/-- A value is kept unless one with the same hash that equals it is there. -/
def keep (kept : List Whole) (v : Whole) : List Whole :=
  if kept.any fun w => w.hash == v.hash && w.same v then kept else kept ++ [v]

/-- What a set keeps of values that are added one after another. -/
def setOf (vs : List Whole) : List Whole :=
  vs.foldl keep []

/-- Equality, hash and sets of addresses and whole numbers go by number. -/
structure GoesByNumber : Prop where
  /-- The two sides, asked one after the other, always answer. -/
  equal : ∀ v w : Whole, asked answer? v w = some (v.same w)
  unequal : ∀ v w : Whole, asked denial? v w = some (!v.same w)
  equivalence : Equivalence fun v w : Whole => v.same w = true
  same_iff : ∀ v w : Whole, v.same w = true ↔ v.number = w.number
  /-- An address that was made from a number equals it only when nothing was wrapped around. -/
  wrapped : ∀ n, (address (.ofInt n)).same (int n) = true ↔ 0 ≤ n ∧ n < 2 ^ 32
  hash : ∀ v w : Whole, v.same w = true → v.hash = w.hash
  /-- In every order of the values a set has as many as there are numbers among them. -/
  size : ∀ vs ws : List Whole, ws.Perm vs → (setOf ws).length = (vs.map number).toFinset.card
  /-- A set that looks at hashes first keeps as many as one that compares all. -/
  counted : ∀ vs, Value.countDistinct (vs.map value) = .ok (setOf vs).length

/-! ### Equality -/

theorem same_eq (v w : Whole) : v.same w = decide (v.number = w.number) := by
  rcases v with a | m <;> rcases w with b | n
  · change (a == b) = decide ((a.toNat : Int) = b.toNat)
    rw [Bool.beq_eq_decide_eq, decide_eq_decide, Int.ofNat_inj, Address.toNat_inj]
  · rfl
  · rfl
  · change (m * (1 : Nat) == n * (1 : Nat)) = decide (m = n)
    simp only [Nat.cast_one, mul_one]
    rfl

theorem same_iff {v w : Whole} : v.same w = true ↔ v.number = w.number := by
  rw [same_eq, decide_eq_true_iff]

theorem asked_answer? (v w : Whole) : asked answer? v w = some (v.same w) := by
  rcases v with a | m <;> rcases w with b | n
  · exact congrArg some (a.same_eq_answer? (.address b)).symm
  · exact congrArg some (a.same_eq_answer? (.int n)).symm
  · -- The whole number has no answer, and the address is asked.
    exact congrArg some (Address.equalsAddress_eq_answer? (.int m) b).symm
  · exact congrArg some (same_eq (int m) (int n)).symm

/-- The side that answers whether two values are equal answers whether they differ. -/
theorem asked_denial? (v w : Whole) : asked denial? v w = (asked answer? v w).map (!·) := by
  rcases v with _ | _ <;> rcases w with _ | _ <;> rfl

theorem equivalence_same : Equivalence fun v w : Whole => v.same w = true where
  refl _ := same_iff.mpr rfl
  symm hvw := same_iff.mpr (same_iff.mp hvw).symm
  trans hvw hwu := same_iff.mpr ((same_iff.mp hvw).trans (same_iff.mp hwu))

theorem hash_eq (v : Whole) : v.hash = numberHash v.number := by
  cases v <;> rfl

theorem hash_eq_of_same {v w : Whole} (hsame : v.same w = true) : v.hash = w.hash := by
  calc v.hash = numberHash v.number := hash_eq v
    _ = numberHash w.number := congrArg numberHash (same_iff.mp hsame)
    _ = w.hash := (hash_eq w).symm

theorem same_ofInt_iff (n : Int) :
    (address (.ofInt n)).same (int n) = true ↔ 0 ≤ n ∧ n < 2 ^ 32 := by
  rw [same_iff, number, number, Address.toNat_ofInt]
  omega

/-! ### Sets -/

/-- Looking at the hashes first finds the same value. -/
theorem any_hash (kept : List Whole) (v : Whole) :
    (kept.any fun w => w.hash == v.hash && w.same v) = kept.any (·.same v) := by
  congr 1
  funext w
  by_cases hsame : w.same v = true
  · rw [hash_eq_of_same hsame, BEq.rfl, Bool.true_and]
  · rw [Bool.not_eq_true] at hsame
    rw [hsame, Bool.and_false]

theorem any_same_iff {kept : List Whole} {v : Whole} :
    kept.any (·.same v) = true ↔ v.number ∈ kept.map number := by
  simp only [List.any_eq_true, same_iff, List.mem_map]

/-- The values that are kept stand for the numbers that were seen, each of them once. -/
structure Keeps (kept seen : List Whole) : Prop where
  nodup : (kept.map number).Nodup
  mem_iff : ∀ n, n ∈ kept.map number ↔ n ∈ seen.map number

namespace Keeps

variable {kept seen : List Whole}

theorem nil : Keeps [] [] :=
  ⟨List.nodup_nil, fun _ => Iff.rfl⟩

theorem add (hkeeps : Keeps kept seen) (v : Whole) : Keeps (keep kept v) (seen ++ [v]) := by
  rw [keep, any_hash]
  split
  next hfound =>
    rw [any_same_iff] at hfound
    refine ⟨hkeeps.nodup, fun n => ?_⟩
    rw [List.map_append, List.mem_append, ← hkeeps.mem_iff, List.map_singleton,
      List.mem_singleton]
    exact ⟨.inl, fun hn => hn.elim id fun heq => heq ▸ hfound⟩
  next hmissing =>
    rw [any_same_iff] at hmissing
    refine ⟨?_, fun n => ?_⟩
    · rw [List.map_append, List.map_singleton]
      exact hkeeps.nodup.append (List.nodup_singleton _)
        (List.disjoint_singleton.mpr hmissing)
    · rw [List.map_append, List.map_append, List.mem_append, List.mem_append, hkeeps.mem_iff]

theorem foldl_keep (hkeeps : Keeps kept seen) (vs : List Whole) :
    Keeps (vs.foldl keep kept) (seen ++ vs) := by
  induction vs generalizing kept seen with
  | nil => rwa [List.append_nil]
  | cons v vs ih =>
      rw [List.foldl_cons, List.append_cons]
      exact ih (hkeeps.add v)

theorem length_eq (hkeeps : Keeps kept seen) :
    kept.length = (seen.map number).toFinset.card := by
  have hsame : (kept.map number).toFinset = (seen.map number).toFinset := by
    ext n
    rw [List.mem_toFinset, List.mem_toFinset, hkeeps.mem_iff]
  calc kept.length = (kept.map number).length := (List.length_map _).symm
    _ = (kept.map number).toFinset.card := (List.toFinset_card_of_nodup hkeeps.nodup).symm
    _ = (seen.map number).toFinset.card := congrArg Finset.card hsame

end Keeps

theorem keeps_setOf (vs : List Whole) : Keeps (setOf vs) vs :=
  Keeps.nil.foldl_keep vs

theorem length_setOf_of_perm {vs ws : List Whole} (hperm : ws.Perm vs) :
    (setOf ws).length = (vs.map number).toFinset.card := by
  rw [(keeps_setOf ws).length_eq, List.toFinset_eq_of_perm _ _ (hperm.map number)]

theorem map_value_keep (kept : List Whole) (v : Whole) :
    (keep kept v).map value =
      if (kept.map value).any (Value.same · v.value) then kept.map value
      else kept.map value ++ [v.value] := by
  have hany : (kept.map value).any (Value.same · v.value) = kept.any (·.same v) := List.any_map
  rw [keep, any_hash, hany, apply_ite (List.map value), List.map_append, List.map_singleton]

theorem map_value_setOf (vs : List Whole) :
    (setOf vs).map value = Value.distinct (vs.map value) := by
  rw [setOf, Value.distinct, List.foldl_map]
  exact (List.foldl_hom (List.map value) fun kept v => (map_value_keep kept v).symm).symm

theorem countDistinct_map_value (vs : List Whole) :
    Value.countDistinct (vs.map value) = .ok (setOf vs).length := by
  have hhashable : (vs.map value).all Value.isHashable = true := by
    rw [List.all_map, List.all_eq_true]
    rintro (a | n) - <;> rfl
  rw [Value.countDistinct, if_pos hhashable, ← map_value_setOf, List.length_map]

/-- **Addresses and whole numbers are equal, hashed and kept in sets by number.** -/
theorem goesByNumber : GoesByNumber where
  equal := asked_answer?
  unequal v w := by rw [asked_denial?, asked_answer?, Option.map_some]
  equivalence := equivalence_same
  same_iff _ _ := same_iff
  wrapped := same_ofInt_iff
  hash _ _ := hash_eq_of_same
  size _ _ := length_setOf_of_perm
  counted := countDistinct_map_value

/-- The number that was wrapped around to zero is not equal to the address that it made. -/
example :
    (setOf [int (2 ^ 32), address (.ofInt (2 ^ 32)), int 0, address .zero]).length = 2 := by
  decide

end Whole

end HostLink
