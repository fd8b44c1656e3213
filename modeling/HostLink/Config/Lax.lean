import HostLink.Config.Record
import HostLink.Number.Reading
import HostLink.Text.Utf8

/-!
The lax coercion, with which programs read their configuration: numbers and truth values may be
spelled, numbers of all kinds count as doubles, and all that is wrong is reported together, in the
order of the fields.
-/

namespace HostLink

open Text

namespace Double

def finite? (x : Double) : Option Double :=
  match x with
  | .finite .. => some x
  | _ => none

end Double

namespace Value

def toDouble? : Value → Option Double
  | .bool b => some (.ofInt (if b then 1 else 0))
  | .int n => (Double.ofInt n).finite?
  | .float x => some x
  | .address a => some (.ofInt a.toNat)
  | .ordinal n => (Double.ofInt n).finite?
  | .decimal (.nan _ signals _) => if signals then none else some .nan
  | .decimal (.infinite negative) => some (.infinite negative)
  | .decimal (.finite negative coefficient exponent) =>
    some (.ofDecimal negative coefficient exponent)
  | .fraction num den => (Double.ofRatio (num < 0) num.natAbs den).finite?
  | _ => none

def spelling? : Value → Option (Option (List Char))
  | .text s => some (some s.toList)
  | .bytes bs => some (Utf8.decode? bs)
  | _ => none

end Value

namespace Config

def checkBytes (bs : List UInt8) : Checked String :=
  match Utf8.decode? bs with
  | some s => .ok (String.ofList s)
  | none => .fail .illFormedText

def checkText : Value → Checked String
  | .text s => .ok s
  | .ragged _ => .fail .illFormedText
  | .bytes bs | .buffer bs => checkBytes bs
  | _ => .fail .notText

def checkItems (index : Nat) : List Value → List (Checked String)
  | [] => []
  | v :: rest => (checkText v).within (.item index) :: checkItems (index + 1) rest

def checkTexts : Value → Checked (List String)
  | .list items => .all (checkItems 0 items)
  | _ => .fail .notList

def boolOfWord? (s : List Char) : Option Bool :=
  let word := String.ofList (s.map Char.toLower)
  if ["0", "off", "f", "false", "n", "no"].contains word then some false
  else if ["1", "on", "t", "true", "y", "yes"].contains word then some true
  else none

def boolOfInt (n : Int) : Checked Bool :=
  if n = 0 then .ok false
  else if n = 1 then .ok true
  else .fail .unreadableBool

def wordBound : Int := Nat.pow 2 63

/-- A float counts as a truth value only where it is whole and less than the bound in magnitude. -/
def boolOfDouble : Double → Checked Bool
  | .finite negative significand exponent =>
    let (num, den) := Double.fraction negative significand exponent
    if num % den = 0 ∧ -wordBound < num / den ∧ num / den < wordBound then boolOfInt (num / den)
    else .fail .notBool
  | _ => .fail .notBool

def checkBool (v : Value) : Checked Bool :=
  match v with
  | .bool b => .ok b
  | .int n => if -wordBound ≤ n ∧ n < wordBound then boolOfInt n else .fail .notBool
  | v =>
    match v.spelling? with
    | some word =>
      match word.bind boolOfWord? with
      | some b => .ok b
      | none => .fail .unreadableBool
    | none =>
      match v.toDouble? with
      | some x => boolOfDouble x
      | none => .fail .notBool

def checkNumber (v : Value) : Checked Double :=
  match v.spelling? with
  | some word =>
    match word.bind Double.ofText? with
    | some x => .ok x
    | none => .fail .unreadableNumber
  | none =>
    match v.toDouble? with
    | some x => .ok x
    | none => .fail .notNumber

def checkRecord : Value → Checked (List (FieldName × Value))
  | .record fields => .ok fields
  | _ => .fail .notRecord

def Coercion.lax : Coercion where
  text := checkText
  texts := checkTexts
  number := checkNumber
  bool := checkBool
  record := checkRecord
  report issues := issues

end Config

end HostLink
