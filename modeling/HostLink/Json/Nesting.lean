import HostLink.Fault
import HostLink.Json.Reader

/-!
Reading takes a level of the stack for every list and every record that is open. Here is where a text
goes deeper than there are levels. Texts are read from the front, so that whatever else is wrong with
one counts only if it stands before that place.
-/

namespace HostLink.Json

mutual

/-- What the value at the front of a text opens beyond the levels that are left. -/
def overflowAt? : Nat → Nat → Source → Option Descent
  | 0, _, _ => none
  | fuel + 1, levels, s =>
    match s, levels with
    | .char '[' :: _, 0 => some .readingList
    | .char '[' :: rest, levels + 1 => overflowOfItems? fuel levels (skipSpace rest)
    | .char '\x7b' :: _, 0 => some .readingRecord
    | .char '\x7b' :: rest, levels + 1 => overflowOfFields? fuel levels (skipSpace rest)
    | _, _ => none

def overflowOfItems? : Nat → Nat → Source → Option Descent
  | 0, _, _ => none
  | fuel + 1, levels, s =>
    match overflowAt? fuel levels s with
    | some descent => some descent
    | none => do
      let (_, rest) ← readValue fuel s
      match skipSpace rest with
      | .char ',' :: rest => overflowOfItems? fuel levels (skipSpace rest)
      | _ => none

def overflowOfFields? : Nat → Nat → Source → Option Descent
  | 0, _, _ => none
  | fuel + 1, levels, s =>
    match s with
    | .char '"' :: rest => do
      let (_, rest) ← readString rest
      match skipSpace rest with
      | .char ':' :: rest =>
        match overflowAt? fuel levels (skipSpace rest) with
        | some descent => some descent
        | none => do
          let (_, rest) ← readValue fuel (skipSpace rest)
          match skipSpace rest with
          | .char ',' :: rest => overflowOfFields? fuel levels (skipSpace rest)
          | _ => none
      | _ => none
    | _ => none

end

def overflow? (levels : Nat) (s : Source) : Option Descent :=
  overflowAt? (steps s) levels (skipSpace s)

end HostLink.Json
