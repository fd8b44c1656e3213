/-!
What can be wrong with a configuration record.
-/

namespace HostLink.Config

inductive IssueKind where
  | notText
  /-- Bytes that are not the UTF-8 of any text. -/
  | illFormedText
  | notList
  | notNumber
  | unreadableNumber
  | notBool
  | unreadableBool
  | notRecord
  | notPositive
  deriving DecidableEq, Repr

/-- One step on the way from the record to the value at fault. -/
inductive Place where
  | field (name : String)
  | item (index : Nat)
  deriving DecidableEq, Repr

structure Issue where
  path : List Place
  kind : IssueKind
  deriving DecidableEq, Repr

end HostLink.Config
