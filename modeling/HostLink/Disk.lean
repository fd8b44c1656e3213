import HostLink.Fault

/-!
Files and directories, and the paths that lead to them.
-/

namespace HostLink

structure Path where
  /-- What stands before the first name; nothing where the path starts in the current directory. -/
  root : String
  names : List String
  deriving DecidableEq, Repr

namespace Path

/-- Two slashes at the front are kept apart from any other number of them. -/
def rootOf : List Char → String
  | ['/', '/'] => "//"
  | '/' :: '/' :: c :: _ => if c = '/' then "/" else "//"
  | '/' :: _ => "/"
  | _ => ""

/-- Reads a path. Empty names and single points do not count; two points lead to the parent. -/
def ofText (s : String) : Path :=
  ⟨rootOf s.toList, (s.splitOn "/").filter fun name => name ≠ "" ∧ name ≠ "."⟩

def size (path : Path) : Nat :=
  path.names.foldl (fun n name => n + (name.utf8ByteSize + 1)) path.root.utf8ByteSize - 1

def sizeLimit : Nat := 4096

def nameLimit : Nat := 255

end Path

inductive DiskNode where
  | file (content : List UInt8)
  | directory
  deriving DecidableEq, Repr

structure Disk where
  /-- Files and directories by the names from the root on. -/
  nodes : List (List String × DiskNode)
  current : List String
  deriving Repr

namespace Disk

/-- A directory is there when it is listed, or when something in it is. -/
def node? (disk : Disk) (names : List String) : Option DiskNode :=
  match disk.nodes.lookup names with
  | some node => some node
  | none =>
    if names.isEmpty || disk.nodes.any fun entry => names.isPrefixOf entry.1 then some .directory
    else none

/--
Follows names from a place on. Only a directory can be followed further, and only there the length
of a name matters. The parent of the root is the root.
-/
def follow (disk : Disk) : List String → List String → Except Fault (Option DiskNode)
  | place, [] => .ok (disk.node? place)
  | place, name :: rest =>
    match disk.node? place with
    | some .directory =>
      if name = ".." then disk.follow place.dropLast rest
      else if Path.nameLimit < name.utf8ByteSize then .error .pathTooLong
      else disk.follow (place ++ [name]) rest
    | _ => .ok none

/-- What a path leads to; nothing can be behind a path with a null character. -/
def find (disk : Disk) (path : Path) : Except Fault (Option DiskNode) :=
  if path.names.any (·.contains '\x00') then .ok none
  else if Path.sizeLimit ≤ path.size then .error .pathTooLong
  else disk.follow (if path.root.isEmpty then disk.current else []) path.names

end Disk

end HostLink
