import HostLink.Config.Record
import HostLink.Disk
import HostLink.Text.Utf8
import HostLink.Toml.Document

/-!
Configuration files. Without a file the defaults hold.
-/

namespace HostLink.Config

def defaultFile : String := "snare.toml"

def ofContent (c : Coercion) (content : List UInt8) : Except Fault Config :=
  match Text.Utf8.decode? content with
  | none => .error .configIllFormed
  | some text => do
    let fields ← Toml.read text
    ofFields c fields

/-- The path that a value gives: an absent one stands for the default file. -/
def pathOf (v : Value) : Except Fault Path :=
  match v with
  | .text s => .ok (.ofText (if s.isEmpty then defaultFile else s))
  | v => if v.isPresent then .error .wrongKind else .ok (.ofText defaultFile)

def load (c : Coercion) (disk : Disk) (path : Value) : Except Fault Config := do
  let path ← pathOf path
  let node ← disk.find path
  match node with
  | none => .ok {}
  | some .directory => .error .configIsDirectory
  | some (.file content) => ofContent c content

end HostLink.Config
