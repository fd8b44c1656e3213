import HostLink.Text.Digit

/-!
Addresses of a 32-bit host. Numbers of any size and sign stand for an address by wrapping around at
2^32.
-/

namespace HostLink

structure Address where
  word : BitVec 32
  deriving DecidableEq, Repr

namespace Address

def ofInt (n : Int) : Address :=
  ⟨BitVec.ofInt 32 n⟩

/-- The address that a run of digits stands for, most significant first. -/
def ofDigits (base : Nat) (digits : List Nat) : Address :=
  ⟨digits.foldl (fun w d => w * BitVec.ofNat 32 base + BitVec.ofNat 32 d) 0⟩

def zero : Address :=
  ⟨0⟩

def toNat (a : Address) : Nat :=
  a.word.toNat

def add (a : Address) (offset : Int) : Address :=
  ⟨a.word + BitVec.ofInt 32 offset⟩

def negate (a : Address) : Address :=
  ⟨-a.word⟩

def isZero (a : Address) : Bool :=
  a.word == 0

/-- Lower case hexadecimal after `0x`. -/
def text (a : Address) : List Char :=
  '0' :: 'x' :: Text.hex a.toNat

def toText (a : Address) : String :=
  String.ofList a.text

end Address

end HostLink
