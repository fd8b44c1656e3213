/-!
Text that may be ill formed: code points, of which some are surrogates on their own.
-/

namespace HostLink.Text

def isHighSurrogate (n : Nat) : Bool :=
  0xd800 ≤ n && n ≤ 0xdbff

def isLowSurrogate (n : Nat) : Bool :=
  0xdc00 ≤ n && n ≤ 0xdfff

/-- The character that a high and a low surrogate stand for. -/
def joinSurrogates (high low : Nat) : Char :=
  Char.ofNat (0x10000 + (high - 0xd800) * 0x400 + (low - 0xdc00))

def scalar? (n : Nat) : Option Char :=
  if n.isValidChar then some (Char.ofNat n) else none

inductive Point where
  | char (c : Char)
  /-- A surrogate without its other half. -/
  | surrogate (n : Nat)
  deriving DecidableEq, Repr

namespace Point

def code : Point → Nat
  | .char c => c.toNat
  | .surrogate n => n

instance : Hashable Point where
  hash p := UInt64.ofNat p.code

def char? : Point → Option Char
  | .char c => some c
  | .surrogate _ => none

def ofNat? (n : Nat) : Option Point :=
  if isHighSurrogate n || isLowSurrogate n then some (.surrogate n) else (scalar? n).map .char

/-- A character to stand for a surrogate where text has to be well formed. -/
def shown : Point → Char
  | .char c => c
  | .surrogate _ => '\uFFFD'

end Point

def points (s : List Char) : List Point :=
  s.map .char

def chars? (ps : List Point) : Option (List Char) :=
  ps.mapM Point.char?

end HostLink.Text
