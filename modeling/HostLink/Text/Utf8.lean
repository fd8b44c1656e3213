import HostLink.Text.Point

/-!
UTF-8 as a machine that takes a byte at a time. What is ill formed is reported once for each longest
part that could have begun a character. Surrogates are ill formed unless they are let through.
-/

namespace HostLink.Text.Utf8

/-- Between characters, or inside one: its value so far, the bytes still missing, and the range of
the next byte. -/
inductive Pending where
  | ready
  | inside (value missing low high : Nat)
  deriving DecidableEq, Repr

/-- A decoded code point, or nothing for an ill formed part. -/
abbrev Item := Option Nat

/-- The greatest second byte after a first byte of three; a smaller one shuts out surrogates. -/
def lastAfter (surrogates : Bool) (b : Nat) : Nat :=
  if b = 0xed ∧ !surrogates then 0x9f else 0xbf

def begin (surrogates : Bool) (b : Nat) : List Item × Pending :=
  if b < 0x80 then ([some b], .ready)
  else if b < 0xc2 then ([none], .ready)
  else if b < 0xe0 then ([], .inside (b - 0xc0) 1 0x80 0xbf)
  else if b < 0xf0 then
    ([], .inside (b - 0xe0) 2 (if b = 0xe0 then 0xa0 else 0x80) (lastAfter surrogates b))
  else if b < 0xf5 then
    ([], .inside (b - 0xf0) 3 (if b = 0xf0 then 0x90 else 0x80) (if b = 0xf4 then 0x8f else 0xbf))
  else ([none], .ready)

def step (surrogates : Bool) : Pending → Nat → List Item × Pending
  | .ready, b => begin surrogates b
  | .inside value missing low high, b =>
    if low ≤ b ∧ b ≤ high then
      let value := value * 64 + (b - 0x80)
      if missing ≤ 1 then ([some value], .ready)
      else ([], .inside value (missing - 1) 0x80 0xbf)
    else
      let (items, pending) := begin surrogates b
      (none :: items, pending)

def finish : Pending → List Item
  | .ready => []
  | .inside .. => [none]

def items (surrogates : Bool) : Pending → List UInt8 → List Item
  | pending, [] => finish pending
  | pending, b :: rest =>
    let (found, pending) := step surrogates pending b.toNat
    found ++ items surrogates pending rest

/-- Ill formed parts become U+FFFD. -/
def decodeLossy (bytes : List UInt8) : List Char :=
  (items false .ready bytes).map fun item => (item.bind scalar?).getD '\uFFFD'

def decode? (bytes : List UInt8) : Option (List Char) :=
  (items false .ready bytes).mapM fun item => item.bind scalar?

/-- Decodes text in which surrogates may be encoded like characters. -/
def decodePoints? (bytes : List UInt8) : Option (List Point) :=
  (items true .ready bytes).mapM fun item => item.bind Point.ofNat?

def encode (text : List Char) : List UInt8 :=
  text.flatMap String.utf8EncodeChar

end HostLink.Text.Utf8
