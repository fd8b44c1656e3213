import HostLink.Text.Utf8

/-!
Byte strings whose encoding is found from a leading byte order mark, or else from where their first
bytes are zero.
-/

namespace HostLink.Text

inductive ByteOrder where
  | big
  | little
  deriving DecidableEq, Repr

inductive Encoding where
  | utf8
  | utf16 (order : ByteOrder)
  | utf32 (order : ByteOrder)
  deriving DecidableEq, Repr

namespace Encoding

def ofZeros : List UInt8 → Encoding
  | a :: b :: c :: d :: _ =>
    if a = 0 then if b = 0 then .utf32 .big else .utf16 .big
    else if b = 0 then if c = 0 ∧ d = 0 then .utf32 .little else .utf16 .little
    else .utf8
  | [a, b] => if a = 0 then .utf16 .big else if b = 0 then .utf16 .little else .utf8
  | _ => .utf8

def detect : List UInt8 → Encoding × List UInt8
  | 0x00 :: 0x00 :: 0xfe :: 0xff :: rest => (.utf32 .big, rest)
  | 0xff :: 0xfe :: 0x00 :: 0x00 :: rest => (.utf32 .little, rest)
  | 0xfe :: 0xff :: rest => (.utf16 .big, rest)
  | 0xff :: 0xfe :: rest => (.utf16 .little, rest)
  | 0xef :: 0xbb :: 0xbf :: rest => (.utf8, rest)
  | bytes => (ofZeros bytes, bytes)

def units16? (order : ByteOrder) : List UInt8 → Option (List Nat)
  | [] => some []
  | [_] => none
  | a :: b :: rest =>
    let unit := match order with
      | .big => a.toNat * 0x100 + b.toNat
      | .little => b.toNat * 0x100 + a.toNat
    (units16? order rest).map (unit :: ·)

/-- A high surrogate and the low one after it are one character. -/
def decodeUnits16? : List Nat → Option (List Point)
  | [] => some []
  | [u] => (Point.ofNat? u).map ([·])
  | u :: v :: rest =>
    if isHighSurrogate u && isLowSurrogate v then
      (decodeUnits16? rest).map (.char (joinSurrogates u v) :: ·)
    else do
      let p ← Point.ofNat? u
      (decodeUnits16? (v :: rest)).map (p :: ·)

def decode32? (order : ByteOrder) : List UInt8 → Option (List Point)
  | [] => some []
  | a :: b :: c :: d :: rest => do
    let unit := match order with
      | .big => ((a.toNat * 0x100 + b.toNat) * 0x100 + c.toNat) * 0x100 + d.toNat
      | .little => ((d.toNat * 0x100 + c.toNat) * 0x100 + b.toNat) * 0x100 + a.toNat
    let p ← Point.ofNat? unit
    (decode32? order rest).map (p :: ·)
  | _ => none

def decode? : Encoding → List UInt8 → Option (List Point)
  | .utf8, bytes => Utf8.decodePoints? bytes
  | .utf16 order, bytes => (units16? order bytes).bind decodeUnits16?
  | .utf32 order, bytes => decode32? order bytes

/-- The text of bytes in whichever encoding they are found to be; surrogates are let through. -/
def decodeDetected? (bytes : List UInt8) : Option (List Point) :=
  let (encoding, rest) := detect bytes
  encoding.decode? rest

end Encoding

end HostLink.Text
