import HostLink.Text.Digit
import HostLink.Text.Point
import HostLink.Text.Printable

/-!
The quoted form of text and of byte strings. Single quotes enclose it unless the content has a
single quote and no double quote.
-/

namespace HostLink.Text

def quoteFor (content : List Char) : Char :=
  if content.contains '\'' && !content.contains '"' then '"' else '\''

/-- A character whose code has no letter of its own, by the shortest of three widths. -/
def codeEscape (n : Nat) : List Char :=
  if n < 0x100 then '\\' :: 'x' :: hexFixed 2 n
  else if n < 0x10000 then '\\' :: 'u' :: hexFixed 4 n
  else '\\' :: 'U' :: hexFixed 8 n

def quotedChar (quote c : Char) : List Char :=
  if c = quote ∨ c = '\\' then ['\\', c]
  else if c = '\n' then ['\\', 'n']
  else if c = '\r' then ['\\', 'r']
  else if c = '\t' then ['\\', 't']
  else if isPrintable c then [c]
  else codeEscape c.toNat

def quoted (content : List Char) : List Char :=
  let quote := quoteFor content
  quote :: content.flatMap (quotedChar quote) ++ [quote]

def asciiOnly (shown : List Char) : List Char :=
  shown.flatMap fun c => if c.toNat < 0x80 then [c] else codeEscape c.toNat

def quotedPoint (quote : Char) : Point → List Char
  | .char c => quotedChar quote c
  | .surrogate n => codeEscape n

def quotedPoints (content : List Point) : List Char :=
  let quote := quoteFor (content.map Point.shown)
  quote :: content.flatMap (quotedPoint quote) ++ [quote]

/-- A byte as the character of that code below 128; other bytes have no character. -/
def byteChar (b : UInt8) : Char :=
  if b.toNat < 0x80 then Char.ofNat b.toNat else '\uFFFD'

def quotedByte (quote : Char) (b : UInt8) : List Char :=
  if b.toNat < 0x80 then quotedChar quote (byteChar b) else codeEscape b.toNat

/-- Bytes are marked by a leading `b`. -/
def quotedBytes (content : List UInt8) : List Char :=
  let quote := quoteFor (content.map byteChar)
  'b' :: quote :: content.flatMap (quotedByte quote) ++ [quote]

/-- In a mutable buffer a single quote is escaped whichever quotes enclose it. -/
def quotedBufferByte (quote : Char) (b : UInt8) : List Char :=
  if byteChar b = '\'' then ['\\', '\''] else quotedByte quote b

def quotedBuffer (content : List UInt8) : List Char :=
  let quote := quoteFor (content.map byteChar)
  "bytearray(b".toList ++ quote :: content.flatMap (quotedBufferByte quote) ++ [quote, ')']

end HostLink.Text
