import HostLink.Text.Encoding
import HostLink.Text.Quoted
import HostLink.Text.Search

/-!
Encodings by their names, and text as bytes in them.
-/

namespace HostLink.Text

inductive Charset where
  | ascii
  | latin1
  /-- All characters, with or without a mark of the byte order before them. -/
  | unicode (encoding : Encoding) (marked : Bool)
  deriving DecidableEq, Repr

namespace Charset

/-- The parts of a name in lower case with one mark between them; case and marks do not count. -/
def plainName (name : List Char) : String :=
  let isPart (c : Char) : Bool := c.isAlphanum || c = '.'
  let parts := pieces ['-'] (name.map fun c => if isPart c then c.toLower else '-')
  String.ofList (separatedBy ['_'] (parts.filter (· ≠ [])))

def utf8 : Charset := .unicode .utf8 false

def utf16 (order : ByteOrder) : Charset := .unicode (.utf16 order) false

def utf32 (order : ByteOrder) : Charset := .unicode (.utf32 order) false

def names : List (Charset × List String) :=
  [(utf8, ["utf_8", "u8", "utf", "utf8", "utf8_ucs2", "utf8_ucs4", "cp65001"]),
    (.unicode .utf8 true, ["utf_8_sig"]),
    (.ascii, ["ascii", "646", "ansi_x3.4_1968", "ansi_x3_4_1968", "ansi_x3.4_1986", "cp367", "csascii",
      "ibm367", "iso646_us", "iso_646.irv_1991", "iso_ir_6", "us", "us_ascii"]),
    (.latin1, ["latin_1", "8859", "cp819", "csisolatin1", "ibm819", "iso8859", "iso8859_1",
      "iso_8859_1", "iso_8859_1_1987", "iso_ir_100", "l1", "latin", "latin1"]),
    (.unicode (.utf16 .little) true, ["utf_16", "u16", "utf16"]),
    (utf16 .little, ["utf_16_le", "utf_16le", "unicodelittleunmarked"]),
    (utf16 .big, ["utf_16_be", "utf_16be", "unicodebigunmarked"]),
    (.unicode (.utf32 .little) true, ["utf_32", "u32", "utf32"]),
    (utf32 .little, ["utf_32_le", "utf_32le"]),
    (utf32 .big, ["utf_32_be", "utf_32be"])]

def ofName? (name : List Char) : Option Charset :=
  (names.find? fun entry => entry.2.contains (plainName name)).map (·.1)

/-! ### Units of bytes -/

def ordered (order : ByteOrder) (bytes : List UInt8) : List UInt8 :=
  match order with
  | .big => bytes
  | .little => bytes.reverse

def unitBytes16 (order : ByteOrder) (unit : Nat) : List UInt8 :=
  ordered order [UInt8.ofNat (unit / 0x100), UInt8.ofNat (unit % 0x100)]

def unitBytes32 (order : ByteOrder) (unit : Nat) : List UInt8 :=
  ordered order [0, UInt8.ofNat (unit / 0x10000), UInt8.ofNat (unit / 0x100 % 0x100),
    UInt8.ofNat (unit % 0x100)]

/-- A character beyond 16 bits is two surrogates. -/
def units16 (c : Char) : List Nat :=
  let n := c.toNat
  if n < 0x10000 then [n] else [0xd800 + (n - 0x10000) / 0x400, 0xdc00 + (n - 0x10000) % 0x400]

def unicodeBytes (encoding : Encoding) (s : List Char) : List UInt8 :=
  match encoding with
  | .utf8 => Utf8.encode s
  | .utf16 order => s.flatMap fun c => (units16 c).flatMap (unitBytes16 order)
  | .utf32 order => s.flatMap fun c => unitBytes32 order c.toNat

def mark : Char := '\ufeff'

/-! ### Writing -/

/-- The plain name of an encoding in single bytes, and how many codes it has. -/
def codes? : Charset → Option (String × Nat)
  | .ascii => some ("ascii", 0x80)
  | .latin1 => some ("latin-1", 0x100)
  | .unicode .. => none

def covers (charset : Charset) (c : Char) : Bool :=
  match charset.codes? with
  | some (_, limit) => c.toNat < limit
  | none => true

def encode : Charset → List Char → List UInt8
  | .unicode encoding marked, s => unicodeBytes encoding (if marked then mark :: s else s)
  | _, s => s.map fun c => UInt8.ofNat c.toNat

/-- What is wrong with a text that an encoding cannot write: the first characters without a code. -/
def complaint? (charset : Charset) (s : List Char) : Option (List Char) :=
  match charset.codes? with
  | none => none
  | some (name, limit) =>
    let start := (s.takeWhile charset.covers).length
    match (s.drop start).takeWhile fun c => !charset.covers c with
    | [] => none
    | c :: rest =>
      let place := if rest.isEmpty then
          " '".toList ++ codeEscape c.toNat ++ "' in position ".toList ++ decimal start
        else "s in position ".toList ++ decimal start ++ '-' :: decimal (start + rest.length)
      some ('\'' :: name.toList ++ "' codec can't encode character".toList ++ place ++
        ": ordinal not in range(".toList ++ decimal limit ++ [')'])

/-- What goes in place of a character without a code, by the name of the remedy. -/
def remedy? (name : String) : Option (Char → List Char) :=
  match name with
  | "ignore" => some fun _ => []
  | "replace" => some fun _ => ['?']
  | "backslashreplace" => some fun c => codeEscape c.toNat
  | "xmlcharrefreplace" => some fun c => '&' :: '#' :: decimal c.toNat ++ [';']
  | _ => none

/-! ### Reading -/

def charOfByte (b : UInt8) : Char :=
  Char.ofNat b.toNat

/-- The encoding that a mark tells, and what follows the mark. -/
def afterMark (encoding : Encoding) (bytes : List UInt8) : Encoding × List UInt8 :=
  let candidates : List Encoding := match encoding with
    | .utf8 => [.utf8]
    | .utf16 _ => [.utf16 .little, .utf16 .big]
    | .utf32 _ => [.utf32 .little, .utf32 .big]
  match candidates.find? fun e => (unicodeBytes e [mark]).isPrefixOf bytes with
  | some e => (e, bytes.drop (unicodeBytes e [mark]).length)
  | none => (encoding, bytes)

def decode? : Charset → List UInt8 → Option (List Char)
  | .ascii, bytes => if bytes.all (·.toNat < 0x80) then some (bytes.map charOfByte) else none
  | .latin1, bytes => some (bytes.map charOfByte)
  | .unicode encoding marked, bytes =>
    let (encoding, bytes) := if marked then afterMark encoding bytes else (encoding, bytes)
    match encoding with
    | .utf8 => Utf8.decode? bytes
    | encoding => (encoding.decode? bytes).bind chars?

end Charset

end HostLink.Text
