import HostLink.Callbacks
import HostLink.Number.Reading
import HostLink.Text.Charset
import HostLink.Value.Number

/-!
Values of a kind, made from other values.
-/

namespace HostLink

open Text

namespace Value

def characters (s : List Char) : List Value :=
  s.map fun c => .text (String.ofList [c])

def readFloat (s : String) : Except Fault Value :=
  match Double.ofNumeral? s.toList with
  | some x => .ok (.float x)
  | none => .error (.raised .badValue
      [.text (String.ofList ("could not convert string to float: ".toList ++ quoted s.toList))])

def readDecimal (s : String) : Except Fault Value :=
  match Decimal.ofText? s with
  | some d => .ok (.decimal d)
  | none => .error (.raised .malformedDecimal [.text "[<class 'decimal.ConversionSyntax'>]"])

def readFraction (s : String) : Except Fault Value :=
  match Fraction.ofText? s.toList with
  | none => .error (.raised .badValue
      [.text (String.ofList ("Invalid literal for Fraction: ".toList ++ quoted s.toList))])
  | some (num, den) =>
    if den = 0 then .error (.raised .divisionByZero
      [.text (String.ofList ("Fraction(".toList ++ decimalInt num ++ ", 0)".toList))])
    else
      let ratio := Fraction.reduced num den
      .ok (.fraction ratio.num ratio.den)

def charsetOf (name : String) : Except Fault Charset :=
  match Charset.ofName? name.toList with
  | some charset => .ok charset
  | none => .error (.raised .unknownEncoding [.text ("unknown encoding: " ++ name)])

def unknownRemedy (name : String) : Fault :=
  .raised .unknownEncoding
    [.text (String.ofList ("unknown error handler name ".toList ++ quoted name.toList))]

/-- Text in an encoding; the remedy is for characters that have no code in it. -/
def encoded (s name remedy : String) : Except Fault (List UInt8) :=
  (charsetOf name).bind fun charset =>
    match charset.complaint? s.toList, Charset.remedy? remedy with
    | none, _ => .ok (charset.encode s.toList)
    | some _, some mend =>
      .ok (charset.encode (s.toList.flatMap fun c => if charset.covers c then [c] else mend c))
    | some complaint, none =>
      if remedy = "strict" then .error (.raised .unencodable [.text (String.ofList complaint)])
      else .error (unknownRemedy remedy)

/-- The text of bytes in an encoding; no bytes are no text in any. -/
def decoded (bytes : List UInt8) (name remedy : String) : Except Fault Value :=
  if bytes.isEmpty then .ok (.text "")
  else (charsetOf name).bind fun charset =>
    match charset.decode? bytes with
    | some s => .ok (.text (String.ofList s))
    | none =>
      if remedy = "strict" then .error (.raised .illFormedText [])
      else if remedy = "replace" ∧ charset = Charset.utf8 then
        .ok (.text (String.ofList (Utf8.decodeLossy bytes)))
      else .error (unknownRemedy remedy)

end Value

def Kind.fullName : Kind → String
  | .decimal => "decimal.Decimal"
  | .fraction => "fractions.Fraction"
  | kind => kind.name

def Kind.shown (kind : Kind) : Value :=
  .sealed ("<class '" ++ Kind.fullName kind ++ "'>")

/-- The characters of a text are no pairs of names and values. -/
def Value.notPairs : Fault :=
  .raised .badValue [.text "dictionary update sequence element #0 has length 1; 2 is required"]

/-- The value of a kind that is made from others; a kind refuses what it has no use for. -/
def Kind.make (kind : Kind) (args : List Value) : Except Fault Value :=
  match kind, args with
  | .bool, [v] => .ok (.bool v.isPresent)
  | .int, [v] => v.toInt.map .int
  | .float, [.text s] => Value.readFloat s
  | .text, [v] => v.toText.map .text
  | .text, [] => .ok (.text "")
  | .text, [.bytes bs, .text name] | .text, [.buffer bs, .text name] =>
    Value.decoded bs name "strict"
  | .bytes, [.text s, .text name] => (Value.encoded s name "strict").map .bytes
  | .buffer, [.text s, .text name] => (Value.encoded s name "strict").map .buffer
  | .list, [.text s] => .ok (.list (Value.characters s.toList))
  | .group, [.text s] => .ok (.group (Value.characters s.toList))
  | .record, [.text ""] => .ok (.record [])
  | .record, [.text _] => .error Value.notPairs
  | .address, [v] => (Address.ofValue v).map .address
  | .ordinal, [v] => v.toText.map fun s => .sealed ("Index(" ++ s ++ ")")
  | .decimal, [.text s] => Value.readDecimal s
  | .fraction, [.text s] => Value.readFraction s
  | .callbacks, [enter] => (Callbacks.make enter .null).map .callbacks
  | .callbacks, [enter, leave] => (Callbacks.make enter leave).map .callbacks
  | .sealed, [v] => v.toText.map .sealed
  | _, _ => .error .wrongKind

end HostLink
