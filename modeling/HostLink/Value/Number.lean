import HostLink.Fault

/-!
Values read as whole numbers.
-/

namespace HostLink

open Text

def byteChars (bs : List UInt8) : List Char :=
  bs.map byteChar

def readNumeral (radix : Radix) (source : Value) (s : List Char) : Except Fault Numeral :=
  match Numeral.read radix s with
  | .ok n => .ok n
  | .error .malformed => .error (.malformedNumeral radix source)
  | .error (.tooManyDigits count) => .error (.numeralTooLong count)

namespace Value

/-- The whole number that a value converts to: fractions lose their part after the point. -/
def toInt : Value → Except Fault Int
  | .bool b => .ok (if b then 1 else 0)
  | .int n => .ok n
  | .address a => .ok a.toNat
  | .ordinal n => .ok n
  | .float .nan => .error .floatNotANumber
  | .float (.infinite _) => .error .infiniteNumber
  | .float (.finite negative significand exponent) =>
    .ok (Double.truncate negative significand exponent)
  | .decimal (.nan ..) => .error .decimalNotANumber
  | .decimal (.infinite _) => .error .infiniteNumber
  | .decimal (.finite negative coefficient exponent) =>
    .ok (Decimal.truncate negative coefficient exponent)
  | .fraction num den => .ok (num.tdiv den)
  | .text s => (readNumeral .ten (.text s) s.toList).map (Numeral.toInt .ten)
  | .bytes bs | .buffer bs =>
    (readNumeral .ten (.bytes bs) (byteChars bs)).map (Numeral.toInt .ten)
  | .ragged ps => .error (.malformedNumeral .ten (.ragged ps))
  | .null | .list _ | .group _ | .record _ | .callbacks _ | .sealed _ | .failure .. =>
    .error .notANumber

end Value

namespace Address

def ofValue (v : Value) : Except Fault Address :=
  v.toInt.map ofInt

/-- The address `offset` further on, for any value that converts to a whole number. -/
def addValue (a : Address) (offset : Value) : Except Fault Address :=
  offset.toInt.map a.add

/-- Addition as an operator: it takes whole numbers and nothing that merely converts to one. -/
def plus (a : Address) : Value → Except Fault Address
  | .int n => .ok (a.add n)
  | _ => .error .refusedOperand

def ofNumeral (radix : Radix) (n : Numeral) : Address :=
  let a := ofDigits radix.toNat n.digits
  if n.negative then a.negate else a

/-- Reads base sixteen text; blank around it, a sign, a mark and underscores are accepted. -/
def ofText (s : String) : Except Fault Address :=
  let body := trimmed s
  (readNumeral .sixteen (.text (String.ofList body)) body).map (ofNumeral .sixteen)

def isAsciiBlank (b : UInt8) : Bool :=
  isPadding (byteChar b)

def isBlankPoint (p : Point) : Bool :=
  p.char?.any isBlank

/-- Reads base sixteen text or bytes; a surrogate on its own is no digit. -/
def parse : Value → Except Fault Address
  | .text s => ofText s
  | .ragged ps =>
    let body := ((ps.dropWhile isBlankPoint).reverse.dropWhile isBlankPoint).reverse
    .error (.malformedNumeral .sixteen (.ofPoints body))
  | .bytes bs | .buffer bs =>
    let body := ((bs.dropWhile isAsciiBlank).reverse.dropWhile isAsciiBlank).reverse
    (readNumeral .sixteen (.bytes body) (byteChars body)).map (ofNumeral .sixteen)
  | _ => .error .notText

end Address

end HostLink
