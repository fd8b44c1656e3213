import HostLink.Callbacks
import HostLink.Number.DecimalLayout
import HostLink.Number.Layout

/-!
Values laid out as text, and text with places into which values are put: `{}` with a layout, and
`%` with a conversion.
-/

namespace HostLink

open Text

def malformedText (message : String) : Fault :=
  .raised .badValue [.text message]

namespace Value

def layoutOf (v : Value) (spec : List Char) : Except Fault Layout :=
  match Layout.read? spec with
  | some l => .ok l
  | none => .error (malformedText (String.ofList ("Invalid format specifier '".toList ++ spec ++
      "' for object of type '".toList ++ v.kindName.toList ++ ['\''])))

def orRefused (text : Option (List Char)) : Except Fault (List Char) :=
  match text with
  | some s => .ok s
  | none => .error (malformedText "Invalid format specifier")

def wholeLaidOut (l : Layout) (n : Int) : Except Fault (List Char) :=
  if l.isCode && (n < 0 || 0x10ffff < n) then .error .infiniteNumber
  else if Layout.isWholeForm l.form then orRefused (l.whole? n)
  else
    match Double.ofInt n with
    | .finite negative significand exponent =>
      orRefused (Double.laidOut? l (.finite negative significand exponent))
    | _ => .error .infiniteNumber

/-- A value laid out. Without a layout any value is shown as its text. -/
def laidOut (v : Value) (spec : List Char) : Except Fault (List Char) :=
  if spec.isEmpty then v.toText.map String.toList
  else
    match v with
    | .text s => (layoutOf v spec).bind fun l => orRefused (l.text? s.toList)
    | .bool b => (layoutOf v spec).bind fun l => wholeLaidOut l (if b then 1 else 0)
    | .int n => (layoutOf v spec).bind fun l => wholeLaidOut l n
    | .float x => (layoutOf v spec).bind fun l => orRefused (x.laidOut? l)
    | .decimal d =>
      match (Layout.read? spec).bind (Decimal.laidOut? · d) with
      | some s => .ok s
      | none => .error (malformedText "invalid format string")
    | _ => .error .wrongKind

def quotedText (v : Value) : Except Fault (List Char) :=
  match v.quoted? with
  | some s => .ok s
  | none => .error .numberTooLong

end Value

/-! ### Text with places in braces -/

/-- The arguments, and the next of them where places do not say which one they are for. -/
structure Supply where
  args : List Value
  /-- Whether there is only a text to look names up in, which has none. -/
  nameless : Bool := false
  next : Nat := 0
  /-- A place has said which argument it is for. -/
  numbered : Bool := false

namespace Supply

def take (s : Supply) : Except Fault (Value × Supply) :=
  if s.numbered then
    .error (malformedText
      "cannot switch from manual field specification to automatic field numbering")
  else
    match s.args[s.next]? with
    | some v => .ok (v, { s with next := s.next + 1 })
    | none => .error .indexOutOfRange

def get (s : Supply) (index : Nat) : Except Fault (Value × Supply) :=
  if 0 < s.next then
    .error (malformedText
      "cannot switch from automatic field numbering to manual field specification")
  else
    match s.args[index]? with
    | some v => .ok (v, { s with numbered := true })
    | none => .error .indexOutOfRange

def isNumber (name : List Char) : Bool :=
  name.all fun c => (decimalDigit? c).isSome

def named (s : Supply) (name : List Char) : Except Fault (Value × Supply) :=
  if s.nameless then
    .error (if isNumber name then malformedText "Format string contains positional fields"
      else .wrongKind)
  else if name.isEmpty then s.take
  else if isNumber name then s.get (positional 10 (name.filterMap decimalDigit?))
  else .error (.raised .missingKey [.text (String.ofList name)])

def item (v : Value) (key : List Char) : Except Fault Value :=
  let index := positional 10 (key.filterMap decimalDigit?)
  if key.isEmpty then .error (malformedText "Empty attribute in format string")
  else if !isNumber key then .error .wrongKind
  else
    match v with
    | .text s =>
      match s.toList[index]? with
      | some c => .ok (.text (String.ofList [c]))
      | none => .error .indexOutOfRange
    | .list items | .group items =>
      match items[index]? with
      | some v => .ok v
      | none => .error .indexOutOfRange
    | _ => .error .wrongKind

/-- Follows at most `fuel` keys in brackets into a value. -/
def follow : Nat → List Char → Value → Except Fault Value
  | fuel + 1, '[' :: rest, v =>
    let key := rest.takeWhile (· ≠ ']')
    match rest.drop key.length with
    | [] => .error (malformedText "Missing ']' in format string")
    | _ :: rest => (item v key).bind (follow fuel rest)
  | _, [], v => .ok v
  | _, ['.'], _ => .error (malformedText "Empty attribute in format string")
  | _, '.' :: _, _ => .error .notText
  | _, _, _ => .error (malformedText "Only '.' or '[' may follow ']' in format field specifier")

def find (s : Supply) (field : List Char) : Except Fault (Value × Supply) := do
  let name := field.takeWhile fun c => c ≠ '.' ∧ c ≠ '['
  let (v, s) ← s.named name
  let v ← follow field.length (field.drop name.length) v
  pure (v, s)

end Supply

namespace Places

/-- The text up to the brace that closes a place, and what follows it. -/
def span? (depth : Nat) : List Char → Option (List Char × List Char)
  | [] => none
  | c :: rest =>
    if c = '\x7b' then (span? (depth + 1) rest).map fun (s, after) => (c :: s, after)
    else if c = '\x7d' then
      match depth with
      | 0 => some ([], rest)
      | depth + 1 => (span? depth rest).map fun (s, after) => (c :: s, after)
    else (span? depth rest).map fun (s, after) => (c :: s, after)

/-- The length of the name in a place; keys in brackets are passed over. -/
def nameLength : Bool → List Char → Nat
  | _, [] => 0
  | inside, c :: rest =>
    if !inside && (c == '!' || c == ':') then 0
    else nameLength (if c = '[' then true else if c = ']' then false else inside) rest + 1

def split (place : List Char) : List Char × List Char × List Char :=
  let name := place.take (nameLength false place)
  match place.drop name.length with
  | '!' :: rest =>
    (name, rest.takeWhile (· ≠ ':'), (rest.dropWhile (· ≠ ':')).drop 1)
  | rest => (name, [], rest.drop 1)

def converted (conversion : List Char) (isMarked : Bool) (v : Value) : Except Fault Value :=
  if !isMarked then .ok v
  else
    match conversion with
    | ['s'] => v.toText.map .text
    | ['r'] => v.quotedText.map fun s => .text (String.ofList s)
    | ['a'] => v.quotedText.map fun s => .text (String.ofList (asciiOnly s))
    | _ => .error (malformedText "Unknown conversion specifier")

/-- Fills the places of a text, at most `fuel`; a layout may itself hold places. -/
def fill : Nat → Bool → Supply → List Char → Except Fault (List Char × Supply)
  | 0, _, s, _ => .ok ([], s)
  | _ + 1, _, s, [] => .ok ([], s)
  | fuel + 1, nested, s, c :: rest => do
    let push (part rest : List Char) (s : Supply) : Except Fault (List Char × Supply) := do
      let (text, s) ← fill fuel nested s rest
      pure (part ++ text, s)
    if c = '\x7b' then
      match rest with
      | '\x7b' :: rest => push ['\x7b'] rest s
      | rest =>
        match span? 0 rest with
        | none => throw (malformedText "Single '\x7b' encountered in format string")
        | some (place, rest) => do
          let (name, conversion, spec) := split place
          let (v, s) ← s.find name
          let v ← converted conversion (place.contains '!' && name.length < place.length &&
            place[name.length]? == some '!') v
          let (spec, s) ← if spec.contains '\x7b' then
              (if nested then throw (malformedText "Max string recursion exceeded")
                else fill fuel true s spec)
            else pure (spec, s)
          let part ← v.laidOut spec
          push part rest s
    else if c = '\x7d' then
      match rest with
      | '\x7d' :: rest => push ['\x7d'] rest s
      | _ => throw (malformedText "Single '\x7d' encountered in format string")
    else push [c] rest s

end Places

def filledIn (s : List Char) (args : List Value) : Except Fault (List Char) :=
  (Places.fill (s.length + 1) false { args := args } s).map (·.1)

/-- A text without places, which a text cannot fill. -/
def mapped (s : List Char) : Except Fault (List Char) :=
  (Places.fill (s.length + 1) false { args := [], nameless := true } s).map (·.1)

/-! ### Text with conversions -/

namespace Conversions

structure Spec where
  left : Bool
  width : Nat
  precision : Option Nat
  conversion : Char

def isFlag (c : Char) : Bool :=
  ['-', '+', ' ', '#', '0'].contains c

/-- What stands after a percent sign; lengths of numbers are passed over. -/
def readSpec? (s : List Char) : Option (Spec × List Char) :=
  let flags := s.takeWhile isFlag
  let s := s.dropWhile isFlag
  let width := s.takeWhile isAsciiDigit
  let s := s.dropWhile isAsciiDigit
  let (precision, s) := match s with
    | '.' :: rest => (some (rest.takeWhile isAsciiDigit), rest.dropWhile isAsciiDigit)
    | s => (none, s)
  let number (digits : List Char) := positional 10 (digits.filterMap asciiDigit?)
  match s.dropWhile (['h', 'l', 'L'].contains ·) with
  | c :: rest => some (⟨flags.contains '-', number width, precision.map number, c⟩, rest)
  | [] => none

def show? (spec : Spec) (v : Value) : Except Fault (List Char) := do
  let text ← match spec.conversion with
    | 's' => v.toText.map String.toList
    | 'r' => v.quotedText
    | 'a' => v.quotedText.map asciiOnly
    | 'c' =>
      match v with
      | .text s => if s.length = 1 then pure s.toList else throw Fault.wrongKind
      | _ => throw Fault.wrongKind
    | '*' | '(' | 'd' | 'i' | 'u' | 'o' | 'x' | 'X' | 'e' | 'E' | 'f' | 'F' | 'g' | 'G' =>
      throw Fault.wrongKind
    | _ => throw (malformedText "unsupported format character")
  let text := match spec.precision with
    | some n => if spec.conversion = 'c' then text else text.take n
    | none => text
  let missing := List.replicate (spec.width - text.length) ' '
  pure (if spec.left then text ++ missing else missing ++ text)

def put : Nat → Option Value → List Char → Except Fault (List Char × Option Value)
  | 0, v, _ => .ok ([], v)
  | _ + 1, v, [] => .ok ([], v)
  | fuel + 1, v, c :: rest => do
    if c ≠ '%' then do
      let (text, v) ← put fuel v rest
      pure (c :: text, v)
    else if rest.head? = some '%' then do
      let (text, v) ← put fuel v (rest.drop 1)
      pure ('%' :: text, v)
    else
      match readSpec? rest, v with
      | none, _ => throw (malformedText "incomplete format")
      | some _, none => throw Fault.wrongKind
      | some (spec, rest), some v => do
        let part ← show? spec v
        let (text, v) ← put fuel none rest
        pure (part ++ text, v)

end Conversions

def converted (s : List Char) (v : Value) : Except Fault (List Char) := do
  let (text, left) ← Conversions.put (s.length + 1) (some v) s
  if left.isSome then .error .wrongKind else pure text

end HostLink
