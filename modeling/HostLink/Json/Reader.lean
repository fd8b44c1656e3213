import HostLink.Text.Numeral
import HostLink.Text.Point
import HostLink.Value.Basic

/-!
Values from JSON text. Beyond the standard, the words for the numbers that are not finite are read;
of a repeated name the last value counts, at the place of the first. A surrogate on its own is part
of a string like any character.
-/

namespace HostLink.Json

open Text

abbrev Source := List Point

def isSpace (p : Point) : Bool :=
  p == .char ' ' || p == .char '\t' || p == .char '\n' || p == .char '\r'

def skipSpace (s : Source) : Source :=
  s.dropWhile isSpace

def after? : List Char → Source → Option Source
  | [], s => some s
  | c :: word, p :: s => if p = .char c then after? word s else none
  | _ :: _, [] => none

/-! ### Strings -/

def shortEscape? (p : Point) : Option Char :=
  match p with
  | .char '"' => some '"'
  | .char '\\' => some '\\'
  | .char '/' => some '/'
  | .char 'b' => some '\x08'
  | .char 'f' => some '\x0c'
  | .char 'n' => some '\n'
  | .char 'r' => some '\r'
  | .char 't' => some '\t'
  | _ => none

def hexDigit? (p : Point) : Option Nat :=
  p.char?.bind asciiHexDigit?

def codeUnit? (a b c d : Point) : Option Nat :=
  match hexDigit? a, hexDigit? b, hexDigit? c, hexDigit? d with
  | some a, some b, some c, some d => some (positional 16 [a, b, c, d])
  | _, _, _, _ => none

/-- A code point as it stands in a string, or a code unit written by its number. -/
inductive Piece where
  | plain (p : Point)
  | unit (n : Nat)
  deriving DecidableEq, Repr

def push (piece : Piece) (read : Option (List Piece × Source)) : Option (List Piece × Source) :=
  read.map fun (pieces, after) => (piece :: pieces, after)

def isControl : Point → Bool
  | .char c => c.toNat < 0x20
  | .surrogate _ => false

def readPieces : Source → Option (List Piece × Source)
  | [] => none
  | .char '"' :: rest => some ([], rest)
  | .char '\\' :: rest =>
    match rest with
    | [] => none
    | .char 'u' :: a :: b :: c :: d :: rest =>
      match codeUnit? a b c d with
      | some n => push (.unit n) (readPieces rest)
      | none => none
    | e :: rest =>
      match shortEscape? e with
      | some c => push (.plain (.char c)) (readPieces rest)
      | none => none
  | p :: rest => if isControl p then none else push (.plain p) (readPieces rest)

def unitPoint (n : Nat) : Point :=
  (Point.ofNat? n).getD (.surrogate n)

/-- The text of pieces; a high surrogate and the low one after it are one character. -/
def joinPieces : List Piece → List Point
  | [] => []
  | .plain p :: rest => p :: joinPieces rest
  | .unit n :: rest =>
    match rest with
    | .unit m :: rest' =>
      if isHighSurrogate n && isLowSurrogate m then
        .char (joinSurrogates n m) :: joinPieces rest'
      else unitPoint n :: joinPieces (.unit m :: rest')
    | rest => unitPoint n :: joinPieces rest

def readString (s : Source) : Option (List Point × Source) :=
  (readPieces s).map fun (pieces, after) => (joinPieces pieces, after)

/-! ### Numbers -/

def digit? (p : Point) : Option Nat :=
  p.char?.bind asciiDigit?

def isDigit (p : Point) : Bool :=
  (digit? p).isSome

def splitDigits (s : Source) : List Nat × Source :=
  ((s.takeWhile isDigit).filterMap digit?, s.dropWhile isDigit)

/-- Digits without a leading zero, unless zero is the only one. -/
def readWhole : Source → Option (List Nat × Source)
  | [] => none
  | p :: rest =>
    match digit? p with
    | none => none
    | some 0 => some ([0], rest)
    | some _ => some (splitDigits (p :: rest))

/-- The digits after a point; a point without digits is not part of the number. -/
def readPart (s : Source) : List Nat × Source :=
  match s with
  | .char '.' :: rest =>
    match splitDigits rest with
    | ([], _) => ([], s)
    | found => found
  | _ => ([], s)

def splitSign : Source → Bool × Source
  | .char '-' :: rest => (true, rest)
  | .char '+' :: rest => (false, rest)
  | s => (false, s)

/-- The power of ten after `e`; without digits there is none. -/
def readPower (s : Source) : Option Int × Source :=
  match s with
  | p :: rest =>
    if p = .char 'e' ∨ p = .char 'E' then
      let (negative, body) := splitSign rest
      match splitDigits body with
      | ([], _) => (none, s)
      | (digits, after) => (some (applySign negative (positional 10 digits)), after)
    else (none, s)
  | [] => (none, s)

/-- A number, whole when it has neither point nor power. -/
def readNumber (negative : Bool) (s : Source) : Option (Value × Source) := do
  let (whole, rest) ← readWhole s
  let (part, rest) := readPart rest
  let (power, rest) := readPower rest
  if part.isEmpty && power.isNone then
    if whole.length ≤ decimalDigitLimit then
      pure (.int (applySign negative (positional 10 whole)), rest)
    else none
  else
    pure (.float (.ofDecimal negative (positional 10 (whole ++ part))
      (power.getD 0 - part.length)), rest)

/-! ### Values -/

def readAtom (s : Source) : Option (Value × Source) :=
  match s with
  | .char 'n' :: rest => (after? "ull".toList rest).map (.null, ·)
  | .char 't' :: rest => (after? "rue".toList rest).map (.bool true, ·)
  | .char 'f' :: rest => (after? "alse".toList rest).map (.bool false, ·)
  | .char 'N' :: rest => (after? "aN".toList rest).map (.float .nan, ·)
  | .char 'I' :: rest => (after? "nfinity".toList rest).map (.float (.infinite false), ·)
  | .char '-' :: rest =>
    match after? "Infinity".toList rest with
    | some after => some (.float (.infinite true), after)
    | none => readNumber true rest
  | s => readNumber false s

mutual

/-- A value at the front of a text, nested at most `fuel` deep counting items and fields. -/
def readValue : Nat → Source → Option (Value × Source)
  | 0, _ => none
  | fuel + 1, s =>
    match s with
    | .char '"' :: rest => (readString rest).map fun (ps, after) => (.ofPoints ps, after)
    | .char '[' :: rest =>
      match skipSpace rest with
      | .char ']' :: after => some (.list [], after)
      | rest => (readItems fuel rest).map fun (items, after) => (.list items, after)
    | .char '\x7b' :: rest =>
      match skipSpace rest with
      | .char '\x7d' :: after => some (.record [], after)
      | rest => (readFields fuel rest).map fun (fields, after) => (.ofFields fields, after)
    | s => readAtom s

def readItems : Nat → Source → Option (List Value × Source)
  | 0, _ => none
  | fuel + 1, s => do
    let (v, rest) ← readValue fuel s
    match skipSpace rest with
    | .char ']' :: after => pure ([v], after)
    | .char ',' :: rest =>
      let (items, after) ← readItems fuel (skipSpace rest)
      pure (v :: items, after)
    | _ => none

def readFields : Nat → Source → Option (List (FieldName × Value) × Source)
  | 0, _ => none
  | fuel + 1, s =>
    match s with
    | .char '"' :: rest => do
      let (name, rest) ← readString rest
      match skipSpace rest with
      | .char ':' :: rest =>
        let (v, rest) ← readValue fuel (skipSpace rest)
        let field := (FieldName.ofPoints name, v)
        match skipSpace rest with
        | .char '\x7d' :: after => pure ([field], after)
        | .char ',' :: rest =>
          let (fields, after) ← readFields fuel (skipSpace rest)
          pure (field :: fields, after)
        | _ => none
      | _ => none
    | _ => none

end

/-- Steps enough to read a text: a bracket takes one for itself and one for what it opens. -/
def steps (s : Source) : Nat :=
  2 * s.length + 1

def read (s : Source) : Option Value := do
  let (v, after) ← readValue (steps s) (skipSpace s)
  if (skipSpace after).isEmpty then pure v else none

end HostLink.Json
