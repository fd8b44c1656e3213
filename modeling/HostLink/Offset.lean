import HostLink.Value.Number

/-!
Offsets as text. An offset is `0x` and hexadecimal digits, or decimal digits after an optional sign;
any other text counts as zero.
-/

namespace HostLink.Offset

open Text

/-- The digits after `0x`, where there is one at least and nothing else. -/
def hexDigits? : List Char → Option (List Char)
  | '0' :: x :: digits =>
    if (x = 'x' ∨ x = 'X') ∧ digits ≠ [] ∧ digits.all isAsciiHexDigit then some digits else none
  | _ => none

def isDecimal (s : List Char) : Bool :=
  let digits := (splitSign s).2
  !digits.isEmpty && digits.all isAsciiDigit

def ofHexDigits (digits : List Char) : Address :=
  .ofDigits 16 (digits.filterMap asciiHexDigit?)

def ofTrimmed (s : List Char) : Except Fault Address :=
  match hexDigits? s with
  | some digits => .ok (ofHexDigits digits)
  | none =>
    if isDecimal s then
      (readNumeral .ten (.text (String.ofList s)) s).map (Address.ofNumeral .ten)
    else .ok .zero

def parse (text : String) : Except Fault Address :=
  ofTrimmed (trimmed text)

/-- The offset of a value: text is read, where a surrogate on its own is no digit, and all that
counts as absent is zero. -/
def ofValue (v : Value) : Except Fault Address :=
  match v with
  | .text s => parse s
  | .ragged _ => .ok .zero
  | v =>
    if !v.isPresent then .ok .zero
    else
      match v with
      | .bytes _ | .buffer _ => .error .notANumber
      | _ => .error .notText

end HostLink.Offset
