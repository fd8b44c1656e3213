import HostLink.Callbacks
import HostLink.Json.Nesting
import HostLink.Text.Encoding
import HostLink.Value.Number

/-!
Answers of the host. An answer that is a JSON object says by its field `ok` whether the request
succeeded; any other answer is a failure whose error is the answer itself. Decoding takes the stack
to be deep enough, and `overflow?` says when it is not.
-/

namespace HostLink

structure Response where
  ok : Bool
  /-- All fields of the answer, `ok` among them. -/
  payload : List (FieldName × Value)
  /-- Nothing when the request succeeded. -/
  error : Value
  raw : Value

namespace Response

open Text

def unknownError : Value :=
  .text "unknown"

/-- The text of an answer; bytes are read in the encoding that they show. -/
def rawText? : Value → Option (List Point)
  | .text s =>
    match s.toList with
    | '\uFEFF' :: _ => none
    | cs => some (points cs)
  | .ragged ps => some ps
  | .bytes bs | .buffer bs => Encoding.decodeDetected? bs
  | _ => none

def object? (raw : Value) : Option (List (FieldName × Value)) :=
  match (rawText? raw).bind Json.read with
  | some (.record fields) => some fields
  | _ => none

/--
Where an answer goes deeper than there are levels of the stack. The fields of an object that is read
on so many levels can be shown on as many, so that this is the only place where they run out.
-/
def overflow? (levels : Nat) (raw : Value) : Option Descent :=
  (rawText? raw).bind (Json.overflow? levels)

def orUnknown (v : Value) : Value :=
  if v.isPresent then v else unknownError

def get? (r : Response) (name : FieldName) : Option Value :=
  Value.field? name r.payload

/-- Only the literal `true` reports success. -/
def ofObject (fields : List (FieldName × Value)) (raw : Value) : Except Fault Response :=
  match Value.field? "ok" fields with
  | some (.bool true) => .ok ⟨true, fields, .null, raw⟩
  | _ =>
    let error := (Value.field? "error" fields).getD .null
    if error.isPresent then error.toText.map fun s => ⟨false, fields, .text s, raw⟩
    else .ok ⟨false, fields, unknownError, raw⟩

def ofUndecodable (raw : Value) : Response :=
  ⟨false, [], orUnknown raw, raw⟩

def undecodable (raw : Value) : Fault :=
  match raw.quoted? with
  | some _ => .undecodableResponse raw
  | none => .numberTooLong

def decodeStrict (raw : Value) : Except Fault Response :=
  match object? raw with
  | some fields => ofObject fields raw
  | none => .error (undecodable raw)

/-- Takes an answer that is no JSON object as a failed response instead of a fault. -/
def decode (raw : Value) : Except Fault Response :=
  match object? raw with
  | some fields => ofObject fields raw
  | none =>
    match undecodable raw with
    | .undecodableResponse _ => .ok (ofUndecodable raw)
    | fault => .error fault

def reason (r : Response) : Except Fault String :=
  (orUnknown r.error).toText

end Response

namespace Address

/-- A pointer in an answer: a number, or any value whose text is base sixteen. -/
def ofPointer? : Value → Option Address
  | .null | .bool _ => none
  | .int n => some (.ofInt n)
  | v => (v.toText.bind ofText).toOption

end Address

end HostLink
