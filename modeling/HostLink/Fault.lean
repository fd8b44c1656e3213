import HostLink.Config.Issue
import HostLink.Settings
import HostLink.Value.Text

/-!
Why an operation fails: the causes, the kinds that callers tell apart, and the message of each.
-/

namespace HostLink

inductive FaultKind where
  | general
  /-- A failure of this library without a closer description. -/
  | library
  | unsupportedSpec
  | noEntryPoint
  | evaluationFailed
  | undecodableResponse
  | installFailed
  | scanFailed
  | badValue
  | badType
  | runtime
  /-- Too many calls within each other. -/
  | recursion
  | missingKey
  | system
  | divisionByZero
  | overflow
  | noAttribute
  | badIndex
  /-- A name that no encoding has. -/
  | unknownEncoding
  | malformedDecimal
  /-- A change of what cannot change. -/
  | frozen
  | isDirectory
  | illFormedText
  | unencodable
  | malformedConfig
  | invalidConfig
  deriving DecidableEq, Repr

inductive FaultFamily where
  | library
  | badValue
  | runtime
  deriving DecidableEq, Repr

def FaultKind.families : FaultKind → List FaultFamily
  | .library | .installFailed | .scanFailed => [.library]
  | .unsupportedSpec | .undecodableResponse => [.library, .badValue]
  | .noEntryPoint | .evaluationFailed => [.library, .runtime]
  | .badValue | .illFormedText | .unencodable | .malformedConfig | .invalidConfig => [.badValue]
  | .runtime | .recursion => [.runtime]
  | _ => []

/-- What takes a level of the stack for every value that lies within another. -/
inductive Descent where
  | readingList
  | readingRecord
  | showing
  deriving DecidableEq, Repr

inductive Fault where
  /-- Raised by a host or an observer, with these arguments. -/
  | raised (kind : FaultKind) (args : List Value)
  | unsupportedSpec (spec : Value)
  | noEntryPoint (tried : List String)
  /-- Every entry point failed, and `last` is how the last one did. -/
  | allFailed (last : Fault)
  | timedOut (label : String) (limit : Timeout)
  | negativeTimeout
  /-- The limit was too long for a wait, in this way. -/
  | badTimeout (excess : Timeout.Excess)
  /-- Values lie within each other deeper than the stack has room for. -/
  | stackExhausted (descent : Descent)
  | undecodableResponse (raw : Value)
  | installFailed (reason : String)
  | scanFailed (reason : String)
  | noMatchList (raw : String)
  | badMatch (entry : Value)
  | malformedNumeral (radix : Text.Radix) (source : Value)
  | numeralTooLong (digits : Nat)
  | numberTooLong
  | floatNotANumber
  | decimalNotANumber
  | infiniteNumber
  | notANumber
  | refusedOperand
  | unhashable
  | wrongKind
  | immutableAddress
  | notText
  | indexOutOfRange
  | badPlaceholder (line column : Nat)
  | undefinedPlaceholder (name : String)
  | unknownRequest (name : Value)
  | missingCallbacks
  | notCallbacks (kindName : String)
  | notCallable
  | pathTooLong
  | configIsDirectory
  | configIllFormed
  | configMalformed
  | configInvalid (issues : List Config.Issue)

def FaultKind.takesOneArgument : FaultKind → Bool
  | .unsupportedSpec | .undecodableResponse | .installFailed | .scanFailed => true
  | _ => false

namespace Fault

def kind : Fault → FaultKind
  | .raised kind _ => kind
  | .unsupportedSpec _ => .unsupportedSpec
  | .noEntryPoint _ => .noEntryPoint
  | .allFailed _ | .timedOut .. => .evaluationFailed
  | .undecodableResponse _ => .undecodableResponse
  | .installFailed _ => .installFailed
  | .scanFailed _ | .noMatchList _ | .badMatch _ => .scanFailed
  | .malformedNumeral .. | .numeralTooLong _ | .numberTooLong | .floatNotANumber
  | .decimalNotANumber | .negativeTimeout | .badPlaceholder .. | .unknownRequest _
  | .missingCallbacks => .badValue
  | .stackExhausted _ => .recursion
  | .infiniteNumber | .badTimeout _ => .overflow
  | .notANumber | .refusedOperand | .unhashable | .wrongKind | .notCallbacks _ | .notCallable =>
    .badType
  | .immutableAddress | .notText => .noAttribute
  | .indexOutOfRange => .badIndex
  | .undefinedPlaceholder _ => .missingKey
  | .pathTooLong => .system
  | .configIsDirectory => .isDirectory
  | .configIllFormed => .illFormedText
  | .configMalformed => .malformedConfig
  | .configInvalid _ => .invalidConfig

def cause? : Fault → Option Fault
  | .allFailed last => some last
  | _ => none

open Text

/-- The value that a numeral was read from, cut to two hundred characters. -/
def numeralSource (source : Value) : List Char :=
  match source with
  | .bytes bs | .buffer bs => (quotedBytes (bs.take 200)).take 200
  | v => (v.quoted?.getD []).take 200

def argumentsText? : List Value → Option (List Char)
  | [] => some []
  | [v] => v.text?
  | vs => (Value.group vs).quoted?

def isWaitCode : Value → Bool
  | .int n => n == 11 || n == 114 || n == 115
  | _ => false

/-- What counts as a number of bytes done before an operation would have had to wait. -/
def isCount : Value → Bool
  | .bool _ | .int _ | .float _ | .decimal _ | .fraction .. | .address _ | .ordinal _ => true
  | _ => false

/-- A system failure with a code and a text shows both, and the files that it concerns. -/
def systemText? : List Value → Option (List Char)
  | code :: text :: rest =>
    if 3 < rest.length then argumentsText? (code :: text :: rest)
    else if isWaitCode code && rest.head?.any isCount then do
      let c ← code.text?
      let t ← text.text?
      pure ("[Errno ".toList ++ c ++ "] ".toList ++ t)
    else do
      let c ← code.text?
      let t ← text.text?
      let head := "[Errno ".toList ++ c ++ "] ".toList ++ t
      match rest with
      | [] | .null :: _ => pure head
      | [file] | [file, _] | [file, _, .null] =>
        let f ← file.quoted?
        pure (head ++ ": ".toList ++ f)
      | file :: _ :: other :: _ =>
        let f ← file.quoted?
        let o ← other.quoted?
        pure (head ++ ": ".toList ++ f ++ " -> ".toList ++ o)
  | args => argumentsText? args

def raisedText? (kind : FaultKind) (args : List Value) : Option (List Char) :=
  match kind, args with
  | .unsupportedSpec, [v] => v.quoted?.map ("unsupported spec: ".toList ++ ·)
  | .undecodableResponse, [v] => v.quoted?.map ("could not decode host response: ".toList ++ ·)
  | .installFailed, [v] => v.text?.map ("intercept install failed: ".toList ++ ·)
  | .scanFailed, [v] => v.text?.map ("scan failed: ".toList ++ ·)
  | .missingKey, [v] => v.quoted?
  | .system, args => systemText? args
  | _, args => argumentsText? args

def decimalLimitText : List Char :=
  "Exceeds the limit (4300 digits) for integer string conversion".toList

def raiseLimitText : List Char :=
  "; use sys.set_int_max_str_digits() to increase the limit".toList

/-- The wording of version 3.11 of the runtime; earlier ones say it in other words. -/
def excessText : Timeout.Excess → List Char
  | .beyondClock => "timestamp out of range for platform time_t".toList
  | .beyondDouble => "int too large to convert to float".toList

def descentText : Descent → List Char
  | .readingList => "decoding a JSON array from a unicode string".toList
  | .readingRecord => "decoding a JSON object from a unicode string".toList
  | .showing => "getting the repr of an object".toList

/-- The message, or nothing when a value in it has no text. -/
def message? : Fault → Option (List Char)
  | .raised kind args => raisedText? kind args
  | .unsupportedSpec spec => raisedText? .unsupportedSpec [spec]
  | .noEntryPoint tried =>
    some ("no host evaluator available (tried ".toList ++
      separatedBy [',', ' '] (tried.map String.toList) ++ [')'])
  | .allFailed last => last.message?.map ("host evaluation failed on every entry point: ".toList ++ ·)
  | .timedOut label limit =>
    some (label.toList ++ " did not return within ".toList ++ limit.text ++ ['s'])
  | .negativeTimeout => some "'timeout' must be a non-negative number".toList
  | .badTimeout excess => some (excessText excess)
  | .stackExhausted descent =>
    some ("maximum recursion depth exceeded while ".toList ++ descentText descent)
  | .undecodableResponse raw => raisedText? .undecodableResponse [raw]
  | .installFailed reason => raisedText? .installFailed [.text reason]
  | .scanFailed reason => raisedText? .scanFailed [.text reason]
  | .noMatchList raw => some ("scan failed: response has no matches list: ".toList ++ raw.toList)
  | .badMatch entry => entry.quoted?.map ("scan failed: bad match address: ".toList ++ ·)
  | .malformedNumeral radix source =>
    some ("invalid literal for int() with base ".toList ++ decimal radix.toNat ++ ": ".toList ++
      numeralSource source)
  | .numeralTooLong digits =>
    some (decimalLimitText ++ ": value has ".toList ++ decimal digits ++ " digits".toList ++
      raiseLimitText)
  | .numberTooLong => some (decimalLimitText ++ raiseLimitText)
  | .floatNotANumber => some "cannot convert float NaN to integer".toList
  | .decimalNotANumber => some "cannot convert NaN to integer".toList
  | .badPlaceholder line column =>
    some ("Invalid placeholder in string: line ".toList ++ decimal line ++ ", col ".toList ++
      decimal column)
  | .undefinedPlaceholder name => some (quoted name.toList)
  | .unknownRequest name => name.quoted?.map (· ++ " is not a valid RequestKind".toList)
  | .missingCallbacks => some "missing handler".toList
  | .immutableAddress => some "AddressHandle is immutable".toList
  | .notCallbacks kindName =>
    some ("handler must be an InterceptHandler or a mapping, not ".toList ++ kindName.toList)
  | _ => some []

/-- A count that is not whole, or does not fit into 64 bits, is a failure of its own. -/
def ofCount (args : List Value) (count : Value) : Fault :=
  match count with
  | .bool _ => .raised .system args
  | count =>
    match count.integral? with
    | some n =>
      if -(Nat.pow 2 63 : Int) ≤ n ∧ n < (Nat.pow 2 63 : Int) then .raised .system args
      else .raised .badValue [.text ("cannot fit '" ++ count.kindName ++
        "' into an index-sized integer")]
    | none => .wrongKind

/--
A failure of a kind, made from arguments. The wrong number of them is a failure itself, and so is an
argument without text where the message is made at once.
-/
def ofArguments (kind : FaultKind) (args : List Value) : Fault :=
  if kind.takesOneArgument then
    if args.length ≠ 1 then .raised .badType []
    else if (raisedText? kind args).isNone then .numberTooLong
    else .raised kind args
  else
    match kind, args with
    | .system, code :: text :: count :: rest =>
      if isWaitCode code && isCount count && rest.length ≤ 2 then
        ofCount (code :: text :: count :: rest) count
      else .raised kind args
    | _, _ => .raised kind args

end Fault

end HostLink
