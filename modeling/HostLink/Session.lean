import HostLink.Config.Basic
import HostLink.Descriptor
import HostLink.Link
import HostLink.Request
import HostLink.Response

/-!
Sessions with a host: resolving specs to addresses, installing callbacks, and scanning modules. An
observer hears of every evaluation, before and after, and of every operation that was completed.
-/

namespace HostLink

def eventTextLimit : Int := 20000

/-- The first characters of a text, as many as `limit` says; below zero it counts from the end. -/
def takeSigned (limit : Int) (s : List Char) : List Char :=
  if limit < 0 then s.take (s.length - limit.natAbs) else s.take limit.natAbs

def truncateText (limit : Int) (s : String) : String :=
  if (s.length : Int) ≤ limit then s
  else String.ofList <|
    takeSigned limit s.toList ++ "\n... (truncated, ".toList ++ Text.decimal s.length ++
      " chars total)".toList

/-- An address in a list of matches: a number, or a value whose text is base sixteen. -/
def Address.ofMatch? : Value → Option Address
  | .int n => some (.ofInt n)
  | v =>
    match v.toText with
    | .error _ => none
    | .ok s => (ofText s).toOption

structure Session where
  config : Config
  link : Link

namespace Session

/-- A session that uses the function handed over, or else the entry points that the host has. -/
def make (config : Config) (handedOver : Bool) : Session :=
  ⟨config, if handedOver then .handedOver "evaluator" config.bridge else .ofSettings config.bridge⟩

def cut (s : String) : String :=
  truncateText eventTextLimit s

def evaluate (session : Session) (program : String) : Run String := do
  Run.emit (.evalStart (cut program))
  let answer ← Run.attempt (session.link.evaluate program)
  match answer with
  | .error fault => do
    let message ← Run.messageOf fault
    Run.emit (.evalEnd (cut program) message false)
    Run.raise fault
  | .ok raw => do
    Run.emit (.evalEnd (cut program) (cut raw) true)
    pure raw

def build (request : Except Fault Request) : Run Request := do
  let r ← Run.ofExcept request
  Run.note .requests .debug <| some <|
    "Built ".toList ++ r.kind.name.toList ++ " program: ".toList ++ r.program.toList
  pure r

/-- An answer that is nested too deep is neither decoded nor taken for one that is no object. -/
def decode (session : Session) (raw : Value) : Run Response :=
  match Response.overflow? session.link.levels raw with
  | some descent => Run.raise (.stackExhausted descent)
  | none => do
    if (Response.object? raw).isNone then
      Run.note .decoder .debug <| raw.quoted?.map fun text =>
        "Undecodable host response: ".toList ++ text.take 200
    Run.ofExcept (Response.decode raw)

def send (session : Session) (request : Request) : Run Response := do
  let raw ← session.evaluate request.program
  let response ← session.decode (.text raw)
  if !response.ok then
    Run.note .executor .debug <| response.error.text?.map fun text =>
      "Host reported failure for ".toList ++ request.kind.name.toList ++ ": ".toList ++ text
  pure response

/-- Asks the host for a pointer; of all failures only a missing entry point is passed on. -/
def lookup (session : Session) (request : Request) : Run (Option Address) := do
  let answer ← Run.attempt (session.send request)
  match answer with
  | .error fault =>
    if fault.kind = .noEntryPoint then Run.raise fault
    else do
      Run.note .resolver .debug <| fault.message?.map fun text =>
        "Host lookup (".toList ++ request.kind.name.toList ++ ") failed: ".toList ++ text
      pure none
  | .ok response =>
    pure ((response.get? Request.resultField).bind Address.ofPointer?)

def locate (session : Session) (descriptor : Descriptor) : Run (Option Address) :=
  match descriptor with
  | .numeric value => pure (some value)
  | .hexLiteral text => pure (some (Descriptor.literalAddress text))
  | .moduleSymbol moduleName symbol => do
    let request ← build (Request.resolveExport (.ofOption moduleName) (.text symbol))
    session.lookup request
  | .moduleOffset moduleName offset => do
    let request ← build (Request.resolveModuleBase (.text moduleName))
    let base ← session.lookup request
    match base with
    | none => pure none
    | some base => do
      let offset ← Run.ofExcept (Offset.parse offset)
      pure (some (base.add offset.toNat))
  | .bareSymbol name => do
    let request ← build (Request.resolveExport .null (.text name))
    session.lookup request

/-- What a spec names. One that is refused has to be shown in the message, which the stack limits. -/
def classify (session : Session) (spec : Value) : Except Fault Descriptor :=
  match Descriptor.classify spec with
  | .ok descriptor => .ok descriptor
  | .error fault => .error ((spec.hindrance? session.link.levels).getD fault)

/-- What the host did not give becomes address zero. -/
def resolveWithHost (session : Session) (spec : Value) (descriptor : Descriptor) : Run Address := do
  let found ← session.locate descriptor
  if found.isNone then
    Run.note .resolver .debug <| spec.quoted?.map fun text =>
      "Could not resolve ".toList ++ text ++ "; using 0x0".toList
  let address := found.getD .zero
  Run.emit (.resolved spec address found.isSome)
  pure address

/-- Addresses, numbers and hexadecimal literals need no host. -/
def resolve (session : Session) (spec : Value) : Run Address :=
  match spec with
  | .address a => pure a
  | spec => do
    let descriptor ← Run.ofExcept (session.classify spec)
    match descriptor.localAddress? with
    | some a => pure a
    | none => session.resolveWithHost spec descriptor

def attach (session : Session) (address : Address) (callbacks : Callbacks) : Run Bool := do
  let request ← build (Request.installIntercept address callbacks)
  let response ← session.send request
  if !response.ok then do
    let reason ← Run.ofExcept response.reason
    Run.raise (.installFailed reason)
  else do
    Run.note .installer .info (some ("Intercept installed at ".toList ++ address.text))
    Run.emit (.interceptInstalled address callbacks.onEnter.isSome callbacks.onLeave.isSome)
    pure true

/-- Attaches callbacks at a spec. The callbacks are looked at before the spec is resolved. -/
def install (session : Session) (spec callbacks : Value) : Run Bool := do
  let callbacks ← Run.ofExcept (Callbacks.coerce callbacks)
  let address ← session.resolve spec
  if address.isZero then
    Run.note .installer .warning <| spec.quoted?.map fun text =>
      "Installing intercept at 0x0 for ".toList ++ text ++ "; the spec may be unresolved".toList
  session.attach address callbacks

/-- The addresses of all matches, or the first entry that is none. -/
def readMatches : List Value → Except Fault (List Address)
  | [] => .ok []
  | entry :: rest =>
    match Address.ofMatch? entry with
    | none => .error (.badMatch entry)
    | some a => (readMatches rest).map (a :: ·)

/-- Finds a byte pattern in a module; the matches come in the order of the host. -/
def scan (session : Session) (moduleName pattern : Value) : Run (List Address) := do
  let request ← build (Request.scanPattern moduleName pattern)
  let response ← session.send request
  if !response.ok then do
    let reason ← Run.ofExcept response.reason
    Run.raise (.scanFailed reason)
  else
    match response.get? "matches" with
    | some (.list entries) => do
      let found ← Run.ofExcept (readMatches entries)
      Run.note .scanner .info <| do
        let name ← moduleName.text?
        let pattern ← pattern.quoted?
        pure ("Scan of ".toList ++ name ++ " for ".toList ++ pattern ++ " found ".toList ++
          Text.decimal found.length ++ " match(es)".toList)
      Run.emit (.scanComplete moduleName pattern found.length)
      pure found
    | _ => do
      let raw ← Run.ofExcept response.raw.toText
      Run.raise (.noMatchList raw)

end Session

end HostLink
