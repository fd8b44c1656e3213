import HostLink.Template

/-!
The programs that the host is asked to run. Each is one expression that calls a function and gives
back text: an object whose field `ok` says whether all went well. Names, patterns and addresses get
into a program as literals only; callbacks are inlined verbatim.
-/

namespace HostLink

inductive RequestKind where
  | resolveExport
  | resolveModuleBase
  | installIntercept
  | scanPattern
  deriving DecidableEq, Repr

namespace RequestKind

def name : RequestKind → String
  | .resolveExport => "resolve_export"
  | .resolveModuleBase => "resolve_module_base"
  | .installIntercept => "install_intercept"
  | .scanPattern => "scan_pattern"

def all : List RequestKind :=
  [.resolveExport, .resolveModuleBase, .installIntercept, .scanPattern]

def ofName? (name : String) : Option RequestKind :=
  all.find? (·.name == name)

def ofValue (v : Value) : Except Fault RequestKind :=
  let kind := match v with
    | .text s => ofName? s
    | _ => none
  match kind, v.quoted? with
  | some kind, _ => .ok kind
  | none, some _ => .error (.unknownRequest v)
  | none, none => .error .numberTooLong

end RequestKind

structure Request where
  kind : RequestKind
  program : String
  deriving DecidableEq, Repr

namespace Request

/-- The field of an answer that holds a pointer. -/
def resultField : String := "__r"

def noCallback : String := "undefined"

def wrapperStart : List Char :=
  "(function()\x7b try \x7b ".toList

def wrapperEnd : List Char :=
  (" \x7d catch (e) \x7b return JSON.stringify(\x7bok:false, error:String(e)\x7d); " ++
    "\x7d \x7d)();").toList

/-- A body inside a function that reports every failure within it as an answer. -/
def wrap (body : List Char) : List Char :=
  wrapperStart ++ body ++ wrapperEnd

def resolveExportBody : List Char :=
  ("var a = Module.findExportByName($module, $symbol); return JSON.stringify(\x7bok:true, " ++
    resultField ++ ": a ? ptr(a).toString() : null\x7d);").toList

def resolveModuleBaseBody : List Char :=
  ("var m = Process.findModuleByName($module); if (!m) return " ++
    "JSON.stringify(\x7bok:false, error:\"module not found\"\x7d); " ++
    "return JSON.stringify(\x7bok:true, " ++ resultField ++ ": m.base.toString()\x7d);").toList

def installInterceptBody : List Char :=
  ("var target = ptr($address); Interceptor.attach(target, " ++
    "\x7bonEnter: $on_enter, onLeave: $on_leave\x7d); " ++
    "return JSON.stringify(\x7bok:true\x7d);").toList

def scanPatternBody : List Char :=
  ("var mod = Process.findModuleByName($module); if (!mod) return " ++
    "JSON.stringify(\x7bok:false, error:\"module not found\"\x7d); " ++
    "var matches = Memory.scanSync(mod.base, mod.size, $pattern).map(" ++
    "function(m)\x7b return ptr(m.address).toString(); \x7d); " ++
    "return JSON.stringify(\x7bok:true, matches:matches\x7d);").toList

def ofTemplate (kind : RequestKind) (body : List Char) (strings fragments : List (String × Value)) :
    Except Fault Request :=
  (Template.render body strings fragments).map fun program => ⟨kind, String.ofList program⟩

/-- A template that callers hand in. One to be wrapped may be any value with a text. -/
def ofBody (kind : RequestKind) (wrapped : Bool) (body : Value)
    (strings fragments : List (String × Value)) : Except Fault Request :=
  if wrapped then do
    let text ← body.toText
    ofTemplate kind (wrap text.toList) strings fragments
  else
    match body with
    | .text s => ofTemplate kind s.toList strings fragments
    | _ => (Template.literals strings).bind fun _ => .error .wrongKind

def resolveExport (moduleName symbol : Value) : Except Fault Request :=
  ofTemplate .resolveExport (wrap resolveExportBody) [("module", moduleName), ("symbol", symbol)] []

def resolveModuleBase (moduleName : Value) : Except Fault Request :=
  ofTemplate .resolveModuleBase (wrap resolveModuleBaseBody) [("module", moduleName)] []

/-- What stands for a half of callbacks: a half that is missing or empty has no text of its own. -/
def halfOrNone (half : Option String) : String :=
  match half with
  | some text => if text.isEmpty then noCallback else text
  | none => noCallback

def installIntercept (address : Address) (callbacks : Callbacks) : Except Fault Request :=
  ofTemplate .installIntercept (wrap installInterceptBody) [("address", .text address.toText)]
    [("on_enter", .text (halfOrNone callbacks.onEnter)),
      ("on_leave", .text (halfOrNone callbacks.onLeave))]

def scanPattern (moduleName pattern : Value) : Except Fault Request :=
  ofTemplate .scanPattern (wrap scanPatternBody) [("module", moduleName), ("pattern", pattern)] []

end Request

end HostLink
