import HostLink.Host.Item

/-!
The functions and values that are always around a program. The functions refuse a call that they
have no answer to. Those that run a text, stop the program or tell of the machine that it runs on,
such as `eval`, `exit` and `hash`, are not made here: whoever describes the machine says what they do.
-/

namespace HostLink

open Text

namespace Names

def shownAs (shown : List Char) : Except Fault Value :=
  .ok (.sealed (String.ofList shown))

def foremost (before : Char → Char → Bool) (s : List Char) : Except Fault Value :=
  match s with
  | [] => .error (.raised .badValue [])
  | c :: rest =>
    .ok (.text (String.ofList [rest.foldl (fun best d => if before d best then d else best) c]))

def distinctShown (s : List Char) : List Char :=
  '\x7b' :: separatedBy [',', ' '] (s.eraseDups.map fun c => quoted [c]) ++ ['\x7d']

def memberList : List Value :=
  (("__doc__" :: (Kind.sharedNames ++ Kind.text.undecidedOperators ++ Kind.text.ownNames)).mergeSort
    fun s t => s ≤ t).map Value.text

def answering : List (String × (List Char → Except Fault Value)) :=
  [("all", fun _ => .ok (.bool true)),
    ("any", fun s => .ok (.bool !s.isEmpty)),
    ("ascii", fun s => .ok (.text (String.ofList (asciiOnly (quoted s))))),
    ("callable", fun _ => .ok (.bool false)),
    ("dir", fun _ => .ok (.list memberList)),
    ("format", fun s => .ok (.text (String.ofList s))),
    ("len", fun s => .ok (.int s.length)),
    ("max", foremost fun c d => d < c),
    ("min", foremost fun c d => c < d),
    ("open", fun s =>
      .error (.raised .system [.int 2, .text "No such file or directory", .text (String.ofList s)])),
    ("ord", fun s =>
      match s with
      | [c] => .ok (.int c.toNat)
      | _ => .error .wrongKind),
    ("repr", fun s => .ok (.text (String.ofList (quoted s)))),
    ("sorted", fun s => .ok (.list (Value.characters (s.mergeSort fun c d => c ≤ d)))),
    ("print", fun _ => .ok .null),
    ("sum", fun s => if s.isEmpty then .ok (.int 0) else .error .wrongKind)]

def withOneText (answer : List Char → Except Fault Value) (args : List Value) : Except Fault Value :=
  match args with
  | [.text s] => answer s.toList
  | _ => .error .wrongKind

/-- What functions answer to a value and a text. -/
def answeringTwo : List (String × (Value → String → Except Fault Value)) :=
  [("delattr", fun _ _ => .error .notText),
    ("format", fun v s => (v.laidOut s.toList).map Member.ofText),
    ("getattr", fun _ _ => .error .notText),
    ("hasattr", fun v s => .ok (.bool (v.kind.hasMember s || s = "__doc__"))),
    ("max", fun v s =>
      match v with
      | .text t => .ok (.text (if t < s then s else t))
      | _ => .error .wrongKind),
    ("min", fun v s =>
      match v with
      | .text t => .ok (.text (if s < t then s else t))
      | _ => .error .wrongKind),
    ("print", fun _ _ => .ok .null)]

def answered (name : String) (args : List Value) : Except Fault Value :=
  match args with
  | [.text s] =>
    match answering.lookup name with
    | some answer => answer s.toList
    | none => .error .wrongKind
  | [v, .text s] =>
    match answeringTwo.lookup name with
    | some answer => answer v s
    | none => .error .wrongKind
  | _ => .error .wrongKind

def refuse : List Value → Except Fault Value :=
  fun _ => .error .wrongKind

def refusing : List String :=
  ("__build_class__ abs aiter anext bin chr compile copyright credits delattr divmod getattr globals " ++
    "hasattr hex isinstance issubclass license locals next oct pow round setattr vars").splitOn " "

def kinds : List Kind :=
  [.bool, .buffer, .bytes, .record, .float, .int, .list, .text, .group]

def words (s : String) : List String :=
  (s.splitOn " ").filter (· ≠ "")

/-! ### Kinds of objects -/

def makeComplex (s : List Char) : Except Fault Value :=
  match Complex.ofText? s with
  | some z => shownAs z.text
  | none => .error (malformedText "complex() arg is a malformed string")

def makeSlice : List Value → Except Fault Value
  | [stop] => stop.quotedText.bind fun t => shownAs ("slice(None, ".toList ++ t ++ ", None)".toList)
  | [start, stop] => do
    let s ← start.quotedText
    let t ← stop.quotedText
    shownAs ("slice(".toList ++ s ++ ", ".toList ++ t ++ ", None)".toList)
  | _ => .error .wrongKind

def iteratorNames : List String :=
  ["__getattribute__", "__reduce__"]

def families : List Family :=
  [{ name := "classmethod"
     make := withOneText fun s => shownAs ("<classmethod(".toList ++ quoted s ++ ")>".toList)
     members := ["__get__"]
     reshaped := ["__init__", "__repr__"] },
    { name := "complex"
      make := withOneText makeComplex
      members := words ("__abs__ __add__ __bool__ __complex__ __getnewargs__ __mul__ __neg__ __pos__ " ++
        "__pow__ __radd__ __rmul__ __rpow__ __rsub__ __rtruediv__ __sub__ __truediv__ conjugate")
      reshaped := "__format__" :: Kind.comparingNames },
    { name := "enumerate"
      make := refuse
      members := ["__class_getitem__", "__iter__", "__next__"]
      reshaped := iteratorNames },
    { name := "filter"
      make := refuse
      members := ["__iter__", "__next__"]
      reshaped := iteratorNames },
    { name := "frozenset"
      make := withOneText fun s =>
        shownAs ("frozenset(".toList ++ (if s.isEmpty then [] else distinctShown s) ++ [')'])
      members := words ("__and__ __class_getitem__ __contains__ __iter__ __len__ __or__ __rand__ " ++
        "__ror__ __rsub__ __rxor__ __sub__ __xor__ copy difference intersection isdisjoint issubset " ++
        "issuperset symmetric_difference union")
      reshaped := "__reduce__" :: "__sizeof__" :: Kind.comparingNames },
    { name := "map"
      make := refuse
      members := ["__iter__", "__next__"]
      reshaped := iteratorNames },
    { name := "memoryview"
      make := refuse
      members := words ("__delitem__ __enter__ __exit__ __getitem__ __iter__ __len__ __setitem__ cast " ++
        "hex release tobytes tolist toreadonly")
      reshaped := Kind.comparingNames },
    { name := "object"
      make := refuse
      lacking := ["__base__"] },
    { name := "property"
      make := refuse
      members := words "__delete__ __get__ __set__ __set_name__ deleter getter setter"
      reshaped := ["__getattribute__", "__init__"] },
    { name := "range"
      make := refuse
      members := words "__bool__ __contains__ __getitem__ __iter__ __len__ __reversed__ count index"
      reshaped := "__reduce__" :: Kind.comparingNames },
    { name := "reversed"
      make := refuse
      members := ["__iter__", "__length_hint__", "__next__", "__setstate__"]
      reshaped := iteratorNames },
    { name := "set"
      make := withOneText fun s => shownAs (if s.isEmpty then "set()".toList else distinctShown s)
      members := words ("__and__ __class_getitem__ __contains__ __iand__ __ior__ __isub__ __iter__ " ++
        "__ixor__ __len__ __or__ __rand__ __ror__ __rsub__ __rxor__ __sub__ __xor__ add clear copy " ++
        "difference difference_update discard intersection intersection_update isdisjoint issubset " ++
        "issuperset pop remove symmetric_difference symmetric_difference_update union update")
      reshaped := "__init__" :: "__reduce__" :: "__sizeof__" :: Kind.comparingNames
      lacking := ["__hash__"] },
    { name := "slice"
      make := makeSlice
      members := ["indices"]
      reshaped := "__reduce__" :: Kind.comparingNames
      lacking := ["__hash__"] },
    { name := "staticmethod"
      make := withOneText fun s => shownAs ("<staticmethod(".toList ++ quoted s ++ ")>".toList)
      members := ["__get__"]
      reshaped := ["__init__", "__repr__"] },
    { name := "super"
      make := refuse
      members := ["__get__"]
      reshaped := ["__getattribute__", "__init__", "__repr__"] },
    { name := "type"
      make := withOneText fun _ => .ok Kind.text.shown
      reshaped := ["__delattr__", "__dir__", "__getattribute__", "__init__", "__repr__", "__setattr__",
        "__sizeof__"] },
    { name := "zip"
      make := refuse
      members := ["__iter__", "__next__", "__setstate__"]
      reshaped := iteratorNames }]

/-- Kinds of failures: called with a text, they give a failure that shows it. -/
def failures : List String :=
  ("ArithmeticError AssertionError AttributeError BaseException BlockingIOError BrokenPipeError " ++
    "BufferError BytesWarning ChildProcessError ConnectionAbortedError ConnectionError " ++
    "ConnectionRefusedError ConnectionResetError DeprecationWarning EOFError EncodingWarning " ++
    "Exception FileExistsError FileNotFoundError FloatingPointError FutureWarning " ++
    "GeneratorExit ImportError ImportWarning IndentationError IndexError InterruptedError " ++
    "IsADirectoryError KeyError KeyboardInterrupt LookupError MemoryError ModuleNotFoundError NameError " ++
    "NotADirectoryError NotImplementedError OSError OverflowError PendingDeprecationWarning " ++
    "PermissionError ProcessLookupError RecursionError ReferenceError ResourceWarning RuntimeError " ++
    "RuntimeWarning StopAsyncIteration StopIteration SyntaxError SyntaxWarning SystemError " ++
    "SystemExit TabError TimeoutError TypeError UnboundLocalError UnicodeError UnicodeWarning " ++
    "UserWarning ValueError Warning ZeroDivisionError").splitOn " "

/-- Kinds of failures that a text alone does not make. -/
def refusingFailures : List String :=
  ["BaseExceptionGroup", "ExceptionGroup", "UnicodeDecodeError", "UnicodeEncodeError",
    "UnicodeTranslateError"]

/-- Other names of a kind of failure. -/
def systemFailureNames : List String :=
  ["EnvironmentError", "IOError"]

def makeFailure (name : String) : List Value → Except Fault Value :=
  fun args => .ok (.failure name args)

def failureFamily (name : String) (make : List Value → Except Fault Value) : Family where
  name := name
  make := make
  members := ["__setstate__", "add_note", "with_traceback"]
  reshaped := ["__delattr__", "__getattribute__", "__init__", "__reduce__", "__repr__", "__setattr__",
    "__str__"]
  widen := makeFailure "Exception"

def failureFamilies : List (String × Family) :=
  failures.map (fun name => (name, failureFamily name (makeFailure name))) ++
    systemFailureNames.map (fun name => (name, failureFamily "OSError" (makeFailure "OSError"))) ++
    refusingFailures.map fun name => (name, failureFamily name refuse)

def values : List (String × Value) :=
  [("Ellipsis", .sealed "Ellipsis"), ("False", .bool false), ("None", .null),
    ("NotImplemented", Member.undecided), ("True", .bool true), ("__debug__", .bool true),
    ("__doc__", .null), ("__name__", .text "builtins"), ("__package__", .null), ("__spec__", .null)]

/-- All that is built in, with the functions of the machine. -/
def builtin (machine : Names) : Names :=
  machine ++ values.map (fun (name, v) => (name, .plain v)) ++
    kinds.map (fun k => (k.name, .kind k)) ++
    families.map (fun f => (f.name, .family f)) ++
    failureFamilies.map (fun (name, f) => (name, .family f)) ++
    (answering.map (·.1) ++ refusing).map fun name => (name, .function (.ofAnswer (answered name)))

def ownBuiltin (machine : Names) : Names :=
  ("__builtins__", .object (builtin machine)) ::
    ("__annotations__", .plain (.record [])) :: ("__file__", .plain (.text "")) ::
    ("__name__", .plain (.text "__main__")) ::
    ["__cached__", "__doc__", "__loader__", "__package__", "__spec__"].map fun name =>
      (name, .plain .null)

end Names

end HostLink
