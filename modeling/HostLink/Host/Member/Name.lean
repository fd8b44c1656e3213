import HostLink.Value.Basic

/-!
The names of the functions that values have as members, by the kind of the value.
-/

namespace HostLink

def Kind.sharedNames : List String :=
  ("__class__ __delattr__ __dir__ __eq__ __format__ __ge__ __getattribute__ __getstate__ __gt__ " ++
    "__hash__ __init__ __init_subclass__ __le__ __lt__ __ne__ __new__ __reduce__ __reduce_ex__ " ++
    "__repr__ __setattr__ __sizeof__ __str__ __subclasshook__").splitOn " "

/-- Operators by their bare names, each with the one for exchanged sides. -/
def Kind.operators (names : List String) : List String :=
  names.flatMap fun name => ["__" ++ name ++ "__", "__r" ++ name ++ "__"]

/-- The operators that a kind has and that decide nothing about text. -/
def Kind.undecidedOperators : Kind → List String
  | .bool | .int =>
    operators ["add", "and", "divmod", "floordiv", "lshift", "mod", "mul", "or", "pow", "rshift",
      "sub", "truediv", "xor"]
  | .float | .decimal =>
    operators ["add", "divmod", "floordiv", "mod", "mul", "pow", "sub", "truediv"]
  | .fraction => operators ["add", "divmod", "floordiv", "mod", "mul", "sub", "truediv"]
  | .address => operators ["add"]
  | .record => operators ["or"]
  | _ => []

def Kind.ownNames : Kind → List String
  | .null => ["__bool__"]
  | .bool | .int =>
    ("__abs__ __bool__ __ceil__ __float__ __floor__ __getnewargs__ __index__ __int__ __invert__ " ++
      "__neg__ __pos__ __round__ __trunc__ as_integer_ratio bit_count bit_length conjugate " ++
      "from_bytes to_bytes").splitOn " "
  | .float =>
    ("__abs__ __bool__ __ceil__ __float__ __floor__ __getformat__ __getnewargs__ __int__ __neg__ " ++
      "__pos__ __round__ __trunc__ as_integer_ratio conjugate fromhex hex is_integer").splitOn " "
  | .text =>
    ("__add__ __contains__ __getitem__ __getnewargs__ __iter__ __len__ __mod__ __mul__ __rmod__ " ++
      "__rmul__ capitalize casefold center count encode endswith expandtabs find format format_map " ++
      "index isalnum isalpha isascii isdecimal isdigit isidentifier islower isnumeric isprintable " ++
      "isspace istitle isupper join ljust lower lstrip maketrans partition removeprefix " ++
      "removesuffix replace rfind rindex rjust rpartition rsplit rstrip split splitlines startswith " ++
      "strip swapcase title translate upper zfill").splitOn " "
  | .bytes =>
    ("__add__ __bytes__ __contains__ __getitem__ __getnewargs__ __iter__ __len__ __mod__ __mul__ " ++
      "__rmod__ __rmul__ capitalize center count decode endswith expandtabs find fromhex hex index " ++
      "isalnum isalpha isascii isdigit islower isspace istitle isupper join ljust lower lstrip " ++
      "maketrans partition removeprefix removesuffix replace rfind rindex rjust rpartition rsplit " ++
      "rstrip split splitlines startswith strip swapcase title translate upper zfill").splitOn " "
  | .buffer =>
    ("__add__ __alloc__ __contains__ __delitem__ __getitem__ __iadd__ __imul__ __iter__ __len__ " ++
      "__mod__ __mul__ __rmod__ __rmul__ __setitem__ append capitalize center clear copy count " ++
      "decode endswith expandtabs extend find fromhex hex index insert isalnum isalpha isascii " ++
      "isdigit islower isspace istitle isupper join ljust lower lstrip maketrans partition pop " ++
      "remove removeprefix removesuffix replace reverse rfind rindex rjust rpartition rsplit rstrip " ++
      "split splitlines startswith strip swapcase title translate upper zfill").splitOn " "
  | .list =>
    ("__add__ __class_getitem__ __contains__ __delitem__ __getitem__ __iadd__ __imul__ __iter__ " ++
      "__len__ __mul__ __reversed__ __rmul__ __setitem__ append clear copy count extend index insert " ++
      "pop remove reverse sort").splitOn " "
  | .group =>
    ("__add__ __class_getitem__ __contains__ __getitem__ __getnewargs__ __iter__ __len__ __mul__ " ++
      "__rmul__ count index").splitOn " "
  | .record =>
    ("__class_getitem__ __contains__ __delitem__ __getitem__ __ior__ __iter__ __len__ __reversed__ " ++
      "__setitem__ clear copy fromkeys get items keys pop popitem setdefault update values").splitOn
        " "
  | .address => ["__bool__", "__index__", "__int__", "add", "from_string"]
  | .ordinal => ["__index__"]
  | .decimal =>
    ("__abs__ __bool__ __ceil__ __complex__ __copy__ __deepcopy__ __float__ __floor__ __int__ " ++
      "__neg__ __pos__ __round__ __trunc__ adjusted as_integer_ratio as_tuple canonical compare " ++
      "compare_signal compare_total compare_total_mag conjugate copy_abs copy_negate copy_sign exp " ++
      "fma from_float is_canonical is_finite is_infinite is_nan is_normal is_qnan is_signed is_snan " ++
      "is_subnormal is_zero ln log10 logb logical_and logical_invert logical_or logical_xor max " ++
      "max_mag min min_mag next_minus next_plus next_toward normalize number_class quantize radix " ++
      "remainder_near rotate same_quantum scaleb shift sqrt to_eng_string to_integral " ++
      "to_integral_exact to_integral_value").splitOn " "
  | .fraction =>
    ("__abs__ __bool__ __ceil__ __complex__ __copy__ __deepcopy__ __float__ __floor__ __int__ " ++
      "__neg__ __pos__ __pow__ __round__ __rpow__ __trunc__ _add _div _divmod _floordiv _mod _mul " ++
      "_operator_fallbacks _richcmp _sub as_integer_ratio conjugate from_decimal from_float " ++
      "limit_denominator").splitOn " "
  | .callbacks => ["__post_init__", "coerce"]
  | .sealed => []

def Kind.comparingNames : List String :=
  ["__eq__", "__ge__", "__getattribute__", "__gt__", "__hash__", "__le__", "__lt__", "__ne__",
    "__repr__"]

/-- Those of the members of all kinds that a kind has in a form of its own. -/
def Kind.reshapedNames : Kind → List String
  | .bool | .int => "__format__" :: "__sizeof__" :: comparingNames
  | .float => "__format__" :: comparingNames
  | .text => "__format__" :: "__sizeof__" :: "__str__" :: comparingNames
  | .bytes => "__str__" :: comparingNames
  | .buffer =>
    "__init__" :: "__reduce__" :: "__reduce_ex__" :: "__sizeof__" :: "__str__" :: comparingNames
  | .list | .record => "__init__" :: "__sizeof__" :: comparingNames
  | _ => comparingNames

/-- Values that can change have no hash. -/
def Kind.isMutable : Kind → Bool
  | .buffer | .list | .record => true
  | _ => false

def Kind.hasMember (kind : Kind) (name : String) : Bool :=
  (sharedNames.contains name && !(kind.isMutable && name == "__hash__")) ||
    kind.undecidedOperators.contains name || kind.ownNames.contains name

end HostLink
