/-!
Digits: their values, the value of a run of them, and the digits of a number.
-/

namespace HostLink.Text

/-- The zeros of the decimal scripts; the nine other digits of a script follow its zero. -/
def scriptZeros : List Nat :=
  [0x30, 0x660, 0x6f0, 0x7c0, 0x966, 0x9e6, 0xa66, 0xae6, 0xb66, 0xbe6, 0xc66, 0xce6, 0xd66, 0xde6,
    0xe50, 0xed0, 0xf20, 0x1040, 0x1090, 0x17e0, 0x1810, 0x1946, 0x19d0, 0x1a80, 0x1a90, 0x1b50,
    0x1bb0, 0x1c40, 0x1c50, 0xa620, 0xa8d0, 0xa900, 0xa9d0, 0xa9f0, 0xaa50, 0xabf0, 0xff10, 0x104a0,
    0x10d30, 0x11066, 0x110f0, 0x11136, 0x111d0, 0x112f0, 0x11450, 0x114d0, 0x11650, 0x116c0,
    0x11730, 0x118e0, 0x11950, 0x11c50, 0x11d50, 0x11da0, 0x16a60, 0x16ac0, 0x16b50, 0x1d7ce,
    0x1d7d8, 0x1d7e2, 0x1d7ec, 0x1d7f6, 0x1e140, 0x1e2f0, 0x1e950, 0x1fbf0]

def asciiDigit? (c : Char) : Option Nat :=
  if 0x30 ≤ c.toNat && c.toNat ≤ 0x39 then some (c.toNat - 0x30) else none

def letterDigit? (c : Char) : Option Nat :=
  if 0x61 ≤ c.toNat && c.toNat ≤ 0x66 then some (c.toNat - 0x61 + 10)
  else if 0x41 ≤ c.toNat && c.toNat ≤ 0x46 then some (c.toNat - 0x41 + 10)
  else none

def asciiHexDigit? (c : Char) : Option Nat :=
  (asciiDigit? c).or (letterDigit? c)

def decimalDigit? (c : Char) : Option Nat :=
  if c.toNat < 0x80 then asciiDigit? c
  else (scriptZeros.find? fun z => z ≤ c.toNat && c.toNat < z + 10).map (c.toNat - ·)

/-- The value of a base sixteen digit: a decimal digit of any script, or a Latin letter. -/
def hexDigit? (c : Char) : Option Nat :=
  (letterDigit? c).or (decimalDigit? c)

def isAsciiDigit (c : Char) : Bool :=
  (asciiDigit? c).isSome

def isAsciiHexDigit (c : Char) : Bool :=
  (asciiHexDigit? c).isSome

/-- The value of digits in a base, least significant first. -/
def weighted (base : Nat) : List Nat → Nat
  | [] => 0
  | d :: rest => d + base * weighted base rest

/-- Two digits of a base at a time, as one digit of its square. -/
def paired (base : Nat) : List Nat → List Nat
  | d :: e :: rest => (d + base * e) :: paired base rest
  | digits => digits

/-- The value of digits, which are paired at most `rounds` times, so that long runs stay cheap. -/
def joined : Nat → Nat → List Nat → Nat
  | 0, base, digits => weighted base digits
  | rounds + 1, base, digits =>
    match digits with
    | [] => 0
    | [d] => d
    | d :: e :: rest => joined rounds (base * base) (paired base (d :: e :: rest))

/-- The number that a run of digit values stands for, most significant first. -/
def positional (base : Nat) (digits : List Nat) : Nat :=
  joined digits.length.log2.succ base digits.reverse

theorem weighted_paired (base : Nat) :
    ∀ digits : List Nat, weighted (base * base) (paired base digits) = weighted base digits
  | [] => rfl
  | [_] => rfl
  | d :: e :: rest => by
    show d + base * e + base * base * weighted (base * base) (paired base rest) =
      d + base * (e + base * weighted base rest)
    rw [weighted_paired base rest, Nat.mul_add, Nat.mul_assoc, Nat.add_assoc]

theorem joined_eq_weighted (rounds base : Nat) (digits : List Nat) :
    joined rounds base digits = weighted base digits := by
  induction rounds generalizing base digits with
  | zero => rfl
  | succ rounds ih =>
    match digits with
    | [] => rfl
    | [_] => rfl
    | d :: e :: rest =>
      show joined rounds (base * base) (paired base (d :: e :: rest)) = _
      rw [ih, weighted_paired]

theorem weighted_append (base d : Nat) :
    ∀ digits : List Nat,
      weighted base (digits ++ [d]) = weighted base digits + Nat.pow base digits.length * d
  | [] => by
    show d + base * 0 = 0 + 1 * d
    rw [Nat.mul_zero, Nat.add_zero, Nat.one_mul, Nat.zero_add]
  | e :: rest => by
    show e + base * weighted base (rest ++ [d]) =
      e + base * weighted base rest + Nat.pow base rest.length * base * d
    rw [weighted_append base d rest, Nat.mul_add, Nat.add_assoc, Nat.mul_comm (Nat.pow _ _) base,
      Nat.mul_assoc]

theorem foldl_eq_weighted (base : Nat) (digits : List Nat) (n : Nat) :
    digits.foldl (fun n d => n * base + d) n =
      weighted base digits.reverse + Nat.pow base digits.length * n := by
  induction digits generalizing n with
  | nil =>
    show n = 0 + 1 * n
    rw [Nat.one_mul, Nat.zero_add]
  | cons d rest ih =>
    rw [List.foldl_cons, ih, List.reverse_cons, weighted_append, List.length_reverse]
    show _ = _ + Nat.pow base rest.length * base * n
    rw [Nat.mul_add, Nat.mul_assoc, Nat.mul_comm n base, Nat.add_assoc,
      Nat.add_comm (Nat.pow base rest.length * (base * n))]

/-- Every digit counts once, after what stands before it was moved up by one place. -/
theorem positional_eq_foldl (base : Nat) (digits : List Nat) :
    positional base digits = digits.foldl (fun n d => n * base + d) 0 := by
  rw [positional, joined_eq_weighted, foldl_eq_weighted, Nat.mul_zero, Nat.add_zero]

def decimal (n : Nat) : List Char :=
  Nat.toDigits 10 n

def decimalInt (n : Int) : List Char :=
  if n < 0 then '-' :: decimal n.natAbs else decimal n.natAbs

/-- Lower case base sixteen digits, without leading zeros. -/
def hex (n : Nat) : List Char :=
  Nat.toDigits 16 n

def hexFixed : Nat → Nat → List Char
  | 0, _ => []
  | width + 1, n => hexFixed width (n / 16) ++ [Nat.digitChar (n % 16)]

end HostLink.Text
