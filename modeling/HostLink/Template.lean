import HostLink.Literal

/-!
Text with named holes. A hole is `$name` or `$` and the name in braces, `$$` stands for one `$`, and
any other `$` is a fault. A template is taken apart once, from left to right; what fills a hole is
not looked at again.
-/

namespace HostLink

/-- Line and column, both counted from one. -/
structure Position where
  line : Nat := 1
  column : Nat := 1
  /-- A line feed here would belong to the line break before it. -/
  afterReturn : Bool := false
  deriving DecidableEq, Repr

namespace Position

def advance (p : Position) (c : Char) : Position :=
  if c = '\n' ∧ p.afterReturn then ⟨p.line, p.column, false⟩
  else if Text.isLineBreak c then ⟨p.line + 1, 1, c = '\r'⟩
  else ⟨p.line, p.column + 1, false⟩

/-- The position after characters that break no line. -/
def skip (p : Position) (count : Nat) : Position :=
  ⟨p.line, p.column + count, false⟩

end Position

inductive Segment where
  | literal (c : Char)
  | hole (name : List Char)
  | fault (position : Position)
  deriving DecidableEq, Repr

namespace Template

def isNameStart (c : Char) : Bool :=
  let n := c.toNat
  n == 0x5f || (0x41 ≤ n && n ≤ 0x5a) || (0x61 ≤ n && n ≤ 0x7a)

def isNameChar (c : Char) : Bool :=
  isNameStart c || (0x30 ≤ c.toNat && c.toNat ≤ 0x39)

def readName? : List Char → Option (List Char × List Char)
  | [] => none
  | c :: rest =>
    if isNameStart c then some (c :: rest.takeWhile isNameChar, rest.dropWhile isNameChar) else none

def readBraced? (s : List Char) : Option (List Char × List Char) :=
  match s with
  | '\x7b' :: rest =>
    match readName? rest with
    | some (name, '\x7d' :: rest) => some (name, rest)
    | _ => none
  | _ => none

def readHole? (s : List Char) : Option (List Char × List Char) :=
  (readName? s).or (readBraced? s)

theorem length_dropWhile_le (p : Char → Bool) (s : List Char) : (s.dropWhile p).length ≤ s.length := by
  induction s with
  | nil => simp
  | cons c rest ih =>
    rw [List.dropWhile_cons]
    split
    · exact Nat.le_succ_of_le ih
    · exact Nat.le_refl _

theorem length_readName? {s name rest : List Char} (h : readName? s = some (name, rest)) :
    rest.length < s.length := by
  cases s with
  | nil => simp [readName?] at h
  | cons c s =>
    simp only [readName?] at h
    split at h
    · obtain ⟨-, rfl⟩ := Prod.mk.inj (Option.some.inj h)
      exact Nat.lt_succ_of_le (length_dropWhile_le _ _)
    · simp at h

theorem length_readHole? {s name rest : List Char} (h : readHole? s = some (name, rest)) :
    rest.length < s.length := by
  simp only [readHole?, Option.or_eq_some_iff] at h
  rcases h with h | ⟨-, h⟩
  · exact length_readName? h
  · unfold readBraced? at h
    split at h
    · split at h
      · next hname =>
        obtain ⟨-, rfl⟩ := Prod.mk.inj (Option.some.inj h)
        have := length_readName? hname
        simp only [List.length_cons] at this ⊢
        omega
      · simp at h
    · simp at h

/-- Takes a text apart; nothing after a fault counts. -/
def segments (p : Position) : List Char → List Segment
  | [] => []
  | c :: rest =>
    if c ≠ '$' then .literal c :: segments (p.advance c) rest
    else
      match rest with
      | [] => [.fault p]
      | c' :: after =>
        if c' = '$' then .literal '$' :: segments (p.skip 2) after
        else
          match _h : readHole? (c' :: after) with
          | none => [.fault p]
          | some (name, rest) =>
            .hole name :: segments (p.skip (name.length + if c' = '\x7b' then 3 else 1)) rest
termination_by s => s.length
decreasing_by
  · exact Nat.lt_succ_self _
  · exact Nat.lt_succ_of_lt (Nat.lt_succ_self _)
  · exact Nat.lt_succ_of_lt (length_readHole? _h)

abbrev Filling := List Char → Option (Except Fault (List Char))

/-- The text with every hole filled; the first segment that cannot be filled decides the failure. -/
def fill (filling : Filling) : List Segment → Except Fault (List Char)
  | [] => .ok []
  | .literal c :: rest => do
    let text ← fill filling rest
    pure (c :: text)
  | .hole name :: rest =>
    match filling name with
    | none => .error (.undefinedPlaceholder (String.ofList name))
    | some part => do
      let part ← part
      let text ← fill filling rest
      pure (part ++ text)
  | .fault p :: _ => .error (.badPlaceholder p.line p.column)

def literals : List (String × Value) → Except Fault (List (String × List Char))
  | [] => .ok []
  | (name, v) :: rest => do
    let text ← Literal.ofValue v
    let texts ← literals rest
    pure ((name, text) :: texts)

/-- A fragment is taken verbatim and goes before a literal of the same name. -/
def filling (strings : List (String × List Char)) (fragments : List (String × Value)) : Filling :=
  fun name =>
    match fragments.lookup (String.ofList name) with
    | some v => some (v.toText.map String.toList)
    | none => (strings.lookup (String.ofList name)).map .ok

def render (body : List Char) (strings fragments : List (String × Value)) :
    Except Fault (List Char) := do
  let texts ← literals strings
  fill (filling texts fragments) (segments {} body)

end Template

end HostLink
