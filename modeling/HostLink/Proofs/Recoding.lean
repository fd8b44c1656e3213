import HostLink.Proofs.Alike
import HostLink.Proofs.Operation

/-!
# Text returned as bytes

A host may return the bytes of a text instead of the text, in any of its functions and at any call.
It makes no difference to what sessions do and come to.
-/

namespace HostLink

open Text

/-! ### Hosts that differ in how they return text -/

/-- The two hosts have functions for the same targets, and their next replies take as long and
differ at most in how a text is returned. -/
structure Host.AnswersAs (host other : Host) : Prop where
  settle : other.settle = host.settle
  found : ∀ target, (other.function? target).isSome = (host.function? target).isSome
  reply : ∀ target args, (host.call target args).1.RecodedAs (other.call target args).1
  delay : other.delay = host.delay

namespace Host

def afterCalls (host : Host) (calls : List (Target × List Value)) : Host :=
  calls.foldl (fun host call => (host.call call.1 call.2).2) host

/-- After the same calls, whichever they are, the hosts differ in how text is returned alone. -/
def RecodedAs (host other : Host) : Prop :=
  ∀ calls, (host.afterCalls calls).AnswersAs (other.afterCalls calls)

theorem isLikeness_recodedAs : IsLikeness RecodedAs where
  settle hrecoded := (hrecoded []).settle
  found hrecoded := (hrecoded []).found
  reply hrecoded := (hrecoded []).reply
  delay hrecoded := (hrecoded []).delay
  after hrecoded target args calls := hrecoded ((target, args) :: calls)

theorem IsLikeness.recodedAs {R : Host → Host → Prop} (hR : IsLikeness R) {host other : Host}
    (hhosts : R host other) : host.RecodedAs other := by
  intro calls
  induction calls generalizing host other with
  | nil => exact ⟨hR.settle hhosts, hR.found hhosts, hR.reply hhosts, hR.delay hhosts⟩
  | cons call rest ih => exact ih (hR.after hhosts call.1 call.2)

end Host

/-! ### Replacing what functions return -/

inductive Coding where
  | text
  | bytes
  | buffer

def Coding.apply : Coding → Value → Value
  | .bytes, .text s => .bytes (Utf8.encode s.toList)
  | .buffer, .text s => .buffer (Utf8.encode s.toList)
  | _, v => v

theorem Coding.recodedAs_apply (coding : Coding) (v : Value) : v.RecodedAs (coding.apply v) := by
  cases v with
  | text s =>
      cases coding with
      | text => exact .same _
      | bytes => exact .bytes s
      | buffer => exact .buffer s
  | _ => cases coding <;> exact .same _

/-- The coding of the text that is returned by a call of a target, given how many calls went before
and the arguments. -/
abbrev Recoding := Target → Nat → List Value → Coding

namespace Function

def recode (how : Nat → List Value → Coding) (f : Function) : Function :=
  { f with respond := fun calls args =>
      match f.respond calls args with
      | .returns v => .returns ((how calls args).apply v)
      | reply => reply }

/-- The functions were called as often, answer alike and take as long. -/
structure RecodedAs (f g : Function) : Prop where
  calls : g.calls = f.calls
  respond : ∀ calls args, (f.respond calls args).RecodedAs (g.respond calls args)
  delay : g.delay = f.delay

theorem RecodedAs.refl (f : Function) : f.RecodedAs f :=
  ⟨rfl, fun _ _ => .same _, rfl⟩

theorem rel_refl (f : Option Function) : Option.Rel RecodedAs f f := by
  cases f with
  | none => exact .none
  | some f => exact .some (.refl f)

theorem recodedAs_recode (how : Nat → List Value → Coding) (f : Function) :
    f.RecodedAs (f.recode how) := by
  refine ⟨rfl, fun calls args => ?_, rfl⟩
  simp only [recode]
  cases f.respond calls args with
  | returns v => exact .returns (Coding.recodedAs_apply _ v)
  | raises fault => exact .same _
  | hangs => exact .same _

end Function

namespace Item

def mapFunction (change : Function → Function) : Item → Item
  | .function f => .function (change f)
  | item => item

/-- What a name stands for, with the functions and the members among it recoded. -/
def recode (how : Recoding) (name : String) : Item → Item
  | .object members =>
    .object (members.map fun m => (m.1, m.2.mapFunction (.recode (how (.member name m.1)))))
  | item => item.mapFunction (.recode (how (.global name)))

end Item

def Names.recode (how : Recoding) (names : Names) : Names :=
  names.map fun entry => (entry.1, entry.2.recode how entry.1)

def Environment.recode (how : Recoding) : Environment → Environment
  | .given names => .given (names.recode how)
  | .ambient builtin main => .ambient (builtin.recode how) (main.recode how)

def Host.recode (how : Recoding) (host : Host) : Host where
  environment := host.environment.recode how
  direct := host.direct.map (.recode (how .direct))

/-! ### Names after a change -/

namespace Names

theorem lookup_map (change : String → Item → Item) (name : String) (names : Names) :
    (names.map fun entry => (entry.1, change entry.1 entry.2)).lookup name =
      (names.lookup name).map (change name) := by
  induction names with
  | nil => rfl
  | cons entry rest ih =>
      rw [List.map_cons, List.lookup_cons, List.lookup_cons, ih]
      by_cases heq : name = entry.1
      · simp [heq]
      · simp [beq_eq_false_iff_ne.mpr heq]

theorem set_map (change : String → Item → Item) (name : String) (item : Item) (names : Names) :
    set name (change name item) (names.map fun entry => (entry.1, change entry.1 entry.2)) =
      (set name item names).map fun entry => (entry.1, change entry.1 entry.2) := by
  induction names with
  | nil => rfl
  | cons entry rest ih =>
      rw [List.map_cons, set, set]
      by_cases heq : entry.1 = name
      · simp [heq]
      · simp [heq, ih]

theorem update_map (change : String → Item → Item) {after : Item → Item} {name : String}
    (hcommute : ∀ item, after (change name item) = change name (after item)) (names : Names) :
    update name after (names.map fun entry => (entry.1, change entry.1 entry.2)) =
      (update name after names).map fun entry => (entry.1, change entry.1 entry.2) := by
  unfold update
  rw [lookup_map]
  cases names.lookup name with
  | none => rfl
  | some item =>
      simp only [Option.map_some, hcommute]
      exact set_map change name (after item) names

end Names

/-! ### Recoded items -/

namespace Item

variable {how : Recoding} {name : String}

theorem afterCall_mapFunction {how : Nat → List Value → Coding} (item : Item) :
    (item.mapFunction (.recode how)).afterCall = item.afterCall.mapFunction (.recode how) := by
  cases item <;> rfl

theorem afterCall_recode (item : Item) :
    (item.recode how name).afterCall = item.afterCall.recode how name := by
  cases item <;> rfl

theorem afterMemberCall_recode (member : String) (args : List Value) (item : Item) :
    (item.recode how name).afterMemberCall member args =
      (item.afterMemberCall member args).recode how name := by
  cases item with
  | object members =>
      exact congrArg Item.object (Names.update_map
        (fun other item => item.mapFunction (.recode (how (.member name other))))
        afterCall_mapFunction members)
  | _ => rfl

theorem isFunction_recode (how : Recoding) (name : String) (item : Item) :
    (item.recode how name).isFunction = item.isFunction := by
  cases item <;> rfl

theorem function?_mapFunction (how : Nat → List Value → Coding) (item : Item) :
    Option.Rel Function.RecodedAs item.function? (item.mapFunction (.recode how)).function? := by
  cases item with
  | function f => exact .some (f.recodedAs_recode how)
  | object members => exact .none
  | plain v => exact .none
  | kind k => exact .some (.refl _)
  | family f => exact .some (.refl _)

theorem function?_recode (item : Item) :
    Option.Rel Function.RecodedAs item.function? (item.recode how name).function? := by
  have hmapped := function?_mapFunction (how (.global name)) item
  cases item with
  | object members => exact .none
  | _ => exact hmapped

theorem memberFunction?_recode (member : String) (item : Item) :
    Option.Rel Function.RecodedAs (item.memberFunction? member)
      ((item.recode how name).memberFunction? member) := by
  cases item with
  | object members =>
      simp only [recode, memberFunction?]
      rw [Names.lookup_map fun other item => item.mapFunction (.recode (how (.member name other)))]
      cases members.lookup member with
      | none => exact Function.rel_refl _
      | some item => exact function?_mapFunction _ item
  | function f =>
      simp only [recode, mapFunction, memberFunction?]
      by_cases hcall : member = callName
      · simp only [hcall, if_true]
        exact .some (f.recodedAs_recode _)
      · simp only [hcall, if_false]
        exact Function.rel_refl _
  | _ => exact Function.rel_refl _

end Item

/-! ### Recoded hosts -/

namespace Environment

variable {how : Recoding} {name : String}

theorem lookup_recode (environment : Environment) :
    (environment.recode how).lookup name = (environment.lookup name).map (.recode how name) := by
  have hnames : ∀ names : Names,
      (names.recode how).lookup name = (names.lookup name).map (.recode how name) :=
    Names.lookup_map (fun other item => item.recode how other) name
  cases environment with
  | given names => exact hnames names
  | ambient builtin main =>
      simp only [recode, lookup, hnames]
      cases main.lookup name <;> rfl

theorem item_recode (environment : Environment) :
    (environment.recode how).item name = (environment.item name).recode how name := by
  unfold item
  rw [lookup_recode]
  cases environment.lookup name <;> rfl

theorem update_recode {after : Item → Item}
    (hcommute : ∀ item : Item, after (item.recode how name) = (after item).recode how name)
    (environment : Environment) :
    (environment.recode how).update name after = (environment.update name after).recode how := by
  have hnames : ∀ names : Names,
      (names.recode how).update name after = (names.update name after).recode how :=
    Names.update_map (fun other item => item.recode how other) hcommute
  cases environment with
  | given names => exact congrArg Environment.given (hnames names)
  | ambient builtin main =>
      have hhas : (main.recode how).has name = main.has name := by
        unfold Names.has Names.recode
        rw [Names.lookup_map fun other item => item.recode how other, Option.isSome_map]
      simp only [recode, update, hhas, hnames]
      split <;> rfl

end Environment

namespace Host

variable {how : Recoding}

theorem settle_recode (host : Host) : (host.recode how).settle = host.settle :=
  settle_congr fun name =>
    (congrArg Item.isFunction (Environment.item_recode host.environment)).trans
      (Item.isFunction_recode how name _)

theorem function?_recode (how : Recoding) (host : Host) (target : Target) :
    Option.Rel Function.RecodedAs (host.function? target) ((host.recode how).function? target) := by
  unfold function?
  rw [settle_recode]
  cases host.settle target with
  | direct =>
      simp only [settledFunction?, recode]
      cases host.direct with
      | none => exact .none
      | some f => exact .some (f.recodedAs_recode _)
  | global name =>
      simp only [settledFunction?, recode, Environment.item_recode]
      exact Item.function?_recode _
  | member object name =>
      simp only [settledFunction?, recode, Environment.item_recode]
      exact Item.memberFunction?_recode name _

theorem afterCall_recode (host : Host) (args : List Value) (target : Target) :
    (host.recode how).afterCall args target = (host.afterCall args target).recode how := by
  cases target with
  | direct =>
      simp only [afterCall, recode, Option.map_map]
      rfl
  | global name =>
      simp only [afterCall, recode, Environment.update_recode Item.afterCall_recode]
  | member object name =>
      simp only [afterCall, recode,
        Environment.update_recode (Item.afterMemberCall_recode name args)]

/-- A call of the recoded host is that of the host, recoded. -/
theorem call_recode (host : Host) (target : Target) (args : List Value) :
    (host.call target args).1.RecodedAs ((host.recode how).call target args).1 ∧
      ((host.recode how).call target args).2 = (host.call target args).2.recode how := by
  have hfunctions := function?_recode how host target
  unfold call
  rw [settle_recode]
  generalize host.function? target = f at hfunctions
  generalize (host.recode how).function? target = g at hfunctions
  cases hfunctions with
  | none => exact ⟨.same _, rfl⟩
  | some hrecoded =>
      dsimp only
      rw [hrecoded.calls]
      exact ⟨hrecoded.respond _ _, afterCall_recode host args _⟩

theorem delay_recode (how : Recoding) (host : Host) : (host.recode how).delay = host.delay := by
  funext target args
  have hfunctions := function?_recode how host target
  unfold delay
  generalize host.function? target = f at hfunctions
  generalize (host.recode how).function? target = g at hfunctions
  cases hfunctions with
  | none => rfl
  | some hrecoded =>
      dsimp only
      rw [hrecoded.calls, hrecoded.delay]

/-- **Text that functions return may be replaced by its bytes**, at any call. -/
theorem recodedAs_recode (how : Recoding) (host : Host) : host.RecodedAs (host.recode how) := by
  refine IsLikeness.recodedAs (R := fun host other => other = host.recode how) ?_ rfl
  refine ⟨?_, ?_, ?_, ?_, ?_⟩
  · rintro host _ rfl
    exact settle_recode host
  · rintro host _ rfl target
    have hfunctions := function?_recode how host target
    generalize host.function? target = f at hfunctions
    generalize (host.recode how).function? target = g at hfunctions
    cases hfunctions <;> rfl
  · rintro host _ rfl target args
    exact (call_recode host target args).1
  · rintro host _ rfl
    exact delay_recode how host
  · rintro host _ rfl target args
    exact (call_recode host target args).2

end Host

/-! ### What sessions make of them -/

namespace Session

open Run

/-- Text and its bytes are interchangeable in what a host returns. -/
structure TakesBytesAsText (session : Session) : Prop where
  decoded : ∀ s : String, (Value.bytes (Utf8.encode s.toList)).asText = .ok s ∧
    (Value.buffer (Utf8.encode s.toList)).asText = .ok s
  /-- Any operations come to the same, make the same calls, and are heard and noted alike, on hosts
  that differ in how they return text, and leave such hosts behind. -/
  same : ∀ (host other : Host) (observer : Option Observer) (operations : List Operation),
    host.RecodedAs other →
      let result := session.produceAll operations ⟨host, observer⟩
      let result' := session.produceAll operations ⟨other, observer⟩
      result'.outcome = result.outcome ∧ result'.journal = result.journal ∧
        result'.surroundings.observer = result.surroundings.observer ∧
        result.surroundings.host.RecodedAs result'.surroundings.host
  /-- A host whose functions return bytes or buffers, now and then, differs in nothing else. -/
  replaced : ∀ (host : Host) (how : Recoding), host.RecodedAs (host.recode how)

/-- **Text and its bytes are interchangeable.** -/
theorem takesBytesAsText (session : Session) : session.TakesBytesAsText where
  decoded s := by
    have htext : (Value.text s).asText = .ok s := by
      simp [Value.asText, Value.toText, Value.text?]
    exact ⟨(Value.RecodedAs.bytes s).asText_eq.trans htext,
      (Value.RecodedAs.buffer s).asText_eq.trans htext⟩
  same host other observer operations hrecoded := by
    obtain ⟨houtcome, hjournal, hobserver, hhosts⟩ :=
      (session.composed_produceAll operations).alike Host.isLikeness_recodedAs host other observer
        hrecoded
    exact ⟨houtcome.eq, hjournal, hobserver, hhosts⟩
  replaced host how := host.recodedAs_recode how

end Session

end HostLink
