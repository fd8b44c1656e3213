import HostLink.Host.Basic
import Mathlib.Data.Option.Basic
import Mathlib.Logic.Relation

/-!
# Hosts that answer

A call changes one name of the host: a function has been called once more, or a value is another. So
a host none of whose functions ever hangs is still such a host after any call.
-/

namespace HostLink

/-! ### Names after a change -/

namespace Names

theorem lookup_set (name other : String) (item : Item) (names : Names) :
    (set name item names).lookup other =
      if other = name then some item else names.lookup other := by
  induction names with
  | nil => by_cases heq : other = name <;> simp [set, List.lookup_cons, heq, beq_eq_false_iff_ne.mpr]
  | cons entry rest ih =>
      obtain ⟨known, held⟩ := entry
      by_cases hknown : known = name
      · subst hknown
        rw [set, if_pos rfl, List.lookup_cons, List.lookup_cons]
        by_cases heq : other = known
        · simp [heq]
        · simp [heq, beq_eq_false_iff_ne.mpr heq]
      · rw [set, if_neg hknown, List.lookup_cons, List.lookup_cons, ih]
        by_cases heq : other = known
        · simp [heq, hknown]
        · simp [beq_eq_false_iff_ne.mpr heq]

theorem lookup_update (name other : String) (change : Item → Item) (names : Names) :
    (update name change names).lookup other =
      if other = name then (names.lookup name).map change else names.lookup other := by
  unfold update
  cases hlookup : names.lookup name with
  | none =>
      by_cases heq : other = name
      · simp [heq, hlookup]
      · simp [heq]
  | some item => simp [lookup_set]

end Names

namespace Environment

theorem lookup_update (name other : String) (change : Item → Item) (environment : Environment) :
    (environment.update name change).lookup other =
      if other = name then (environment.lookup name).map change else environment.lookup other := by
  cases environment with
  | given names => exact Names.lookup_update name other change names
  | ambient builtin main =>
      cases hmain : main.lookup name with
      | none =>
          by_cases heq : other = name <;>
            simp [update, Names.has, lookup, Names.lookup_update, hmain, heq]
      | some item =>
          by_cases heq : other = name <;>
            simp [update, Names.has, lookup, Names.lookup_update, hmain, heq]

theorem item_update (name other : String) (change : Item → Item) (environment : Environment) :
    (environment.update name change).item other = environment.item other ∨
      (environment.update name change).item other = change (environment.item name) := by
  unfold item
  rw [lookup_update]
  by_cases heq : other = name
  · subst heq
    cases environment.lookup other with
    | none => exact .inl (by simp)
    | some item => exact .inr (by simp)
  · exact .inl (by rw [if_neg heq])

end Environment

/-! ### Functions that come back -/

def Function.Answers (f : Function) : Prop :=
  ∀ calls args, f.respond calls args ≠ .hangs

theorem Function.answers_ofAnswer (answer : List Value → Except Fault Value) :
    (Function.ofAnswer answer).Answers := by
  intro calls args
  change Reply.ofExcept (answer args) ≠ .hangs
  cases answer args with
  | ok v => exact Reply.noConfusion
  | error fault => exact Reply.noConfusion

namespace Item

/-- Every function in the item answers. -/
def Answers : Item → Prop
  | .function f => f.Answers
  | .object members => ∀ name f, members.lookup name = some (.function f) → f.Answers
  | _ => True

theorem Answers.function? {item : Item} (hanswers : item.Answers) {f : Function}
    (hf : item.function? = some f) : f.Answers := by
  cases item with
  | function g =>
      obtain rfl : g = f := Option.some.inj hf
      exact hanswers
  | kind k =>
      obtain rfl := Option.some.inj hf
      exact Function.answers_ofAnswer _
  | family g =>
      obtain rfl := Option.some.inj hf
      exact Function.answers_ofAnswer _
  | object members => cases hf
  | plain v => cases hf

/-- A member function that is given under a condition, and answers when it is. -/
private theorem answers_of_ite {p : Prop} [Decidable p] {answer : List Value → Except Fault Value}
    {f : Function} (hf : (if p then some (.ofAnswer answer) else none) = some f) : f.Answers := by
  by_cases hp : p
  · rw [if_pos hp] at hf
    obtain rfl := Option.some.inj hf
    exact Function.answers_ofAnswer answer
  · rw [if_neg hp] at hf
    cases hf

theorem Answers.memberFunction? {item : Item} (hanswers : item.Answers) {name : String}
    {f : Function} (hf : item.memberFunction? name = some f) : f.Answers := by
  cases item with
  | object members =>
      simp only [Item.memberFunction?] at hf
      cases hlookup : members.lookup name with
      | none =>
          rw [hlookup] at hf
          exact answers_of_ite hf
      | some member =>
          rw [hlookup] at hf
          cases member with
          | function g =>
              obtain rfl : g = f := Option.some.inj hf
              exact hanswers name g hlookup
          | _ => exact Answers.function? (by trivial) hf
  | function g =>
      simp only [Item.memberFunction?] at hf
      by_cases hname : name = callName
      · rw [if_pos hname] at hf
        obtain rfl : g = f := Option.some.inj hf
        exact hanswers
      · rw [if_neg hname] at hf
        exact answers_of_ite hf
  | kind k => exact answers_of_ite hf
  | family g => exact answers_of_ite hf
  | plain v => exact answers_of_ite hf

theorem Answers.afterCall {item : Item} (hanswers : item.Answers) : item.afterCall.Answers := by
  cases item with
  | function f => exact fun calls args => hanswers calls args
  | _ => exact hanswers

theorem Answers.afterMemberCall {item : Item} (hanswers : item.Answers) (name : String)
    (args : List Value) : (item.afterMemberCall name args).Answers := by
  cases item with
  | object members =>
      intro other f hlookup
      rw [Names.lookup_update] at hlookup
      by_cases heq : other = name
      · rw [if_pos heq] at hlookup
        obtain ⟨member, hmember, hafter⟩ := Option.map_eq_some_iff.mp hlookup
        cases member with
        | function g =>
            obtain rfl : g.countCall = f := Item.function.inj hafter
            exact fun calls args => hanswers name g hmember calls args
        | _ => cases hafter
      · rw [if_neg heq] at hlookup
        exact hanswers other f hlookup
  | plain v => trivial
  | _ => exact hanswers

end Item

/-! ### Names that stand for functions -/

def Item.isFunction : Item → Bool
  | .function _ => true
  | _ => false

theorem Item.isFunction_afterCall (item : Item) : item.afterCall.isFunction = item.isFunction := by
  cases item <;> rfl

theorem Item.isFunction_afterMemberCall (name : String) (args : List Value) (item : Item) :
    (item.afterMemberCall name args).isFunction = item.isFunction := by
  cases item <;> rfl

theorem Environment.isFunction_item_update {change : Item → Item}
    (hchange : ∀ item, (change item).isFunction = item.isFunction) (name other : String)
    (environment : Environment) :
    ((environment.update name change).item other).isFunction =
      (environment.item other).isFunction := by
  unfold item
  rw [lookup_update]
  by_cases heq : other = name
  · subst heq
    cases environment.lookup other with
    | none => simp
    | some item => simp [hchange]
  · rw [if_neg heq]

namespace Host

theorem settle_member (host : Host) (object name : String) :
    host.settle (.member object name) =
      if (host.environment.item object).isFunction = true ∧ name = Item.callName then
        .global object
      else .member object name := by
  unfold settle
  dsimp only
  cases host.environment.item object with
  | function f => simp [Item.isFunction]
  | _ => simp [Item.isFunction]

theorem settle_congr {host next : Host}
    (hsame : ∀ name, (next.environment.item name).isFunction =
      (host.environment.item name).isFunction) : next.settle = host.settle := by
  funext target
  cases target with
  | direct => rfl
  | global name => rfl
  | member object name => rw [settle_member, settle_member, hsame]

/-- A call leaves it as it was which function a target means. -/
theorem settle_call (host : Host) (target : Target) (args : List Value) :
    (host.call target args).2.settle = host.settle := by
  unfold Host.call
  cases host.function? target with
  | none => rfl
  | some f =>
      dsimp only
      cases host.settle target with
      | direct => rfl
      | global name =>
          exact settle_congr fun other =>
            Environment.isFunction_item_update Item.isFunction_afterCall name other _
      | member object name =>
          exact settle_congr fun other =>
            Environment.isFunction_item_update (Item.isFunction_afterMemberCall name args) object
              other _

/-- No function of the host ever hangs. -/
structure Answers (host : Host) : Prop where
  direct : ∀ f, host.direct = some f → f.Answers
  item : ∀ name, (host.environment.item name).Answers

theorem Answers.function? {host : Host} (hanswers : host.Answers) {target : Target} {f : Function}
    (hf : host.function? target = some f) : f.Answers := by
  unfold Host.function? at hf
  generalize host.settle target = settled at hf
  cases settled with
  | direct => exact hanswers.direct f hf
  | global name => exact (hanswers.item name).function? hf
  | member object name => exact (hanswers.item object).memberFunction? hf

theorem Answers.update {host : Host} (hanswers : host.Answers) (name : String)
    {change : Item → Item} (hchange : ∀ item : Item, item.Answers → (change item).Answers) :
    ({ host with environment := host.environment.update name change } : Host).Answers := by
  refine ⟨hanswers.direct, fun other => ?_⟩
  rcases host.environment.item_update name other change with heq | heq
  · exact heq ▸ hanswers.item other
  · exact heq ▸ hchange _ (hanswers.item name)

theorem Answers.afterCall {host : Host} (hanswers : host.Answers) (args : List Value)
    (target : Target) : (host.afterCall args target).Answers := by
  cases target with
  | direct =>
      refine ⟨fun f hf => ?_, hanswers.item⟩
      obtain ⟨g, hg, rfl⟩ := Option.map_eq_some_iff.mp hf
      exact fun calls args => hanswers.direct g hg calls args
  | global name => exact hanswers.update name fun _ hitem => hitem.afterCall
  | member object name =>
      exact hanswers.update object fun _ hitem => hitem.afterMemberCall name args

/-- **A call of a host that answers comes back, and the host goes on answering.** -/
theorem Answers.call {host : Host} (hanswers : host.Answers) (target : Target)
    (args : List Value) :
    (host.call target args).1 ≠ .hangs ∧ (host.call target args).2.Answers := by
  unfold Host.call
  cases hf : host.function? target with
  | some f => exact ⟨hanswers.function? hf _ _, hanswers.afterCall args _⟩
  | none => exact ⟨Reply.noConfusion, hanswers⟩

/-- Calls, one after another, make the second host of the first. -/
def Leads : Host → Host → Prop :=
  Relation.ReflTransGen fun host next => ∃ target args, next = (host.call target args).2

theorem Leads.call {host next : Host} (hleads : host.Leads next) (target : Target)
    (args : List Value) : host.Leads (next.call target args).2 :=
  hleads.tail ⟨target, args, rfl⟩

/-- The function that was handed over stays, and only its calls are counted. -/
theorem Leads.direct {host next : Host} (hleads : host.Leads next) :
    ∃ n, next.direct = host.direct.map fun f => { f with calls := f.calls + n } := by
  induction hleads with
  | refl => exact ⟨0, by cases host.direct <;> rfl⟩
  | @tail earlier later _ hcall ih =>
      obtain ⟨target, args, rfl⟩ := hcall
      obtain ⟨n, hdirect⟩ := ih
      unfold Host.call
      split
      · cases Host.settle earlier target with
        | direct =>
            refine ⟨n + 1, ?_⟩
            rw [Host.afterCall, hdirect, Option.map_map]
            rfl
        | global name => exact ⟨n, hdirect⟩
        | member object name => exact ⟨n, hdirect⟩
      · exact ⟨n, hdirect⟩

theorem Answers.of_leads {host next : Host} (hanswers : host.Answers) (hleads : host.Leads next) :
    next.Answers := by
  induction hleads with
  | refl => exact hanswers
  | tail _ hcall ih =>
      obtain ⟨target, args, rfl⟩ := hcall
      exact (ih.call target args).2

end Host

end HostLink
