import HostLink.Proofs.Alike
import HostLink.Proofs.Kind
import Mathlib.Logic.Function.Basic

/-!
# Environments that change

Names are given an item, and are taken away again. Calls change items as well, but never what can be
called. What can be called in an environment follows from what its names stand for, so that two
environments in which all names stand for the same can take each other's place.
-/

namespace HostLink

/-! ### Changes -/

/-- Where names around the program are: among its own, or among those built in. -/
inductive Layer where
  | own
  | builtin

/-- A change of what a name stands for in a layer: it is given an item, or taken away. -/
structure Change where
  layer : Layer
  name : String
  item : Option Item

def Names.assign (name : String) (item : Option Item) (names : Names) : Names :=
  match item with
  | some item => names.set name item
  | none => names.erase name

/-- Names that are given have nothing to do with those built in. -/
def Change.apply (c : Change) : Environment → Environment
  | .given names =>
    match c.layer with
    | .own => .given (names.assign c.name c.item)
    | .builtin => .given names
  | .ambient builtin main =>
    match c.layer with
    | .own => .ambient builtin (main.assign c.name c.item)
    | .builtin => .ambient (builtin.assign c.name c.item) main

def Host.change (c : Change) (host : Host) : Host :=
  { host with environment := c.apply host.environment }

theorem Environment.set_eq_apply (name : String) (item : Item) (environment : Environment) :
    environment.set name item = (⟨.own, name, some item⟩ : Change).apply environment := by
  cases environment <;> rfl

/-- A name is taken from where it is found. -/
theorem Environment.erase_eq_apply (name : String) (environment : Environment) :
    ∃ layer, environment.erase name = (⟨layer, name, none⟩ : Change).apply environment := by
  cases environment with
  | given names => exact ⟨.own, rfl⟩
  | ambient builtin main =>
      by_cases hmain : main.has name = true
      · exact ⟨.own, if_pos hmain⟩
      · exact ⟨.builtin, if_neg hmain⟩

theorem Names.lookup_erase (name other : String) (names : Names) :
    (erase name names).lookup other = if other = name then none else names.lookup other := by
  induction names with
  | nil => simp [erase]
  | cons entry rest ih =>
      obtain ⟨known, held⟩ := entry
      by_cases hknown : known = name
      · have hdropped : erase name ((known, held) :: rest) = erase name rest :=
          List.filter_cons_of_neg (by simp [hknown])
        rw [hdropped, ih, List.lookup_cons]
        by_cases heq : other = known
        · simp [heq, hknown]
        · rw [beq_eq_false_iff_ne.mpr heq]
      · have hkept : erase name ((known, held) :: rest) = (known, held) :: erase name rest :=
          List.filter_cons_of_pos (by simp [hknown])
        rw [hkept, List.lookup_cons, List.lookup_cons, ih]
        by_cases heq : other = known
        · simp [heq, hknown]
        · simp [beq_eq_false_iff_ne.mpr heq]

theorem Names.lookup_assign (name other : String) (item : Option Item) (names : Names) :
    (assign name item names).lookup other = if other = name then item else names.lookup other := by
  cases item with
  | none => exact lookup_erase name other names
  | some item => exact lookup_set name other item names

theorem Environment.lookup_apply_of_ne {c : Change} {name : String} (hne : name ≠ c.name)
    (environment : Environment) :
    (c.apply environment).lookup name = environment.lookup name := by
  obtain ⟨layer, changed, item⟩ := c
  cases environment <;> cases layer <;>
    simp only [Change.apply, lookup, Names.lookup_assign, if_neg hne]

/-! ### What is seen of an environment -/

/-- What is seen of the items that names stand for. -/
inductive View (γ : Type) where
  | given (names : String → Option γ)
  | ambient (builtin main : String → Option γ)

namespace View

variable {γ : Type}

def lookup (name : String) : View γ → Option γ
  | given names => names name
  | ambient builtin main => (main name).or (builtin name)

def assign (layer : Layer) (name : String) (x : Option γ) : View γ → View γ
  | given names =>
    match layer with
    | .own => given (Function.update names name x)
    | .builtin => given names
  | ambient builtin main =>
    match layer with
    | .own => ambient builtin (Function.update main name x)
    | .builtin => ambient (Function.update builtin name x) main

def update (name : String) (change : γ → γ) : View γ → View γ
  | given names => given (Function.update names name ((names name).map change))
  | ambient builtin main =>
    if (main name).isSome then
      ambient builtin (Function.update main name ((main name).map change))
    else ambient (Function.update builtin name ((builtin name).map change)) main

theorem assign_assign (layer : Layer) (name : String) (x y : Option γ) (view : View γ) :
    (view.assign layer name x).assign layer name y = view.assign layer name y := by
  cases view <;> cases layer <;> simp [assign]

theorem update_id (name : String) (view : View γ) : view.update name id = view := by
  cases view with
  | given names => simp [update]
  | ambient builtin main => simp [update]

end View

def Names.view {γ : Type} (see : Item → γ) (names : Names) (name : String) : Option γ :=
  (names.lookup name).map see

def Environment.view {γ : Type} (see : Item → γ) : Environment → View γ
  | .given names => .given (names.view see)
  | .ambient builtin main => .ambient (builtin.view see) (main.view see)

section

variable {γ : Type} {see : Item → γ}

namespace Names

theorem view_assign (name : String) (item : Option Item) (names : Names) :
    (assign name item names).view see =
      Function.update (names.view see) name (item.map see) := by
  funext other
  rw [view, lookup_assign, Function.update_apply]
  split <;> rfl

theorem view_update {change : Item → Item} {change' : γ → γ}
    (hsee : ∀ item, see (change item) = change' (see item)) (name : String) (names : Names) :
    (update name change names).view see =
      Function.update (names.view see) name ((names.view see name).map change') := by
  funext other
  rw [view, lookup_update, Function.update_apply]
  split
  · rw [view, Option.map_map, Option.map_map]
    exact congrArg (Option.map · _) (funext hsee)
  · rfl

theorem isSome_view (see : Item → γ) (name : String) (names : Names) :
    (names.view see name).isSome = names.has name :=
  Option.isSome_map

end Names

namespace Environment

theorem lookup_view (name : String) (environment : Environment) :
    (environment.view see).lookup name = (environment.lookup name).map see := by
  cases environment with
  | given names => rfl
  | ambient builtin main =>
      simp only [view, View.lookup, Names.view, lookup]
      cases main.lookup name <;> rfl

theorem view_update {change : Item → Item} {change' : γ → γ}
    (hsee : ∀ item, see (change item) = change' (see item)) (name : String)
    (environment : Environment) :
    (environment.update name change).view see = (environment.view see).update name change' := by
  cases environment with
  | given names => exact congrArg View.given (Names.view_update hsee name names)
  | ambient builtin main =>
      simp only [update, view, View.update, Names.isSome_view]
      by_cases hmain : main.has name = true
      · simp only [hmain, if_true, Names.view_update hsee]
      · simp only [hmain, if_false, Bool.false_eq_true, Names.view_update hsee]

theorem view_apply (c : Change) (environment : Environment) :
    (c.apply environment).view see =
      (environment.view see).assign c.layer c.name (c.item.map see) := by
  obtain ⟨layer, name, item⟩ := c
  cases environment with
  | given names =>
      cases layer with
      | own => exact congrArg View.given (Names.view_assign name item names)
      | builtin => rfl
  | ambient builtin main =>
      cases layer with
      | own => exact congrArg (View.ambient _) (Names.view_assign name item main)
      | builtin => exact congrArg (View.ambient · _) (Names.view_assign name item builtin)

end Environment

end

/-! ### What can be called -/

/-- Whether an item can be called, and which members of it can. -/
structure Abilities where
  callable : Bool
  member : String → Bool

namespace Item

def abilities (item : Item) : Abilities :=
  ⟨item.function?.isSome, fun name => (item.memberFunction? name).isSome⟩

theorem abilities_afterCall (item : Item) : item.afterCall.abilities = item.abilities := by
  cases item with
  | function f =>
      refine congrArg (Abilities.mk true) (funext fun name => ?_)
      simp only [afterCall, memberFunction?, Function.countCall]
      by_cases hname : name = callName
      · simp only [hname, if_true, Option.isSome_some]
      · simp only [hname, if_false]
  | _ => rfl

theorem isSome_memberFunction?_plain (v : Value) (name : String) :
    ((plain v).memberFunction? name).isSome = v.kind.hasMember name := by
  rw [memberFunction?]
  by_cases hmember : v.kind.hasMember name = true
  · rw [if_pos hmember, hmember]
    rfl
  · rw [if_neg hmember, Bool.eq_false_iff.mpr hmember]
    rfl

theorem abilities_afterMemberCall (name : String) (args : List Value) (item : Item) :
    (item.afterMemberCall name args).abilities = item.abilities := by
  cases item with
  | object members =>
      refine congrArg (Abilities.mk false) (funext fun other => ?_)
      simp only [afterMemberCall, memberFunction?]
      rw [Names.lookup_update]
      by_cases heq : other = name
      · subst heq
        rw [if_pos rfl]
        cases members.lookup other with
        | none => rfl
        | some member => exact congrArg Abilities.callable member.abilities_afterCall
      · rw [if_neg heq]
  | plain v =>
      refine congrArg (Abilities.mk false) (funext fun other => ?_)
      rw [afterMemberCall, isSome_memberFunction?_plain, isSome_memberFunction?_plain,
        Value.kind_after_callMember]
  | _ => rfl

end Item

namespace Environment

/-- Whether a target can be called. A name that is not there stands for nothing, which has members
of its own. -/
def reaches (environment : Environment) : Target → Bool
  | .direct => false
  | .global name => (environment.item name).function?.isSome
  | .member object name => ((environment.item object).memberFunction? name).isSome

theorem reaches_congr {environment other : Environment}
    (hview : environment.view Item.abilities = other.view Item.abilities) :
    environment.reaches = other.reaches := by
  have habilities : ∀ name, (environment.item name).abilities = (other.item name).abilities := by
    intro name
    have hlookup := congrArg (View.lookup name) hview
    rw [lookup_view, lookup_view] at hlookup
    unfold item
    rw [← Option.getD_map Item.abilities, ← Option.getD_map Item.abilities, hlookup]
  funext target
  cases target with
  | direct => rfl
  | global name => exact congrArg Abilities.callable (habilities name)
  | member object name => exact congrFun (congrArg Abilities.member (habilities object)) name

theorem reaches_of_absent {environment : Environment} {object : String}
    (habsent : environment.lookup object = none) (name : String) :
    environment.reaches (.global object) = false ∧
      environment.reaches (.member object name) = Kind.null.hasMember name := by
  have hitem : environment.item object = .plain .null := by
    rw [item, habsent]
    rfl
  simp only [reaches, hitem, Item.isSome_memberFunction?_plain]
  exact ⟨rfl, rfl⟩

end Environment

namespace Host

theorem function?_eq (host : Host) (target : Target) :
    host.function? target = host.settledFunction? target := by
  cases target with
  | direct => rfl
  | global name => rfl
  | member object name =>
      rw [function?, settle_member]
      by_cases hsettled : (host.environment.item object).isFunction = true ∧ name = Item.callName
      · obtain ⟨hfunction, rfl⟩ := hsettled
        rw [if_pos ⟨hfunction, rfl⟩]
        simp only [settledFunction?]
        cases hitem : host.environment.item object with
        | function f => simp only [Item.function?, Item.memberFunction?, if_true]
        | _ =>
            rw [hitem] at hfunction
            cases hfunction
      · rw [if_neg hsettled]

theorem isSome_function? (host : Host) {target : Target} (htarget : target ≠ .direct) :
    (host.function? target).isSome = host.environment.reaches target := by
  rw [function?_eq]
  cases target with
  | direct => exact absurd rfl htarget
  | global name => rfl
  | member object name => rfl

/-- **Calls change nothing about what can be called.** -/
theorem view_call (host : Host) (target : Target) (args : List Value) :
    (host.call target args).2.environment.view Item.abilities =
      host.environment.view Item.abilities := by
  unfold call
  cases host.function? target with
  | none => rfl
  | some f =>
      dsimp only
      cases host.settle target with
      | direct => rfl
      | global name =>
          exact (Environment.view_update Item.abilities_afterCall name host.environment).trans
            (View.update_id name _)
      | member object name =>
          exact (Environment.view_update (Item.abilities_afterMemberCall name args) object
            host.environment).trans (View.update_id object _)

/-! ### Environments in each other's place -/

/-- All names stand for the same. -/
structure SameNames (host other : Host) : Prop where
  lookup : ∀ name, other.environment.lookup name = host.environment.lookup name
  direct : other.direct = host.direct

theorem SameNames.item {host other : Host} (hsame : host.SameNames other) (name : String) :
    other.environment.item name = host.environment.item name := by
  unfold Environment.item
  rw [hsame.lookup]

theorem SameNames.settle {host other : Host} (hsame : host.SameNames other) :
    other.settle = host.settle :=
  settle_congr fun name => by rw [hsame.item]

theorem SameNames.function? {host other : Host} (hsame : host.SameNames other) :
    other.function? = host.function? := by
  funext target
  rw [function?_eq, function?_eq]
  cases target with
  | direct => exact hsame.direct
  | global name => exact congrArg Item.function? (hsame.item name)
  | member object name => exact congrArg (Item.memberFunction? name) (hsame.item object)

theorem SameNames.reply {host other : Host} (hsame : host.SameNames other) (target : Target)
    (args : List Value) : (other.call target args).1 = (host.call target args).1 := by
  unfold call
  rw [hsame.function?]
  cases host.function? target <;> rfl

theorem SameNames.delay {host other : Host} (hsame : host.SameNames other) :
    other.delay = host.delay := by
  funext target args
  unfold Host.delay
  rw [hsame.function?]

/-- A call changes both hosts in the same way. -/
theorem SameNames.call {host other : Host} (hsame : host.SameNames other) (target : Target)
    (args : List Value) : (host.call target args).2.SameNames (other.call target args).2 := by
  unfold Host.call
  rw [hsame.function?, hsame.settle]
  cases host.function? target with
  | none => exact hsame
  | some f =>
      dsimp only
      cases host.settle target with
      | direct => exact ⟨hsame.lookup, congrArg (Option.map _) hsame.direct⟩
      | global name | member object name =>
          refine ⟨fun name => ?_, hsame.direct⟩
          simp only [afterCall, Environment.lookup_update, hsame.lookup]

theorem isLikeness_sameNames : IsLikeness SameNames where
  settle hsame := hsame.settle
  found hsame target := by rw [hsame.function?]
  reply hsame target args := by
    rw [hsame.reply]
    exact .same _
  delay hsame := hsame.delay
  after hsame := hsame.call

/-- All names stand for the same, and are where they are in the other host. -/
structure SamePlaces (host other : Host) : Prop where
  view : other.environment.view id = host.environment.view id
  direct : other.direct = host.direct

theorem SamePlaces.sameNames {host other : Host} (hsame : host.SamePlaces other) :
    host.SameNames other where
  lookup name := by
    have hlookup := congrArg (View.lookup name) hsame.view
    rwa [Environment.lookup_view, Environment.lookup_view, Option.map_id] at hlookup
  direct := hsame.direct

theorem isLikeness_samePlaces : IsLikeness SamePlaces where
  settle hsame := hsame.sameNames.settle
  found hsame target := by rw [hsame.sameNames.function?]
  reply hsame target args := by
    rw [hsame.sameNames.reply]
    exact .same _
  delay hsame := hsame.sameNames.delay
  after {host other} hsame target args := by
    unfold call
    rw [hsame.sameNames.function?, hsame.sameNames.settle]
    cases host.function? target with
    | none => exact hsame
    | some f =>
        have hview : ∀ (environment : Environment) (name : String) (change : Item → Item),
            (environment.update name change).view id = (environment.view id).update name change :=
          fun environment name change =>
            @Environment.view_update Item id change change (fun _ => rfl) name environment
        have hupdate : ∀ (name : String) (change : Item → Item),
            (other.environment.update name change).view id =
              (host.environment.update name change).view id := by
          intro name change
          rw [hview, hview, hsame.view]
        dsimp only
        cases host.settle target with
        | direct => exact ⟨hsame.view, congrArg (Option.map _) hsame.direct⟩
        | global name => exact ⟨hupdate _ _, hsame.direct⟩
        | member object name => exact ⟨hupdate _ _, hsame.direct⟩

theorem SamePlaces.change {host other : Host} (hsame : host.SamePlaces other) (c : Change) :
    (host.change c).SamePlaces (other.change c) where
  view := by simp only [Host.change, Environment.view_apply, hsame.view]
  direct := hsame.direct

/-- What a name stood for before it was changed is not seen anywhere afterwards. -/
theorem samePlaces_change_change (host : Host) {before c : Change}
    (hlayer : before.layer = c.layer) (hname : before.name = c.name) :
    (host.change c).SamePlaces ((host.change before).change c) where
  view := by simp only [Host.change, Environment.view_apply, hlayer, hname, View.assign_assign]
  direct := rfl

/-- The names of the other host are given, and all of them stand for the same. -/
structure GivenAs (host other : Host) : Prop extends host.SameNames other where
  given : ∃ names, other.environment = .given names

theorem isLikeness_givenAs : IsLikeness GivenAs where
  settle hsame := hsame.settle
  found hsame := isLikeness_sameNames.found hsame.toSameNames
  reply hsame := isLikeness_sameNames.reply hsame.toSameNames
  delay hsame := hsame.delay
  after {host other} hsame target args := by
    refine ⟨hsame.call target args, ?_⟩
    obtain ⟨names, hnames⟩ := hsame.given
    unfold call
    cases other.function? target with
    | none => exact ⟨names, hnames⟩
    | some f =>
        dsimp only
        cases other.settle target with
        | direct => exact ⟨names, hnames⟩
        | global name =>
            simp only [afterCall, hnames]
            exact ⟨_, rfl⟩
        | member object name =>
            simp only [afterCall, hnames]
            exact ⟨_, rfl⟩

end Host

namespace Environment

/-- What became of a name by a change, as a change of names that are given. -/
def seen (environment : Environment) (c : Change) : Change :=
  ⟨.own, c.name, (c.apply environment).lookup c.name⟩

/-- The names around the program in one: its own come before those built in. -/
def overlaid : Environment → Environment
  | .given names => .given names
  | .ambient builtin main => .given (main ++ builtin)

theorem lookup_overlaid (name : String) (environment : Environment) :
    environment.overlaid.lookup name = environment.lookup name := by
  cases environment with
  | given names => rfl
  | ambient builtin main => exact List.lookup_append

end Environment

namespace Host

def overlaid (host : Host) : Host :=
  { host with environment := host.environment.overlaid }

theorem givenAs_overlaid (host : Host) : host.GivenAs host.overlaid := by
  refine ⟨⟨fun name => Environment.lookup_overlaid name _, rfl⟩, ?_⟩
  unfold overlaid
  cases host.environment with
  | given names => exact ⟨_, rfl⟩
  | ambient builtin main => exact ⟨_, rfl⟩

theorem GivenAs.change_seen {host other : Host} (hgiven : host.GivenAs other) (c : Change) :
    (host.change c).GivenAs (other.change (host.environment.seen c)) := by
  obtain ⟨names, hnames⟩ := hgiven.given
  unfold Host.change
  refine ⟨⟨fun name => ?_, hgiven.direct⟩, ⟨_, by rw [hnames]; rfl⟩⟩
  dsimp only
  by_cases hname : name = c.name
  · rw [hname, hnames]
    exact (Names.lookup_assign c.name c.name _ names).trans (if_pos rfl)
  · rw [Environment.lookup_apply_of_ne hname, ← hgiven.lookup]
    exact Environment.lookup_apply_of_ne (c := host.environment.seen c) hname _

end Host

end HostLink
