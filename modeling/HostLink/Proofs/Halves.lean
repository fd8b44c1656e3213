import HostLink.Proofs.Reasons

/-!
# The halves of callbacks

However callbacks are made, a half of them is missing or is not all blank. So it does not matter how
one asks whether a half is there: what a program inlines is what the observer is told of.
-/

namespace HostLink

open Text

namespace Callbacks

/-! ### Making callbacks -/

/-- The value that a record gives for a half: that of the first name, even when it is nothing. -/
inductive Gives (fields : List (FieldName × Value)) (name alternative : String) : Value → Prop where
  | named {v : Value} (hname : Value.field? name fields = some v) : Gives fields name alternative v
  | alternative {v : Value} (hname : Value.field? name fields = none)
      (halternative : Value.field? alternative fields = some v) : Gives fields name alternative v
  | missing (hname : Value.field? name fields = none)
      (halternative : Value.field? alternative fields = none) : Gives fields name alternative .null

/-- What callers come to with these values for the halves. -/
inductive IsMadeFrom : Value → Value → Except Fault Callbacks → Prop where
  | make (enter leave : Value) : IsMadeFrom enter leave (make enter leave)
  | coerce {fields : List (FieldName × Value)} {enter leave : Value}
      (henter : Gives fields "onEnter" "on_enter" enter)
      (hleave : Gives fields "onLeave" "on_leave" leave) :
      IsMadeFrom enter leave (coerce (.record fields))

theorem Gives.choose_eq {fields : List (FieldName × Value)} {name alternative : String} {v : Value}
    (hgives : Gives fields name alternative v) : choose name alternative fields = v := by
  unfold choose
  cases hgives with
  | named hname => rw [hname]
  | alternative hname halternative =>
      rw [hname]
      exact congrArg (Option.getD · .null) halternative
  | missing hname halternative =>
      rw [hname]
      exact congrArg (Option.getD · .null) halternative

theorem IsMadeFrom.eq_make {enter leave : Value} {result : Except Fault Callbacks}
    (hmade : IsMadeFrom enter leave result) : result = Callbacks.make enter leave := by
  cases hmade with
  | make => rfl
  | coerce henter hleave => rw [Callbacks.coerce, henter.choose_eq, hleave.choose_eq]

/-! ### The form of a half -/

/-- A half that is there has a character that is not blank. -/
def IsNormal (half : Option String) : Prop :=
  ∀ text, half = some text → ∃ c ∈ text.toList, isBlank c = false

/-- A text that is all blank counts as missing. -/
def inked (half : Option String) : Option String :=
  half.filter hasInk

variable {half : Option String}

theorem hasInk_iff {text : String} : hasInk text = true ↔ ∃ c ∈ text.toList, isBlank c = false := by
  simp [hasInk]

theorem isNormal_inked (half : Option String) : IsNormal (inked half) := by
  intro text htext
  exact hasInk_iff.mp (Option.filter_eq_some_iff.mp htext).2

theorem IsNormal.inked_eq (hnormal : IsNormal half) : inked half = half := by
  cases half with
  | none => rfl
  | some text =>
      rw [inked, Option.filter_some, if_pos (hasInk_iff.mpr (hnormal text rfl))]

theorem half_ofOption (half : Option String) :
    Callbacks.half (.ofOption half) = .ok (inked half) := by
  cases half with
  | none => rfl
  | some text =>
      rw [inked, Option.filter_some, Value.ofOption, Callbacks.half, Response.toText_text]
      · rfl
      · exact Value.noConfusion

theorem isNormal_of_half {v : Value} (hhalf : Callbacks.half v = .ok half) : IsNormal half := by
  have hinked : ∃ given, half = inked given := by
    unfold Callbacks.half at hhalf
    split at hhalf
    · exact ⟨none, (Except.ok.inj hhalf).symm⟩
    · cases htext : v.toText with
      | error fault =>
          rw [htext] at hhalf
          cases hhalf
      | ok text =>
          rw [htext] at hhalf
          refine ⟨some text, ?_⟩
          rw [inked, Option.filter_some]
          exact (Except.ok.inj hhalf).symm
  obtain ⟨given, rfl⟩ := hinked
  exact isNormal_inked given

theorem make_ofOption (onEnter onLeave : Option String) :
    make (.ofOption onEnter) (.ofOption onLeave) = .ok ⟨inked onEnter, inked onLeave⟩ := by
  rw [make, half_ofOption, half_ofOption]
  rfl

theorem isNormal_of_make {enter leave : Value} {c : Callbacks} (hmade : make enter leave = .ok c) :
    IsNormal c.onEnter ∧ IsNormal c.onLeave := by
  unfold make at hmade
  cases henter : Callbacks.half enter with
  | error fault =>
      rw [henter] at hmade
      cases hmade
  | ok onEnter =>
      cases hleave : Callbacks.half leave with
      | error fault =>
          rw [henter, hleave] at hmade
          cases hmade
      | ok onLeave =>
          rw [henter, hleave] at hmade
          obtain rfl := Except.ok.inj hmade
          exact ⟨isNormal_of_half henter, isNormal_of_half hleave⟩

/-! ### Halves in a program -/

/-- Whether a half counts as present where a program is put together. -/
def isInlined (half : Option String) : Bool :=
  (Value.ofOption half).isPresent

/-- A half as it is, or the word for one that is missing. -/
def inlined (half : Option String) : List Char :=
  if isInlined half then (half.getD "").toList else Request.noCallback.toList

def installText (address : Address) (c : Callbacks) : List Char :=
  Program.installStart ++ (Literal.quote address.toText.toList ++
    (Program.installEnter ++ (inlined c.onEnter ++
      (Program.installLeave ++ (inlined c.onLeave ++ Program.installEnd)))))

theorem IsNormal.isInlined_eq (hnormal : IsNormal half) : isInlined half = half.isSome := by
  cases half with
  | none => rfl
  | some text =>
      obtain ⟨c, hmem, -⟩ := hnormal text rfl
      refine Response.isPresent_text ?_
      rintro rfl
      cases hmem

theorem halfOrNone_eq (half : Option String) :
    (Request.halfOrNone half).toList = inlined half := by
  cases half with
  | none => rfl
  | some text =>
      rw [Request.halfOrNone, inlined, isInlined, Value.ofOption, Value.isPresent]
      cases text.isEmpty <;> rfl

theorem installProgram_eq (address : Address) (c : Callbacks) :
    Program.installProgram address c = String.ofList (installText address c) := by
  rw [Program.installProgram, installText, ← halfOrNone_eq, ← halfOrNone_eq]
  simp [Template.filledWith, Template.interleave, Program.installSlots, Program.slot,
    Program.argument]

end Callbacks

namespace Session

open Run

variable {session : Session} {s : Surroundings}

/-! ### Installations that succeed -/

/-- The observer stays, and hears of no callbacks that were installed. -/
def resolveContract (present : Bool) : Contract where
  inv s := s.observer.isSome = present
  entry e := ¬e.IsEventOf .interceptInstalled

theorem suits_resolveContract (session : Session) (present : Bool) :
    session.Suits (resolveContract present) where
  link := ⟨fun _ _ _ hinv => hinv, fun _ _ => trivial, .inl trivial, fun _ _ => id,
    fun _ _ _ => id⟩
  fault _ := trivial
  inv_event s hinv := (s.isSome_afterEvent).trans hinv
  event e hkind hinstalled := by
    rcases hkind with hkind | hkind
    · cases hkind.symm.trans hinstalled
    · cases hkind.symm.trans hinstalled

theorem Suits.obeys_resolve {c : Contract} (hsuits : session.Suits c) (hstalls : c.stalls)
    (hresolved : ∀ e : Event, e.kind = .resolved → c.entry (.event e)) (spec : Value) :
    Obeys c (session.resolve spec) := by
  cases hrequest : spec.request? with
  | none =>
      intro s hinv
      obtain ⟨outcome, hrun⟩ := resolve_apply_of_local session hrequest s
      rw [hrun]
      refine ⟨?_, by simp, hinv⟩
      cases outcome with
      | returned a => trivial
      | raised fault => exact hsuits.fault fault
      | stalled => exact hstalls
  | some request =>
      obtain ⟨d, hd, hresolve⟩ := resolve_of_request? session hrequest
      rw [hresolve]
      apply Obeys.bind (hsuits.obeys_locate hd)
      intro found
      have htell : Obeys c (emit (.resolved spec (found.getD .zero) found.isSome)) :=
        hsuits.obeys_emit (hresolved _ rfl)
      by_cases hnone : found.isNone = true
      · simp only [hnone, if_true]
        exact Obeys.bind (hsuits.obeys_note _ _ _) fun _ => htell.bind fun _ => obeys_pure _
      · simp only [hnone, if_false, Bool.false_eq_true]
        exact htell.bind fun _ => obeys_pure _

theorem eventsOf_confirm {a : Address} {callbacks : Callbacks} {response : Response} {done : Bool}
    (hheard : s.observer.isSome = true)
    (hdone : (confirm a callbacks response s).outcome = .returned done) :
    (confirm a callbacks response s).journal.eventsOf .interceptInstalled =
      [.interceptInstalled a callbacks.onEnter.isSome callbacks.onLeave.isSome] := by
  unfold confirm at hdone ⊢
  rw [outcome_note_bind] at hdone
  obtain ⟨_, htold, -⟩ := returned_of_bind hdone
  rw [eventsOf_bind_of_returned (by rw [note_apply]), note_apply, Journal.eventsOf_note,
    eventsOf_bind_of_returned htold, emit_apply]
  have hevent := Surroundings.events_told hheard
    (.interceptInstalled a callbacks.onEnter.isSome callbacks.onLeave.isSome)
  rw [← Surroundings.eventsOf_told rfl] at hevent
  exact (List.nil_append _).trans ((List.append_nil _).trans hevent)

theorem attach_of_returned {a : Address} {callbacks : Callbacks} {done : Bool}
    (hheard : s.observer.isSome = true)
    (hdone : (session.attach a callbacks s).outcome = .returned done) :
    ∃ response, (session.send
        ⟨.installIntercept, Program.installProgram a callbacks⟩ s).outcome = .returned response ∧
      response.ok = true ∧
      (session.attach a callbacks s).journal.eventsOf .interceptInstalled =
        [.interceptInstalled a callbacks.onEnter.isSome callbacks.onLeave.isSome] := by
  rw [attach_eq, Program.installIntercept_eq] at hdone ⊢
  rw [(build_ok_bind _ _ _).1] at hdone
  obtain ⟨response, hsent, hdone⟩ := returned_of_bind hdone
  obtain ⟨hok, hconclude⟩ := returned_of_conclude hdone
  rw [hconclude] at hdone
  have hafter := (suits_resolveContract session _).obeys_send
    ⟨.installIntercept, Program.installProgram a callbacks⟩ s hheard
  refine ⟨response, hsent, hok, ?_⟩
  rw [eventsOf_build_ok_bind, eventsOf_bind_of_returned hsent,
    Journal.eventsOf_eq_nil hafter.journal, hconclude, eventsOf_confirm hafter.surroundings hdone]
  rfl

/-- An installation that succeeds has sent its program, and tells of it once. -/
theorem install_of_returned {spec v : Value} {callbacks : Callbacks} {done : Bool}
    (hcallbacks : Callbacks.coerce v = .ok callbacks) (hheard : s.observer.isSome = true)
    (hdone : (session.install spec v s).outcome = .returned done) :
    ∃ a response, (session.resolve spec s).outcome = .returned a ∧
      (session.send ⟨.installIntercept, Program.installProgram a callbacks⟩
        (session.resolve spec s).surroundings).outcome = .returned response ∧
      response.ok = true ∧
      (session.install spec v s).journal.eventsOf .interceptInstalled =
        [.interceptInstalled a callbacks.onEnter.isSome callbacks.onLeave.isSome] := by
  -- What is heard while the spec is resolved is no installation.
  have hobeys : Obeys (resolveContract true) (session.resolve spec) := by
    refine (suits_resolveContract session true).obeys_resolve trivial (fun e hkind => ?_) spec
    exact fun hinstalled => EventKind.noConfusion (hkind.symm.trans hinstalled)
  have hafter := hobeys s hheard
  cases houtcome : (session.resolve spec s).outcome with
  | returned a =>
      obtain ⟨hsame, hevents⟩ := install_of_resolved hcallbacks houtcome
      rw [hsame] at hdone
      obtain ⟨response, hsent, hok, hattached⟩ := attach_of_returned hafter.surroundings hdone
      refine ⟨a, response, rfl, hsent, hok, ?_⟩
      have hnone := Journal.eventsOf_eq_nil hafter.journal
      rw [Journal.eventsOf_eq_filter] at hattached hnone ⊢
      rw [hevents, List.filter_append, hnone, hattached]
      rfl
  | raised fault =>
      exact absurd hdone ((install_of_unresolved hcallbacks (by simp [houtcome])).1 done)
  | stalled => exact absurd hdone ((install_of_unresolved hcallbacks (by simp [houtcome])).1 done)

end Session

namespace Callbacks

/-- Callbacks in a form that all who ask for a half agree on. -/
structure HasOneForm (c : Callbacks) : Prop where
  onEnter : IsNormal c.onEnter
  onLeave : IsNormal c.onLeave
  idempotent : coerce (.callbacks c) = .ok c
  restored : coerce (.record [(.text "onEnter", .ofOption c.onEnter),
    (.text "onLeave", .ofOption c.onLeave)]) = .ok c
  program : ∀ address, Request.installIntercept address c =
    .ok ⟨.installIntercept, String.ofList (installText address c)⟩
  /-- An installation that succeeds has sent this program, and tells which halves stand in it. -/
  told : ∀ (session : Session) (spec v : Value) (s : Surroundings) (done : Bool),
    coerce v = .ok c → s.observer.isSome = true →
    (session.install spec v s).outcome = .returned done →
    ∃ address response, (session.resolve spec s).outcome = .returned address ∧
      (session.send ⟨.installIntercept, String.ofList (installText address c)⟩
        (session.resolve spec s).surroundings).outcome = .returned response ∧
      response.ok = true ∧
      (session.install spec v s).journal.eventsOf .interceptInstalled =
        [.interceptInstalled address (isInlined c.onEnter) (isInlined c.onLeave)]

theorem hasOneForm_of_isNormal {c : Callbacks} (henter : IsNormal c.onEnter)
    (hleave : IsNormal c.onLeave) : HasOneForm c where
  onEnter := henter
  onLeave := hleave
  idempotent := rfl
  restored := by
    have hmade : IsMadeFrom (.ofOption c.onEnter) (.ofOption c.onLeave)
        (coerce (.record [(.text "onEnter", .ofOption c.onEnter),
          (.text "onLeave", .ofOption c.onLeave)])) := .coerce (.named rfl) (.named rfl)
    rw [hmade.eq_make, make_ofOption, henter.inked_eq, hleave.inked_eq]
  program address := by
    rw [Program.installIntercept_eq, installProgram_eq]
  told session spec v s done hcallbacks hheard hdone := by
    have htold := Session.install_of_returned hcallbacks hheard hdone
    simpa only [installProgram_eq, henter.isInlined_eq, hleave.isInlined_eq]
      using htold

/-- **Callbacks have one form**, however they are made. -/
theorem hasOneForm_of_isMadeFrom {enter leave : Value} {result : Except Fault Callbacks}
    (hmade : IsMadeFrom enter leave result) :
    (∀ onEnter onLeave, enter = .ofOption onEnter → leave = .ofOption onLeave →
      result = .ok ⟨inked onEnter, inked onLeave⟩) ∧
    ∀ c, result = .ok c → HasOneForm c := by
  rw [hmade.eq_make]
  constructor
  · rintro onEnter onLeave rfl rfl
    exact make_ofOption onEnter onLeave
  · intro c hc
    obtain ⟨henter, hleave⟩ := isNormal_of_make hc
    exact hasOneForm_of_isNormal henter hleave

/-- The first name decides even when it gives nothing, and a half may look like a template. -/
def namedHalves : List (FieldName × Value) :=
  [(.text "onEnter", .null), (.text "on_enter", .text "f"), (.text "onLeave", .text " $x $\x7b ")]

theorem named_halves_have_one_form :
    IsMadeFrom .null (.text " $x $\x7b ") (coerce (.record namedHalves)) ∧
    coerce (.record namedHalves) = .ok ⟨none, some " $x $\x7b "⟩ ∧
    HasOneForm ⟨none, some " $x $\x7b "⟩ ∧
    ((Session.make {} true).install (.address ⟨16⟩) (.record namedHalves)
      (.answering (Session.successBeside 0))).journal.eventsOf .interceptInstalled =
        [.interceptInstalled ⟨16⟩ false true] := by
  have hmade : IsMadeFrom .null (.text " $x $\x7b ") (coerce (.record namedHalves)) :=
    .coerce (.named rfl) (.named rfl)
  have hinked : inked (some " $x $\x7b ") = some " $x $\x7b " := by decide
  obtain ⟨hgiven, hform⟩ := hasOneForm_of_isMadeFrom hmade
  have hresult := hgiven none (some " $x $\x7b ") rfl rfl
  rw [hinked] at hresult
  refine ⟨hmade, hresult, hform _ hresult, ?_⟩
  have hanswer : (Session.make {} true).AnswersInstall (.address ⟨16⟩) (.record namedHalves)
      (.answering (Session.successBeside 0)) (Session.successBeside 0) :=
    ⟨_, ⟨16⟩, hresult, rfl, Surroundings.evaluate_answering _ _⟩
  have hreads : (Session.make {} true).Reads (Session.successBeside 0) :=
    Session.reads_of_openings_eq_one (Session.openings_successBeside 0)
  have hdone := Session.install_of_reportsSuccess (Surroundings.isQuiet_answering _) hreads
    hanswer (Session.reportsSuccess_successBeside 0)
  obtain ⟨address, response, haddress, -, -, hevents⟩ :=
    (hform _ hresult).told _ _ _ _ true hresult rfl hdone
  obtain rfl : (⟨16⟩ : Address) = address := Outcome.returned.inj haddress
  exact hevents

end Callbacks

end HostLink
