import HostLink.Proofs.Halves
import HostLink.Proofs.Installing

/-!
# Refused installations

The arguments of an installation are looked at in order, the callbacks before the spec. Where one of
them is refused, nothing has been called, told or noted, and all is as it was. A spec that has to be
looked up where no entry point is there costs one evaluation that is heard to fail, and the program
of the installation is never put together.
-/

namespace HostLink

/-- Callbacks, or a record that gives two halves with a text. -/
inductive Value.IsHandler : Value → Prop
  | callbacks (c : Callbacks) : IsHandler (.callbacks c)
  | record {fields : List (FieldName × Value)} {enter leave : Value}
      (henter : Callbacks.Gives fields "onEnter" "on_enter" enter)
      (hleave : Callbacks.Gives fields "onLeave" "on_leave" leave)
      (henterText : enter.text?.isSome = true) (hleaveText : leave.text?.isSome = true) :
      IsHandler (.record fields)

namespace Callbacks

/-! ### Values that are taken for callbacks -/

theorem gives_choose (name alternative : String) (fields : List (FieldName × Value)) :
    Gives fields name alternative (choose name alternative fields) := by
  unfold choose
  cases hname : Value.field? name fields with
  | some v => exact .named hname
  | none =>
      cases halternative : Value.field? alternative fields with
      | some v => exact .alternative hname halternative
      | none => exact .missing hname halternative

/-- A half that is there has to have a text. -/
theorem half_cases (v : Value) :
    (v.text?.isSome = true ∧ ∃ given, half v = .ok given) ∨
      (v.text?.isSome = false ∧ half v = .error .numberTooLong) := by
  unfold half
  split
  · exact .inl ⟨rfl, none, rfl⟩
  · cases htext : v.text? with
    | some text =>
        refine .inl ⟨rfl, ?_⟩
        rw [Value.toText, htext]
        exact ⟨_, rfl⟩
    | none =>
        refine .inr ⟨rfl, ?_⟩
        rw [Value.toText, htext]
        rfl

theorem coerce_of_isHandler {v : Value} (hhandler : v.IsHandler) : ∃ c, coerce v = .ok c := by
  cases hhandler with
  | callbacks c => exact ⟨c, rfl⟩
  | @record fields enter leave hgives hgives' henterText hleaveText =>
      rw [(IsMadeFrom.coerce hgives hgives').eq_make, make]
      rcases half_cases enter with ⟨-, onEnter, henter⟩ | ⟨hnone, -⟩
      · rcases half_cases leave with ⟨-, onLeave, hleave⟩ | ⟨hnone, -⟩
        · rw [henter, hleave]
          exact ⟨_, rfl⟩
        · rw [hleaveText] at hnone
          cases hnone
      · rw [henterText] at hnone
        cases hnone

theorem coerce_of_not_isHandler {fields : List (FieldName × Value)}
    (hhandler : ¬(Value.record fields).IsHandler) :
    coerce (.record fields) = .error .numberTooLong := by
  rw [coerce, make]
  rcases half_cases (choose "onEnter" "on_enter" fields) with ⟨henter, _, hfirst⟩ | ⟨-, hfirst⟩
  · rcases half_cases (choose "onLeave" "on_leave" fields) with ⟨hleave, -⟩ | ⟨-, hlast⟩
    · exact absurd (.record (gives_choose ..) (gives_choose ..) henter hleave) hhandler
    · rw [hfirst, hlast]
      rfl
  · rw [hfirst]
    rfl

theorem coerce_of_other {v : Value} (hkind : v.kind ∉ [.null, .callbacks, .record]) :
    coerce v = .error (.notCallbacks v.kindName) := by
  cases v with
  | null => exact absurd (by decide) hkind
  | callbacks c => exact absurd (by simp [Value.kind]) hkind
  | record fields => exact absurd (by simp [Value.kind]) hkind
  | _ => rfl

end Callbacks

/-- What is looked up is no installation. -/
theorem Descriptor.kind_of_request? {d : Descriptor} {request : Request}
    (hrequest : d.request? = some request) : request.kind ≠ .installIntercept := by
  cases d with
  | numeric value => cases hrequest
  | hexLiteral text => cases hrequest
  | _ =>
      obtain rfl := Option.some.inj hrequest
      exact RequestKind.noConfusion

theorem Run.calls_bind_eq_nil {α β : Type} {x : Run α} {f : α → Run β} {s : Surroundings}
    (hx : (x s).journal.calls = []) (hf : ∀ a, (f a (x s).surroundings).journal.calls = []) :
    ((x >>= f) s).journal.calls = [] := by
  rw [bind_apply]
  cases (x s).outcome with
  | returned a =>
      dsimp only
      rw [Journal.calls_append, hx, hf]
      rfl
  | raised fault => exact hx
  | stalled => exact hx

namespace Session

open Run

variable {session : Session} {s : Surroundings} {spec v : Value} {request : Request}

/-! ### Resolving without an entry point -/

/-- What is noted of a request that was put together. -/
def builtNote (request : Request) : Entry :=
  .note .requests .debug (String.ofList ("Built ".toList ++ request.kind.name.toList ++
    " program: ".toList ++ request.program.toList))

theorem build_apply (request : Request) (s : Surroundings) :
    build (.ok request) s = ⟨.returned request, [builtNote request], s⟩ :=
  rfl

theorem locate_of_unreachable {d : Descriptor} (hquiet : s.IsQuiet)
    (hnone : session.link.candidatesIn s.host = []) (hrequest : d.request? = some request) :
    session.locate d s = ⟨.raised session.unreachable,
      builtNote request :: session.missedTrip request.program s, s.afterEvent.afterEvent⟩ := by
  have hbuilt := build_apply request s
  have hlookup := lookup_of_unreachable hquiet hnone request
  rw [locate_of_request? session hrequest, bind_of_returned (congrArg Result.outcome hbuilt),
    hbuilt, bind_of_raised (congrArg Result.outcome hlookup), hlookup]
  rfl

theorem resolve_of_unreachable (hquiet : s.IsQuiet)
    (hnone : session.link.candidatesIn s.host = []) (hrequest : spec.request? = some request) :
    session.resolve spec s = ⟨.raised session.unreachable,
      builtNote request :: session.missedTrip request.program s, s.afterEvent.afterEvent⟩ := by
  obtain ⟨d, hd, hresolve⟩ := resolve_of_request? session hrequest
  have hlocated := locate_of_unreachable hquiet hnone hd
  rw [hresolve, resolveWithHost, bind_of_raised (congrArg Result.outcome hlocated), hlocated]

/-! ### Calls without an entry point -/

theorem errand_of_no_candidates (hnone : session.link.candidatesIn s.host = [])
    (program : String) :
    (session.errand program s).calls = [] ∧ (session.errand program s).host = s.host := by
  unfold errand
  cases s.refusal? (.evalStart (cut program)) with
  | none =>
      dsimp only
      rw [Link.evaluate_of_no_candidates hnone]
      exact ⟨rfl, rfl⟩
  | some fault => exact ⟨rfl, rfl⟩

theorem resolve_of_no_candidates (hnone : session.link.candidatesIn s.host = []) (spec : Value) :
    (session.resolve spec s).journal.calls = [] ∧
      (session.resolve spec s).surroundings.host = s.host := by
  cases hrequest : spec.request? with
  | none =>
      obtain ⟨outcome, hrun⟩ := resolve_apply_of_local session hrequest s
      rw [hrun]
      exact ⟨rfl, rfl⟩
  | some request =>
      have hdealings := dealings_resolve session hrequest s
      obtain ⟨hcalls, hhost⟩ := errand_of_no_candidates hnone request.program
      exact ⟨(congrArg Dealings.calls hdealings).trans hcalls,
        (congrArg Dealings.host hdealings).trans hhost⟩

/-- Whatever the observer answers, nothing is called that is not there. -/
theorem calls_install_of_no_candidates (hnone : session.link.candidatesIn s.host = [])
    (spec v : Value) : (session.install spec v s).journal.calls = [] := by
  cases hcallbacks : Callbacks.coerce v with
  | error fault =>
      rw [install_of_refused hcallbacks]
      rfl
  | ok callbacks =>
      obtain ⟨hresolve, hhost⟩ := resolve_of_no_candidates hnone spec
      rw [← hhost] at hnone
      rw [(install_matches_attach hcallbacks spec s).calls]
      refine calls_bind_eq_nil hresolve fun a => ?_
      have hattach := dealings_attach session a callbacks (session.resolve spec s).surroundings
      exact (congrArg Dealings.calls hattach).trans (errand_of_no_candidates hnone _).1

/-! ### Bad arguments -/

/-- An installation at a spec that is not resolved does no more than resolving it. -/
theorem install_of_resolve_raised {callbacks : Callbacks} {fault : Fault} {journal : Journal}
    {after : Surroundings} (hcallbacks : Callbacks.coerce v = .ok callbacks)
    (hresolve : session.resolve spec s = ⟨.raised fault, journal, after⟩) :
    session.install spec v s = ⟨.raised fault, journal, after⟩ := by
  unfold install
  rw [hcallbacks, bind_of_pure (ofExcept_ok callbacks),
    bind_of_raised (congrArg Result.outcome hresolve), hresolve]

/-- How an installation fails by its arguments, or for want of an entry point. -/
structure RefusesUntouched (session : Session) (spec v : Value) (s : Surroundings) : Prop where
  /-- Without callbacks the spec does not matter. -/
  missing : v.kind = .null → ∃ fault : Fault, fault.kind = .badValue ∧
    fault.message? = some "missing handler".toList ∧
    session.install spec v s = ⟨.raised fault, [], s⟩
  /-- Nor does it with a value of another kind, -/
  unfit : v.kind ∉ [.null, .callbacks, .record] → ∃ fault : Fault, fault.kind = .badType ∧
    session.install spec v s = ⟨.raised fault, [], s⟩
  /-- or with a half that has no text. -/
  unreadable : v.kind = .record → ¬v.IsHandler → ∃ fault : Fault, fault.kind = .badValue ∧
    session.install spec v s = ⟨.raised fault, [], s⟩
  unsupported : v.IsHandler → ¬spec.IsSpec → spec.IsShownWithin session.link.levels →
    session.install spec v s = ⟨.raised (.unsupportedSpec spec), [], s⟩
  unreached : v.IsHandler → session.link.candidatesIn s.host = [] → s.IsQuiet →
    ∀ request, spec.request? = some request → request.kind ≠ .installIntercept ∧
      session.install spec v s = ⟨.raised session.unreachable,
        builtNote request :: session.missedTrip request.program s, s.afterEvent.afterEvent⟩
  uncalled : session.link.candidatesIn s.host = [] → (session.install spec v s).journal.calls = []

/-- **Bad arguments leave everything untouched.** -/
theorem refusesUntouched (session : Session) (spec v : Value) (s : Surroundings) :
    session.RefusesUntouched spec v s where
  missing hkind := by
    cases v with
    | null => exact ⟨.missingCallbacks, rfl, rfl, install_of_refused rfl spec s⟩
    | _ => cases hkind
  unfit hkind := ⟨_, rfl, install_of_refused (Callbacks.coerce_of_other hkind) spec s⟩
  unreadable hkind hhandler := by
    cases v with
    | record fields =>
        exact ⟨_, rfl, install_of_refused (Callbacks.coerce_of_not_isHandler hhandler) spec s⟩
    | _ => cases hkind
  unsupported hhandler hspec hshown := by
    obtain ⟨callbacks, hcallbacks⟩ := Callbacks.coerce_of_isHandler hhandler
    have hrefused := session.resolve_of_not_isSpec hspec s
    rw [refusal_of_isShownWithin hshown] at hrefused
    exact install_of_resolve_raised hcallbacks hrefused
  unreached hhandler hnone hquiet request hrequest := by
    obtain ⟨callbacks, hcallbacks⟩ := Callbacks.coerce_of_isHandler hhandler
    obtain ⟨d, hd, -⟩ := resolve_of_request? session hrequest
    exact ⟨Descriptor.kind_of_request? hd,
      install_of_resolve_raised hcallbacks (resolve_of_unreachable hquiet hnone hrequest)⟩
  uncalled hnone := calls_install_of_no_candidates hnone spec v

/-- The object that is asked for is there, and nothing in it can be called. -/
def disarmed : Surroundings where
  host := {
    environment :=
      .given [("h5gg", .object [("callNative", .plain .null), ("eval", .plain (.text "f"))])] }
  observer := some .silent

/-- A symbol is looked up in vain, and a truth value is no spec. -/
theorem disarmed_host_is_not_called :
    (make {} false).RefusesUntouched (.text "m!s") (.callbacks ⟨some "f", none⟩) disarmed ∧
    (Value.callbacks ⟨some "f", none⟩).IsHandler ∧
    (make {} false).link.candidatesIn disarmed.host = [] ∧ disarmed.IsQuiet ∧
    (∃ request, (Value.text "m!s").request? = some request) ∧
    (make {} false).RefusesUntouched (.bool true) (.callbacks ⟨some "f", none⟩) disarmed ∧
    ¬(Value.bool true).IsSpec ∧ (Value.bool true).IsShownWithin (make {} false).link.levels := by
  refine ⟨refusesUntouched _ _ _ _, .callbacks _, rfl, ?_, ?_, refusesUntouched _ _ _ _, ?_, ?_⟩
  · rintro o heq heard e
    obtain rfl := Option.some.inj heq
    rfl
  · have hsymbolic : (Value.text "m!s").IsSymbolic := ⟨"m!s", rfl, by decide, by decide⟩
    exact Option.ne_none_iff_exists'.mp fun hlocal => Value.request?_eq_none_iff.mp hlocal hsymbolic
  · rintro (⟨a, ha⟩ | ⟨n, hn⟩ | ⟨text, htext, -⟩ | ⟨ps, hps⟩)
    · cases ha
    · cases hn
    · cases htext
    · cases hps
  · exact ⟨⟨"True".toList, rfl⟩, trivial⟩

end Session

end HostLink
