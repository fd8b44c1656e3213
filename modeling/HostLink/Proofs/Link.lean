import HostLink.Proofs.Depth
import HostLink.Proofs.Wait

/-!
# Evaluation over the link

Without an entry point an evaluation fails and calls nothing. With one, no failure of a function of
the host is passed on as a missing entry point, and the evaluation ends when the host answers or the
wait has a limit.
-/

namespace HostLink

theorem Value.toText_error {v : Value} {fault : Fault} (herror : v.toText = .error fault) :
    fault = .numberTooLong := by
  unfold Value.toText at herror
  cases htext : v.text? with
  | some text =>
      rw [htext] at herror
      cases herror
  | none =>
      rw [htext] at herror
      exact (Except.error.inj herror).symm

theorem Value.asText_error {v : Value} {fault : Fault} (herror : v.asText = .error fault) :
    fault = .numberTooLong := by
  unfold Value.asText at herror
  split at herror
  · cases herror
  · cases herror
  · cases herror
  · exact Value.toText_error herror

namespace Value

theorem asTextWithin_error {levels : Nat} {v : Value} {fault : Fault}
    (herror : v.asTextWithin levels = .error fault) : IsHindrance fault := by
  unfold asTextWithin at herror
  cases hindered : v.hindrance? levels with
  | none =>
      rw [hindered] at herror
      exact .inl (asText_error herror)
  | some other =>
      rw [hindered] at herror
      obtain rfl := Except.error.inj herror
      exact isHindrance_of_hindrance? hindered

theorem IsHindrance.kind {fault : Fault} (hfault : IsHindrance fault) :
    fault.kind = .badValue ∨ fault.kind = .recursion := by
  rcases hfault with rfl | rfl
  · exact .inl rfl
  · exact .inr rfl

end Value

namespace Link

open Run

/-- A contract that calls of the host with this limit, and notes, never break. -/
structure Suits (limit : Option Timeout) (c : Contract) : Prop where
  inv_call : ∀ (s : Surroundings) target args, c.inv s →
    c.inv { s with host := (s.host.call target args).2 }
  fault : ∀ fault : Fault, fault.kind ≠ .noEntryPoint → c.fault fault
  /-- A call that may hang is not waited for without end, unless the run may stall. -/
  ends : c.stalls ∨ EndsWaits limit ∨ ∀ s, c.inv s → s.host.Answers
  call : ∀ target args, c.entry (.call target args)
  note : ∀ channel level text, c.entry (.note channel level text)

variable {limit : Option Timeout} {c : Contract}

theorem Suits.obeys_callWithin (hsuits : Suits limit c) (candidate : Candidate)
    (program : String) :
    Obeys { c with fault := fun _ => True } (candidate.callWithin limit program) := by
  intro s hinv
  rw [Candidate.callWithin_apply]
  refine ⟨?_, by simpa using hsuits.call _ _, hsuits.inv_call s _ _ hinv⟩
  cases hending : (candidate.turn program s.host).ending limit with
  | returned v => trivial
  | raised fault => trivial
  | stalled =>
      obtain ⟨hhangs, hendless⟩ := Turn.stalled_of_ending hending
      rcases hsuits.ends with hstalls | hends | hanswers
      · exact hstalls
      · exact absurd hends hendless
      · exact absurd hhangs ((hanswers s hinv).call _ _).1

theorem Suits.obeys_allFailed (hsuits : Suits limit c) (last : Fault) :
    Obeys c (allFailed last) := by
  apply Obeys.bind
  · apply obeys_messageOf
    apply hsuits.fault
    simp [Fault.kind]
  · intro message
    apply obeys_raise
    apply hsuits.fault
    simp [Fault.kind]

theorem Suits.obeys_firstAnswer (hsuits : Suits limit c) (program : String) (last : Fault)
    (candidates : List Candidate) : Obeys c (firstAnswer limit program last candidates) := by
  induction candidates generalizing last with
  | nil => exact hsuits.obeys_allFailed last
  | cons candidate rest ih =>
      apply Obeys.bind (Obeys.attempt (hsuits.obeys_callWithin candidate program))
      intro answer
      cases answer with
      | ok v => exact obeys_pure v
      | error fault =>
          by_cases hkind : fault.kind = .evaluationFailed
          · simp only [hkind, if_true]
            exact obeys_raise (hsuits.fault _ (by simp [hkind]))
          · simp only [hkind, if_false]
            apply Obeys.bind (obeys_note (hsuits.note _ _))
            intro _
            exact ih fault

theorem candidates_apply (link : Link) (s : Surroundings) :
    link.candidates s = ⟨.returned (link.candidatesIn s.host), [], s⟩ :=
  rfl

theorem evaluate_of_no_candidates {link : Link} {s : Surroundings}
    (hnone : link.candidatesIn s.host = []) (program : String) :
    link.evaluate program s = ⟨.raised (.noEntryPoint link.settings.entryPointNames), [], s⟩ := by
  unfold evaluate
  rw [bind_of_pure (candidates_apply link s), hnone]
  rfl

theorem evaluate_of_candidates {link : Link} {s : Surroundings}
    (hsome : link.candidatesIn s.host ≠ []) (program : String) :
    link.evaluate program s =
      (firstAnswer link.settings.timeout program (.noEntryPoint link.settings.entryPointNames)
        (link.candidatesIn s.host) >>= fun answer =>
          ofExcept (answer.asTextWithin link.levels)) s := by
  unfold evaluate
  rw [bind_of_pure (candidates_apply link s)]
  simp only [List.isEmpty_iff, hsome, if_false]

/-- **Only a missing entry point is reported as one**: once a candidate was found, the evaluation
ends in text or in another failure. -/
theorem Suits.holds_evaluate {link : Link} (hsuits : Suits link.settings.timeout c)
    {s : Surroundings} (hsome : link.candidatesIn s.host ≠ []) (hinv : c.inv s)
    (program : String) : c.Holds (link.evaluate program s) := by
  rw [evaluate_of_candidates hsome]
  refine Obeys.bind (hsuits.obeys_firstAnswer _ _ _)
    (fun v => obeys_ofExcept fun fault herror => hsuits.fault _ ?_) s hinv
  rcases (Value.asTextWithin_error herror).kind with hkind | hkind <;> rw [hkind] <;>
    exact FaultKind.noConfusion

theorem Suits.obeys_evaluate {link : Link} (hsuits : Suits link.settings.timeout c)
    (hmissing : c.fault (.noEntryPoint link.settings.entryPointNames)) (program : String) :
    Obeys c (link.evaluate program) := by
  intro s hinv
  by_cases hnone : link.candidatesIn s.host = []
  · rw [evaluate_of_no_candidates hnone]
    exact ⟨hmissing, by simp, hinv⟩
  · exact hsuits.holds_evaluate hnone hinv program

/-! ### A call that is answered -/

/-- The function that was handed over is called once, with the program alone. -/
theorem evaluate_handedOver {link : Link} {label program raw : String}
    (hprobes : link.probes = [.handedOver label]) {s : Surroundings} {f : Function} {v : Value}
    (hdirect : s.host.direct = some f)
    (hlimit : TakesAnswer link.settings.timeout (f.delay f.calls [.text program]))
    (hreply : f.respond f.calls [.text program] = .returns v)
    (htext : v.asTextWithin link.levels = .ok raw) :
    (link.evaluate program s).outcome = .returned raw ∧
      (link.evaluate program s).journal = [.call .direct [.text program]] := by
  have hfunction : s.host.function? .direct = some f := hdirect
  have hfound : link.candidatesIn s.host = [⟨label, .direct, []⟩] := by
    simp only [candidatesIn, hprobes, List.filterMap_cons, List.filterMap_nil, Probe.find?,
      Probe.candidate, hfunction]
  let c : Candidate := ⟨label, .direct, []⟩
  have hturn : c.turn program s.host = ⟨c, .returns v, f.delay f.calls [.text program]⟩ := by
    simp only [Candidate.turn, Candidate.reply, Candidate.arguments, Host.call, Host.delay, c,
      hfunction, List.nil_append, hreply]
  have hending : (c.turn program s.host).ending link.settings.timeout = .returned v := by
    rw [hturn]
    exact Turn.ending_of_takesAnswer hlimit Reply.noConfusion
  have hcall := c.callWithin_apply link.settings.timeout program s
  rw [hending] at hcall
  have hfirst : ((firstAnswer link.settings.timeout program
      (.noEntryPoint link.settings.entryPointNames) [c]) s).outcome = .returned v ∧
      ((firstAnswer link.settings.timeout program
        (.noEntryPoint link.settings.entryPointNames) [c]) s).journal =
          [.call .direct [.text program]] := by
    rw [firstAnswer, attempt_bind_of_returned (congrArg Result.outcome hcall), hcall]
    exact ⟨rfl, rfl⟩
  rw [evaluate_of_candidates (by rw [hfound]; exact List.cons_ne_nil _ _), hfound,
    bind_of_returned hfirst.1, htext]
  exact ⟨rfl, by rw [hfirst.2]; rfl⟩

/-! ### The observer is not asked -/

theorem ignoresObserver_callWithin (limit : Option Timeout) (c : Candidate) (program : String) :
    IgnoresObserver (c.callWithin limit program) :=
  fun host => ⟨(c.turn program host).ending limit,
    [.call (host.settle c.target) (c.arguments program)], c.hostAfter program host,
    fun observer => c.callWithin_apply limit program ⟨host, observer⟩⟩

theorem ignoresObserver_firstAnswer (limit : Option Timeout) (program : String) (last : Fault)
    (candidates : List Candidate) :
    IgnoresObserver (firstAnswer limit program last candidates) := by
  induction candidates generalizing last with
  | nil =>
      apply IgnoresObserver.bind (ignoresObserver_messageOf _)
      intro message
      exact ignoresObserver_raise _
  | cons c rest ih =>
      apply IgnoresObserver.bind (ignoresObserver_callWithin limit c program).attempt
      intro answer
      cases answer with
      | ok v => exact ignoresObserver_pure v
      | error fault =>
          by_cases hkind : fault.kind = .evaluationFailed
          · simpa only [hkind, if_true] using ignoresObserver_raise fault
          · simp only [hkind, if_false]
            apply IgnoresObserver.bind (ignoresObserver_note _ _ _)
            intro _
            exact ih fault

theorem ignoresObserver_evaluate (link : Link) (program : String) :
    IgnoresObserver (link.evaluate program) := by
  have hcandidates : IgnoresObserver link.candidates := by
    intro host
    exact ⟨.returned (link.candidatesIn host), [], host, fun _ => rfl⟩
  apply IgnoresObserver.bind hcandidates
  intro found
  by_cases hempty : found.isEmpty = true
  · simpa only [hempty, if_true] using ignoresObserver_raise _
  · simp only [hempty, if_false, Bool.false_eq_true]
    apply IgnoresObserver.bind (ignoresObserver_firstAnswer _ _ _ _)
    intro answer
    exact ignoresObserver_ofExcept _

end Link

end HostLink
