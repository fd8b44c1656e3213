import HostLink.Proofs.Link
import HostLink.Proofs.Nesting
import HostLink.Proofs.Response
import HostLink.Session

/-!
# Lookups

Asking the host for a pointer never fails by what the host does: the pointer is there, or it is not.
Only a missing entry point is passed on.
-/

namespace HostLink

namespace Session

open Run

/-! ### What evaluations leave alone -/

/-- A contract that no evaluation breaks: besides what the link does, the observer hears of it, and
any failure may be passed on. -/
structure Suits (session : Session) (c : Contract) : Prop where
  link : Link.Suits session.link.settings.timeout c
  fault : ∀ fault, c.fault fault
  inv_event : ∀ s : Surroundings, c.inv s → c.inv s.afterEvent
  event : ∀ e : Event, e.kind = .evalStart ∨ e.kind = .evalEnd → c.entry (.event e)

variable {session : Session} {c : Contract}

/-- A failure that is caught does not count. -/
theorem Suits.lax (hsuits : session.Suits c) : session.Suits { c with fault := fun _ => True } where
  link := ⟨hsuits.link.inv_call, fun _ _ => trivial, hsuits.link.ends, hsuits.link.call,
    hsuits.link.note⟩
  fault _ := trivial
  inv_event := hsuits.inv_event
  event := hsuits.event

theorem Suits.attempt {α : Type} {x : Run α} (hsuits : session.Suits c)
    (hx : ∀ c', session.Suits c' → Obeys c' x) : Obeys c (attempt x) :=
  Obeys.attempt (hx _ hsuits.lax)

theorem Suits.obeys_link_evaluate (hsuits : session.Suits c) (program : String) :
    Obeys c (session.link.evaluate program) :=
  hsuits.link.obeys_evaluate (hsuits.fault _) program

theorem Suits.obeys_note (hsuits : session.Suits c) (channel : Channel) (level : Level)
    (message : Option (List Char)) : Obeys c (note channel level message) :=
  Run.obeys_note (hsuits.link.note channel level)

theorem Suits.obeys_emit (hsuits : session.Suits c) {e : Event} (hentry : c.entry (.event e)) :
    Obeys c (emit e) :=
  Run.obeys_emit hentry hsuits.fault hsuits.inv_event

theorem Suits.obeys_evaluate (hsuits : session.Suits c) (program : String) :
    Obeys c (session.evaluate program) := by
  unfold evaluate
  apply Obeys.bind (hsuits.obeys_emit (hsuits.event _ (.inl rfl)))
  intro _
  apply Obeys.bind (hsuits.attempt fun c' hc' => hc'.obeys_link_evaluate program)
  intro answer
  cases answer with
  | error fault =>
      apply Obeys.bind (obeys_messageOf (hsuits.fault _))
      intro message
      apply Obeys.bind (hsuits.obeys_emit (hsuits.event _ (.inr rfl)))
      intro _
      exact obeys_raise (hsuits.fault _)
  | ok raw =>
      apply Obeys.bind (hsuits.obeys_emit (hsuits.event _ (.inr rfl)))
      intro _
      exact obeys_pure raw

/-- Decoding does nothing but take a note. -/
theorem obeys_decode (hfault : ∀ fault, c.fault fault)
    (hnote : ∀ channel level text, c.entry (.note channel level text)) (session : Session)
    (raw : Value) : Obeys c (session.decode raw) := by
  unfold decode
  cases Response.overflow? session.link.levels raw with
  | some descent => exact obeys_raise (hfault _)
  | none =>
      by_cases hnone : (Response.object? raw).isNone = true
      · simp only [hnone, if_true]
        apply Obeys.bind (Run.obeys_note (hnote _ _))
        intro _
        exact obeys_ofExcept fun _ _ => hfault _
      · simp only [hnone, if_false, Bool.false_eq_true]
        exact obeys_ofExcept fun _ _ => hfault _

theorem Suits.obeys_send (hsuits : session.Suits c) (request : Request) :
    Obeys c (session.send request) := by
  unfold send
  apply Obeys.bind (hsuits.obeys_evaluate request.program)
  intro raw
  apply Obeys.bind (obeys_decode hsuits.fault hsuits.link.note session (.text raw))
  intro response
  by_cases hok : (!response.ok) = true
  · simp only [hok, if_true]
    apply Obeys.bind (hsuits.obeys_note _ _ _)
    intro _
    exact obeys_pure response
  · simp only [hok, if_false, Bool.false_eq_true]
    exact obeys_pure response

theorem Suits.obeys_lookup (hsuits : session.Suits c) (request : Request) :
    Obeys c (session.lookup request) := by
  unfold lookup
  apply Obeys.bind (hsuits.attempt fun c' hc' => hc'.obeys_send request)
  intro answer
  cases answer with
  | error fault =>
      by_cases hkind : fault.kind = .noEntryPoint
      · simp only [hkind, if_true]
        exact obeys_raise (hsuits.fault _)
      · simp only [hkind, if_false]
        apply Obeys.bind (hsuits.obeys_note _ _ _)
        intro _
        exact obeys_pure none
  | ok response => exact obeys_pure _

/-- The observer stays, quiet as it is, and hears of no spec that was resolved. -/
def lookupContract (present : Bool) : Contract where
  inv s := s.IsQuiet ∧ s.observer.isSome = present
  entry e := ¬e.IsEventOf .resolved

theorem suits_lookupContract (session : Session) (present : Bool) :
    session.Suits (lookupContract present) where
  link := ⟨fun _ _ _ hinv => hinv, fun _ _ => trivial, .inl trivial, fun _ _ => id,
    fun _ _ _ => id⟩
  fault _ := trivial
  inv_event s hinv := ⟨hinv.1.afterEvent, (s.isSome_afterEvent).trans hinv.2⟩
  event e hkind hresolved := by
    rcases hkind with hkind | hkind
    · cases hkind.symm.trans hresolved
    · cases hkind.symm.trans hresolved

/-! ### What lookups come to -/

variable {s : Surroundings}

theorem link_evaluate_afterEvent (link : Link) (program : String) (s : Surroundings) :
    (link.evaluate program s.afterEvent).outcome = (link.evaluate program s).outcome ∧
      (link.evaluate program s.afterEvent).journal = (link.evaluate program s).journal := by
  obtain ⟨houtcome, hjournal, -⟩ := (Link.ignoresObserver_evaluate link program).congr
    (s := s.afterEvent) (t := s) rfl
  exact ⟨houtcome, hjournal⟩

/-- What follows an evaluation over the link is done in surroundings as quiet as those before it. -/
theorem isQuiet_after_link (session : Session) (program : String) (hquiet : s.IsQuiet) :
    (session.link.evaluate program s.afterEvent).surroundings.IsQuiet ∧
      (session.link.evaluate program s.afterEvent).surroundings.told = s.told := by
  have hafter := ((suits_lookupContract session _).obeys_link_evaluate program _
    ⟨hquiet.afterEvent, s.isSome_afterEvent⟩).surroundings
  exact ⟨hafter.1, Surroundings.told_congr hafter.2⟩

theorem evaluate_of_returned (hquiet : s.IsQuiet) {program raw : String}
    (hraw : (session.link.evaluate program s).outcome = .returned raw) :
    (session.evaluate program s).outcome = .returned raw ∧
      (session.evaluate program s).journal = s.told (.evalStart (cut program)) ++
        ((session.link.evaluate program s).journal ++
          s.told (.evalEnd (cut program) (cut raw) true)) := by
  obtain ⟨houtcome, hjournal⟩ := link_evaluate_afterEvent session.link program s
  obtain ⟨hafter, htold⟩ := isQuiet_after_link session program hquiet
  unfold evaluate
  rw [emit_bind hquiet, attempt_bind_of_returned (houtcome.trans hraw)]
  dsimp only
  rw [emit_bind hafter, hjournal, htold]
  simp only [pure_apply, List.append_nil, and_self]

theorem evaluate_of_raised (hquiet : s.IsQuiet) {program : String} {fault : Fault}
    (hfault : (session.link.evaluate program s).outcome = .raised fault) :
    (session.evaluate program s).outcome =
        .raised (if fault.message?.isSome then fault else .numberTooLong) ∧
      (session.evaluate program s).journal = s.told (.evalStart (cut program)) ++
        ((session.link.evaluate program s).journal ++
          match fault.message? with
          | some text => s.told (.evalEnd (cut program) (String.ofList text) false)
          | none => []) := by
  obtain ⟨houtcome, hjournal⟩ := link_evaluate_afterEvent session.link program s
  obtain ⟨hafter, htold⟩ := isQuiet_after_link session program hquiet
  unfold evaluate
  rw [emit_bind hquiet, attempt_bind_of_raised (houtcome.trans hfault)]
  dsimp only
  cases hmessage : fault.message? with
  | some text =>
      rw [bind_of_returned (a := String.ofList text) (by rw [messageOf_apply, hmessage]),
        messageOf_apply]
      dsimp only
      rw [emit_bind hafter, hjournal, htold]
      simp only [raise_apply, List.append_nil, List.nil_append, Option.isSome_some, if_true,
        and_self]
  | none =>
      have hraised : (messageOf fault
          (session.link.evaluate program s.afterEvent).surroundings).outcome =
          .raised .numberTooLong := by
        rw [messageOf_apply, hmessage]
      rw [bind_of_raised hraised, messageOf_apply, hjournal]
      simp only [Option.isSome_none, if_false, Bool.false_eq_true, and_self]

theorem evaluate_of_stalled (hquiet : s.IsQuiet) {program : String}
    (hstalled : (session.link.evaluate program s).outcome = .stalled) :
    (session.evaluate program s).outcome = .stalled ∧
      (session.evaluate program s).journal = s.told (.evalStart (cut program)) ++
        (session.link.evaluate program s).journal := by
  obtain ⟨houtcome, hjournal⟩ := link_evaluate_afterEvent session.link program s
  have hattempt := attempt_of_stalled (houtcome.trans hstalled)
  unfold evaluate
  rw [emit_bind hquiet, bind_of_stalled (by rw [hattempt]), hattempt, hjournal]
  exact ⟨rfl, rfl⟩

/-- The stack has levels enough to read the answer. -/
def Reads (session : Session) (raw : String) : Prop :=
  Response.overflow? session.link.levels (.text raw) = none

/-- The pointer in an answer that can be read, where it has one. -/
def pointer? (session : Session) (raw : String) : Option Address :=
  match Response.overflow? session.link.levels (.text raw) with
  | some _ => none
  | none => Response.pointer? raw

theorem pointer?_of_reads {raw : String} (hreads : session.Reads raw) :
    session.pointer? raw = Response.pointer? raw := by
  rw [pointer?, hreads]

theorem pointer?_eq_none_iff {raw : String} :
    session.pointer? raw = none ↔ ¬session.Reads raw ∨ Response.pointer? raw = none := by
  unfold pointer? Reads
  cases Response.overflow? session.link.levels (.text raw) with
  | some descent => exact iff_of_true rfl (.inl (Option.some_ne_none descent))
  | none => exact ⟨.inr, fun hnone => hnone.resolve_left (not_not_intro rfl)⟩

/-- An answer with no more opening brackets than there are levels can be read. -/
theorem reads_of_openings_le {raw : String}
    (hraw : Json.openings raw.toList ≤ session.link.levels) : session.Reads raw :=
  Response.overflow?_of_openings_le hraw

/-- One level is always left. -/
theorem reads_of_openings_eq_one {raw : String} (hflat : Json.openings raw.toList = 1) :
    session.Reads raw :=
  reads_of_openings_le (hflat.trans_le (Nat.le_add_left 1 _))

theorem decode_of_ok {raw : Value} {response : Response}
    (hreads : Response.overflow? session.link.levels raw = none)
    (hresponse : Response.decode raw = .ok response) (s : Surroundings) :
    (session.decode raw s).outcome = .returned response ∧
      (session.decode raw s).journal.calls = [] := by
  unfold decode
  rw [hreads, hresponse]
  dsimp only
  by_cases hnone : (Response.object? raw).isNone = true
  · simp only [hnone, if_true]
    rw [note_bind]
    simp only [ofExcept_ok, Journal.calls_note, List.append_nil, and_self]
  · simp only [hnone, if_false, Bool.false_eq_true, ofExcept_ok, Journal.calls_nil, and_self]

theorem decode_of_overflow {raw : Value} {descent : Descent}
    (hdeep : Response.overflow? session.link.levels raw = some descent) (s : Surroundings) :
    session.decode raw s = ⟨.raised (.stackExhausted descent), [], s⟩ := by
  unfold decode
  rw [hdeep]
  rfl

theorem calls_evaluate_of_returned (hquiet : s.IsQuiet) {program raw : String}
    (hraw : (session.link.evaluate program s).outcome = .returned raw) :
    (session.evaluate program s).journal.calls =
      (session.link.evaluate program s).journal.calls := by
  simp [(evaluate_of_returned hquiet hraw).2]

theorem send_of_returned (hquiet : s.IsQuiet) {request : Request} {raw : String}
    {response : Response} (hreads : session.Reads raw)
    (hresponse : Response.decode (.text raw) = .ok response)
    (hraw : (session.link.evaluate request.program s).outcome = .returned raw) :
    (session.send request s).outcome = .returned response ∧
      (session.send request s).journal.calls =
        (session.link.evaluate request.program s).journal.calls := by
  have houtcome := (evaluate_of_returned hquiet hraw).1
  have hcalls := calls_evaluate_of_returned hquiet hraw
  obtain ⟨hdecode, hsilent⟩ :=
    decode_of_ok hreads hresponse (session.evaluate request.program s).surroundings
  unfold send
  rw [bind_of_returned houtcome, bind_of_returned hdecode]
  by_cases hok : (!response.ok) = true
  · simp only [hok, if_true]
    rw [note_bind]
    refine ⟨rfl, ?_⟩
    simp only [pure_apply, Journal.calls_append, Journal.calls_note, hcalls, hsilent,
      List.append_nil]
  · simp only [hok, if_false, Bool.false_eq_true]
    refine ⟨rfl, ?_⟩
    simp only [pure_apply, Journal.calls_append, hcalls, hsilent, List.append_nil]

/-- An answer that goes too deep is a failure, whatever it says. -/
theorem send_of_overflow (hquiet : s.IsQuiet) {request : Request} {raw : String}
    {descent : Descent}
    (hdeep : Response.overflow? session.link.levels (.text raw) = some descent)
    (hraw : (session.link.evaluate request.program s).outcome = .returned raw) :
    (session.send request s).outcome = .raised (.stackExhausted descent) ∧
      (session.send request s).journal.calls =
        (session.link.evaluate request.program s).journal.calls := by
  have houtcome := (evaluate_of_returned hquiet hraw).1
  have hdecode := decode_of_overflow hdeep (session.evaluate request.program s).surroundings
  unfold send
  rw [bind_of_returned houtcome, bind_of_raised (congrArg Result.outcome hdecode), hdecode]
  refine ⟨rfl, ?_⟩
  simp only [List.append_nil, calls_evaluate_of_returned hquiet hraw]

/-- **What the host answers is a pointer or none.** -/
theorem lookup_of_returned (hquiet : s.IsQuiet) {request : Request} {raw : String}
    (hraw : (session.link.evaluate request.program s).outcome = .returned raw) :
    (session.lookup request s).outcome = .returned (session.pointer? raw) ∧
      (session.lookup request s).journal.calls =
        (session.link.evaluate request.program s).journal.calls := by
  cases hdeep : Response.overflow? session.link.levels (.text raw) with
  | none =>
      obtain ⟨response, hresponse⟩ := Response.decode_text raw
      obtain ⟨houtcome, hcalls⟩ := send_of_returned hquiet hdeep hresponse hraw
      rw [pointer?_of_reads hdeep]
      unfold lookup Response.pointer?
      rw [attempt_bind_of_returned houtcome, hresponse]
      simp only [pure_apply, hcalls, List.append_nil, and_self]
  | some descent =>
      obtain ⟨houtcome, hcalls⟩ := send_of_overflow hquiet hdeep hraw
      have hother : (Fault.stackExhausted descent).kind ≠ .noEntryPoint := FaultKind.noConfusion
      unfold lookup pointer?
      rw [attempt_bind_of_raised houtcome, hdeep]
      simp only [hother, if_false]
      rw [note_bind]
      refine ⟨rfl, ?_⟩
      simp only [pure_apply, Journal.calls_append, Journal.calls_note, hcalls, List.append_nil]

/-- **A host that fails gives no pointer.** -/
theorem lookup_of_raised (hquiet : s.IsQuiet) {request : Request} {fault : Fault}
    (hfault : (session.link.evaluate request.program s).outcome = .raised fault)
    (hkind : fault.kind ≠ .noEntryPoint) :
    (session.lookup request s).outcome = .returned none := by
  have houtcome := (evaluate_of_raised hquiet hfault).1
  have hsend : (session.send request s).outcome =
      .raised (if fault.message?.isSome then fault else .numberTooLong) := by
    unfold send
    rw [bind_of_raised houtcome]
  have hother : (if fault.message?.isSome then fault else .numberTooLong).kind ≠
      FaultKind.noEntryPoint := by
    by_cases hmessage : fault.message?.isSome = true
    · rwa [if_pos hmessage]
    · rw [if_neg hmessage]
      simp [Fault.kind]
  unfold lookup
  rw [attempt_bind_of_raised hsend]
  simp only [hother, if_false]
  rw [note_bind]
  rfl

/-- The failure for want of an entry point. -/
def unreachable (session : Session) : Fault :=
  .noEntryPoint session.link.settings.entryPointNames

/-- What is told of an evaluation that finds no entry point. -/
def missedTrip (session : Session) (program : String) (s : Surroundings) : Journal :=
  s.told (.evalStart (cut program)) ++ s.told (.evalEnd (cut program)
    (String.ofList (session.unreachable.message?.getD [])) false)

theorem evaluate_of_unreachable (hquiet : s.IsQuiet)
    (hnone : session.link.candidatesIn s.host = []) (program : String) :
    session.evaluate program s =
      ⟨.raised session.unreachable, session.missedTrip program s, s.afterEvent.afterEvent⟩ := by
  have hfault : session.link.evaluate program s.afterEvent =
      ⟨.raised session.unreachable, [], s.afterEvent⟩ :=
    Link.evaluate_of_no_candidates (s := s.afterEvent) hnone program
  have hmessage : messageOf session.unreachable s.afterEvent =
      ⟨.returned (String.ofList (session.unreachable.message?.getD [])), [], s.afterEvent⟩ := rfl
  have htold : s.afterEvent.told = s.told := Surroundings.told_congr s.isSome_afterEvent
  unfold evaluate
  rw [emit_bind hquiet, attempt_bind_of_raised (congrArg Result.outcome hfault), hfault]
  dsimp only
  rw [bind_of_pure hmessage, emit_bind hquiet.afterEvent, htold]
  simp only [raise_apply, missedTrip, List.append_nil, List.nil_append]

theorem send_of_unreachable (hquiet : s.IsQuiet)
    (hnone : session.link.candidatesIn s.host = []) (request : Request) :
    session.send request s = ⟨.raised session.unreachable, session.missedTrip request.program s,
      s.afterEvent.afterEvent⟩ := by
  have hfault := evaluate_of_unreachable hquiet hnone request.program
  unfold send
  rw [bind_of_raised (congrArg Result.outcome hfault), hfault]

/-- **A missing entry point is passed on**, after one evaluation that is heard to fail. -/
theorem lookup_of_unreachable (hquiet : s.IsQuiet)
    (hnone : session.link.candidatesIn s.host = []) (request : Request) :
    session.lookup request s = ⟨.raised session.unreachable, session.missedTrip request.program s,
      s.afterEvent.afterEvent⟩ := by
  have hfault := send_of_unreachable hquiet hnone request
  have hkind : session.unreachable.kind = .noEntryPoint := rfl
  unfold lookup
  rw [attempt_bind_of_raised (congrArg Result.outcome hfault), hfault]
  simp only [hkind, if_true, raise_apply, List.append_nil]

theorem lookup_of_no_candidates (hquiet : s.IsQuiet)
    (hnone : session.link.candidatesIn s.host = []) (request : Request) :
    (session.lookup request s).outcome =
      .raised (.noEntryPoint session.link.settings.entryPointNames) :=
  congrArg Result.outcome (lookup_of_unreachable hquiet hnone request)

/-- With an entry point, and a host or a limit that ends every wait, a lookup comes to a pointer or
to none. -/
theorem lookup_returns (hquiet : s.IsQuiet) (hsome : session.link.candidatesIn s.host ≠ [])
    (hends : Link.EndsWaits session.link.settings.timeout ∨ s.host.Answers) (request : Request) :
    ∃ found, (session.lookup request s).outcome = .returned found := by
  have hsuits : Link.Suits session.link.settings.timeout
      { inv := fun s => Link.EndsWaits session.link.settings.timeout ∨ s.host.Answers
        fault := fun fault => fault.kind ≠ .noEntryPoint
        stalls := False } := by
    refine ⟨fun t target args hinv => ?_, fun _ hkind => hkind, ?_, fun _ _ => trivial,
      fun _ _ _ => trivial⟩
    · exact hinv.imp id fun hanswers => (hanswers.call target args).2
    · by_cases hlimit : Link.EndsWaits session.link.settings.timeout
      · exact .inr (.inl hlimit)
      · exact .inr (.inr fun t hinv => hinv.resolve_left hlimit)
  have hallows := (hsuits.holds_evaluate hsome hends request.program).outcome
  cases hevaluated : (session.link.evaluate request.program s).outcome with
  | returned raw => exact ⟨_, (lookup_of_returned hquiet hevaluated).1⟩
  | raised fault =>
      rw [hevaluated] at hallows
      exact ⟨none, lookup_of_raised hquiet hevaluated hallows⟩
  | stalled =>
      rw [hevaluated] at hallows
      exact hallows.elim

end Session

end HostLink
