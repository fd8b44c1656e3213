import HostLink.Proofs.Resolve

/-!
# What the observer hears

An evaluation is told before and after, and an operation is told once more when it is completed.
Here is exactly what is heard of an evaluation, and what each operation adds to the evaluations that
it runs.
-/

namespace HostLink

/-- Nothing is told to the observer. -/
def Contract.silent : Contract where
  entry e := ¬e.IsEvent

theorem Link.suits_silent (limit : Option Timeout) : Link.Suits limit .silent :=
  ⟨fun _ _ _ hinv => hinv, fun _ _ => trivial, .inl trivial, fun _ _ => id, fun _ _ _ => id⟩

/-- The observer heard `first`, and one event more exactly when the run returned. -/
inductive Result.Concludes {α : Type} (result : Result α) (first : List Event)
    (last : α → Event → Prop) : Prop
  | returned (a : α) (e : Event) (houtcome : result.outcome = .returned a) (hlast : last a e)
      (hevents : result.journal.events = first ++ [e])
  | failed (houtcome : ∀ a, result.outcome ≠ .returned a) (hevents : result.journal.events = first)

theorem Result.concludes_of_raised {α : Type} {result : Result α} {fault : Fault}
    {last : α → Event → Prop} (houtcome : result.outcome = .raised fault) :
    result.Concludes result.journal.events last := by
  refine .failed (fun a hreturned => ?_) rfl
  cases houtcome.symm.trans hreturned

theorem Result.concludes_of_stalled {α : Type} {result : Result α} {last : α → Event → Prop}
    (houtcome : result.outcome = .stalled) : result.Concludes result.journal.events last := by
  refine .failed (fun a hreturned => ?_) rfl
  cases houtcome.symm.trans hreturned

namespace Run

variable {α β : Type} {x : Run α} {f : α → Run β} {s : Surroundings} {last : β → Event → Prop}

/-! ### Silence and conclusions -/

theorem Obeys.events_eq_nil (hx : Obeys .silent x) (s : Surroundings) :
    (x s).journal.events = [] :=
  Journal.events_eq_nil (hx s trivial).journal

theorem events_attempt (x : Run α) (s : Surroundings) :
    (attempt x s).journal.events = (x s).journal.events := by
  rw [attempt_apply]

/-- What follows in silence adds nothing to what was heard. -/
theorem events_bind (hf : ∀ a, Obeys .silent (f a)) (s : Surroundings) :
    ((x >>= f) s).journal.events = (x s).journal.events := by
  rw [bind_apply]
  cases (x s).outcome with
  | returned a =>
      dsimp only
      rw [Journal.events_append, (hf a).events_eq_nil, List.append_nil]
  | raised fault => rfl
  | stalled => rfl

theorem concludes_bind
    (hf : ∀ a, (x s).outcome = .returned a → (f a (x s).surroundings).Concludes [] last) :
    ((x >>= f) s).Concludes (x s).journal.events last := by
  cases houtcome : (x s).outcome with
  | returned a =>
      rw [bind_of_returned houtcome]
      cases hf a houtcome with
      | returned b e hb hlast hevents =>
          refine .returned b e hb hlast ?_
          rw [Journal.events_append, hevents, List.nil_append]
      | failed hb hevents =>
          refine .failed hb ?_
          rw [Journal.events_append, hevents, List.append_nil]
  | raised fault =>
      rw [bind_of_raised houtcome]
      exact Result.concludes_of_raised rfl
  | stalled =>
      rw [bind_of_stalled houtcome]
      exact Result.concludes_of_stalled rfl

theorem concludes_note_bind {g : Unit → Run β} {first : List Event} (channel : Channel)
    (level : Level) (message : Option (List Char)) (hg : (g () s).Concludes first last) :
    ((note channel level message >>= g) s).Concludes first last := by
  cases hg with
  | returned b e hb hlast hevents =>
      exact .returned b e ((outcome_note_bind ..).trans hb) hlast ((events_note_bind ..).trans hevents)
  | failed hb hevents =>
      refine .failed (fun b hreturned => hb b ?_) ((events_note_bind ..).trans hevents)
      rwa [outcome_note_bind] at hreturned

theorem concludes_emit (hquiet : s.IsQuiet) (hheard : s.observer.isSome = true) {b : β} {e : Event}
    (hlast : last b e) : ((emit e >>= fun _ => Pure.pure b) s).Concludes [] last := by
  rw [emit_bind hquiet]
  refine .returned b e rfl hlast ?_
  simp only [pure_apply, List.append_nil, List.nil_append, Surroundings.events_told hheard]

theorem concludes_ofExcept_bind {r : Except Fault α} (hf : ∀ a, (f a s).Concludes [] last) :
    ((ofExcept r >>= f) s).Concludes [] last := by
  cases r with
  | ok a =>
      rw [bind_of_pure (ofExcept_ok a)]
      exact hf a
  | error fault => exact Result.concludes_of_raised rfl

end Run

namespace Session

open Run Text

variable {session : Session} {s : Surroundings} {d : Descriptor} {request : Request}
  {spec : Value}

/-! ### Evaluations -/

/-- A program, and the surroundings that its evaluation starts in. -/
structure Trip where
  program : String
  start : Surroundings

/-- The text that an evaluation comes to, and whether it is an answer: else it is the message of a
failure. -/
def ending? (session : Session) (trip : Trip) : Option (String × Bool) :=
  match (session.link.evaluate trip.program trip.start).outcome with
  | .returned raw => some (raw, true)
  | .raised fault => fault.message?.map fun message => (String.ofList message, false)
  | .stalled => none

/-- What is heard of an evaluation. The program and the answer are cut, a message is not. -/
def heard (session : Session) (trip : Trip) : List Event :=
  .evalStart (cut trip.program) ::
    match session.ending? trip with
    | some (raw, true) => [.evalEnd (cut trip.program) (cut raw) true]
    | some (message, false) => [.evalEnd (cut trip.program) message false]
    | none => []

/-- **An evaluation is heard as its program and as what it comes to.** -/
theorem events_evaluate (hquiet : s.IsQuiet) (hheard : s.observer.isSome = true)
    (program : String) :
    (session.evaluate program s).journal.events = session.heard ⟨program, s⟩ := by
  have hsilent : (session.link.evaluate program s).journal.events = [] :=
    ((Link.suits_silent _).obeys_evaluate trivial program).events_eq_nil s
  have htold := Surroundings.events_told hheard
  cases houtcome : (session.link.evaluate program s).outcome with
  | returned raw =>
      rw [(evaluate_of_returned hquiet houtcome).2]
      simp [htold, hsilent, heard, ending?, houtcome]
  | raised fault =>
      rw [(evaluate_of_raised hquiet houtcome).2]
      cases hmessage : fault.message? with
      | some message => simp [htold, hsilent, heard, ending?, houtcome, hmessage]
      | none => simp [htold, hsilent, heard, ending?, houtcome, hmessage]
  | stalled =>
      rw [(evaluate_of_stalled hquiet houtcome).2]
      simp [htold, hsilent, heard, ending?, houtcome]

/-! ### Lookups -/

theorem events_send (hquiet : s.IsQuiet) (hheard : s.observer.isSome = true) (request : Request) :
    (session.send request s).journal.events = session.heard ⟨request.program, s⟩ := by
  unfold send
  rw [events_bind, events_evaluate hquiet hheard]
  intro raw
  apply Obeys.bind (obeys_decode (fun _ => trivial) (fun _ _ _ => id) session (.text raw))
  intro response
  by_cases hok : (!response.ok) = true
  · simp only [hok, if_true]
    apply Obeys.bind (obeys_note fun _ => id)
    intro _
    exact obeys_pure response
  · simp only [hok, if_false, Bool.false_eq_true]
    exact obeys_pure response

theorem events_lookup (hquiet : s.IsQuiet) (hheard : s.observer.isSome = true)
    (request : Request) :
    (session.lookup request s).journal.events = session.heard ⟨request.program, s⟩ := by
  unfold lookup
  rw [events_bind, events_attempt, events_send hquiet hheard]
  intro answer
  cases answer with
  | error fault =>
      by_cases hkind : fault.kind = .noEntryPoint
      · simp only [hkind, if_true]
        exact obeys_raise trivial
      · simp only [hkind, if_false]
        apply Obeys.bind (obeys_note fun _ => id)
        intro _
        exact obeys_pure none
  | ok response => exact obeys_pure _

theorem events_locate (hquiet : s.IsQuiet) (hheard : s.observer.isSome = true)
    (hrequest : d.request? = some request) :
    (session.locate d s).journal.events = session.heard ⟨request.program, s⟩ := by
  have hbuilt : (build (.ok request) s).outcome = .returned request := rfl
  rw [locate_of_request? session hrequest, bind_of_returned hbuilt, Journal.events_append,
    events_bind fun found => obeys_ofExcept fun _ _ => trivial]
  exact events_lookup hquiet hheard request

/-! ### Operations -/

theorem concludes_resolveWithHost (spec : Value) (hquiet : s.IsQuiet)
    (hheard : s.observer.isSome = true) (hrequest : d.request? = some request) :
    (session.resolveWithHost spec d s).Concludes (session.heard ⟨request.program, s⟩)
      fun a e => ∃ found, e = .resolved spec a found := by
  obtain ⟨hafter, hpresent⟩ := ((suits_lookupContract session _).obeys_locate hrequest s
    ⟨hquiet, hheard⟩).surroundings
  rw [← events_locate hquiet hheard hrequest]
  unfold resolveWithHost
  refine concludes_bind fun found _ => ?_
  cases found with
  | none =>
      simp only [Option.isNone_none, if_true]
      exact concludes_note_bind _ _ _ (concludes_emit hafter hpresent ⟨false, rfl⟩)
  | some address =>
      simp only [Option.isNone_some, if_false, Bool.false_eq_true]
      exact concludes_emit hafter hpresent ⟨true, rfl⟩

theorem concludes_resolve (hquiet : s.IsQuiet) (hheard : s.observer.isSome = true)
    (hrequest : spec.request? = some request) :
    (session.resolve spec s).Concludes (session.heard ⟨request.program, s⟩)
      fun a e => ∃ found, e = .resolved spec a found := by
  have hsymbolic : spec.IsSymbolic := by
    by_contra hlocal
    cases hrequest.symm.trans (Value.request?_eq_none_iff.mpr hlocal)
  obtain ⟨text, rfl, hink, hhex⟩ := hsymbolic
  rw [Value.request?, if_pos hink] at hrequest
  rw [resolve_of_symbolic session hink hhex]
  exact concludes_resolveWithHost _ hquiet hheard hrequest

theorem events_resolve_of_local (hlocal : ¬spec.IsSymbolic) (s : Surroundings) :
    (session.resolve spec s).journal.events = [] := by
  unfold resolve
  split
  · rfl
  · cases hclassify : Descriptor.classify spec with
    | error fault =>
        rw [session.classify_of_error hclassify]
        rfl
    | ok d =>
        obtain ⟨a, ha⟩ := Descriptor.localAddress?_of_classify hclassify hlocal
        rw [session.classify_of_ok hclassify, bind_of_pure (ofExcept_ok _)]
        simp only [ha, pure_apply, Journal.events_nil]

/-- A request that is built and sent is one evaluation; what is made of the response may tell one
event more. -/
theorem concludes_request {β : Type} {f : Response → Run β} {last : β → Event → Prop}
    (hquiet : s.IsQuiet) (hheard : s.observer.isSome = true) (request : Request)
    (hf : ∀ response t, t.IsQuiet → t.observer.isSome = true → (f response t).Concludes [] last) :
    ((build (.ok request) >>= fun request => session.send request >>= f) s).Concludes
      (session.heard ⟨request.program, s⟩) last := by
  obtain ⟨hafter, hpresent⟩ := ((suits_lookupContract session _).obeys_send request s
    ⟨hquiet, hheard⟩).surroundings
  have hsent : ((session.send request >>= f) s).Concludes
      (session.heard ⟨request.program, s⟩) last := by
    rw [← events_send hquiet hheard]
    exact concludes_bind fun response _ => hf response _ hafter hpresent
  have hbuilt : (build (.ok request) s).outcome = .returned request := rfl
  rw [bind_of_returned hbuilt]
  cases hsent with
  | returned b e hb hlast hevents => exact .returned b e hb hlast hevents
  | failed hb hevents => exact .failed hb hevents

theorem concludes_attach (hquiet : s.IsQuiet) (hheard : s.observer.isSome = true)
    (address : Address) (callbacks : Callbacks) :
    (session.attach address callbacks s).Concludes
      (session.heard ⟨Program.installProgram address callbacks, s⟩)
      fun done e => done = true ∧
        e = .interceptInstalled address callbacks.onEnter.isSome callbacks.onLeave.isSome := by
  unfold attach
  rw [Program.installIntercept_eq]
  refine concludes_request hquiet hheard ⟨_, _⟩ fun response t hafter hpresent => ?_
  by_cases hok : (!response.ok) = true
  · simp only [hok, if_true]
    exact concludes_ofExcept_bind fun reason => Result.concludes_of_raised rfl
  · simp only [hok, if_false, Bool.false_eq_true]
    exact concludes_note_bind _ _ _ (concludes_emit hafter hpresent ⟨rfl, rfl⟩)

theorem concludes_scan (hquiet : s.IsQuiet) (hheard : s.observer.isSome = true)
    (name pattern : String) :
    (session.scan (.text name) (.text pattern) s).Concludes
      (session.heard ⟨Program.scanProgram name pattern, s⟩)
      fun found e => e = .scanComplete (.text name) (.text pattern) found.length := by
  unfold scan
  rw [Program.scanPattern_eq]
  refine concludes_request hquiet hheard ⟨_, _⟩ fun response t hafter hpresent => ?_
  by_cases hok : (!response.ok) = true
  · simp only [hok, if_true]
    exact concludes_ofExcept_bind fun reason => Result.concludes_of_raised rfl
  · simp only [hok, if_false, Bool.false_eq_true]
    generalize response.get? (.text "matches") = matched
    cases matched with
    | none => exact concludes_ofExcept_bind fun raw => Result.concludes_of_raised rfl
    | some v =>
        cases v with
        | list entries =>
            refine concludes_ofExcept_bind fun found => ?_
            exact concludes_note_bind _ _ _ (concludes_emit hafter hpresent rfl)
        | _ => exact concludes_ofExcept_bind fun raw => Result.concludes_of_raised rfl

end Session

end HostLink
