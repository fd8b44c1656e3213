import HostLink.Proofs.Turns

/-!
# Falling back

A failure of one entry point is meant to hand over to the next, and an evaluation is meant to end in
text, for want of an entry point, or as a failed evaluation. Here is exactly when this is so: a
failed evaluation that an entry point itself reports hands over to nobody, the answer of a turn that
is lost is not taken, and an answer that cannot be shown is a failure of another kind.
-/

namespace HostLink

namespace Turn

variable {limit : Option Timeout} {turn : Turn}

/-- A failure that is due is passed over, unless it reports a failed evaluation and is heard. -/
theorem passed_of_raises (hpositive : ∀ t, limit = some t → t.IsPositive) {fault : Fault}
    (hdue : turn.due limit = .raises fault)
    (hreported : fault.kind = .evaluationFailed → turn.IsLost limit) :
    (turn.ending limit).decides = false := by
  by_cases hlost : turn.IsLost limit
  · exact decides_of_isLost hpositive hlost
  · rw [decides_of_not_isLost hpositive hlost, hdue]
    exact decide_eq_false fun hkind => hlost (hreported hkind)

end Turn

namespace Link

open Run

/-! ### The shape of replies -/

/-- Failures come first: then nothing, an answer, or an entry point that does not come back. -/
theorem replies_cases (replies : List Reply) :
    (∃ faults : List Fault, replies = faults.map .raises) ∨
      (∃ (faults : List Fault) (v : Value) (others : List Reply),
        replies = faults.map .raises ++ .returns v :: others) ∨
      ∃ (faults : List Fault) (others : List Reply),
        replies = faults.map .raises ++ .hangs :: others := by
  induction replies with
  | nil => exact .inl ⟨[], rfl⟩
  | cons reply rest ih =>
      cases reply with
      | returns v => exact .inr (.inl ⟨[], v, rest, rfl⟩)
      | hangs => exact .inr (.inr ⟨[], rest, rfl⟩)
      | raises fault =>
          rcases ih with ⟨faults, rfl⟩ | ⟨faults, v, others, rfl⟩ | ⟨faults, others, rfl⟩
          · exact .inl ⟨fault :: faults, rfl⟩
          · exact .inr (.inl ⟨fault :: faults, v, others, rfl⟩)
          · exact .inr (.inr ⟨fault :: faults, others, rfl⟩)

variable {link : Link} {program : String} {s : Surroundings} {front back : List Turn}
  {turn : Turn}

/-- All these turns are due to fail. -/
def AllFail (limit : Option Timeout) (turns : List Turn) : Prop :=
  ∀ turn ∈ turns, ∃ fault, turn.due limit = .raises fault

theorem AllFail.ne_hangs {limit : Option Timeout} {turns : List Turn} (hfail : AllFail limit turns) :
    ∀ turn ∈ turns, turn.due limit ≠ .hangs := by
  intro turn hmem
  obtain ⟨fault, hfault⟩ := hfail turn hmem
  rw [hfault]
  exact Reply.noConfusion

theorem allFail_iff {limit : Option Timeout} {turns : List Turn} :
    AllFail limit turns ↔ ∃ faults : List Fault, turns.map (·.due limit) = faults.map .raises := by
  constructor
  · intro hall
    induction turns with
    | nil => exact ⟨[], rfl⟩
    | cons turn rest ih =>
        obtain ⟨⟨fault, hfault⟩, hothers⟩ := List.forall_mem_cons.mp hall
        obtain ⟨faults, hfaults⟩ := ih hothers
        exact ⟨fault :: faults, by rw [List.map_cons, List.map_cons, hfault, hfaults]⟩
  · rintro ⟨faults, hfaults⟩ turn hmem
    obtain ⟨fault, -, hfault⟩ := List.mem_map.mp (hfaults ▸ List.mem_map_of_mem hmem)
    exact ⟨fault, hfault.symm⟩

theorem turnsOn_of_replies {faults : List Fault} {reply : Reply} {others : List Reply}
    (hreplies : link.replies program s.host = faults.map .raises ++ reply :: others) :
    ∃ front turn back, link.turnsOn program s.host = front ++ turn :: back ∧
      AllFail link.settings.timeout front ∧ front.length = faults.length ∧
      turn.due link.settings.timeout = reply := by
  obtain ⟨front, rest, hturns, hfront, hrest⟩ := List.map_eq_append_iff.mp hreplies
  obtain ⟨turn, back, rfl, hturn, -⟩ := List.map_eq_cons_iff.mp hrest
  refine ⟨front, turn, back, hturns, allFail_iff.mpr ⟨faults, hfront⟩, ?_, hturn⟩
  simpa using congrArg List.length hfront

theorem replies_of_turnsOn (hturns : link.turnsOn program s.host = front ++ turn :: back)
    (hfail : AllFail link.settings.timeout front) :
    ∃ (faults : List Fault) (others : List Reply), faults.length = front.length ∧
      link.replies program s.host =
        faults.map .raises ++ turn.due link.settings.timeout :: others := by
  obtain ⟨faults, hfaults⟩ := allFail_iff.mp hfail
  refine ⟨faults, back.map (·.due link.settings.timeout), ?_, ?_⟩
  · rw [← List.length_map (f := Reply.raises), ← hfaults, List.length_map]
  · rw [replies, hturns, List.map_append, List.map_cons, hfaults]

/-! ### Evaluations by their turns -/

theorem candidatesIn_ne_nil (hturns : link.turnsOn program s.host ≠ []) :
    link.candidatesIn s.host ≠ [] := by
  intro hnone
  refine hturns ?_
  rw [turnsOn, hnone]
  rfl

theorem candidatesIn_of_turnsOn (hturns : link.turnsOn program s.host = front ++ turn :: back) :
    link.candidatesIn s.host ≠ [] :=
  candidatesIn_ne_nil (by rw [hturns]; exact List.append_ne_nil_of_right_ne_nil _ (List.cons_ne_nil _ _))

theorem verdictOn_of_decides (hturns : link.turnsOn program s.host = front ++ turn :: back)
    (hpassed : ∀ turn ∈ front, (turn.ending link.settings.timeout).decides = false)
    (hdecides : (turn.ending link.settings.timeout).decides = true) :
    link.verdictOn program s.host = turn.ending link.settings.timeout := by
  obtain ⟨later, hverdict⟩ := verdict_append
    (.noEntryPoint link.settings.entryPointNames) (turn :: back) hpassed
  rw [verdictOn, hturns, hverdict, verdict_of_decides hdecides]

theorem length_calls_of_decides (hturns : link.turnsOn program s.host = front ++ turn :: back)
    (hpassed : ∀ turn ∈ front, (turn.ending link.settings.timeout).decides = false)
    (hdecides : (turn.ending link.settings.timeout).decides = true) :
    (link.evaluate program s).journal.calls.length = front.length + 1 := by
  rw [length_calls_evaluate, calledOn, hturns, called_append hpassed, called,
    if_pos hdecides, List.length_append, List.length_map]
  rfl

theorem lt_length_calls_of_passed (hturns : link.turnsOn program s.host = front ++ turn :: back)
    (hpassed : ∀ turn ∈ front, (turn.ending link.settings.timeout).decides = false) :
    front.length < (link.evaluate program s).journal.calls.length := by
  rw [length_calls_evaluate, calledOn, hturns, called_append hpassed, called, List.length_append,
    List.length_map, List.length_cons]
  omega

/-- Where no entry point decides, what the last turn comes to is the cause. -/
theorem outcome_of_undecided {fault : Fault}
    (hturns : link.turnsOn program s.host = front ++ [turn])
    (hpassed : ∀ turn ∈ front, (turn.ending link.settings.timeout).decides = false)
    (hending : turn.ending link.settings.timeout = .raised fault)
    (hkind : fault.kind ≠ .evaluationFailed) (hshown : fault.message?.isSome = true) :
    (link.evaluate program s).outcome = .raised (.allFailed fault) := by
  obtain ⟨later, hverdict⟩ := verdict_append
    (.noEntryPoint link.settings.entryPointNames) [turn] hpassed
  have hmessage : (Fault.allFailed fault).message?.isSome = true := by
    rwa [Fault.message?, Option.isSome_map]
  rw [verdict_of_raised hending hkind, verdict, if_pos hmessage] at hverdict
  exact evaluate_of_failed (candidatesIn_of_turnsOn hturns) (by rw [verdictOn, hturns, hverdict])

/-- The evaluation takes this answer: the entry points before are passed over, and it comes. -/
def Takes (link : Link) (program : String) (host : Host) (v : Value) : Prop :=
  ∃ front turn back, link.turnsOn program host = front ++ turn :: back ∧
    (∀ turn ∈ front, (turn.ending link.settings.timeout).decides = false) ∧
    turn.ending link.settings.timeout = .returned v

theorem takes_iff {v : Value} :
    link.Takes program s.host v ↔ link.verdictOn program s.host = .returned v := by
  constructor
  · rintro ⟨front, turn, back, hturns, hpassed, hending⟩
    rw [verdictOn_of_decides hturns hpassed (by rw [hending]; rfl), hending]
  · intro hverdict
    rcases passed_or_decides link.settings.timeout (link.turnsOn program s.host) with
      hall | ⟨front, turn, back, hturns, hpassed, hdecides⟩
    · obtain ⟨later, hlater⟩ := verdict_append
        (.noEntryPoint link.settings.entryPointNames) [] hall
      rw [List.append_nil] at hlater
      cases hlater.symm.trans hverdict
    · rw [verdictOn_of_decides hturns hpassed hdecides] at hverdict
      exact ⟨front, turn, back, hturns, hpassed, hverdict⟩

/-- An answer that is taken ends the evaluation as far as it can be shown. -/
theorem evaluate_of_takes {v : Value} (htakes : link.Takes program s.host v) :
    (link.evaluate program s).outcome = (ofExcept (v.asTextWithin link.levels) s).outcome := by
  obtain ⟨front, turn, back, hturns, -, -⟩ := id htakes
  exact evaluate_of_returned (candidatesIn_of_turnsOn hturns) (takes_iff.mp htakes)

/-- An answer that is taken is no failed evaluation, with a text or without one. -/
theorem not_raises_of_takes {v : Value} (htakes : link.Takes program s.host v) :
    ¬(link.evaluate program s).Raises .evaluationFailed := by
  have houtcome := evaluate_of_takes htakes
  cases htext : v.asTextWithin link.levels with
  | ok text =>
      rw [htext] at houtcome
      exact Result.not_raises _ houtcome
  | error fault =>
      rw [htext] at houtcome
      rw [Result.raises_iff houtcome]
      rcases (Value.asTextWithin_error htext).kind with hkind | hkind <;> rw [hkind] <;>
        exact FaultKind.noConfusion

/-! ### Handing over -/

/-- The replies of the entry points that an evaluation has called. -/
def repliesSeen (link : Link) (program : String) (s : Surroundings) : List Reply :=
  (link.replies program s.host).take (link.evaluate program s).journal.calls.length

/-- Evaluations fall back as it is described: failures before an answer are passed over, whatever
their kind, and an evaluation fails only when all entry points were called and failed, or when one
that was called did not come back in time. -/
structure FallsBackAsDescribed (link : Link) (program : String) (s : Surroundings) : Prop where
  answers : ∀ (faults : List Fault) (v : Value) (others : List Reply) (text : String),
    link.replies program s.host = faults.map .raises ++ .returns v :: others →
    v.asTextWithin link.levels = .ok text → (link.evaluate program s).outcome = .returned text
  fails_only : (link.evaluate program s).Raises .evaluationFailed →
    (∃ faults : List Fault, link.repliesSeen program s = faults.map .raises ∧
      link.repliesSeen program s = link.replies program s.host) ∨
    .hangs ∈ link.repliesSeen program s

/-- No entry point is called after the first that answers. -/
def StopsAtAnswer (link : Link) (program : String) (s : Surroundings) : Prop :=
  ∀ (faults : List Fault) (v : Value) (others : List Reply),
    link.replies program s.host = faults.map .raises ++ .returns v :: others →
    (link.evaluate program s).journal.calls.length ≤ faults.length + 1

/-- Nothing stands between the failures of the first entry points and the one after them: no failed
evaluation that one of the first reports, and no wait that loses the answer of the one after. -/
def HandsOver (link : Link) (program : String) (host : Host) : Prop :=
  ∀ front turn back, link.turnsOn program host = front ++ turn :: back →
    AllFail link.settings.timeout front →
    (∀ earlier ∈ front, ∀ fault, earlier.due link.settings.timeout = .raises fault →
      fault.kind = .evaluationFailed → earlier.IsLost link.settings.timeout) ∧
    ∀ v, turn.due link.settings.timeout = .returns v → ¬turn.IsLost link.settings.timeout

theorem mem_repliesSeen_of_passed
    (hturns : link.turnsOn program s.host = front ++ turn :: back)
    (hpassed : ∀ turn ∈ front, (turn.ending link.settings.timeout).decides = false) :
    turn.due link.settings.timeout ∈ link.repliesSeen program s := by
  have hcalled := lt_length_calls_of_passed hturns hpassed
  rw [repliesSeen, replies, hturns, List.mem_take_iff_getElem]
  refine ⟨front.length, ?_, ?_⟩
  · simp only [List.length_map, List.length_append, List.length_cons, Nat.lt_min]
    omega
  · simp

theorem repliesSeen_of_last (hturns : link.turnsOn program s.host = front ++ [turn])
    (hpassed : ∀ turn ∈ front, (turn.ending link.settings.timeout).decides = false) :
    link.repliesSeen program s = link.replies program s.host := by
  refine List.take_of_length_le ?_
  rw [replies, List.length_map, hturns, List.length_append, List.length_singleton]
  exact lt_length_calls_of_passed hturns hpassed

/-- As long as only those were called that come back, nothing else was seen. -/
theorem hangs_notMem_of_calls (hturns : link.turnsOn program s.host = front ++ back)
    (hcome : ∀ turn ∈ front, turn.due link.settings.timeout ≠ .hangs)
    (hcalls : (link.evaluate program s).journal.calls.length ≤ front.length) :
    .hangs ∉ link.repliesSeen program s := by
  intro hmem
  rw [repliesSeen, replies, hturns, List.map_append,
    List.take_append_of_le_length (by simpa using hcalls)] at hmem
  obtain ⟨turn, hturn, hhangs⟩ := List.mem_map.mp (List.mem_of_mem_take hmem)
  exact hcome turn hturn hhangs

section

variable (hpositive : ∀ t, link.settings.timeout = some t → t.IsPositive)

include hpositive

theorem HandsOver.passed (hhands : link.HandsOver program s.host)
    (hturns : link.turnsOn program s.host = front ++ turn :: back)
    (hfail : AllFail link.settings.timeout front) :
    ∀ turn ∈ front, (turn.ending link.settings.timeout).decides = false := by
  intro earlier hmem
  obtain ⟨fault, hdue⟩ := hfail earlier hmem
  exact Turn.passed_of_raises hpositive hdue
    ((hhands front turn back hturns hfail).1 earlier hmem fault hdue)

theorem HandsOver.takes (hhands : link.HandsOver program s.host)
    (hturns : link.turnsOn program s.host = front ++ turn :: back)
    (hfail : AllFail link.settings.timeout front) {v : Value}
    (hanswer : turn.due link.settings.timeout = .returns v) :
    turn.ending link.settings.timeout = .returned v := by
  have hkept := (hhands front turn back hturns hfail).2 v hanswer
  rw [Turn.ending_of_answers hpositive hkept (by rw [hanswer]; exact Reply.noConfusion), hanswer]
  rfl

theorem HandsOver.fallsBackAsDescribed (hhands : link.HandsOver program s.host) :
    link.FallsBackAsDescribed program s := by
  have htakes : ∀ {faults : List Fault} {v : Value} {others : List Reply},
      link.replies program s.host = faults.map .raises ++ .returns v :: others →
      link.Takes program s.host v := by
    intro faults v others hreplies
    obtain ⟨front, turn, back, hturns, hfail, -, hanswer⟩ := turnsOn_of_replies hreplies
    exact ⟨front, turn, back, hturns, hhands.passed hpositive hturns hfail,
      hhands.takes hpositive hturns hfail hanswer⟩
  refine ⟨fun faults v others text hreplies htext => ?_, fun hraises => ?_⟩
  · rw [evaluate_of_takes (htakes hreplies), htext]
    rfl
  · rcases replies_cases (link.replies program s.host) with
      ⟨faults, hall⟩ | ⟨faults, v, others, hreplies⟩ | ⟨faults, others, hhung⟩
    · suffices hseen : link.repliesSeen program s = link.replies program s.host from
        .inl ⟨faults, hseen.trans hall, hseen⟩
      -- All but the last failure are passed over; what the last one is does not matter.
      rcases (link.turnsOn program s.host).eq_nil_or_concat with hnone | ⟨front, last, hturns⟩
      · rw [repliesSeen, replies, hnone, List.map_nil, List.take_nil]
      · rw [List.concat_eq_append] at hturns
        have hfail : AllFail link.settings.timeout front := by
          intro turn hmem
          exact allFail_iff.mpr ⟨faults, hall⟩ turn (hturns ▸ List.mem_append_left _ hmem)
        exact repliesSeen_of_last hturns (hhands.passed hpositive hturns hfail)
    · exact absurd hraises (not_raises_of_takes (htakes hreplies))
    · obtain ⟨front, turn, back, hturns, hfail, -, hhangs⟩ := turnsOn_of_replies hhung
      exact .inr (hhangs ▸ mem_repliesSeen_of_passed hturns
        (hhands.passed hpositive hturns hfail))

theorem HandsOver.stopsAtAnswer (hhands : link.HandsOver program s.host) :
    link.StopsAtAnswer program s := by
  intro faults v others hreplies
  obtain ⟨front, turn, back, hturns, hfail, hlength, hanswer⟩ := turnsOn_of_replies hreplies
  have hending := hhands.takes hpositive hturns hfail hanswer
  have hcalls := length_calls_of_decides hturns (hhands.passed hpositive hturns hfail)
    (by rw [hending]; rfl)
  omega

/-- A failed evaluation that is reported and heard ends the evaluation before all are called. -/
theorem FallsBackAsDescribed.passed (hdescribed : link.FallsBackAsDescribed program s)
    (hturns : link.turnsOn program s.host = front ++ turn :: back)
    (hfail : AllFail link.settings.timeout front) :
    ∀ turn ∈ front, (turn.ending link.settings.timeout).decides = false := by
  rcases passed_or_decides link.settings.timeout front with
    hpassed | ⟨earlier, reporter, later, hfront, hpassed, hdecides⟩
  · exact hpassed
  · -- The one that decides is the last to be called: all that were have failed, and one was not.
    exfalso
    have hturns' : link.turnsOn program s.host =
        earlier ++ reporter :: (later ++ turn :: back) := by
      rw [hturns, hfront, List.append_assoc, List.cons_append]
    have hcalls := length_calls_of_decides hturns' hpassed hdecides
    have hwithin : earlier.length + 1 ≤ front.length := by simp [hfront]
    obtain ⟨fault, hdue⟩ := hfail reporter (by simp [hfront])
    have hkept : ¬reporter.IsLost link.settings.timeout := fun hlost => by
      rw [Turn.decides_of_isLost hpositive hlost] at hdecides
      cases hdecides
    have hending : reporter.ending link.settings.timeout = .raised fault := by
      rw [Turn.ending_of_answers hpositive hkept (by rw [hdue]; exact Reply.noConfusion), hdue]
      rfl
    have hraises : (link.evaluate program s).Raises .evaluationFailed := by
      have hverdict := verdictOn_of_decides hturns' hpassed hdecides
      rw [hending] at hverdict hdecides
      exact ⟨fault, evaluate_of_failed (candidatesIn_of_turnsOn hturns') hverdict,
        of_decide_eq_true hdecides⟩
    rcases hdescribed.fails_only hraises with ⟨-, -, hall⟩ | hhangs
    · have hlength := congrArg List.length hall
      rw [repliesSeen, List.length_take, replies, List.length_map, hturns, List.length_append,
        List.length_cons] at hlength
      omega
    · exact hangs_notMem_of_calls hturns hfail.ne_hangs (by omega) hhangs

/-- A last answer that is lost makes the evaluation fail, though all have come back and not all have
failed. -/
theorem not_fallsBackAsDescribed_of_lost (hturns : link.turnsOn program s.host = front ++ [turn])
    (hfail : AllFail link.settings.timeout front)
    (hpassed : ∀ turn ∈ front, (turn.ending link.settings.timeout).decides = false) {v : Value}
    (hanswer : turn.due link.settings.timeout = .returns v)
    (hlost : turn.IsLost link.settings.timeout) : ¬link.FallsBackAsDescribed program s := by
  intro hdescribed
  obtain ⟨excess, hending⟩ := Turn.ending_of_isLost hpositive hlost
  have hraises : (link.evaluate program s).Raises .evaluationFailed :=
    ⟨_, outcome_of_undecided hturns hpassed hending FaultKind.noConfusion rfl, rfl⟩
  rcases hdescribed.fails_only hraises with ⟨faults, hall, -⟩ | hhangs
  · have hseen := mem_repliesSeen_of_passed hturns hpassed
    rw [hanswer, hall] at hseen
    obtain ⟨fault, -, hfault⟩ := List.mem_map.mp hseen
    cases hfault
  · rw [repliesSeen_of_last hturns hpassed, replies, hturns, List.map_append, List.map_singleton,
      hanswer, List.mem_append, List.mem_singleton] at hhangs
    rcases hhangs with hhangs | hhangs
    · obtain ⟨earlier, hearlier, hdue⟩ := List.mem_map.mp hhangs
      exact hfail.ne_hangs earlier hearlier hdue
    · cases hhangs

/-- An answer is not lost: another entry point would be called after it, or none would answer. -/
theorem FallsBackAsDescribed.kept (hdescribed : link.FallsBackAsDescribed program s)
    (hstops : link.StopsAtAnswer program s)
    (hturns : link.turnsOn program s.host = front ++ turn :: back)
    (hfail : AllFail link.settings.timeout front) {v : Value}
    (hanswer : turn.due link.settings.timeout = .returns v) :
    ¬turn.IsLost link.settings.timeout := by
  intro hlost
  have hpassed := hdescribed.passed hpositive hturns hfail
  cases back with
  | nil =>
      exact not_fallsBackAsDescribed_of_lost hpositive hturns hfail hpassed hanswer hlost hdescribed
  | cons next back =>
      -- The next is called as well, and that is a call too many.
      obtain ⟨faults, others, hlength, hreplies⟩ := replies_of_turnsOn hturns hfail
      rw [hanswer] at hreplies
      have hfew := hstops faults v others hreplies
      have hpassed' : ∀ called ∈ front ++ [turn],
          (called.ending link.settings.timeout).decides = false := by
        intro called hmem
        rcases List.mem_append.mp hmem with hmem | hmem
        · exact hpassed called hmem
        · obtain rfl := List.mem_singleton.mp hmem
          exact Turn.decides_of_isLost hpositive hlost
      have hturns' : link.turnsOn program s.host = (front ++ [turn]) ++ next :: back := by
        rw [hturns, List.append_assoc]
        rfl
      have hmany := lt_length_calls_of_passed hturns' hpassed'
      rw [List.length_append, List.length_singleton] at hmany
      omega

/-- **Evaluations fall back as described, and stop at the first answer, exactly when** the failures
before it hand over: none of them is a failed evaluation that an entry point reports, and no wait
loses the answer. -/
theorem fallsBackAsDescribed_iff :
    (link.FallsBackAsDescribed program s ∧ link.StopsAtAnswer program s) ↔
      link.HandsOver program s.host := by
  constructor
  · rintro ⟨hdescribed, hstops⟩ front turn back hturns hfail
    refine ⟨fun earlier hmem fault hdue hkind => ?_, fun v hanswer =>
      hdescribed.kept hpositive hstops hturns hfail hanswer⟩
    by_contra hkept
    have hpassed := hdescribed.passed hpositive hturns hfail earlier hmem
    rw [Turn.decides_of_not_isLost hpositive hkept, hdue] at hpassed
    exact of_decide_eq_false hpassed hkind
  · exact fun hhands => ⟨hhands.fallsBackAsDescribed hpositive, hhands.stopsAtAnswer hpositive⟩

end

/-- The native call of the host fails in this way, and the member beside it answers. -/
def refusing (kind : FaultKind) : Surroundings where
  host := {
    environment := .given [("h5gg", .object [
      ("callNative", .function {
        respond := fun _ _ => .raises (.raised kind [.text "refused"]) }),
      ("eval", .function { respond := fun _ _ => .returns (.text "done") })])] }

/-- The native call comes last once more, with its other selector. -/
theorem replies_refusing (kind : FaultKind) (limit : Option Timeout)
    (hpositive : ∀ t, limit = some t → t.IsPositive) (program : String) :
    (ofSettings { timeout := limit }).replies program (refusing kind).host =
      [.raises (.raised kind [.text "refused"]), .returns (.text "done"),
        .raises (.raised kind [.text "refused"])] := by
  have hdue : ∀ (c : Candidate) (reply : Reply), (Turn.mk c reply 0).due limit = reply := by
    intro c reply
    cases limit with
    | none => rfl
    | some t => exact if_pos (hpositive t rfl).covers_zero
  have hturns : (ofSettings { timeout := limit }).replies program (refusing kind).host =
      [(Turn.mk _ (.raises (.raised kind [.text "refused"])) 0).due limit,
        (Turn.mk _ (.returns (.text "done")) 0).due limit,
        (Turn.mk _ (.raises (.raised kind [.text "refused"])) 0).due limit] := rfl
  rw [hturns, hdue, hdue, hdue]

theorem not_isLost_five_seconds (turn : Turn) : ¬turn.IsLost (some (.whole 5)) := by
  rintro ⟨t, excess, ⟨⟩, hexceeds, -⟩
  revert hexceeds
  cases excess <;> decide

/-- An entry point that reports a missing entry point hands over like any other. -/
theorem reported_absence_hands_over :
    ((ofSettings { timeout := some (.whole 5) }).evaluate "1 + 1"
      (refusing .noEntryPoint)).outcome = .returned "done" := by
  have hpositive : ∀ t, some (Timeout.whole 5) = some t → t.IsPositive := by
    rintro t ⟨⟩
    exact Timeout.isPositive_whole (Nat.succ_pos 4)
  have hreplies := replies_refusing .noEntryPoint _ hpositive "1 + 1"
  refine ((fallsBackAsDescribed_iff hpositive).mpr ?_).1.answers
    [.raised .noEntryPoint [.text "refused"]] (.text "done") _ "done" hreplies rfl
  intro front turn back hturns hfail
  refine ⟨fun earlier hmem fault hdue hkind => ?_, fun _ _ => not_isLost_five_seconds turn⟩
  have hreply : .raises fault ∈ (ofSettings { timeout := some (.whole 5) }).replies "1 + 1"
      (refusing .noEntryPoint).host := by
    rw [← hdue]
    exact List.mem_map_of_mem (hturns ▸ List.mem_append_left _ hmem)
  rw [hreplies] at hreply
  obtain rfl : fault = .raised .noEntryPoint [.text "refused"] := by simpa using hreply
  cases hkind

/-- A failed evaluation that an entry point reports keeps the next from answering. -/
theorem reported_failure_keeps_answer_away :
    ¬(ofSettings {}).FallsBackAsDescribed "1 + 1" (refusing .evaluationFailed) := by
  intro hdescribed
  have hreplies := replies_refusing .evaluationFailed none (by rintro t ⟨⟩) "1 + 1"
  have hanswered := hdescribed.answers [.raised .evaluationFailed [.text "refused"]]
    (.text "done") _ "done" hreplies rfl
  have hrefused : ((ofSettings {}).evaluate "1 + 1" (refusing .evaluationFailed)).outcome =
      .raised (.raised .evaluationFailed [.text "refused"]) := rfl
  cases hrefused.symm.trans hanswered

/-! ### Endings -/

end Link

end HostLink
