import HostLink.Proofs.Fallback

/-!
# The calls of an evaluation

An evaluation is meant to call the entry points that are there one after another, each of them once,
and to stop at the first that decides: one that answers, that reports a failed evaluation, or that
does not come back. The failures before it are noted and passed over. This is so unless the limit is
beyond what can be counted: the wait itself then fails, and its failure is taken for one of the
entry point.
-/

namespace HostLink

/-- The calls that are noted, right after they were made, as failures that are passed over. -/
def Journal.passedOver : Journal → List (Target × List Value)
  | .call target args :: .note .. :: rest => (target, args) :: passedOver rest
  | _ :: rest => passedOver rest
  | [] => []

/-- A failure that can be shown, and is not that of a wait for an answer. -/
def Fault.IsOfHost (fault : Fault) : Prop :=
  fault.message?.isSome = true ∧ ∀ excess, fault ≠ .badTimeout excess

theorem Fault.isOfHost_raised (kind : FaultKind) (texts : List String) :
    (raised kind (texts.map .text)).IsOfHost :=
  ⟨isSome_message?_raised kind texts, fun _ => Fault.noConfusion⟩

namespace Candidate

def passedNote? (c : Candidate) (fault : Fault) : Option (List Char) :=
  fault.message?.map fun text =>
    "Host entry point ".toList ++ c.label.toList ++ " failed: ".toList ++ text

/-- What is written of a turn: the call, and the note of a failure that is passed over. -/
def entries (program : String) (settle : Target → Target) (c : Candidate) :
    Outcome Value → Journal
  | .raised fault =>
    .call (settle c.target) (c.arguments program) ::
      if fault.kind = .evaluationFailed then []
      else ((c.passedNote? fault).map fun text =>
        Entry.note .evaluator .debug (String.ofList text)).toList
  | _ => [.call (settle c.target) (c.arguments program)]

section

variable {program : String} {settle : Target → Target} {c : Candidate} {outcome : Outcome Value}

theorem calls_entries :
    (c.entries program settle outcome).calls = [(settle c.target, c.arguments program)] := by
  cases outcome with
  | raised fault =>
      rw [entries]
      split
      · rfl
      · cases c.passedNote? fault <;> rfl
  | _ => rfl

theorem entries_of_decides (hdecides : outcome.decides = true) :
    c.entries program settle outcome = [.call (settle c.target) (c.arguments program)] := by
  cases outcome with
  | raised fault =>
      have hkind : fault.kind = .evaluationFailed := of_decide_eq_true hdecides
      rw [entries, if_pos hkind]
  | _ => rfl

theorem entries_of_passed (c : Candidate) (program : String) (settle : Target → Target)
    (hpassed : outcome.decides = false)
    (hshown : ∀ fault, outcome = .raised fault → fault.message?.isSome = true) :
    ∃ channel level text, c.entries program settle outcome =
      [.call (settle c.target) (c.arguments program), .note channel level text] := by
  cases outcome with
  | raised fault =>
      obtain ⟨text, htext⟩ := Option.isSome_iff_exists.mp (hshown fault rfl)
      rw [entries, if_neg (of_decide_eq_false hpassed), passedNote?, htext]
      exact ⟨_, _, _, rfl⟩
  | returned v => cases hpassed
  | stalled => cases hpassed

end

end Candidate

namespace Link

open Run

/-! ### What is written of turns -/

def callOf (program : String) (settle : Target → Target) (turn : Turn) : Target × List Value :=
  (settle turn.candidate.target, turn.candidate.arguments program)

/-- What is written of turns that come to these outcomes, until one decides. -/
def written (program : String) (settle : Target → Target) (ends : Turn → Outcome Value)
    (turns : List Turn) : Journal :=
  (turns.take (turns.findIdx (fun turn => (ends turn).decides) + 1)).flatMap fun turn =>
    turn.candidate.entries program settle (ends turn)

section

variable {program : String} {settle : Target → Target} {ends : Turn → Outcome Value}

theorem written_cons (turn : Turn) (rest : List Turn) :
    written program settle ends (turn :: rest) =
      turn.candidate.entries program settle (ends turn) ++
        if (ends turn).decides then [] else written program settle ends rest := by
  unfold written
  rw [List.take_succ_cons, List.flatMap_cons, List.findIdx_cons]
  cases (ends turn).decides <;> rfl

theorem calls_written (turns : List Turn) :
    (written program settle ends turns).calls =
      (turns.take (turns.findIdx (fun turn => (ends turn).decides) + 1)).map
        (callOf program settle) := by
  induction turns with
  | nil => rfl
  | cons turn rest ih =>
      rw [written_cons, Journal.calls_append, Candidate.calls_entries, List.take_succ_cons,
        List.map_cons, List.findIdx_cons]
      cases (ends turn).decides with
      | true => rfl
      | false => exact congrArg (_ :: ·) ih

/-- All turns before the first that decides are noted as passed over, if their failures can be
shown. -/
theorem passedOver_written {turns : List Turn}
    (hshown : ∀ turn ∈ turns, ∀ fault, ends turn = .raised fault → fault.message?.isSome = true) :
    (written program settle ends turns).passedOver =
      (turns.take (turns.findIdx fun turn => (ends turn).decides)).map (callOf program settle) := by
  induction turns with
  | nil => rfl
  | cons turn rest ih =>
      obtain ⟨hfirst, hothers⟩ := List.forall_mem_cons.mp hshown
      rw [written_cons, List.findIdx_cons]
      cases hdecides : (ends turn).decides with
      | true =>
          rw [Candidate.entries_of_decides hdecides]
          rfl
      | false =>
          obtain ⟨channel, level, text, hentries⟩ :=
            turn.candidate.entries_of_passed program settle hdecides hfirst
          rw [hentries]
          exact congrArg (_ :: ·) (ih hothers)

/-- **What an evaluation writes**: the calls of its turns until one decides, each with the note of
its failure. -/
theorem journal_firstAnswer (limit : Option Timeout) (program : String) (last : Fault)
    (candidates : List Candidate) (s : Surroundings) :
    (firstAnswer limit program last candidates s).journal =
      written program s.host.settle (·.ending limit) (turns program candidates s.host) := by
  induction candidates generalizing last s with
  | nil =>
      rw [firstAnswer, allFailed_apply]
      rfl
  | cons c rest ih =>
      have hcall := c.callWithin_apply limit program s
      rw [firstAnswer, turns, written_cons]
      cases hending : (c.turn program s.host).ending limit with
      | returned v =>
          rw [hending] at hcall
          rw [attempt_bind_of_returned (a := v) (by rw [hcall]), hcall]
          rfl
      | stalled =>
          rw [hending] at hcall
          rw [bind_of_stalled (by rw [attempt_of_stalled (by rw [hcall])]),
            attempt_of_stalled (by rw [hcall]), hcall]
          rfl
      | raised fault =>
          rw [hending] at hcall
          rw [attempt_bind_of_raised (congrArg Result.outcome hcall), hcall]
          by_cases hkind : fault.kind = .evaluationFailed
          · simp only [hkind, if_true, Outcome.decides, Candidate.entries, decide_true]
            rfl
          · have hrest := ih fault { s with host := c.hostAfter program s.host }
            have hsettle : (c.hostAfter program s.host).settle = s.host.settle :=
              s.host.settle_call _ _
            simp only [hkind, if_false, Outcome.decides, Candidate.entries, decide_false,
              Bool.false_eq_true]
            rw [note_bind, hrest, hsettle]
            rfl

end

/-! ### Calls as described -/

variable {link : Link} {program : String} {s : Surroundings}

theorem journal_evaluate (link : Link) (program : String) (s : Surroundings) :
    (link.evaluate program s).journal =
      written program s.host.settle (·.ending link.settings.timeout)
        (link.turnsOn program s.host) := by
  by_cases hnone : link.candidatesIn s.host = []
  · rw [evaluate_of_no_candidates hnone, turnsOn, hnone]
    rfl
  · have hjournal := journal_firstAnswer link.settings.timeout program
      (.noEntryPoint link.settings.entryPointNames) (link.candidatesIn s.host) s
    rw [evaluate_of_candidates hnone, bind_apply, turnsOn, ← hjournal]
    cases (firstAnswer link.settings.timeout program
        (.noEntryPoint link.settings.entryPointNames) (link.candidatesIn s.host) s).outcome with
    | returned v =>
        dsimp only
        cases v.asTextWithin link.levels with
        | ok text => exact List.append_nil _
        | error fault => exact List.append_nil _
    | raised fault => rfl
    | stalled => rfl

def probesIn (link : Link) (host : Host) : List Probe :=
  link.probes.filter fun probe => (host.function? probe.candidate.target).isSome

theorem candidatesIn_eq_map (link : Link) (host : Host) :
    link.candidatesIn host = (link.probesIn host).map Probe.candidate := by
  unfold candidatesIn probesIn
  induction link.probes with
  | nil => rfl
  | cons probe rest ih =>
      rw [List.filterMap_cons, List.filter_cons, Probe.find?, ih]
      cases host.function? probe.candidate.target <;> rfl

/-- The call that runs a program by way of a probe: a native call is told its selector first. -/
def callOn (program : String) (host : Host) : Probe → Target × List Value
  | .nativeCall object member selector =>
    (host.settle (.member object member), [selector, .text program])
  | .hostMethod object member => (host.settle (.member object member), [.text program])
  | .globalFunction name => (.global name, [.text program])
  | .handedOver _ => (.direct, [.text program])

theorem callOn_eq (program : String) (host : Host) (probe : Probe) :
    callOn program host probe =
      (host.settle probe.candidate.target, probe.candidate.arguments program) := by
  cases probe <;> rfl

/-- How many entry points come before the first that decides, if there is one. -/
def passedCount (link : Link) (program : String) (host : Host) : Nat :=
  (link.replies program host).findIdx (·.outcome.decides)

/-- The calls of an evaluation are as it is described. -/
structure CallsAsDescribed (link : Link) (program : String) (s : Surroundings) : Prop where
  /-- The first few entry points are called, each once and in order, up to the one that decides. -/
  calls : (link.evaluate program s).journal.calls =
    ((link.probesIn s.host).take (link.passedCount program s.host + 1)).map
      (callOn program s.host)
  /-- The calls before the one that decides are noted as failures that are passed over, and no
  other. -/
  passes_over : (link.evaluate program s).journal.passedOver =
    ((link.probesIn s.host).take (link.passedCount program s.host)).map (callOn program s.host)
  /-- If none decides, the evaluation fails for the failure of the last. -/
  cause : ∀ (faults : List Fault) (last : Fault),
    link.replies program s.host = (faults ++ [last]).map .raises →
    (∀ fault ∈ faults ++ [last], fault.kind ≠ .evaluationFailed) →
    (link.evaluate program s).outcome = .raised (.allFailed last)

/-- The turn that settles the evaluation: the first that decides, or else the last. -/
def settling? (link : Link) (program : String) (host : Host) : Option Turn :=
  ((link.turnsOn program host).find? fun turn =>
    (turn.due link.settings.timeout).outcome.decides).or (link.turnsOn program host).getLast?

/-- The wait goes wrong for want of a count where it matters: the turn is lost that settles the
evaluation. -/
def Miscounts (link : Link) (program : String) (host : Host) : Prop :=
  ∃ turn, link.settling? program host = some turn ∧ turn.IsLost link.settings.timeout

theorem map_callOf_turnsOn (link : Link) (program : String) (host : Host) :
    (link.turnsOn program host).map (callOf program host.settle) =
      (link.probesIn host).map (callOn program host) := by
  have hcandidates : (link.turnsOn program host).map (·.candidate) =
      (link.probesIn host).map Probe.candidate := by
    rw [turnsOn, map_candidate_turns, candidatesIn_eq_map]
  have hmap := congrArg (List.map fun c : Candidate =>
    (host.settle c.target, c.arguments program)) hcandidates
  rw [List.map_map, List.map_map] at hmap
  rw [funext (callOn_eq program host)]
  exact hmap

theorem passedCount_eq (link : Link) (program : String) (host : Host) :
    link.passedCount program host = (link.turnsOn program host).findIdx fun turn =>
      (turn.due link.settings.timeout).outcome.decides := by
  rw [passedCount, replies, List.findIdx_map]
  rfl

theorem calls_of_findIdx
    (hsame : ((link.turnsOn program s.host).findIdx fun turn =>
      (turn.ending link.settings.timeout).decides) = link.passedCount program s.host) :
    (link.evaluate program s).journal.calls =
      ((link.probesIn s.host).take (link.passedCount program s.host + 1)).map
        (callOn program s.host) := by
  rw [journal_evaluate, calls_written, hsame, List.map_take, map_callOf_turnsOn, List.map_take]

theorem faults_of_undecided (replies : List Reply)
    (hundecided : ∀ reply ∈ replies, reply.outcome.decides = false) :
    ∃ faults : List Fault, replies = faults.map .raises ∧
      ∀ fault ∈ faults, fault.kind ≠ .evaluationFailed := by
  rcases replies_cases replies with
    ⟨faults, rfl⟩ | ⟨faults, v, others, rfl⟩ | ⟨faults, others, rfl⟩
  · exact ⟨faults, rfl, fun fault hmem =>
      of_decide_eq_false (hundecided _ (List.mem_map_of_mem hmem))⟩
  · cases hundecided (.returns v) (by simp)
  · cases hundecided .hangs (by simp)

section

variable (hpositive : ∀ t, link.settings.timeout = some t → t.IsPositive)

include hpositive

theorem isSome_message?_of_due {turn : Turn} {fault : Fault}
    (hdue : ∀ other, turn.due link.settings.timeout = .raises other →
      other.message?.isSome = true)
    (hending : turn.ending link.settings.timeout = .raised fault) :
    fault.message?.isSome = true := by
  by_cases hlost : turn.IsLost link.settings.timeout
  · obtain ⟨excess, hlate⟩ := Turn.ending_of_isLost hpositive hlost
    obtain rfl := Outcome.raised.inj (hlate.symm.trans hending)
    rfl
  · rcases Turn.ending_of_not_isLost hpositive hlost with hkept | ⟨-, t, hlate⟩
    · exact hdue fault (Reply.eq_raises_of_outcome (hkept.symm.trans hending))
    · obtain rfl := Outcome.raised.inj (hlate.symm.trans hending)
      rfl

/-- As many turns are passed over as described, unless the one is lost that should decide. By the
turns: one that is passed over as described is passed over, lost or not. -/
theorem findIdx_ending_iff (turns : List Turn) :
    (turns.findIdx fun turn => (turn.ending link.settings.timeout).decides) =
        (turns.findIdx fun turn => (turn.due link.settings.timeout).outcome.decides) ↔
      ∀ turn, (turns.find? fun turn => (turn.due link.settings.timeout).outcome.decides) =
        some turn → ¬turn.IsLost link.settings.timeout := by
  induction turns with
  | nil => simp
  | cons turn rest ih =>
      rw [List.findIdx_cons, List.findIdx_cons, List.find?_cons]
      by_cases hlost : turn.IsLost link.settings.timeout
      · rw [Turn.decides_of_isLost hpositive hlost]
        cases (turn.due link.settings.timeout).outcome.decides with
        | true => simp [hlost]
        | false => simpa using ih
      · rw [Turn.decides_of_not_isLost hpositive hlost]
        cases (turn.due link.settings.timeout).outcome.decides with
        | true => simp [hlost]
        | false => simpa using ih

/-- The calls that are noted as passed over are as described exactly when there are as many. -/
theorem passedOver_iff
    (hshown : ∀ fault, .raises fault ∈ link.replies program s.host →
      fault.message?.isSome = true) :
    (link.evaluate program s).journal.passedOver =
        ((link.probesIn s.host).take (link.passedCount program s.host)).map
          (callOn program s.host) ↔
      ((link.turnsOn program s.host).findIdx fun turn =>
        (turn.ending link.settings.timeout).decides) = link.passedCount program s.host := by
  have hwritten : (link.evaluate program s).journal.passedOver =
      ((link.probesIn s.host).map (callOn program s.host)).take
        ((link.turnsOn program s.host).findIdx fun turn =>
          (turn.ending link.settings.timeout).decides) := by
    rw [journal_evaluate, passedOver_written, List.map_take, map_callOf_turnsOn]
    intro turn hmem fault hending
    refine isSome_message?_of_due hpositive (fun other hdue => hshown other ?_) hending
    rw [← hdue]
    exact List.mem_map_of_mem hmem
  rw [hwritten, List.map_take]
  refine ⟨fun hsame => ?_, fun hsame => by rw [hsame]⟩
  have hlengths := congrArg List.length hsame
  have hmany : ((link.probesIn s.host).map (callOn program s.host)).length =
      (link.turnsOn program s.host).length := by
    rw [← map_callOf_turnsOn, List.length_map]
  have hsettled : ∀ decides : Turn → Bool, (link.turnsOn program s.host).findIdx decides ≤
      (link.turnsOn program s.host).length := fun _ => List.findIdx_le_length
  have hending := hsettled fun turn => (turn.ending link.settings.timeout).decides
  have hdue := hsettled fun turn => (turn.due link.settings.timeout).outcome.decides
  rw [List.length_take, List.length_take, hmany] at hlengths
  rw [passedCount_eq] at hlengths ⊢
  omega

/-- Where no reply decides and the last turn is lost, the cause is that of the wait. -/
theorem not_callsAsDescribed_of_undecided {front : List Turn} {turn : Turn}
    (hhost : ∀ fault, .raises fault ∈ link.replies program s.host → fault.IsOfHost)
    (hturns : link.turnsOn program s.host = front ++ [turn])
    (hundecided : ∀ turn ∈ link.turnsOn program s.host,
      (turn.due link.settings.timeout).outcome.decides = false)
    (hlost : turn.IsLost link.settings.timeout) : ¬link.CallsAsDescribed program s := by
  intro hdescribed
  have hpassed : ∀ turn ∈ front, (turn.ending link.settings.timeout).decides = false :=
    fun turn hmem => Turn.passed_of_due hpositive
      (hundecided turn (hturns ▸ List.mem_append_left _ hmem))
  obtain ⟨excess, hending⟩ := Turn.ending_of_isLost hpositive hlost
  have houtcome :=
    outcome_of_undecided hturns hpassed hending FaultKind.noConfusion rfl
  -- The cause that is described is a failure of the host, and that of a wait is none.
  obtain ⟨faults, hreplies, hkinds⟩ := faults_of_undecided
    (link.replies program s.host) (by simpa [replies] using hundecided)
  rcases faults.eq_nil_or_concat with rfl | ⟨earlier, last, rfl⟩
  · rw [replies, hturns] at hreplies
    simp at hreplies
  · rw [List.concat_eq_append] at hreplies hkinds
    rw [hdescribed.cause earlier last hreplies hkinds] at houtcome
    have hlast : last = .badTimeout excess := Fault.allFailed.inj (Outcome.raised.inj houtcome)
    have hmem : Reply.raises last ∈ link.replies program s.host := by simp [hreplies]
    exact (hhost last hmem).2 excess hlast

/-- Where the entry points all fail, and the last turn is not lost, the last failure is the cause. -/
theorem outcome_of_all_failed (hcounts : ¬link.Miscounts program s.host)
    {faults : List Fault} {last : Fault}
    (hreplies : link.replies program s.host = (faults ++ [last]).map .raises)
    (hkinds : ∀ fault ∈ faults ++ [last], fault.kind ≠ .evaluationFailed)
    (hshown : last.message?.isSome = true) :
    (link.evaluate program s).outcome = .raised (.allFailed last) := by
  have hundecided : ∀ turn ∈ link.turnsOn program s.host,
      (turn.due link.settings.timeout).outcome.decides = false := by
    intro turn hmem
    have hreply : turn.due link.settings.timeout ∈ link.replies program s.host :=
      List.mem_map_of_mem hmem
    rw [hreplies] at hreply
    obtain ⟨fault, hfault, heq⟩ := List.mem_map.mp hreply
    rw [← heq]
    exact decide_eq_false (hkinds fault hfault)
  rw [List.map_append, List.map_singleton] at hreplies
  obtain ⟨front, rest, hturns, -, hrest⟩ := List.map_eq_append_iff.mp hreplies
  obtain ⟨turn, rfl, hdue⟩ := List.map_eq_singleton_iff.mp hrest
  have hkept : ¬turn.IsLost link.settings.timeout := fun hlost => by
    refine hcounts ⟨turn, Option.or_eq_some_iff.mpr (.inr ⟨?_, ?_⟩), hlost⟩
    · exact List.find?_eq_none.mpr fun turn hmem => by simp [hundecided turn hmem]
    · rw [hturns, List.getLast?_concat]
  have hpassed : ∀ turn ∈ front, (turn.ending link.settings.timeout).decides = false :=
    fun turn hmem => Turn.passed_of_due hpositive
      (hundecided turn (hturns ▸ List.mem_append_left _ hmem))
  have hending : turn.ending link.settings.timeout = .raised last := by
    rw [Turn.ending_of_answers hpositive hkept (by rw [hdue]; exact Reply.noConfusion), hdue]
    rfl
  exact outcome_of_undecided hturns hpassed hending (hkinds last (by simp)) hshown

/-- **The calls are as described exactly when** no wait goes wrong for want of a count where the
evaluation is settled. -/
theorem callsAsDescribed_iff
    (hhost : ∀ fault, .raises fault ∈ link.replies program s.host → fault.IsOfHost) :
    link.CallsAsDescribed program s ↔ ¬link.Miscounts program s.host := by
  have hshown : ∀ fault, .raises fault ∈ link.replies program s.host →
      fault.message?.isSome = true := fun fault hmem => (hhost fault hmem).1
  constructor
  · rintro hdescribed ⟨turn, hsettling, hlost⟩
    have hsame := (passedOver_iff hpositive hshown).mp hdescribed.passes_over
    rw [passedCount_eq, findIdx_ending_iff hpositive] at hsame
    rcases Option.or_eq_some_iff.mp hsettling with hfind | ⟨hnone, hlast⟩
    · exact hsame turn hfind hlost
    · obtain ⟨front, hturns⟩ := List.getLast?_eq_some_iff.mp hlast
      refine not_callsAsDescribed_of_undecided hpositive hhost hturns (fun turn hmem => ?_) hlost
        hdescribed
      exact Bool.eq_false_iff.mpr (List.find?_eq_none.mp hnone turn hmem)
  · intro hcounts
    have hsame : ((link.turnsOn program s.host).findIdx fun turn =>
        (turn.ending link.settings.timeout).decides) = link.passedCount program s.host := by
      rw [passedCount_eq, findIdx_ending_iff hpositive]
      intro turn hfind hlost
      exact hcounts ⟨turn, Option.or_eq_some_iff.mpr (.inl hfind), hlost⟩
    refine ⟨calls_of_findIdx hsame, (passedOver_iff hpositive hshown).mpr hsame, ?_⟩
    intro faults last hreplies hkinds
    exact outcome_of_all_failed hpositive hcounts hreplies hkinds
      (hshown last (by simp [hreplies]))

end

/-- A failure before an answer is passed over. -/
theorem refused_call_is_passed_over :
    (ofSettings { timeout := some (.whole 5) }).CallsAsDescribed "1 + 1" (refusing .general) := by
  have hpositive : ∀ t, some (Timeout.whole 5) = some t → t.IsPositive := by
    rintro t ⟨⟩
    exact Timeout.isPositive_whole (Nat.succ_pos 4)
  have hreplies := replies_refusing .general _ hpositive "1 + 1"
  refine (callsAsDescribed_iff hpositive ?_).mpr ?_
  · intro fault hmem
    have hmem' := hreplies ▸ hmem
    obtain rfl : fault = .raised .general [.text "refused"] := by simpa using hmem'
    exact Fault.isOfHost_raised .general ["refused"]
  · rintro ⟨turn, -, hlost⟩
    exact not_isLost_five_seconds turn hlost

/-- The native call of the host never comes back, and the member beside it answers. -/
def unreturning : Surroundings where
  host := {
    environment := .given [("h5gg", .object [
      ("callNative", .function { respond := fun _ _ => .hangs }),
      ("eval", .function { respond := fun _ _ => .returns (.text "done") })])] }

/-- An entry point that does not come back is passed over, under a limit of ten billion seconds. -/
theorem endless_call_is_passed_over :
    ¬(ofSettings { timeout := some (.seconds (.ofInt 10000000000)) }).CallsAsDescribed "1 + 1"
      unreturning := by
  intro hdescribed
  have hcalls := congrArg List.length hdescribed.calls
  revert hcalls
  decide

end Link

end HostLink
