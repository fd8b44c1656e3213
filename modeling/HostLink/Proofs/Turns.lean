import HostLink.Proofs.Fault
import HostLink.Proofs.Link

/-!
# Entry points in turn

An evaluation calls one entry point after another, until one of them decides. Here are the turns
that they would take on a host, and what a turn comes to under a limit. The turns alone say how the
evaluation ends, and it leaves the host as the calls of the first few left it.
-/

namespace HostLink

/-- What the function raises holds nothing but text. -/
def Function.RaisesText (f : Function) : Prop :=
  ∀ calls args fault, f.respond calls args = .raises fault →
    ∃ (kind : FaultKind) (texts : List String), fault = .raised kind (texts.map .text)

theorem Probe.candidate_of_find? {probe : Probe} {host : Host} {c : Candidate}
    (hfound : probe.find? host = some c) : probe.candidate = c := by
  unfold find? at hfound
  cases hfunction : host.function? probe.candidate.target with
  | some f =>
      rw [hfunction] at hfound
      exact Option.some.inj hfound
  | none =>
      rw [hfunction] at hfound
      cases hfound

namespace Link

open Run

/-- The turns that candidates take one after another, none of them left out. -/
def turns (program : String) : List Candidate → Host → List Turn
  | [], _ => []
  | c :: rest, host => c.turn program host :: turns program rest (c.hostAfter program host)

/-- What turns come to; `last` is how the one before them failed. -/
def verdict (limit : Option Timeout) (last : Fault) : List Turn → Outcome Value
  | [] => .raised (if (Fault.allFailed last).message?.isSome then .allFailed last else .numberTooLong)
  | turn :: rest =>
    match turn.ending limit with
    | .raised fault =>
      if fault.kind = .evaluationFailed then .raised fault else verdict limit fault rest
    | outcome => outcome

/-- The candidates that are called before a turn decides, and the one that decides. -/
def called (limit : Option Timeout) : List Turn → List Candidate
  | [] => []
  | turn :: rest =>
    turn.candidate :: if (turn.ending limit).decides then [] else called limit rest

def hostAfter (program : String) (candidates : List Candidate) (host : Host) : Host :=
  candidates.foldl (Candidate.hostAfter program) host

theorem map_candidate_turns (program : String) (candidates : List Candidate) (host : Host) :
    (turns program candidates host).map (·.candidate) = candidates := by
  induction candidates generalizing host with
  | nil => rfl
  | cons c rest ih => rw [turns, List.map_cons, ih, Candidate.turn]

/-- Every turn is one of its candidate, on a host that calls have led to. -/
theorem mem_turns {program : String} {candidates : List Candidate} {host : Host} {turn : Turn}
    (hmem : turn ∈ turns program candidates host) :
    ∃ c ∈ candidates, ∃ next, host.Leads next ∧ turn = c.turn program next := by
  induction candidates generalizing host with
  | nil => cases hmem
  | cons c rest ih =>
      rcases List.mem_cons.mp hmem with rfl | hmem
      · exact ⟨c, List.mem_cons_self, host, .refl, rfl⟩
      · obtain ⟨other, hcandidate, next, hleads, hturn⟩ := ih hmem
        have hcall : host.Leads (c.hostAfter program host) := Host.Leads.call .refl _ _
        exact ⟨other, List.mem_cons_of_mem _ hcandidate, next, hcall.trans hleads, hturn⟩

section

variable {limit : Option Timeout} {last : Fault} {turn : Turn} {front rest : List Turn}

theorem verdict_of_decides (hdecides : (turn.ending limit).decides = true) :
    verdict limit last (turn :: rest) = turn.ending limit := by
  rw [verdict]
  cases hending : turn.ending limit with
  | returned v => rfl
  | stalled => rfl
  | raised fault =>
      rw [hending] at hdecides
      have hkind : fault.kind = .evaluationFailed := of_decide_eq_true hdecides
      simp only [hkind, if_true]

theorem verdict_of_raised {fault : Fault} (hending : turn.ending limit = .raised fault)
    (hkind : fault.kind ≠ .evaluationFailed) :
    verdict limit last (turn :: rest) = verdict limit fault rest := by
  rw [verdict, hending]
  simp only [hkind, if_false]

theorem exists_raised_of_passed (hpassed : (turn.ending limit).decides = false) :
    ∃ fault, turn.ending limit = .raised fault ∧ fault.kind ≠ .evaluationFailed := by
  cases hending : turn.ending limit with
  | raised fault =>
      rw [hending] at hpassed
      exact ⟨fault, rfl, of_decide_eq_false hpassed⟩
  | returned v =>
      rw [hending] at hpassed
      cases hpassed
  | stalled =>
      rw [hending] at hpassed
      cases hpassed

/-- **Turns that are passed over** leave the decision to those that follow. -/
theorem verdict_append (last : Fault) (rest : List Turn)
    (hpassed : ∀ turn ∈ front, (turn.ending limit).decides = false) :
    ∃ later, verdict limit last (front ++ rest) = verdict limit later rest := by
  induction front generalizing last with
  | nil => exact ⟨last, rfl⟩
  | cons first front ih =>
      obtain ⟨hfirst, hothers⟩ := List.forall_mem_cons.mp hpassed
      obtain ⟨fault, hending, hkind⟩ := exists_raised_of_passed hfirst
      obtain ⟨later, hverdict⟩ := ih fault hothers
      exact ⟨later, (verdict_of_raised hending hkind).trans hverdict⟩

theorem called_append (hpassed : ∀ turn ∈ front, (turn.ending limit).decides = false) :
    called limit (front ++ rest) = front.map (·.candidate) ++ called limit rest := by
  induction front with
  | nil => rfl
  | cons first front ih =>
      obtain ⟨hfirst, hothers⟩ := List.forall_mem_cons.mp hpassed
      rw [List.cons_append, called, ih hothers, hfirst]
      rfl

theorem passed_or_decides (limit : Option Timeout) (turns : List Turn) :
    (∀ turn ∈ turns, (turn.ending limit).decides = false) ∨
      ∃ front turn back, turns = front ++ turn :: back ∧
        (∀ turn ∈ front, (turn.ending limit).decides = false) ∧
        (turn.ending limit).decides = true := by
  cases hfind : turns.find? fun turn => (turn.ending limit).decides with
  | none => exact .inl fun turn hmem => Bool.eq_false_iff.mpr (List.find?_eq_none.mp hfind turn hmem)
  | some turn =>
      obtain ⟨hdecides, front, back, hturns, hfront⟩ := List.find?_eq_some_iff_append.mp hfind
      exact .inr ⟨front, turn, back, hturns, by simpa using hfront, hdecides⟩

theorem isSome_message?_of_verdict {fault : Fault} {turns : List Turn}
    (hshown : ∀ turn ∈ turns, ∀ other, turn.reply = .raises other → other.message?.isSome = true)
    (hverdict : verdict limit last turns = .raised fault) : fault.message?.isSome = true := by
  induction turns generalizing last with
  | nil =>
      obtain rfl := Outcome.raised.inj hverdict
      by_cases hmessage : (Fault.allFailed last).message?.isSome = true
      · rwa [if_pos hmessage]
      · rw [if_neg hmessage]
        rfl
  | cons turn rest ih =>
      obtain ⟨hfirst, hrest⟩ := List.forall_mem_cons.mp hshown
      cases hdecides : (turn.ending limit).decides with
      | true =>
          rw [verdict_of_decides hdecides] at hverdict
          exact Turn.isSome_message?_of_ending hfirst hverdict
      | false =>
          obtain ⟨other, hending, hkind⟩ := exists_raised_of_passed hdecides
          rw [verdict_of_raised hending hkind] at hverdict
          exact ih hrest hverdict

end

theorem allFailed_apply (last : Fault) (s : Surroundings) :
    allFailed last s = ⟨.raised (if (Fault.allFailed last).message?.isSome then .allFailed last
      else .numberTooLong), [], s⟩ := by
  unfold allFailed
  cases hmessage : (Fault.allFailed last).message? with
  | some text =>
      rw [bind_of_pure (a := String.ofList text) (by rw [messageOf_apply, hmessage])]
      rfl
  | none =>
      have hraised : (messageOf (.allFailed last) s).outcome = .raised .numberTooLong := by
        rw [messageOf_apply, hmessage]
      rw [bind_of_raised hraised, messageOf_apply]
      rfl

/-- **The turns decide.** An evaluation ends as they say, it calls those that are called until one
decides, with the program, and the host is then as it is after these calls. -/
theorem firstAnswer_turns (limit : Option Timeout) (program : String) (last : Fault)
    (candidates : List Candidate) (s : Surroundings) :
    (firstAnswer limit program last candidates s).outcome =
        verdict limit last (turns program candidates s.host) ∧
      (firstAnswer limit program last candidates s).journal.calls.map (·.2) =
        (called limit (turns program candidates s.host)).map (·.arguments program) ∧
      (firstAnswer limit program last candidates s).surroundings =
        { s with
          host := hostAfter program (called limit (turns program candidates s.host)) s.host } := by
  induction candidates generalizing last s with
  | nil =>
      rw [firstAnswer, allFailed_apply]
      exact ⟨rfl, rfl, rfl⟩
  | cons c rest ih =>
      have hcall := c.callWithin_apply limit program s
      rw [firstAnswer, turns, verdict, called]
      cases hending : (c.turn program s.host).ending limit with
      | returned v =>
          rw [hending] at hcall
          rw [attempt_bind_of_returned (a := v) (by rw [hcall]), hcall]
          exact ⟨rfl, rfl, rfl⟩
      | stalled =>
          rw [hending] at hcall
          rw [bind_of_stalled (by rw [attempt_of_stalled (by rw [hcall])]),
            attempt_of_stalled (by rw [hcall]), hcall]
          exact ⟨rfl, rfl, rfl⟩
      | raised fault =>
          rw [hending] at hcall
          rw [attempt_bind_of_raised (congrArg Result.outcome hcall), hcall]
          by_cases hkind : fault.kind = .evaluationFailed
          · simp only [hkind, Outcome.decides, decide_true, if_true]
            exact ⟨rfl, rfl, rfl⟩
          · simp only [hkind, Outcome.decides, decide_false, if_false, Bool.false_eq_true]
            obtain ⟨houtcome, hcalls, hafter⟩ := ih fault { s with host := c.hostAfter program s.host }
            rw [note_bind]
            refine ⟨houtcome, ?_, hafter⟩
            rw [Journal.calls_append, Journal.calls_append, Journal.calls_note, List.nil_append,
              List.map_append, hcalls]
            rfl

/-! ### Evaluations -/

variable {link : Link} {program : String} {s : Surroundings}

/-- The turns that the entry points of a host take. -/
def turnsOn (link : Link) (program : String) (host : Host) : List Turn :=
  turns program (link.candidatesIn host) host

/-- The replies of the entry points, each as far as it comes within the limit. -/
def replies (link : Link) (program : String) (host : Host) : List Reply :=
  (link.turnsOn program host).map (·.due link.settings.timeout)

def verdictOn (link : Link) (program : String) (host : Host) : Outcome Value :=
  verdict link.settings.timeout (.noEntryPoint link.settings.entryPointNames)
    (link.turnsOn program host)

theorem evaluate_of_returned {v : Value} (hsome : link.candidatesIn s.host ≠ [])
    (hverdict : link.verdictOn program s.host = .returned v) :
    (link.evaluate program s).outcome =
      (ofExcept (v.asTextWithin link.levels) s).outcome := by
  have hanswer := (firstAnswer_turns link.settings.timeout program
    (.noEntryPoint link.settings.entryPointNames) (link.candidatesIn s.host) s).1.trans hverdict
  rw [evaluate_of_candidates hsome, bind_of_returned hanswer]
  cases v.asTextWithin link.levels <;> rfl

theorem evaluate_of_failed {fault : Fault} (hsome : link.candidatesIn s.host ≠ [])
    (hverdict : link.verdictOn program s.host = .raised fault) :
    (link.evaluate program s).outcome = .raised fault := by
  have hanswer := (firstAnswer_turns link.settings.timeout program
    (.noEntryPoint link.settings.entryPointNames) (link.candidatesIn s.host) s).1.trans hverdict
  rw [evaluate_of_candidates hsome, bind_of_raised hanswer]

theorem evaluate_of_stalled (hsome : link.candidatesIn s.host ≠ [])
    (hverdict : link.verdictOn program s.host = .stalled) :
    (link.evaluate program s).outcome = .stalled := by
  have hanswer := (firstAnswer_turns link.settings.timeout program
    (.noEntryPoint link.settings.entryPointNames) (link.candidatesIn s.host) s).1.trans hverdict
  rw [evaluate_of_candidates hsome, bind_of_stalled hanswer]

def calledOn (link : Link) (program : String) (host : Host) : List Candidate :=
  called link.settings.timeout (link.turnsOn program host)

/-- An evaluation makes the calls that it needs, and leaves nothing else behind. -/
theorem evaluate_calls (link : Link) (program : String) (s : Surroundings) :
    (link.evaluate program s).journal.calls.map (·.2) =
        (link.calledOn program s.host).map (·.arguments program) ∧
      (link.evaluate program s).surroundings =
        { s with host := hostAfter program (link.calledOn program s.host) s.host } := by
  by_cases hnone : link.candidatesIn s.host = []
  · rw [evaluate_of_no_candidates hnone, calledOn, turnsOn, hnone]
    exact ⟨rfl, rfl⟩
  · obtain ⟨-, hcalls, hafter⟩ := firstAnswer_turns link.settings.timeout program
      (.noEntryPoint link.settings.entryPointNames) (link.candidatesIn s.host) s
    rw [evaluate_of_candidates hnone, bind_apply]
    cases houtcome : (firstAnswer link.settings.timeout program
        (.noEntryPoint link.settings.entryPointNames) (link.candidatesIn s.host) s).outcome with
    | returned v =>
        dsimp only
        rw [hafter]
        cases v.asTextWithin link.levels with
        | ok text => exact ⟨by simpa [calledOn, turnsOn] using hcalls, rfl⟩
        | error fault => exact ⟨by simpa [calledOn, turnsOn] using hcalls, rfl⟩
    | raised fault => exact ⟨hcalls, hafter⟩
    | stalled => exact ⟨hcalls, hafter⟩

theorem length_calls_evaluate (link : Link) (program : String) (s : Surroundings) :
    (link.evaluate program s).journal.calls.length = (link.calledOn program s.host).length := by
  rw [← List.length_map, (link.evaluate_calls program s).1, List.length_map]

/-- Whatever calls went before, what an entry point raises can be shown. -/
def Legible (link : Link) (host : Host) : Prop :=
  ∀ next, host.Leads next → ∀ probe ∈ link.probes, ∀ program fault,
    probe.candidate.reply program next = .raises fault → fault.message?.isSome = true

theorem Legible.of_leads {host next : Host} (hlegible : link.Legible host)
    (hleads : host.Leads next) : link.Legible next :=
  fun later hlater => hlegible later (hleads.trans hlater)

theorem legible_handedOver (label : String) (settings : Settings) {host : Host}
    (htexts : ∀ f, host.direct = some f → f.RaisesText) :
    (handedOver label settings).Legible host := by
  intro next hleads probe hprobe program fault hreply
  obtain rfl := List.mem_singleton.mp hprobe
  obtain ⟨n, hnext⟩ := hleads.direct
  change (next.call .direct [.text program]).1 = .raises fault at hreply
  unfold Host.call Host.function? Host.settle Host.settledFunction? at hreply
  cases hdirect : host.direct with
  | none =>
      rw [hdirect] at hnext
      simp only [hnext, Option.map_none] at hreply
      obtain rfl := Reply.raises.inj hreply
      rfl
  | some f =>
      rw [hdirect] at hnext
      simp only [hnext, Option.map_some] at hreply
      obtain ⟨kind, texts, rfl⟩ := htexts f hdirect _ _ _ hreply
      exact Fault.isSome_message?_raised kind texts

/-- **An evaluation fails with something that can be shown**, if the entry points do. -/
theorem Legible.isSome_message? (hlegible : link.Legible s.host) {fault : Fault}
    (hraised : (link.evaluate program s).outcome = .raised fault) :
    fault.message?.isSome = true := by
  by_cases hnone : link.candidatesIn s.host = []
  · rw [evaluate_of_no_candidates hnone] at hraised
    obtain rfl := Outcome.raised.inj hraised
    rfl
  · cases hverdict : link.verdictOn program s.host with
    | returned v =>
        rw [evaluate_of_returned hnone hverdict] at hraised
        cases htext : v.asTextWithin link.levels with
        | ok text =>
            rw [htext] at hraised
            cases hraised
        | error other =>
            rw [htext] at hraised
            obtain rfl := Outcome.raised.inj hraised
            rcases Value.asTextWithin_error htext with rfl | rfl <;> rfl
    | raised other =>
        rw [evaluate_of_failed hnone hverdict] at hraised
        obtain rfl := Outcome.raised.inj hraised
        refine isSome_message?_of_verdict (fun turn hmem raised hreply => ?_) hverdict
        obtain ⟨c, hcandidate, next, hleads, rfl⟩ := mem_turns hmem
        obtain ⟨probe, hprobe, hfound⟩ := List.mem_filterMap.mp hcandidate
        rw [← Probe.candidate_of_find? hfound] at hreply
        exact hlegible next hleads probe hprobe program raised hreply
    | stalled => cases (evaluate_of_stalled hnone hverdict).symm.trans hraised

end Link

/-! ### A host with one reply -/

/-- The function handed over replies to everything in the same way, and an observer listens. -/
def Surroundings.replying (reply : Reply) (delay : Nat := 0) : Surroundings where
  host := {
    environment := .given []
    direct := some { respond := fun _ _ => reply, delay := fun _ _ => delay } }
  observer := some .silent

theorem Surroundings.isQuiet_replying (reply : Reply) : (replying reply).IsQuiet := by
  rintro o heq heard e
  obtain rfl := Option.some.inj heq
  rfl

end HostLink
