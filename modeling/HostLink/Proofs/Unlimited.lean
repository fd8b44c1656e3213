import HostLink.Proofs.Calls

/-!
# Evaluations with and without a limit

A limit on the wait for an answer should only be felt where an answer does not come in time. So a
series of evaluations on a host that answers within a limit should be the same with it as without:
the same answers and failures, the same calls and the same notes. This is so for the limits above
zero that can be waited for, and for no others.
-/

namespace HostLink

namespace Run

variable {α β : Type} {P : Surroundings → Prop} {x y : Run α} {f g : α → Run β}

/-! ### Runs that are the same in some surroundings -/

/-- The runs are the same where a property holds, and they keep it. -/
def AgreeOn (P : Surroundings → Prop) (x y : Run α) : Prop :=
  ∀ s, P s → x s = y s ∧ P (x s).surroundings

theorem agreeOn_of_still (hstill : ∀ s, (x s).surroundings = s) : AgreeOn P x x :=
  fun s hs => ⟨rfl, (hstill s).symm ▸ hs⟩

theorem AgreeOn.bind (hx : AgreeOn P x y) (hf : ∀ a, AgreeOn P (f a) (g a)) :
    AgreeOn P (x >>= f) (y >>= g) := by
  intro s hs
  obtain ⟨hsame, hkept⟩ := hx s hs
  cases houtcome : (x s).outcome with
  | returned a =>
      obtain ⟨hnext, hafter⟩ := hf a _ hkept
      rw [bind_of_returned houtcome, bind_of_returned (hsame ▸ houtcome), ← hsame, hnext]
      exact ⟨rfl, hnext ▸ hafter⟩
  | raised fault =>
      rw [bind_of_raised houtcome, bind_of_raised (hsame ▸ houtcome), ← hsame]
      exact ⟨rfl, hkept⟩
  | stalled =>
      rw [bind_of_stalled houtcome, bind_of_stalled (hsame ▸ houtcome), ← hsame]
      exact ⟨rfl, hkept⟩

theorem AgreeOn.attempt (hx : AgreeOn P x y) : AgreeOn P (attempt x) (attempt y) := by
  intro s hs
  obtain ⟨hsame, hkept⟩ := hx s hs
  rw [attempt_apply, attempt_apply, ← hsame]
  exact ⟨rfl, hkept⟩

end Run

namespace Link

open Run

def unlimited (link : Link) : Link :=
  { link with settings := { link.settings with timeout := none } }

/-- Evaluations one after another, whatever becomes of each. -/
def evaluateAll (link : Link) : List String → Run (List (Except Fault String))
  | [] => Pure.pure []
  | program :: rest => do
    let answer ← attempt (link.evaluate program)
    let answers ← link.evaluateAll rest
    Pure.pure (answer :: answers)

/-- Whatever calls went before, every entry point comes back within the limit. -/
def AnswersWithin (t : Timeout) (link : Link) (host : Host) : Prop :=
  ∀ next, host.Leads next → ∀ probe ∈ link.probes, ∀ program,
    (probe.candidate.turn program next).due (some t) ≠ .hangs

variable {t : Timeout} {link : Link}

theorem AnswersWithin.call {host : Host} (hwithin : link.AnswersWithin t host) (program : String)
    (c : Candidate) : link.AnswersWithin t (c.hostAfter program host) :=
  fun next hleads => hwithin next ((Host.Leads.call .refl _ _).trans hleads)

/-- A turn that comes within a limit that can be waited for is the same without it. -/
theorem ending_of_within (hpositive : t.IsPositive) (hcounted : ∀ e, t.ending ≠ .exceeds e)
    {turn : Turn} (hwithin : turn.due (some t) ≠ .hangs) :
    turn.ending (some t) = turn.ending none := by
  have hkept : ¬turn.IsLost (some t) := by
    rintro ⟨other, excess, ⟨⟩, hexceeds, -⟩
    exact hcounted excess hexceeds
  have hdue : turn.due (some t) = turn.reply := by
    rw [Turn.due] at hwithin ⊢
    split
    · rfl
    · rename_i hlate
      rw [if_neg hlate] at hwithin
      exact absurd rfl hwithin
  rw [Turn.ending_of_answers (by rintro other ⟨⟩; exact hpositive) hkept hwithin, hdue]
  rfl

section

variable (hpositive : t.IsPositive) (hcounted : ∀ e, t.ending ≠ .exceeds e)

include hpositive hcounted

theorem agreeOn_callWithin {probe : Probe} (hprobe : probe ∈ link.probes) (program : String) :
    AgreeOn (fun s => link.AnswersWithin t s.host) (probe.candidate.callWithin (some t) program)
      (probe.candidate.callWithin none program) := by
  intro s hs
  have hwithin := hs s.host .refl probe hprobe program
  rw [Candidate.callWithin_apply, Candidate.callWithin_apply,
    ending_of_within hpositive hcounted hwithin]
  exact ⟨rfl, hs.call program _⟩

theorem agreeOn_firstAnswer (program : String) (last : Fault) {candidates : List Candidate}
    (hprobes : ∀ c ∈ candidates, ∃ probe ∈ link.probes, probe.candidate = c) :
    AgreeOn (fun s => link.AnswersWithin t s.host) (firstAnswer (some t) program last candidates)
      (firstAnswer none program last candidates) := by
  induction candidates generalizing last with
  | nil => exact agreeOn_of_still fun s => by rw [firstAnswer, allFailed_apply]
  | cons c rest ih =>
      obtain ⟨⟨probe, hprobe, rfl⟩, hothers⟩ := List.forall_mem_cons.mp hprobes
      apply AgreeOn.bind (agreeOn_callWithin hpositive hcounted hprobe program).attempt
      intro answer
      cases answer with
      | ok v => exact agreeOn_of_still fun s => rfl
      | error fault =>
          by_cases hkind : fault.kind = .evaluationFailed
          · simp only [hkind, if_true]
            exact agreeOn_of_still fun s => rfl
          · simp only [hkind, if_false]
            exact AgreeOn.bind (agreeOn_of_still fun s => by rw [note_apply]) fun _ =>
              ih fault hothers

theorem agreeOn_evaluate (htimeout : link.settings.timeout = some t) (program : String) :
    AgreeOn (fun s => link.AnswersWithin t s.host) (link.evaluate program)
      (link.unlimited.evaluate program) := by
  intro s hs
  by_cases hnone : link.candidatesIn s.host = []
  · have hnone' : link.unlimited.candidatesIn s.host = [] := hnone
    rw [evaluate_of_no_candidates hnone, evaluate_of_no_candidates hnone']
    exact ⟨rfl, hs⟩
  · have hsome : link.unlimited.candidatesIn s.host ≠ [] := hnone
    rw [evaluate_of_candidates hnone, evaluate_of_candidates hsome, htimeout]
    refine AgreeOn.bind (agreeOn_firstAnswer hpositive hcounted program _ fun c hmem => ?_)
      (fun answer => agreeOn_of_still fun s => ?_) s hs
    · obtain ⟨probe, hprobe, hfound⟩ := List.mem_filterMap.mp hmem
      exact ⟨probe, hprobe, Probe.candidate_of_find? hfound⟩
    · cases answer.asTextWithin link.levels <;> rfl

theorem agreeOn_evaluateAll (htimeout : link.settings.timeout = some t) (programs : List String) :
    AgreeOn (fun s => link.AnswersWithin t s.host) (link.evaluateAll programs)
      (link.unlimited.evaluateAll programs) := by
  induction programs with
  | nil => exact agreeOn_of_still fun s => rfl
  | cons program rest ih =>
      exact AgreeOn.bind (agreeOn_evaluate hpositive hcounted htimeout program).attempt fun _ =>
        AgreeOn.bind ih fun _ => agreeOn_of_still fun s => rfl

end

theorem outcome_evaluateAll_single (link : Link) (program : String) (s : Surroundings) :
    (link.evaluateAll [program] s).outcome = match (link.evaluate program s).outcome with
      | .returned text => .returned [.ok text]
      | .raised fault => .returned [.error fault]
      | .stalled => .stalled := by
  rw [evaluateAll]
  cases houtcome : (link.evaluate program s).outcome with
  | returned text =>
      rw [attempt_bind_of_returned houtcome]
      rfl
  | raised fault =>
      rw [attempt_bind_of_raised houtcome]
      rfl
  | stalled => rw [bind_of_stalled (by rw [attempt_of_stalled houtcome])]

theorem answersWithin_handedOver {host : Host} {f : Function} (hdirect : host.direct = some f)
    (label : String) {settings : Settings}
    (hwithin : ∀ calls args, f.respond calls args ≠ .hangs ∧ t.covers (f.delay calls args) = true) :
    (handedOver label settings).AnswersWithin t host := by
  intro next hleads probe hprobe program
  obtain rfl := List.mem_singleton.mp hprobe
  obtain ⟨n, hnext⟩ := hleads.direct
  rw [hdirect, Option.map_some] at hnext
  have hfunction : next.function? .direct = some { f with calls := f.calls + n } := hnext
  have hturn : (Probe.handedOver label).candidate.turn program next =
      ⟨(Probe.handedOver label).candidate, f.respond (f.calls + n) [.text program],
        f.delay (f.calls + n) [.text program]⟩ := by
    simp only [Candidate.turn, Candidate.reply, Candidate.arguments, Probe.candidate, Host.call,
      Host.delay, hfunction, List.nil_append]
  obtain ⟨hanswers, hcovers⟩ := hwithin (f.calls + n) [.text program]
  rw [hturn, Turn.due, if_pos hcovers]
  exact hanswers

end Link

/-! ### Limits that are not felt -/

namespace Timeout

/-- Evaluations on a host that answers within the limit are the same without it, and so are the
calls and notes that they make. -/
def IsUnfelt (t : Timeout) : Prop :=
  ∀ (link : Link) (programs : List String) (s : Surroundings),
    link.settings.timeout = some t → link.AnswersWithin t s.host →
    link.evaluateAll programs s = link.unlimited.evaluateAll programs s

variable {t : Timeout}

/-- A limit is felt if a turn is lost that comes within it. -/
theorem not_isUnfelt_of_isLost (hpositive : t.IsPositive) {delay : Nat}
    (hcovers : t.covers delay = true)
    (hlost : ∀ c, (Turn.mk c (.returns (.text "done")) delay).IsLost (some t)) : ¬t.IsUnfelt := by
  intro hunfelt
  -- Without a limit the answer is taken; with it the only turn is lost, and the evaluation fails.
  let link := Link.handedOver "evaluator" { timeout := some t }
  let s := Surroundings.replying (.returns (.text "done")) delay
  have hsome : link.candidatesIn s.host ≠ [] := List.cons_ne_nil _ _
  have hwithin : link.AnswersWithin t s.host :=
    Link.answersWithin_handedOver rfl _ fun _ _ => ⟨Reply.noConfusion, hcovers⟩
  have hanswer : (link.unlimited.evaluate "1 + 1" s).outcome = .returned "done" :=
    (Link.evaluate_handedOver rfl rfl (by rintro t ⟨⟩) rfl rfl).1
  have hfailed : ∃ excess, (link.evaluate "1 + 1" s).outcome =
      .raised (.allFailed (.badTimeout excess)) := by
    obtain ⟨excess, hending⟩ := Turn.ending_of_isLost (by rintro other ⟨⟩; exact hpositive)
      (hlost (Probe.handedOver "evaluator").candidate)
    refine ⟨excess, Link.evaluate_of_failed hsome ?_⟩
    exact Link.verdict_of_raised hending FaultKind.noConfusion
  obtain ⟨excess, hlost⟩ := hfailed
  have hsame := congrArg Result.outcome (hunfelt link ["1 + 1"] s rfl hwithin)
  rw [Link.outcome_evaluateAll_single, Link.outcome_evaluateAll_single, hanswer, hlost] at hsame
  cases hsame

/-- An answer is lost under a limit beyond all doubles, even one that is there at once. -/
theorem not_isUnfelt_of_beyondDouble (hpositive : t.IsPositive)
    (hbeyond : t.ending = .exceeds .beyondDouble) : ¬t.IsUnfelt :=
  not_isUnfelt_of_isLost hpositive hpositive.covers_zero fun _ =>
    ⟨t, _, rfl, hbeyond, .inl rfl⟩

/-- An answer that takes a nanosecond is lost under a limit that no clock counts. -/
theorem not_isUnfelt_of_beyondClock (hpositive : t.IsPositive)
    (hbeyond : t.ending = .exceeds .beyondClock) : ¬t.IsUnfelt :=
  not_isUnfelt_of_isLost hpositive
    (hpositive.covers_of_beyondClock hbeyond (Nat.pow_pos (Nat.succ_pos 1))) fun _ =>
      ⟨t, _, rfl, hbeyond, .inr (.inl Nat.one_ne_zero)⟩

/-- **A limit above zero is not felt exactly when** it is not too long to be waited for. -/
theorem isUnfelt_iff (hpositive : t.IsPositive) :
    t.IsUnfelt ↔ ∀ excess, t.ending ≠ .exceeds excess := by
  constructor
  · rintro hunfelt (_ | _) hexceeds
    · exact not_isUnfelt_of_beyondClock hpositive hexceeds hunfelt
    · exact not_isUnfelt_of_beyondDouble hpositive hexceeds hunfelt
  · intro hcounted link programs s htimeout hwithin
    exact (Link.agreeOn_evaluateAll hpositive hcounted htimeout programs s hwithin).1

/-- Five seconds are not felt where answers take four of them. -/
theorem five_seconds_are_not_felt :
    (Link.handedOver "evaluator" { timeout := some (.whole 5) }).evaluateAll ["1 + 1", "2"]
        (.replying (.returns (.text "done")) (4 * second)) =
      (Link.handedOver "evaluator" {}).evaluateAll ["1 + 1", "2"]
        (.replying (.returns (.text "done")) (4 * second)) := by
  have hunfelt : (whole 5).IsUnfelt :=
    (isUnfelt_iff (isPositive_whole (Nat.succ_pos 4))).mpr fun excess => by
      cases excess <;> decide
  have hcovers : (whole 5).covers (4 * second) = true := by decide
  exact hunfelt (Link.handedOver "evaluator" { timeout := some (.whole 5) }) ["1 + 1", "2"] _ rfl
    (Link.answersWithin_handedOver rfl _ fun _ _ => ⟨Reply.noConfusion, hcovers⟩)

/-- Ten to the power of four hundred seconds are felt, however fast the answer comes. -/
theorem limit_beyond_doubles_is_felt :
    (whole (Nat.pow 10 400)).IsPositive ∧ ¬(whole (Nat.pow 10 400)).IsUnfelt := by
  have hpositive : (whole (Nat.pow 10 400)).IsPositive := isPositive_whole (by decide +kernel)
  exact ⟨hpositive, not_isUnfelt_of_beyondDouble hpositive (by decide +kernel)⟩

end Timeout

end HostLink
