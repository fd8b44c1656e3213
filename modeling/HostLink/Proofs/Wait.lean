import HostLink.Link
import HostLink.Proofs.Host
import HostLink.Proofs.Run

/-!
# Waiting for an answer

An entry point replies after a delay, and its reply is taken if it comes within the limit. Two kinds
of limits break this rule. One that no clock counts takes only a reply that is there before the wait
begins, and a whole number beyond all doubles takes none: a turn in which this matters is lost, and
its failure, which is one of the wait, is taken for a failure of the entry point.
-/

namespace HostLink

/-! ### Limits -/

namespace Timeout

def IsPositive : Timeout → Prop
  | .whole n => 0 < n
  | .seconds x => x ≠ .nan ∧ x.isAtMostZero = false

/-- Whether an answer is taken that is there after so many nanoseconds. -/
def takes (delay : Nat) (t : Timeout) : Bool :=
  !t.isNegative &&
    match t.ending with
    | .passes => t.covers delay
    | .endless => true
    | .exceeds .beyondClock => delay == 0
    | .exceeds .beyondDouble => false

variable {t : Timeout}

theorem isPositive_whole {n : Nat} (hpositive : 0 < n) : (whole n).IsPositive :=
  Int.natCast_pos.mpr hpositive

theorem IsPositive.isNegative (hpositive : t.IsPositive) : t.isNegative = false := by
  cases t with
  | whole n => exact decide_eq_false (Int.not_lt.mpr (Int.le_of_lt hpositive))
  | seconds x =>
      obtain ⟨-, hzero⟩ := hpositive
      cases x with
      | nan => rfl
      | infinite negative => exact hzero
      | finite negative significand exponent =>
          have hsign : negative = false := (Bool.or_eq_false_iff.mp hzero).1
          rw [Timeout.isNegative, Double.isNegative, hsign, Bool.false_and]

theorem endingAt_ne_endless (nanoseconds : Int) : endingAt nanoseconds ≠ .endless := by
  unfold endingAt
  split <;> exact Ending.noConfusion

theorem ending_eq_endless_iff : t.ending = .endless ↔ t = .seconds .nan := by
  refine ⟨fun hendless => ?_, fun hnan => hnan ▸ rfl⟩
  cases t with
  | whole n =>
      rw [ending] at hendless
      split at hendless
      · exact absurd hendless (endingAt_ne_endless _)
      · cases hendless
  | seconds x =>
      cases x with
      | nan => rfl
      | infinite negative => cases hendless
      | finite negative significand exponent => exact absurd hendless (endingAt_ne_endless _)

theorem IsPositive.ending_ne_endless (hpositive : t.IsPositive) : t.ending ≠ .endless := by
  intro hendless
  obtain rfl := ending_eq_endless_iff.mp hendless
  exact hpositive.1 rfl

/-- What is there before the wait begins comes within any limit above zero. -/
theorem IsPositive.covers_zero (hpositive : t.IsPositive) : t.covers 0 = true := by
  cases t with
  | whole n => exact decide_eq_true (Int.mul_nonneg (Int.le_of_lt hpositive) (Int.natCast_nonneg _))
  | seconds x =>
      obtain ⟨-, hzero⟩ := hpositive
      cases x with
      | nan => rfl
      | infinite negative =>
          obtain rfl : negative = false := hzero
          rfl
      | finite negative significand exponent =>
          obtain rfl : negative = false := (Bool.or_eq_false_iff.mp hzero).1
          have htruncated : (0 : Int) ≤ Double.truncate false (significand * second) exponent :=
            Int.natCast_nonneg _
          exact decide_eq_true htruncated

/-- A limit that no clock counts is longer than all that a clock counts. -/
theorem IsPositive.covers_of_beyondClock (hpositive : t.IsPositive)
    (hbeyond : t.ending = .exceeds .beyondClock) {delay : Nat} (hcounted : delay ≤ clockRange) :
    t.covers delay = true := by
  have hlong : ∀ {nanoseconds : Int}, endingAt nanoseconds = .exceeds .beyondClock →
      (delay : Int) ≤ nanoseconds := by
    intro nanoseconds hexceeds
    unfold endingAt at hexceeds
    by_cases hrange : (clockRange : Int) ≤ nanoseconds
    · exact Int.le_trans (Int.ofNat_le.mpr hcounted) hrange
    · rw [if_neg hrange] at hexceeds
      cases hexceeds
  cases t with
  | whole n =>
      rw [ending] at hbeyond
      split at hbeyond
      · exact decide_eq_true (hlong hbeyond)
      · cases hbeyond
  | seconds x =>
      cases x with
      | nan => rfl
      | infinite negative =>
          obtain rfl : negative = false := hpositive.2
          rfl
      | finite negative significand exponent => exact decide_eq_true (hlong hbeyond)

theorem IsPositive.takes_of_passes (hpositive : t.IsPositive) (hpasses : t.ending = .passes)
    (delay : Nat) : t.takes delay = t.covers delay := by
  rw [takes, hpasses, hpositive.isNegative, Bool.not_false, Bool.true_and]

theorem IsPositive.takes_zero_of_beyondClock (hpositive : t.IsPositive)
    (hbeyond : t.ending = .exceeds .beyondClock) : t.takes 0 = true := by
  rw [takes, hbeyond, hpositive.isNegative]
  rfl

end Timeout

/-! ### Replies and what they come to -/

namespace Reply

def outcome : Reply → Outcome Value
  | .returns v => .returned v
  | .raises fault => .raised fault
  | .hangs => .stalled

/-- What a slot for the reply holds, however long the wait. -/
def slot : Reply → Option (Except Fault Value)
  | .returns v => some (.ok v)
  | .raises fault => some (.error fault)
  | .hangs => none

theorem eq_raises_of_outcome {reply : Reply} {fault : Fault}
    (houtcome : reply.outcome = .raised fault) : reply = .raises fault := by
  cases reply with
  | raises other => exact congrArg Reply.raises (Outcome.raised.inj houtcome)
  | returns v => cases houtcome
  | hangs => cases houtcome

end Reply

/-- No other entry point is tried after this. -/
def Outcome.decides {α : Type} : Outcome α → Bool
  | .raised fault => fault.kind = .evaluationFailed
  | _ => true

namespace Candidate

/-- What a wait comes to in which no answer is taken, under a limit that is not below zero. -/
def missed (t : Timeout) (label : String) : Outcome Value :=
  match t.ending with
  | .passes => .raised (.timedOut label t)
  | .endless => .stalled
  | .exceeds excess => .raised (.badTimeout excess)

variable {t : Timeout} {label : String} {delay : Nat} {reply : Reply}

theorem handedOn_slot (otherwise : Outcome Value) (hreply : reply ≠ .hangs) :
    handedOn otherwise reply.slot = reply.outcome := by
  cases reply with
  | returns v => rfl
  | raises fault => rfl
  | hangs => exact absurd rfl hreply

theorem awaited_of_isNegative (hnegative : t.isNegative = true) :
    awaited t label delay reply.slot = .raised .negativeTimeout := by
  rw [awaited, if_pos hnegative]

theorem awaited_of_takes (htakes : t.takes delay = true) (hreply : reply ≠ .hangs) :
    awaited t label delay reply.slot = reply.outcome := by
  obtain ⟨hnegative, hends⟩ := Bool.and_eq_true_iff.mp htakes
  rw [awaited, if_neg (by simpa using hnegative)]
  have hsome : ∀ p : Except Fault Value → Bool, (∀ answer, p answer = true) →
      reply.slot.filter p = reply.slot := by
    intro p hp
    cases hslot : reply.slot with
    | none => rfl
    | some answer => exact if_pos (hp answer)
  cases hending : t.ending with
  | passes =>
      rw [hending] at hends
      dsimp only
      rw [hsome _ fun _ => hends, handedOn_slot _ hreply]
  | endless => exact handedOn_slot _ hreply
  | exceeds excess =>
      rw [hending] at hends
      cases excess with
      | beyondClock =>
          dsimp only
          rw [hsome _ fun _ => hends, handedOn_slot _ hreply]
      | beyondDouble => cases hends

theorem awaited_of_missed (hnegative : t.isNegative = false)
    (hmissed : t.takes delay = false ∨ reply = .hangs) :
    awaited t label delay reply.slot = missed t label := by
  have hnone : ∀ (p : Bool) (otherwise : Outcome Value), p = false ∨ reply = .hangs →
      handedOn otherwise (reply.slot.filter fun _ => p) = otherwise := by
    rintro p otherwise (rfl | rfl)
    · cases reply <;> rfl
    · rfl
  rw [Timeout.takes, hnegative, Bool.not_false, Bool.true_and] at hmissed
  rw [awaited, if_neg (by simp [hnegative]), missed]
  cases hending : t.ending with
  | passes =>
      rw [hending] at hmissed
      exact hnone _ _ hmissed
  | endless =>
      rw [hending] at hmissed
      obtain rfl : reply = .hangs := hmissed.resolve_left (by simp)
      rfl
  | exceeds excess =>
      rw [hending] at hmissed
      cases excess with
      | beyondClock => exact hnone _ _ hmissed
      | beyondDouble => rfl

/-- The three things that a wait can come to. -/
theorem awaited_cases (t : Timeout) (label : String) (delay : Nat) (reply : Reply) :
    awaited t label delay reply.slot = .raised .negativeTimeout ∨
      (reply ≠ .hangs ∧ awaited t label delay reply.slot = reply.outcome) ∨
      awaited t label delay reply.slot = missed t label ∧
        (t.takes delay = false ∨ reply = .hangs) := by
  by_cases hnegative : t.isNegative = true
  · exact .inl (awaited_of_isNegative hnegative)
  · rw [Bool.not_eq_true] at hnegative
    by_cases hmissed : t.takes delay = false ∨ reply = .hangs
    · exact .inr (.inr ⟨awaited_of_missed hnegative hmissed, hmissed⟩)
    · obtain ⟨htakes, hreply⟩ := not_or.mp hmissed
      rw [Bool.not_eq_false] at htakes
      exact .inr (.inl ⟨hreply, awaited_of_takes htakes hreply⟩)

end Candidate

/-! ### Turns -/

/-- What an entry point replies when its turn has come, and after how many nanoseconds. -/
structure Turn where
  candidate : Candidate
  reply : Reply
  delay : Nat

namespace Candidate

open Run

def reply (c : Candidate) (program : String) (host : Host) : Reply :=
  (host.call c.target (c.arguments program)).1

def hostAfter (program : String) (host : Host) (c : Candidate) : Host :=
  (host.call c.target (c.arguments program)).2

def turn (program : String) (host : Host) (c : Candidate) : Turn where
  candidate := c
  reply := c.reply program host
  delay := host.delay c.target (c.arguments program)

end Candidate

namespace Turn

/-- What the turn comes to when the reply is waited for at most as long as the limit says. -/
def ending (limit : Option Timeout) (turn : Turn) : Outcome Value :=
  match limit with
  | none => turn.reply.outcome
  | some t => Candidate.awaited t turn.candidate.label turn.delay turn.reply.slot

/-- The reply as far as it comes within the limit: one that comes later never does. -/
def due (limit : Option Timeout) (turn : Turn) : Reply :=
  match limit with
  | none => turn.reply
  | some t => if t.covers turn.delay then turn.reply else .hangs

/-- The wait goes wrong by its own limit. -/
def IsLost (limit : Option Timeout) (turn : Turn) : Prop :=
  ∃ t excess, limit = some t ∧ t.ending = .exceeds excess ∧
    (excess = .beyondDouble ∨ turn.delay ≠ 0 ∨ turn.reply = .hangs)

end Turn

/-- Every wait under the limit ends. -/
def Link.EndsWaits (limit : Option Timeout) : Prop :=
  ∃ t, limit = some t ∧ t.ending ≠ .endless

/-- Under the limit, an answer is taken that is there after so many nanoseconds. -/
def Link.TakesAnswer (limit : Option Timeout) (delay : Nat) : Prop :=
  ∀ t, limit = some t → t.takes delay = true

namespace Candidate

open Run

theorem call_apply (c : Candidate) (program : String) (s : Surroundings) :
    c.call program s = ⟨(c.reply program s.host).outcome,
      [.call (s.host.settle c.target) (c.arguments program)],
      { s with host := hostAfter program s.host c }⟩ := by
  unfold reply Reply.outcome
  rw [call, callHost_apply]
  rfl

/-- **A call under a limit**: one call of the host, and what its turn comes to. -/
theorem callWithin_apply (limit : Option Timeout) (c : Candidate) (program : String)
    (s : Surroundings) :
    c.callWithin limit program s = ⟨(c.turn program s.host).ending limit,
      [.call (s.host.settle c.target) (c.arguments program)],
      { s with host := hostAfter program s.host c }⟩ := by
  cases limit with
  | none => exact c.call_apply program s
  | some t =>
      have hsettled : (settle (c.call program) s).outcome =
          .returned (c.reply program s.host).slot := by
        rw [settle_apply, call_apply]
        cases c.reply program s.host <;> rfl
      rw [callWithin, bind_of_pure (delayOf_apply _ _), bind_of_returned hsettled, settle_apply,
        call_apply]
      rfl

end Candidate

namespace Turn

variable {limit : Option Timeout} {turn : Turn}

theorem ending_of_takesAnswer (htakes : Link.TakesAnswer limit turn.delay)
    (hreply : turn.reply ≠ .hangs) : turn.ending limit = turn.reply.outcome := by
  cases limit with
  | none => rfl
  | some t => exact Candidate.awaited_of_takes (htakes t rfl) hreply

/-- A turn stalls only without an answer, under a limit that does not end the wait. -/
theorem stalled_of_ending (hstalled : turn.ending limit = .stalled) :
    turn.reply = .hangs ∧ ¬Link.EndsWaits limit := by
  have hreplied : ∀ reply : Reply, reply.outcome = .stalled → reply = .hangs := by
    rintro (v | fault | _) houtcome
    · cases houtcome
    · cases houtcome
    · rfl
  cases limit with
  | none => exact ⟨hreplied _ hstalled, fun ⟨t, hlimit, _⟩ => by cases hlimit⟩
  | some t =>
      rw [ending] at hstalled
      rcases Candidate.awaited_cases t turn.candidate.label turn.delay turn.reply with
        hawaited | ⟨hreply, hawaited⟩ | ⟨hawaited, hmissed⟩
      · cases hawaited.symm.trans hstalled
      · exact absurd (hreplied _ (hawaited.symm.trans hstalled)) hreply
      · rw [hawaited, Candidate.missed] at hstalled
        cases hending : t.ending with
        | passes => rw [hending] at hstalled; cases hstalled
        | exceeds excess => rw [hending] at hstalled; cases hstalled
        | endless =>
            obtain rfl := Timeout.ending_eq_endless_iff.mp hending
            refine ⟨hmissed.resolve_left (by simp [Timeout.takes, hending]; decide), ?_⟩
            rintro ⟨other, hlimit, hends⟩
            obtain rfl := Option.some.inj hlimit
            exact hends rfl

/-- What a turn goes wrong with can be shown, if what the host raised can. -/
theorem isSome_message?_of_ending {fault : Fault}
    (hshown : ∀ other, turn.reply = .raises other → other.message?.isSome = true)
    (hending : turn.ending limit = .raised fault) : fault.message?.isSome = true := by
  cases limit with
  | none => exact hshown fault (Reply.eq_raises_of_outcome hending)
  | some t =>
      rw [ending] at hending
      rcases Candidate.awaited_cases t turn.candidate.label turn.delay turn.reply with
        hawaited | ⟨-, hawaited⟩ | ⟨hawaited, -⟩
      · obtain rfl := Outcome.raised.inj (hawaited.symm.trans hending)
        rfl
      · exact hshown fault (Reply.eq_raises_of_outcome (hawaited.symm.trans hending))
      · rw [hawaited, Candidate.missed] at hending
        cases hends : t.ending with
        | passes =>
            rw [hends] at hending
            obtain rfl := Outcome.raised.inj hending
            rfl
        | endless => rw [hends] at hending; cases hending
        | exceeds excess =>
            rw [hends] at hending
            obtain rfl := Outcome.raised.inj hending
            rfl

/-! ### Turns under a limit above zero -/

/-- **A lost turn** fails with the failure of the wait. -/
theorem ending_of_isLost (hpositive : ∀ t, limit = some t → t.IsPositive)
    (hlost : turn.IsLost limit) : ∃ excess, turn.ending limit = .raised (.badTimeout excess) := by
  obtain ⟨t, excess, rfl, hexceeds, hwhy⟩ := hlost
  have hmissed : t.takes turn.delay = false ∨ turn.reply = .hangs := by
    rw [Timeout.takes, hexceeds, (hpositive t rfl).isNegative]
    rcases hwhy with rfl | hdelay | hhangs
    · exact .inl rfl
    · cases excess with
      | beyondClock => exact .inl (by simpa using hdelay)
      | beyondDouble => exact .inl rfl
    · exact .inr hhangs
  refine ⟨excess, ?_⟩
  rw [ending, Candidate.awaited_of_missed (hpositive t rfl).isNegative hmissed, Candidate.missed,
    hexceeds]

/-- Under a limit that is too long, only a turn is not lost whose reply is there at once. -/
theorem eq_beyondClock_of_not_isLost {t : Timeout} {excess : Timeout.Excess}
    (hkept : ¬turn.IsLost (some t)) (hexceeds : t.ending = .exceeds excess) :
    excess = .beyondClock ∧ turn.delay = 0 ∧ turn.reply ≠ .hangs := by
  have hnone : ¬(excess = .beyondDouble ∨ turn.delay ≠ 0 ∨ turn.reply = .hangs) :=
    fun hwhy => hkept ⟨t, excess, rfl, hexceeds, hwhy⟩
  obtain ⟨hexcess, hdelay, hreply⟩ : excess ≠ .beyondDouble ∧ ¬turn.delay ≠ 0 ∧
      turn.reply ≠ .hangs := by simpa only [not_or] using hnone
  refine ⟨?_, not_not.mp hdelay, hreply⟩
  cases excess with
  | beyondClock => rfl
  | beyondDouble => exact absurd rfl hexcess

/-- **A turn that is not lost** comes to the reply that is due, or it is timed out. -/
theorem ending_of_not_isLost (hpositive : ∀ t, limit = some t → t.IsPositive)
    (hkept : ¬turn.IsLost limit) :
    turn.ending limit = (turn.due limit).outcome ∨
      turn.due limit = .hangs ∧
        ∃ t, turn.ending limit = .raised (.timedOut turn.candidate.label t) := by
  cases limit with
  | none => exact .inl rfl
  | some t =>
      have hlimit := hpositive t rfl
      cases hending : t.ending with
      | endless => exact absurd hending hlimit.ending_ne_endless
      | passes =>
          have htakes := hlimit.takes_of_passes hending turn.delay
          by_cases hmissed : t.takes turn.delay = false ∨ turn.reply = .hangs
          · refine .inr ⟨?_, t, ?_⟩
            · rcases hmissed with hlate | hhangs
              · rw [due, ← htakes, hlate, if_neg Bool.false_ne_true]
              · rw [due, hhangs, ite_self]
            · rw [ending, Candidate.awaited_of_missed hlimit.isNegative hmissed,
                Candidate.missed, hending]
          · obtain ⟨htaken, hreply⟩ := not_or.mp hmissed
            rw [Bool.not_eq_false] at htaken
            refine .inl ?_
            rw [ending, Candidate.awaited_of_takes htaken hreply, due, ← htakes, if_pos htaken]
      | exceeds excess =>
          obtain ⟨rfl, hdelay, hreply⟩ := eq_beyondClock_of_not_isLost hkept hending
          have htaken : t.takes turn.delay = true :=
            hdelay ▸ hlimit.takes_zero_of_beyondClock hending
          refine .inl ?_
          rw [ending, Candidate.awaited_of_takes htaken hreply, due, hdelay,
            if_pos hlimit.covers_zero]

theorem ending_of_answers (hpositive : ∀ t, limit = some t → t.IsPositive)
    (hkept : ¬turn.IsLost limit) (hdue : turn.due limit ≠ .hangs) :
    turn.ending limit = (turn.due limit).outcome :=
  (ending_of_not_isLost hpositive hkept).resolve_right fun h => hdue h.1

theorem decides_of_isLost (hpositive : ∀ t, limit = some t → t.IsPositive)
    (hlost : turn.IsLost limit) : (turn.ending limit).decides = false := by
  obtain ⟨excess, hending⟩ := ending_of_isLost hpositive hlost
  rw [hending]
  rfl

theorem decides_of_not_isLost (hpositive : ∀ t, limit = some t → t.IsPositive)
    (hkept : ¬turn.IsLost limit) :
    (turn.ending limit).decides = (turn.due limit).outcome.decides := by
  rcases ending_of_not_isLost hpositive hkept with hending | ⟨hdue, t, hending⟩
  · rw [hending]
  · rw [hending, hdue]
    rfl

/-- What is due to be passed over is, lost or not. -/
theorem passed_of_due (hpositive : ∀ t, limit = some t → t.IsPositive)
    (hdue : (turn.due limit).outcome.decides = false) : (turn.ending limit).decides = false := by
  by_cases hlost : turn.IsLost limit
  · exact decides_of_isLost hpositive hlost
  · rw [decides_of_not_isLost hpositive hlost, hdue]

end Turn

end HostLink
