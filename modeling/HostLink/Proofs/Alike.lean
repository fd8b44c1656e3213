import HostLink.Proofs.Calls
import HostLink.Proofs.Composed
import HostLink.Proofs.Utf8

/-!
# Hosts that are alike

Two hosts are alike if they answer alike, call after call, where text and its bytes count as the same
answer. On hosts that are alike a session does the same and comes to the same, whatever it is asked
to do: what a host returns is made text before anything else is done with it.
-/

namespace HostLink

open Text

/-! ### Text and its bytes -/

/-- The second value is the first, or the bytes of its text. -/
inductive Value.RecodedAs : Value → Value → Prop
  | same (v : Value) : RecodedAs v v
  | bytes (s : String) : RecodedAs (.text s) (.bytes (Utf8.encode s.toList))
  | buffer (s : String) : RecodedAs (.text s) (.buffer (Utf8.encode s.toList))

/-- **Bytes are read as the text that they were made from.** -/
theorem Value.RecodedAs.asText_eq {v w : Value} (hrecoded : v.RecodedAs w) : w.asText = v.asText := by
  cases hrecoded with
  | same => rfl
  | bytes s | buffer s =>
      rw [Value.asText, Utf8.decodeLossy_encode, String.ofList_toList]
      simp [Value.asText, Value.toText, Value.text?]

theorem Value.RecodedAs.asTextWithin_eq {v w : Value} (hrecoded : v.RecodedAs w) (levels : Nat) :
    w.asTextWithin levels = v.asTextWithin levels := by
  have hhindrance : w.hindrance? levels = v.hindrance? levels := by
    cases hrecoded with
    | same => rfl
    | bytes s | buffer s => cases levels <;> rfl
  rw [asTextWithin, asTextWithin, hhindrance, hrecoded.asText_eq]

/-- The second reply is the first, but for how a text is returned. -/
inductive Reply.RecodedAs : Reply → Reply → Prop
  | same (reply : Reply) : RecodedAs reply reply
  | returns {v w : Value} (hrecoded : v.RecodedAs w) : RecodedAs (.returns v) (.returns w)

/-- A relation between hosts that answer alike, and between what calls make of them. -/
structure Host.IsLikeness (R : Host → Host → Prop) : Prop where
  settle : ∀ {host other}, R host other → other.settle = host.settle
  found : ∀ {host other}, R host other →
    ∀ target, (other.function? target).isSome = (host.function? target).isSome
  reply : ∀ {host other}, R host other → ∀ target args,
    (host.call target args).1.RecodedAs (other.call target args).1
  delay : ∀ {host other}, R host other → other.delay = host.delay
  after : ∀ {host other}, R host other → ∀ target args,
    R (host.call target args).2 (other.call target args).2

/-! ### Runs that are alike -/

inductive Outcome.Alike {α : Type} (rel : α → α → Prop) : Outcome α → Outcome α → Prop
  | returned {a b : α} (hrel : rel a b) : Alike rel (.returned a) (.returned b)
  | raised (fault : Fault) : Alike rel (.raised fault) (.raised fault)
  | stalled : Alike rel .stalled .stalled

theorem Outcome.Alike.eq {α : Type} {left right : Outcome α} (halike : Alike Eq left right) :
    right = left := by
  cases halike with
  | returned hrel => rw [hrel]
  | raised fault => rfl
  | stalled => rfl

theorem Outcome.Alike.mono {α : Type} {rel rel' : α → α → Prop} {left right : Outcome α}
    (halike : left.Alike rel right) (hmono : ∀ a b, rel a b → rel' a b) :
    left.Alike rel' right := by
  cases halike with
  | returned hrel => exact .returned (hmono _ _ hrel)
  | raised fault => exact .raised fault
  | stalled => exact .stalled

/-- The outcome of a run whose failures are caught. -/
def Outcome.caught {α : Type} : Outcome α → Outcome (Except Fault α)
  | .returned a => .returned (.ok a)
  | .raised fault => .returned (.error fault)
  | .stalled => .stalled

/-- What was caught of outcomes that are alike. -/
inductive Caught {α : Type} (rel : α → α → Prop) : Except Fault α → Except Fault α → Prop
  | ok {a b : α} (hrel : rel a b) : Caught rel (.ok a) (.ok b)
  | error (fault : Fault) : Caught rel (.error fault) (.error fault)

theorem Caught.eq {α : Type} {left right : Except Fault α} (hcaught : Caught Eq left right) :
    left = right := by
  cases hcaught with
  | ok hrel => rw [hrel]
  | error fault => rfl

theorem Outcome.Alike.caught {α : Type} {rel : α → α → Prop} {left right : Outcome α}
    (halike : left.Alike rel right) : left.caught.Alike (Caught rel) right.caught := by
  cases halike with
  | returned hrel => exact .returned (.ok hrel)
  | raised fault => exact .returned (.error fault)
  | stalled => exact .stalled

/-- Results that are alike: all that can be seen of them is the same, and the hosts are related. -/
structure Result.Alike {α : Type} (R : Host → Host → Prop) (rel : α → α → Prop)
    (left right : Result α) : Prop where
  outcome : left.outcome.Alike rel right.outcome
  journal : right.journal = left.journal
  observer : right.surroundings.observer = left.surroundings.observer
  host : R left.surroundings.host right.surroundings.host

namespace Run

/-- The runs are alike wherever the hosts are related and the observer is the same. -/
def Alike {α : Type} (R : Host → Host → Prop) (rel : α → α → Prop) (x y : Run α) : Prop :=
  ∀ host other observer, R host other → (x ⟨host, observer⟩).Alike R rel (y ⟨other, observer⟩)

variable {α β : Type} {R : Host → Host → Prop} {rel : α → α → Prop} {x y : Run α}

theorem Alike.apply (hx : Alike R rel x y) {s t : Surroundings} (hhosts : R s.host t.host)
    (hobserver : t.observer = s.observer) : (x s).Alike R rel (y t) := by
  obtain ⟨host, observer⟩ := s
  obtain ⟨other, observer'⟩ := t
  obtain rfl : observer' = observer := hobserver
  exact hx host other observer' hhosts

theorem alike_pure {a b : α} (hrel : rel a b) :
    Alike R rel (Pure.pure a : Run α) (Pure.pure b) :=
  fun _ _ _ hhosts => ⟨.returned hrel, rfl, rfl, hhosts⟩

theorem alike_raise (fault : Fault) : Alike R rel (raise fault) (raise fault) :=
  fun _ _ _ hhosts => ⟨.raised fault, rfl, rfl, hhosts⟩

theorem alike_note (channel : Channel) (level : Level) (message : Option (List Char)) :
    Alike R Eq (note channel level message) (note channel level message) := by
  intro host other observer hhosts
  rw [note_apply, note_apply]
  exact ⟨.returned rfl, rfl, rfl, hhosts⟩

theorem alike_emit (e : Event) : Alike R Eq (emit e) (emit e) := by
  intro host other observer hhosts
  cases observer with
  | none => exact ⟨.returned rfl, rfl, rfl, hhosts⟩
  | some o =>
      simp only [emit]
      cases o.respond o.heard e with
      | none => exact ⟨.returned rfl, rfl, rfl, hhosts⟩
      | some fault => exact ⟨.raised fault, rfl, rfl, hhosts⟩

theorem alike_ofExcept (r : Except Fault α) : Alike R Eq (ofExcept r) (ofExcept r) := by
  cases r with
  | ok a => exact alike_pure rfl
  | error fault => exact alike_raise fault

theorem alike_messageOf (fault : Fault) : Alike R Eq (messageOf fault) (messageOf fault) := by
  intro host other observer hhosts
  rw [messageOf_apply, messageOf_apply]
  cases fault.message? with
  | some text => exact ⟨.returned rfl, rfl, rfl, hhosts⟩
  | none => exact ⟨.raised _, rfl, rfl, hhosts⟩

/-- If two runs are alike from where they start, and so are those that come after them, then they
are alike together. -/
theorem alike_bind {rel' : β → β → Prop} {f g : α → Run β} {s t : Surroundings}
    (hx : (x s).Alike R rel (y t))
    (hf : ∀ a b, rel a b → (f a (x s).surroundings).Alike R rel' (g b (y t).surroundings)) :
    ((x >>= f) s).Alike R rel' ((y >>= g) t) := by
  obtain ⟨houtcome, hjournal, hobserver, hafter⟩ := hx
  rw [bind_apply, bind_apply]
  generalize x s = left at *
  generalize y t = right at *
  obtain ⟨leftOutcome, leftJournal, leftAfter⟩ := left
  obtain ⟨rightOutcome, rightJournal, rightAfter⟩ := right
  obtain rfl : rightJournal = leftJournal := hjournal
  cases houtcome with
  | returned hrel =>
      obtain ⟨hnext, hjournals, hobservers, hhosts⟩ := hf _ _ hrel
      exact ⟨hnext, congrArg (rightJournal ++ ·) hjournals, hobservers, hhosts⟩
  | raised fault => exact ⟨.raised fault, rfl, hobserver, hafter⟩
  | stalled => exact ⟨.stalled, rfl, hobserver, hafter⟩

theorem alike_attempt {s t : Surroundings} (hx : (x s).Alike R rel (y t)) :
    (attempt x s).Alike R (Caught rel) (attempt y t) := by
  rw [attempt_apply, attempt_apply]
  exact ⟨hx.outcome.caught, hx.journal, hx.observer, hx.host⟩

theorem Alike.bind {rel' : β → β → Prop} {f g : α → Run β} (hx : Alike R rel x y)
    (hf : ∀ a b, rel a b → Alike R rel' (f a) (g b)) : Alike R rel' (x >>= f) (y >>= g) := by
  intro host other observer hhosts
  have hfirst := hx host other observer hhosts
  exact alike_bind hfirst fun a b hrel => (hf a b hrel).apply hfirst.host hfirst.observer

/-- Where the same was returned, it goes on in the same way. -/
theorem Alike.bind_same {rel' : β → β → Prop} {f g : α → Run β} (hx : Alike R Eq x y)
    (hf : ∀ a, Alike R rel' (f a) (g a)) : Alike R rel' (x >>= f) (y >>= g) := by
  apply hx.bind
  rintro a b rfl
  exact hf a

theorem Alike.attempt (hx : Alike R rel x y) : Alike R (Caught rel) (attempt x) (attempt y) :=
  fun host other observer hhosts => alike_attempt (hx host other observer hhosts)

theorem Alike.mono {rel' : α → α → Prop} (hx : Alike R rel x y)
    (hmono : ∀ a b, rel a b → rel' a b) : Alike R rel' x y := by
  intro host other observer hhosts
  obtain ⟨houtcome, hjournal, hobserver, hafter⟩ := hx host other observer hhosts
  exact ⟨houtcome.mono hmono, hjournal, hobserver, hafter⟩

end Run

/-! ### Evaluations -/

/-- A turn comes to the like of what another comes to that is like it and takes as long. -/
theorem Turn.ending_alike {reply other : Reply} (hrecoded : reply.RecodedAs other)
    (limit : Option Timeout) (c : Candidate) (delay : Nat) :
    ((Turn.mk c reply delay).ending limit).Alike Value.RecodedAs
      ((Turn.mk c other delay).ending limit) := by
  have hrefl : ∀ outcome : Outcome Value, outcome.Alike Value.RecodedAs outcome := by
    intro outcome
    cases outcome with
    | returned v => exact .returned (.same v)
    | raised fault => exact .raised fault
    | stalled => exact .stalled
  cases hrecoded with
  | same => exact hrefl _
  | @returns v w hrecoded =>
      cases limit with
      | none => exact .returned hrecoded
      | some t =>
          rw [ending, ending]
          dsimp only
          by_cases hnegative : t.isNegative = true
          · rw [Candidate.awaited_of_isNegative hnegative, Candidate.awaited_of_isNegative hnegative]
            exact .raised _
          · rw [Bool.not_eq_true] at hnegative
            cases htakes : t.takes delay with
            | true =>
                rw [Candidate.awaited_of_takes htakes Reply.noConfusion,
                  Candidate.awaited_of_takes htakes Reply.noConfusion]
                exact .returned hrecoded
            | false =>
                rw [Candidate.awaited_of_missed hnegative (.inl htakes),
                  Candidate.awaited_of_missed hnegative (.inl htakes)]
                exact hrefl _

namespace Link

open Run

variable {R : Host → Host → Prop}

theorem candidatesIn_of_alike (hR : Host.IsLikeness R) {host other : Host} (hhosts : R host other)
    (link : Link) : link.candidatesIn other = link.candidatesIn host := by
  have hfound : link.probesIn other = link.probesIn host :=
    List.filter_congr fun probe _ => hR.found hhosts probe.candidate.target
  rw [candidatesIn_eq_map, candidatesIn_eq_map, hfound]

theorem alike_callWithin (hR : Host.IsLikeness R) (limit : Option Timeout) (c : Candidate)
    (program : String) :
    Alike R Value.RecodedAs (c.callWithin limit program) (c.callWithin limit program) := by
  intro host other observer hhosts
  rw [Candidate.callWithin_apply, Candidate.callWithin_apply]
  refine ⟨?_, ?_, rfl, hR.after hhosts _ _⟩
  · simp only [Candidate.turn, hR.delay hhosts]
    exact Turn.ending_alike (hR.reply hhosts _ _) limit c _
  · simp only [hR.settle hhosts]

theorem alike_firstAnswer (hR : Host.IsLikeness R) (limit : Option Timeout) (program : String)
    (last : Fault) (candidates : List Candidate) :
    Alike R Value.RecodedAs (firstAnswer limit program last candidates)
      (firstAnswer limit program last candidates) := by
  induction candidates generalizing last with
  | nil => exact (alike_messageOf _).bind_same fun _ => alike_raise _
  | cons c rest ih =>
      apply (alike_callWithin hR limit c program).attempt.bind
      intro answer other hcaught
      cases hcaught with
      | ok hrecoded => exact alike_pure hrecoded
      | error fault =>
          by_cases hkind : fault.kind = .evaluationFailed
          · simp only [hkind, if_true]
            exact alike_raise fault
          · simp only [hkind, if_false]
            exact (alike_note _ _ _).bind_same fun _ => ih fault

theorem alike_candidates (hR : Host.IsLikeness R) (link : Link) :
    Alike R Eq link.candidates link.candidates := by
  intro host other observer hhosts
  rw [candidates_apply, candidates_apply]
  exact ⟨.returned (candidatesIn_of_alike hR hhosts link).symm, rfl, rfl, hhosts⟩

theorem alike_evaluate (hR : Host.IsLikeness R) (link : Link) (program : String) :
    Alike R Eq (link.evaluate program) (link.evaluate program) := by
  apply (alike_candidates hR link).bind_same
  intro found
  by_cases hempty : found.isEmpty = true
  · simp only [hempty, if_true]
    exact alike_raise _
  · simp only [hempty, if_false, Bool.false_eq_true]
    apply (alike_firstAnswer hR link.settings.timeout program _ found).bind
    intro v w hrecoded
    rw [hrecoded.asTextWithin_eq]
    exact alike_ofExcept _

end Link

/-! ### Operations -/

namespace Session

open Run

/-- **Whatever a session does, it does alike on hosts that are alike.** -/
theorem Composed.alike {R : Host → Host → Prop} (hR : Host.IsLikeness R) {session : Session}
    {α : Type} {x : Run α} (hx : session.Composed x) : Alike R Eq x x := by
  induction hx with
  | pure a => exact alike_pure rfl
  | raise fault => exact alike_raise fault
  | note channel level message => exact alike_note channel level message
  | emit e => exact alike_emit e
  | evaluate program => exact Link.alike_evaluate hR session.link program
  | bind _ _ ihx ihf => exact ihx.bind_same ihf
  | attempt _ ih => exact ih.attempt.mono fun answer other hcaught => hcaught.eq

end Session

end HostLink
