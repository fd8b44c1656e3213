import HostLink.Proofs.Session

/-!
# What operations are made of

Whatever a session does is made of evaluations over the link, events, notes and failures. So a
property of these that outlives one run after another, and the catching of failures, is one of every
operation.
-/

namespace HostLink.Session

open Run

inductive Composed (session : Session) : {α : Type} → Run α → Prop
  | pure {α : Type} (a : α) : Composed session (Pure.pure a : Run α)
  | raise {α : Type} (fault : Fault) : Composed session (raise fault : Run α)
  | note (channel : Channel) (level : Level) (message : Option (List Char)) :
      Composed session (note channel level message)
  | emit (e : Event) : Composed session (emit e)
  | evaluate (program : String) : Composed session (session.link.evaluate program)
  | bind {α β : Type} {x : Run α} {f : α → Run β} (hx : Composed session x)
      (hf : ∀ a, Composed session (f a)) : Composed session (x >>= f)
  | attempt {α : Type} {x : Run α} (hx : Composed session x) : Composed session (attempt x)

/-! ### Small runs -/

section

variable (session : Session) {α β : Type}

theorem composed_ofExcept (r : Except Fault α) : session.Composed (ofExcept r) := by
  cases r with
  | ok a => exact .pure a
  | error fault => exact .raise fault

theorem composed_messageOf (fault : Fault) : session.Composed (messageOf fault) := by
  unfold messageOf
  cases fault.message? with
  | some text => exact .pure _
  | none => exact .raise _

theorem composed_told (e : Event) (b : β) :
    session.Composed (emit e >>= fun _ => Pure.pure b) :=
  .bind (.emit e) fun _ => .pure b

theorem composed_refusal (reason : Except Fault α) (fault : α → Fault) :
    session.Composed (ofExcept reason >>= fun r => (raise (fault r) : Run β)) :=
  .bind (session.composed_ofExcept reason) fun r => .raise (fault r)

/-! ### Requests -/

theorem composed_evaluate (program : String) : session.Composed (session.evaluate program) := by
  unfold evaluate
  apply Composed.bind (.emit _)
  intro _
  apply Composed.bind (.attempt (.evaluate program))
  intro answer
  cases answer with
  | error fault =>
      apply Composed.bind (session.composed_messageOf fault)
      intro message
      exact .bind (.emit _) fun _ => .raise fault
  | ok raw => exact session.composed_told _ raw

theorem composed_build (request : Except Fault Request) : session.Composed (build request) := by
  apply Composed.bind (session.composed_ofExcept request)
  intro r
  exact .bind (.note _ _ _) fun _ => .pure r

theorem composed_decode (raw : Value) : session.Composed (session.decode raw) := by
  unfold decode
  split
  · exact .raise _
  · split
    · exact .bind (.note _ _ _) fun _ => session.composed_ofExcept _
    · exact session.composed_ofExcept _

theorem composed_send (request : Request) : session.Composed (session.send request) := by
  apply Composed.bind (session.composed_evaluate request.program)
  intro raw
  apply Composed.bind (session.composed_decode (.text raw))
  intro response
  split
  · exact .bind (.note _ _ _) fun _ => .pure response
  · exact .pure response

theorem composed_request (request : Except Fault Request) {f : Response → Run β}
    (hf : ∀ response, session.Composed (f response)) :
    session.Composed (build request >>= fun request => session.send request >>= f) := by
  apply Composed.bind (session.composed_build request)
  intro r
  exact .bind (session.composed_send r) hf

theorem composed_lookup (request : Request) : session.Composed (session.lookup request) := by
  apply Composed.bind (.attempt (session.composed_send request))
  intro answer
  cases answer with
  | error fault =>
      dsimp only
      split
      · exact .raise fault
      · exact .bind (.note _ _ _) fun _ => .pure none
  | ok response => exact .pure _

/-! ### Operations -/

theorem composed_locate (d : Descriptor) : session.Composed (session.locate d) := by
  cases d with
  | numeric value => exact .pure _
  | hexLiteral text => exact .pure _
  | moduleSymbol name symbol => exact .bind (session.composed_build _) session.composed_lookup
  | bareSymbol name => exact .bind (session.composed_build _) session.composed_lookup
  | moduleOffset name offset =>
      apply Composed.bind (session.composed_build _)
      intro request
      apply Composed.bind (session.composed_lookup request)
      intro found
      cases found with
      | none => exact .pure none
      | some base => exact .bind (session.composed_ofExcept _) fun _ => .pure _

theorem composed_resolveWithHost (spec : Value) (d : Descriptor) :
    session.Composed (session.resolveWithHost spec d) := by
  apply Composed.bind (session.composed_locate d)
  intro found
  dsimp only
  split
  · exact .bind (.note _ _ _) fun _ => session.composed_told _ _
  · exact session.composed_told _ _

theorem composed_resolve (spec : Value) : session.Composed (session.resolve spec) := by
  unfold resolve
  split
  · exact .pure _
  · apply Composed.bind (session.composed_ofExcept _)
    intro d
    cases d.localAddress? with
    | some a => exact .pure a
    | none => exact session.composed_resolveWithHost spec d

theorem composed_attach (address : Address) (callbacks : Callbacks) :
    session.Composed (session.attach address callbacks) := by
  refine session.composed_request _ fun response => ?_
  split
  · exact session.composed_refusal _ _
  · exact .bind (.note _ _ _) fun _ => session.composed_told _ true

theorem composed_install (spec v : Value) : session.Composed (session.install spec v) := by
  apply Composed.bind (session.composed_ofExcept _)
  intro callbacks
  apply Composed.bind (session.composed_resolve spec)
  intro address
  dsimp only
  split
  · exact .bind (.note _ _ _) fun _ => session.composed_attach address callbacks
  · exact session.composed_attach address callbacks

theorem composed_scan (moduleName pattern : Value) :
    session.Composed (session.scan moduleName pattern) := by
  refine session.composed_request _ fun response => ?_
  split
  · exact session.composed_refusal _ _
  · split
    · apply Composed.bind (session.composed_ofExcept _)
      intro found
      exact .bind (.note _ _ _) fun _ => session.composed_told _ found
    · exact session.composed_refusal _ _

end

/-! ### Contracts -/

variable {session : Session} {c : Contract}

theorem Suits.obeys_composed {α : Type} {x : Run α} (hsuits : session.Suits c)
    (hevent : ∀ e, c.entry (.event e)) (hx : session.Composed x) : Obeys c x := by
  induction hx generalizing c with
  | pure a => exact obeys_pure a
  | raise fault => exact obeys_raise (hsuits.fault fault)
  | note channel level message => exact hsuits.obeys_note channel level message
  | emit e => exact hsuits.obeys_emit (hevent e)
  | evaluate program => exact hsuits.obeys_link_evaluate program
  | bind _ _ ihx ihf => exact (ihx hsuits hevent).bind fun a => ihf a hsuits hevent
  | attempt _ ih => exact Obeys.attempt (ih hsuits.lax hevent)

end HostLink.Session
