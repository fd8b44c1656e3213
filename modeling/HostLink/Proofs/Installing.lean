import HostLink.Proofs.Dealings
import HostLink.Proofs.EventText
import HostLink.Proofs.Literal
import HostLink.Proofs.Protocol

/-!
# Installing at a spec

Installing at a spec is resolving it and then installing at the address that it stands for. The two
runs make the same calls in the same order, tell the same events, leave the same surroundings behind
and end in the same way; only the text of a note tells them apart. A symbolic spec costs an
evaluation of its own, before that of the installation.
-/

namespace HostLink

/-! ### What a run does, its notes left out -/

def Entry.isNote : Entry → Bool
  | .note .. => true
  | _ => false

namespace Journal

/-- The calls and events, in order. -/
def deeds (journal : Journal) : Journal :=
  journal.filter fun e => !e.isNote

@[simp] theorem deeds_append (left right : Journal) :
    deeds (left ++ right) = deeds left ++ deeds right :=
  List.filter_append ..

@[simp] theorem deeds_note (channel : Channel) (level : Level) (message : Option (List Char)) :
    deeds (message.map fun text => .note channel level (String.ofList text)).toList = [] := by
  cases message <;> rfl

theorem calls_deeds (journal : Journal) : calls (deeds journal) = calls journal := by
  unfold calls deeds
  rw [List.filterMap_filter]
  refine List.filterMap_congr fun e _ => ?_
  cases e <;> rfl

theorem eventsOf_eq_filter (kind : EventKind) (journal : Journal) :
    journal.eventsOf kind = journal.events.filter fun e => e.kind = kind := by
  unfold eventsOf events
  rw [List.filter_filterMap]
  refine List.filterMap_congr fun e _ => ?_
  cases e with
  | event e =>
      by_cases hkind : e.kind = kind
      · simp [hkind, Option.filter]
      · simp [hkind, Option.filter]
  | _ => rfl

end Journal

/-- Results of runs that did the same and ended in the same way. -/
structure Result.Matches {α : Type} (left right : Result α) : Prop where
  outcome : left.outcome = right.outcome
  deeds : left.journal.deeds = right.journal.deeds
  surroundings : left.surroundings = right.surroundings

namespace Result.Matches

variable {α : Type} {left middle right : Result α}

theorem refl (result : Result α) : result.Matches result :=
  ⟨rfl, rfl, rfl⟩

theorem symm (hmatches : left.Matches right) : right.Matches left :=
  ⟨hmatches.outcome.symm, hmatches.deeds.symm, hmatches.surroundings.symm⟩

theorem trans (hleft : left.Matches middle) (hright : middle.Matches right) :
    left.Matches right :=
  ⟨hleft.outcome.trans hright.outcome, hleft.deeds.trans hright.deeds,
    hleft.surroundings.trans hright.surroundings⟩

theorem calls (hmatches : left.Matches right) : left.journal.calls = right.journal.calls := by
  rw [← left.journal.calls_deeds, hmatches.deeds, Journal.calls_deeds]

end Result.Matches

namespace Run

variable {α β : Type} {x : Run α} {f g : α → Run β} {s : Surroundings}

theorem matches_bind (hf : ∀ a t, (f a t).Matches (g a t)) :
    ((x >>= f) s).Matches ((x >>= g) s) := by
  rw [bind_apply, bind_apply]
  cases (x s).outcome with
  | returned a =>
      obtain ⟨houtcome, hdeeds, hafter⟩ := hf a (x s).surroundings
      refine ⟨houtcome, ?_, hafter⟩
      rw [Journal.deeds_append, Journal.deeds_append, hdeeds]
  | raised fault => exact ⟨rfl, rfl, rfl⟩
  | stalled => exact ⟨rfl, rfl, rfl⟩

theorem note_bind_matches (channel : Channel) (level : Level) (message : Option (List Char))
    (g : Unit → Run β) (s : Surroundings) :
    ((note channel level message >>= g) s).Matches (g () s) := by
  rw [note_bind]
  refine ⟨rfl, ?_, rfl⟩
  rw [Journal.deeds_append, Journal.deeds_note, List.nil_append]

end Run

namespace Session

open Run

variable {session : Session} {s : Surroundings} {spec v : Value} {callbacks : Callbacks}

/-! ### Two runs that match -/

/-- Installing at a spec is resolving it and attaching at its address. -/
theorem install_matches_attach (hcallbacks : Callbacks.coerce v = .ok callbacks) (spec : Value)
    (s : Surroundings) :
    (session.install spec v s).Matches
      ((session.resolve spec >>= fun a => session.attach a callbacks) s) := by
  unfold install
  rw [hcallbacks, bind_of_pure (ofExcept_ok callbacks)]
  refine matches_bind fun a t => ?_
  by_cases hzero : a.isZero = true
  · simp only [hzero, if_true]
    exact note_bind_matches ..
  · simp only [hzero, if_false, Bool.false_eq_true]
    exact .refl _

/-- An address stands for itself. -/
theorem install_address_matches_attach (hcallbacks : Callbacks.coerce v = .ok callbacks)
    (a : Address) (s : Surroundings) :
    (session.install (.address a) v s).Matches (session.attach a callbacks s) := by
  have hmatches : (session.install (.address a) v s).Matches _ :=
    install_matches_attach hcallbacks (.address a) s
  have hresolved : session.resolve (.address a) s = ⟨.returned a, [], s⟩ := rfl
  rwa [bind_of_pure hresolved] at hmatches

/-- **The two runs match.** -/
theorem install_matches (hcallbacks : Callbacks.coerce v = .ok callbacks) (spec : Value)
    (s : Surroundings) :
    (session.install spec v s).Matches
      ((session.resolve spec >>= fun a => session.install (.address a) v) s) := by
  refine (install_matches_attach hcallbacks spec s).trans ?_
  exact matches_bind fun a t => (install_address_matches_attach hcallbacks a t).symm

/-! ### What an installation costs -/

/-- An installation makes the calls of its evaluations. -/
theorem calls_install (hquiet : s.IsQuiet) (spec v : Value) :
    (session.install spec v s).journal.calls =
      (session.trips (.install spec v) s).flatMap fun trip =>
        (session.link.evaluate trip.program trip.start).journal.calls := by
  rw [trips]
  cases hcallbacks : Callbacks.coerce v with
  | error fault =>
      rw [install_of_refused hcallbacks]
      rfl
  | ok callbacks =>
      have hresolve : (session.resolve spec s).journal.calls =
          (spec.request?.map fun request => Trip.mk request.program s).toList.flatMap fun trip =>
            (session.link.evaluate trip.program trip.start).journal.calls := by
        cases hrequest : spec.request? with
        | none =>
            obtain ⟨outcome, hrun⟩ := resolve_apply_of_local session hrequest s
            rw [hrun]
            rfl
        | some request =>
            rw [calls_of_dealings hquiet (dealings_resolve session hrequest s)]
            exact (List.append_nil _).symm
      rw [(install_matches_attach hcallbacks spec s).calls, bind_apply]
      cases (session.resolve spec s).outcome with
      | returned a =>
          have hafter := (isQuiet_after_resolve session spec hquiet).1
          dsimp only
          rw [Journal.calls_append, calls_of_dealings hafter (dealings_attach session a callbacks _),
            hresolve, List.flatMap_append]
          exact congrArg _ (List.append_nil _).symm
      | raised fault => simpa using hresolve
      | stalled => simpa using hresolve

/-- An installation is heard to start its evaluations. -/
theorem starts_install (hquiet : s.IsQuiet) (hheard : s.observer.isSome = true) (spec v : Value) :
    (session.install spec v s).journal.eventsOf .evalStart =
      (session.trips (.install spec v) s).map fun trip => .evalStart (cut trip.program) := by
  rw [trips]
  cases hcallbacks : Callbacks.coerce v with
  | error fault =>
      rw [install_of_refused hcallbacks]
      rfl
  | ok callbacks =>
      have hresolve : (session.resolve spec s).journal.eventsOf .evalStart =
          (spec.request?.map fun request => Trip.mk request.program s).toList.map fun trip =>
            .evalStart (cut trip.program) := by
        cases hrequest : spec.request? with
        | none =>
            rw [Journal.eventsOf_eq_filter,
              events_resolve_of_local (Value.request?_eq_none_iff.mp hrequest)]
            rfl
        | some request =>
            rw [starts_of_dealings hheard (dealings_resolve session hrequest s)]
            rfl
      rw [Journal.eventsOf_eq_filter] at hresolve ⊢
      dsimp only
      cases houtcome : (session.resolve spec s).outcome with
      | returned a =>
          obtain ⟨-, hpresent⟩ := isQuiet_after_resolve session spec hquiet
          have hattached : (session.attach a callbacks
              (session.resolve spec s).surroundings).journal.eventsOf .evalStart =
                [.evalStart (cut (Program.installProgram a callbacks))] :=
            starts_of_dealings (hpresent.trans hheard) (dealings_attach session a callbacks _)
          rw [Journal.eventsOf_eq_filter] at hattached
          rw [(install_of_resolved hcallbacks houtcome).2, List.filter_append, hattached, hresolve,
            List.map_append]
          rfl
      | raised fault =>
          rw [(install_of_unresolved hcallbacks (by simp [houtcome])).2, hresolve, List.append_nil]
      | stalled =>
          rw [(install_of_unresolved hcallbacks (by simp [houtcome])).2, hresolve, List.append_nil]

/-- A spec that needs no host costs one evaluation, and a symbolic one two, the lookup first. -/
theorem trips_install (hcallbacks : Callbacks.coerce v = .ok callbacks) {a : Address}
    (hresolved : (session.resolve spec s).outcome = .returned a) :
    session.trips (.install spec v) s = match spec.request? with
      | none => [⟨Program.installProgram a callbacks, s⟩]
      | some request => [⟨request.program, s⟩,
          ⟨Program.installProgram a callbacks, (session.resolve spec s).surroundings⟩] := by
  simp only [trips, hcallbacks, hresolved]
  cases hrequest : spec.request? with
  | none =>
      obtain ⟨outcome, hrun⟩ := resolve_apply_of_local session hrequest s
      rw [hrun]
      rfl
  | some request => rfl

/-! ### The address in the program -/

/-- Hexadecimal digits are not escaped. -/
theorem escape_addressText (a : Address) : Literal.escape a.text = a.text := by
  have hdigit : ∀ d < 16, Literal.escapeChar d.digitChar = [d.digitChar] := by decide
  have hplain : ∀ c ∈ a.text, Literal.escapeChar c = [c] := by
    intro c hmem
    rcases List.mem_cons.mp hmem with rfl | hmem
    · rfl
    · rcases List.mem_cons.mp hmem with rfl | hmem
      · rfl
      · obtain ⟨d, hd, rfl⟩ := Text.mem_hex hmem
        exact hdigit d hd
  rw [Literal.escape, List.flatMap_congr hplain, List.flatMap_singleton']

/-- The program of an installation starts with the address as a literal. -/
theorem installProgram_eq (a : Address) (callbacks : Callbacks) :
    ∃ rest, (Program.installProgram a callbacks).toList =
      Program.installStart ++ ('"' :: '0' :: 'x' :: Text.hex a.toNat ++ '"' :: rest) := by
  have hargument : Program.argument (some a.toText) = '"' :: a.text ++ ['"'] := by
    rw [Program.argument, Address.toText, String.toList_ofList, Literal.quote, escape_addressText]
  refine ⟨Template.filledWith Program.installEnter (Program.installSlots a callbacks).tail, ?_⟩
  rw [Program.installProgram, String.toList_ofList, Program.installSlots, Template.filledWith,
    List.map_cons, Program.slot, hargument]
  simp [Template.interleave, Template.filledWith, Address.text]

/-- An installation at a spec is that at the address which the spec stands for. -/
structure InstallsAsResolved (session : Session) (spec v : Value) (callbacks : Callbacks)
    (s : Surroundings) : Prop where
  same : (session.install spec v s).Matches
    ((session.resolve spec >>= fun a => session.install (.address a) v) s)
  calls : s.IsQuiet → (session.install spec v s).journal.calls =
    (session.trips (.install spec v) s).flatMap fun trip =>
      (session.link.evaluate trip.program trip.start).journal.calls
  starts : s.IsQuiet → s.observer.isSome = true →
    (session.install spec v s).journal.eventsOf .evalStart =
      (session.trips (.install spec v) s).map fun trip => .evalStart (cut trip.program)
  /-- A spec that needs no host costs one evaluation, and a symbolic one two, the lookup first. -/
  cost : ∀ a, (session.resolve spec s).outcome = .returned a →
    session.trips (.install spec v) s = match spec.request? with
      | none => [⟨Program.installProgram a callbacks, s⟩]
      | some request => [⟨request.program, s⟩,
          ⟨Program.installProgram a callbacks, (session.resolve spec s).surroundings⟩]
  /-- The address that the spec stands for is the literal with which the program starts. -/
  literal : ∀ a, (session.resolve spec s).outcome = .returned a →
    ∃ rest, (Program.installProgram a callbacks).toList =
      Program.installStart ++ ('"' :: '0' :: 'x' :: Text.hex a.toNat ++ '"' :: rest)

/-- **Installing at a spec is resolving it and installing at its address.** -/
theorem installsAsResolved (hcallbacks : Callbacks.coerce v = .ok callbacks) (spec : Value)
    (s : Surroundings) : session.InstallsAsResolved spec v callbacks s where
  same := install_matches hcallbacks spec s
  calls hquiet := calls_install hquiet spec v
  starts hquiet hheard := starts_install hquiet hheard spec v
  cost _ hresolved := trips_install hcallbacks hresolved
  literal a _ := installProgram_eq a callbacks

/-- The host gives a pointer for the symbol, and then fails to install. -/
theorem wavering_host_installs_as_resolved :
    (make {} true).InstallsAsResolved (.text "open") (.callbacks ⟨some "trace", none⟩)
      ⟨some "trace", none⟩ wavering :=
  installsAsResolved rfl (.text "open") wavering

end Session

end HostLink
