import HostLink.Proofs.Descriptor
import HostLink.Proofs.Session

/-!
# Resolving specs

A symbolic spec is one lookup, and what is made of the pointer that it found. From this come the
ways in which resolving can end.
-/

namespace HostLink.Session

open Run Text

variable {session : Session} {s : Surroundings} {d : Descriptor} {request : Request}
  {spec : Value} {found : Option Address}

/-! ### One lookup for each symbolic spec -/

theorem build_ok_bind {β : Type} (request : Request) (f : Request → Run β) (s : Surroundings) :
    ((build (.ok request) >>= f) s).outcome = (f request s).outcome ∧
      ((build (.ok request) >>= f) s).journal.calls = (f request s).journal.calls := by
  have hbuilt : (build (.ok request) s).outcome = .returned request := rfl
  rw [bind_of_returned hbuilt]
  exact ⟨rfl, rfl⟩

theorem eventsOf_build_ok_bind {β : Type} (request : Request) (f : Request → Run β)
    (s : Surroundings) (kind : EventKind) :
    ((build (.ok request) >>= f) s).journal.eventsOf kind =
      (f request s).journal.eventsOf kind := by
  have hbuilt : (build (.ok request) s).outcome = .returned request := rfl
  rw [eventsOf_bind_of_returned hbuilt]
  rfl

theorem locate_of_request? (session : Session) (hrequest : d.request? = some request) :
    session.locate d = build (.ok request) >>= fun request =>
      session.lookup request >>= fun found => ofExcept (d.place found) := by
  cases d with
  | numeric value => cases hrequest
  | hexLiteral text => cases hrequest
  | moduleSymbol name symbol =>
      obtain rfl := Option.some.inj hrequest
      rw [locate, Program.resolveExport_eq]
      exact congrArg (build _ >>= ·) (funext fun request => (bind_pure _).symm)
  | bareSymbol name =>
      obtain rfl := Option.some.inj hrequest
      have hbuilt := Program.resolveExport_eq none name
      rw [locate]
      rw [show Value.null = .ofOption none from rfl, hbuilt]
      exact congrArg (build _ >>= ·) (funext fun request => (bind_pure _).symm)
  | moduleOffset name offset =>
      obtain rfl := Option.some.inj hrequest
      rw [locate, Program.resolveModuleBase_eq]
      refine congrArg (build _ >>= ·) (funext fun request =>
        congrArg (session.lookup request >>= ·) (funext fun found => ?_))
      cases found with
      | none => rfl
      | some base =>
          simp only [Descriptor.place]
          cases Offset.parse offset <;> rfl

theorem Suits.obeys_build {c : Contract} (hsuits : session.Suits c) (r : Except Fault Request) :
    Obeys c (build r) := by
  apply Obeys.bind (obeys_ofExcept fun _ _ => hsuits.fault _)
  intro request
  apply Obeys.bind (hsuits.obeys_note _ _ _)
  intro _
  exact obeys_pure request

theorem Suits.obeys_locate {c : Contract} (hsuits : session.Suits c)
    (hrequest : d.request? = some request) : Obeys c (session.locate d) := by
  rw [locate_of_request? session hrequest]
  apply Obeys.bind (hsuits.obeys_build _)
  intro request
  apply Obeys.bind (hsuits.obeys_lookup request)
  intro found
  exact obeys_ofExcept fun _ _ => hsuits.fault _

theorem locate_of_lookup (hrequest : d.request? = some request)
    (hfound : (session.lookup request s).outcome = .returned found) :
    (session.locate d s).outcome = (ofExcept (d.place found) s).outcome ∧
      (session.locate d s).journal.calls = (session.lookup request s).journal.calls := by
  rw [locate_of_request? session hrequest, (build_ok_bind request _ s).1,
    (build_ok_bind request _ s).2, bind_of_returned hfound]
  cases d.place found with
  | ok placed => exact ⟨rfl, congrArg Journal.calls (List.append_nil _)⟩
  | error fault => exact ⟨rfl, congrArg Journal.calls (List.append_nil _)⟩

theorem locate_of_raised {fault : Fault} (hrequest : d.request? = some request)
    (hraised : (session.lookup request s).outcome = .raised fault) :
    (session.locate d s).outcome = .raised fault := by
  rw [locate_of_request? session hrequest, (build_ok_bind request _ s).1, bind_of_raised hraised]

/-- What was placed is returned and told, and what was not is told as address zero. -/
theorem resolveWithHost_of_placed (spec : Value) (hquiet : s.IsQuiet)
    (hrequest : d.request? = some request)
    (hfound : (session.lookup request s).outcome = .returned found) {placed : Option Address}
    (hplace : d.place found = .ok placed) :
    (session.resolveWithHost spec d s).outcome = .returned (placed.getD .zero) ∧
      (session.resolveWithHost spec d s).journal.calls =
        (session.lookup request s).journal.calls ∧
      (session.resolveWithHost spec d s).journal.eventsOf .resolved =
        (s.told (.resolved spec (placed.getD .zero) placed.isSome)).eventsOf .resolved := by
  obtain ⟨houtcome, hcalls⟩ := locate_of_lookup hrequest hfound
  rw [hplace] at houtcome
  have hlocated := (suits_lookupContract session _).obeys_locate hrequest s ⟨hquiet, rfl⟩
  have hnone := Journal.eventsOf_eq_nil hlocated.journal
  have htold := Surroundings.told_congr hlocated.surroundings.2
  unfold resolveWithHost
  rw [bind_of_returned houtcome]
  cases placed with
  | none =>
      simp only [Option.isNone_none, if_true]
      rw [note_bind, emit_bind hlocated.surroundings.1, htold]
      refine ⟨rfl, ?_, ?_⟩
      · simp only [pure_apply, Journal.calls_append, Journal.calls_note, Surroundings.calls_told,
          hcalls, List.append_nil]
      · simp only [pure_apply, Journal.eventsOf_append, Journal.eventsOf_note, hnone,
          List.append_nil, List.nil_append, Option.getD_none, Option.isSome_none]
  | some address =>
      simp only [Option.isNone_some, if_false, Bool.false_eq_true]
      rw [emit_bind hlocated.surroundings.1, htold]
      refine ⟨rfl, ?_, ?_⟩
      · simp [hcalls]
      · simp [hnone]

theorem resolveWithHost_of_misplaced (spec : Value) (hrequest : d.request? = some request)
    (hfound : (session.lookup request s).outcome = .returned found) {fault : Fault}
    (hplace : d.place found = .error fault) :
    (session.resolveWithHost spec d s).outcome = .raised fault ∧
      (session.resolveWithHost spec d s).journal.calls =
        (session.lookup request s).journal.calls := by
  obtain ⟨houtcome, hcalls⟩ := locate_of_lookup hrequest hfound
  rw [hplace] at houtcome
  unfold resolveWithHost
  rw [bind_of_raised houtcome]
  exact ⟨rfl, hcalls⟩

theorem calls_resolveWithHost (spec : Value) (hquiet : s.IsQuiet)
    (hrequest : d.request? = some request)
    (hfound : (session.lookup request s).outcome = .returned found) :
    (session.resolveWithHost spec d s).journal.calls =
      (session.lookup request s).journal.calls := by
  cases hplace : d.place found with
  | ok placed => exact (resolveWithHost_of_placed spec hquiet hrequest hfound hplace).2.1
  | error fault => exact (resolveWithHost_of_misplaced spec hrequest hfound hplace).2

theorem resolveWithHost_of_raised (spec : Value) (hrequest : d.request? = some request)
    {fault : Fault} (hraised : (session.lookup request s).outcome = .raised fault) :
    (session.resolveWithHost spec d s).outcome = .raised fault := by
  unfold resolveWithHost
  rw [bind_of_raised (locate_of_raised hrequest hraised)]

/-! ### The kinds of specs -/

/-- How a spec that names nothing is refused: its message shows it, unless it cannot be shown. -/
def refusal (session : Session) (spec : Value) : Fault :=
  (spec.hindrance? session.link.levels).getD (Descriptor.refuse spec)

theorem refusal_of_isShownWithin (hshown : spec.IsShownWithin session.link.levels) :
    session.refusal spec = .unsupportedSpec spec := by
  obtain ⟨text, htext⟩ := hshown.printable
  rw [refusal, Value.hindrance?_eq_none_iff.mpr hshown, Option.getD_none, Descriptor.refuse, htext]

theorem isHindrance_refusal (hhidden : ¬spec.IsShownWithin session.link.levels) :
    Value.IsHindrance (session.refusal spec) := by
  rw [refusal]
  cases hindered : spec.hindrance? session.link.levels with
  | none => exact absurd (Value.hindrance?_eq_none_iff.mp hindered) hhidden
  | some fault => exact Value.isHindrance_of_hindrance? hindered

theorem classify_of_ok (session : Session) (hclassify : Descriptor.classify spec = .ok d) :
    session.classify spec = .ok d := by
  rw [classify, hclassify]

theorem classify_of_error (session : Session) {fault : Fault}
    (hclassify : Descriptor.classify spec = .error fault) :
    session.classify spec = .error ((spec.hindrance? session.link.levels).getD fault) := by
  rw [classify, hclassify]

theorem classify_of_not_isSpec (session : Session) (hspec : ¬spec.IsSpec) :
    session.classify spec = .error (session.refusal spec) :=
  session.classify_of_error (Descriptor.classify_of_not_isSpec hspec)

theorem resolve_of_symbolic (session : Session) {text : String} (hink : hasInk text = true)
    (hhex : Descriptor.isHexLiteral (trimmed text) = false) :
    session.resolve (.text text) =
      session.resolveWithHost (.text text) (.ofTrimmed (trimmed text)) := by
  obtain ⟨request, hrequest⟩ := Descriptor.request?_ofTrimmed hhex
  funext s
  unfold resolve
  dsimp only
  rw [session.classify_of_ok (Descriptor.classify_of_hasInk hink), bind_of_pure (ofExcept_ok _)]
  simp only [Descriptor.localAddress?_of_request? hrequest]

theorem resolve_of_not_isSpec (session : Session) (hspec : ¬spec.IsSpec) (s : Surroundings) :
    session.resolve spec s = ⟨.raised (session.refusal spec), [], s⟩ := by
  unfold resolve
  split
  · exact absurd (.inl ⟨_, rfl⟩) hspec
  · rw [session.classify_of_not_isSpec hspec,
      bind_of_raised (congrArg Result.outcome (ofExcept_error _))]
    rfl

theorem resolve_of_local (hspec : spec.IsSpec) (hwhole : ∀ ps, spec ≠ .ragged ps)
    (hlocal : ¬spec.IsSymbolic) (s : Surroundings) :
    ∃ a, (session.resolve spec s).outcome = .returned a := by
  unfold resolve
  split
  · exact ⟨_, rfl⟩
  · rename_i other
    rcases hspec with ⟨a, rfl⟩ | ⟨n, hn⟩ | ⟨text, rfl, hink⟩ | ⟨ps, rfl⟩
    · exact absurd rfl (other a)
    · rw [session.classify_of_ok (Descriptor.classify_of_integral hn), bind_of_pure (ofExcept_ok _)]
      exact ⟨_, rfl⟩
    · have hhex := Value.isHexLiteral_of_not_isSymbolic hlocal hink
      rw [session.classify_of_ok (Descriptor.classify_of_hasInk hink),
        Descriptor.ofTrimmed_of_isHexLiteral hhex, bind_of_pure (ofExcept_ok _)]
      exact ⟨_, rfl⟩
    · exact absurd rfl (hwhole ps)

end HostLink.Session
