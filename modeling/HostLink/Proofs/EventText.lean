import HostLink.Proofs.Fallback
import HostLink.Proofs.Operation
import Mathlib.Data.List.Forall2

/-!
# The texts in events

Events are meant to show programs and results whole, or cut to a length and with a note of how long
they were. So they do, but for the message of a failure, which is never cut.
-/

namespace HostLink

/-- The programs and results that an event shows. -/
def Event.texts : Event → List String
  | .evalStart program => [program]
  | .evalEnd program result _ => [program, result]
  | _ => []

theorem Result.Concludes.flatMap_texts {α : Type} {result : Result α} {first : List Event}
    {last : α → Event → Prop} (hconcludes : result.Concludes first last)
    (hlast : ∀ a e, last a e → e.texts = []) :
    result.journal.events.flatMap Event.texts = first.flatMap Event.texts := by
  cases hconcludes with
  | returned a e houtcome hlast' hevents =>
      rw [hevents, List.flatMap_append, List.flatMap_singleton, hlast a e hlast', List.append_nil]
  | failed houtcome hevents => rw [hevents]

/-! ### Excerpts -/

theorem takeSigned_natCast (limit : Nat) (s : List Char) : takeSigned limit s = s.take limit := by
  rw [takeSigned, if_neg (by omega), Int.natAbs_natCast]

/-- What is written after a text that was cut. -/
def cutNote (length : Nat) : List Char :=
  "\n... (truncated, ".toList ++ Text.decimal length ++ " chars total)".toList

theorem getLast?_cutNote (length : Nat) : (cutNote length).getLast? = some ')' := by
  unfold cutNote
  rw [List.getLast?_append]
  repeat rw [String.toList_ofList]
  rfl

theorem truncateText_of_length_le {limit : Nat} {text : String} (hshort : text.length ≤ limit) :
    truncateText limit text = text :=
  if_pos (Int.ofNat_le.mpr hshort)

theorem truncateText_of_lt_length {limit : Nat} {text : String} (hlong : limit < text.length) :
    truncateText limit text = String.ofList (text.toList.take limit ++ cutNote text.length) := by
  have hlimit : ¬(text.length : Int) ≤ limit := by omega
  unfold truncateText cutNote
  rw [if_neg hlimit, takeSigned_natCast]
  simp only [List.append_assoc]

/-- A text that is not too long as it is, or the first characters of one that is, and a note. -/
inductive IsExcerpt (text : String) : String → Prop
  | whole (hshort : text.length ≤ 20000) : IsExcerpt text text
  | cut (hlong : 20000 < text.length) :
      IsExcerpt text (String.ofList (text.toList.take 20000 ++ cutNote text.length))

theorem IsExcerpt.length_le {text shown : String} (hexcerpt : IsExcerpt text shown) :
    shown.length ≤ 20000 + (cutNote text.length).length := by
  cases hexcerpt with
  | whole hshort => exact hshort.trans (Nat.le_add_right _ _)
  | cut hlong =>
      rw [String.length_ofList, List.length_append]
      exact Nat.add_le_add_right (List.length_take_le _ _) _

namespace Session

open Run

theorem cut_eq (text : String) : cut text = truncateText (20000 : Nat) text := by
  rw [cut, eventTextLimit]
  rfl

theorem isExcerpt_iff {text shown : String} : IsExcerpt text shown ↔ cut text = shown := by
  rw [cut_eq]
  rcases Nat.lt_or_ge 20000 text.length with hlong | hshort
  · rw [truncateText_of_lt_length hlong]
    constructor
    · intro hexcerpt
      cases hexcerpt with
      | whole hshort => exact absurd hshort (Nat.not_le.mpr hlong)
      | cut _ => rfl
    · rintro rfl
      exact .cut hlong
  · rw [truncateText_of_length_le hshort]
    constructor
    · intro hexcerpt
      cases hexcerpt with
      | whole _ => rfl
      | cut hlong => exact absurd hshort (Nat.not_le.mpr hlong)
    · rintro rfl
      exact .whole hshort

/-! ### What operations show -/

/-- The evaluations that an operation runs. -/
def trips (session : Session) : Operation → Surroundings → List Trip
  | .resolve spec, s => (spec.request?.map fun request => ⟨request.program, s⟩).toList
  | .install spec v, s =>
    match Callbacks.coerce v with
    | .error _ => []
    | .ok callbacks =>
      (spec.request?.map fun request => ⟨request.program, s⟩).toList ++
        match (session.resolve spec s).outcome with
        | .returned address =>
          [⟨Program.installProgram address callbacks, (session.resolve spec s).surroundings⟩]
        | _ => []
  | .scan moduleName pattern, s => [⟨Program.scanProgram moduleName pattern, s⟩]
  | .evaluate program, s => [⟨program, s⟩]

/-- The texts that an evaluation has for events: the program before it, and the program and what came
of it afterwards. -/
def originals (session : Session) (trip : Trip) : List String :=
  trip.program :: match session.ending? trip with
    | some (text, _) => [trip.program, text]
    | none => []

variable {session : Session} {s : Surroundings} {spec : Value}

theorem isQuiet_after_resolve (session : Session) (spec : Value) (hquiet : s.IsQuiet) :
    (session.resolve spec s).surroundings.IsQuiet ∧
      (session.resolve spec s).surroundings.observer.isSome = s.observer.isSome := by
  have hsuits : session.Suits (runContract s True) := suits_runContract (.inl trivial)
  have hafter := (hsuits.obeys_composed (fun _ => trivial) (session.composed_resolve spec) s
    ⟨hquiet, rfl, .refl⟩).surroundings
  exact ⟨hafter.1, hafter.2.1⟩

theorem flatMap_texts_resolve (hquiet : s.IsQuiet) (hheard : s.observer.isSome = true)
    (spec : Value) :
    (session.resolve spec s).journal.events.flatMap Event.texts =
      (session.trips (.resolve spec) s).flatMap fun trip =>
        (session.heard trip).flatMap Event.texts := by
  rw [trips]
  cases hrequest : spec.request? with
  | none => rw [events_resolve_of_local (Value.request?_eq_none_iff.mp hrequest)]; rfl
  | some request =>
      rw [(concludes_resolve hquiet hheard hrequest).flatMap_texts]
      · simp
      · rintro a e ⟨found, rfl⟩
        rfl

/-- **What operations show is what their evaluations show.** -/
theorem flatMap_texts_perform (hquiet : s.IsQuiet) (hheard : s.observer.isSome = true)
    (operation : Operation) :
    (session.perform operation s).journal.events.flatMap Event.texts =
      (session.trips operation s).flatMap fun trip =>
        (session.heard trip).flatMap Event.texts := by
  cases operation with
  | resolve spec =>
      rw [perform, events_void]
      exact flatMap_texts_resolve hquiet hheard spec
  | install spec v =>
      rw [perform, events_void, trips]
      cases hcallbacks : Callbacks.coerce v with
      | error fault => rw [install_of_refused hcallbacks]; rfl
      | ok callbacks =>
          have hresolve : (session.resolve spec s).journal.events.flatMap Event.texts = _ :=
            flatMap_texts_resolve hquiet hheard spec
          cases houtcome : (session.resolve spec s).outcome with
          | returned address =>
              obtain ⟨hafter, hpresent⟩ := isQuiet_after_resolve session spec hquiet
              rw [(install_of_resolved hcallbacks houtcome).2, List.flatMap_append, hresolve,
                (concludes_attach hafter (hpresent.trans hheard) address callbacks).flatMap_texts]
              · simp [trips]
              · rintro done e ⟨-, rfl⟩
                rfl
          | raised fault =>
              rw [(install_of_unresolved hcallbacks (by simp [houtcome])).2, hresolve]
              simp [trips]
          | stalled =>
              rw [(install_of_unresolved hcallbacks (by simp [houtcome])).2, hresolve]
              simp [trips]
  | scan moduleName pattern =>
      rw [perform, events_void, (concludes_scan hquiet hheard moduleName pattern).flatMap_texts]
      · simp [trips]
      · rintro found e rfl
        rfl
  | evaluate program =>
      rw [perform, events_void, events_evaluate hquiet hheard]
      simp [trips]

/-! ### What is cut -/

/-- The texts in the events of an operation are excerpts, one for one, of what it evaluated and of
what came of that; none of them is longer than the limit and a note. -/
structure ShowsExcerpts (session : Session) (operation : Operation) (s : Surroundings) :
    Prop where
  excerpts : List.Forall₂ IsExcerpt ((session.trips operation s).flatMap session.originals)
    ((session.perform operation s).journal.events.flatMap Event.texts)
  bounded : ∀ shown ∈ (session.perform operation s).journal.events.flatMap Event.texts,
    ∃ text ∈ (session.trips operation s).flatMap session.originals,
      shown.length ≤ 20000 + (cutNote text.length).length

theorem forall₂_isExcerpt_iff {texts shown : List String} :
    List.Forall₂ IsExcerpt texts shown ↔ texts.map cut = shown := by
  have hcut : IsExcerpt = fun text shown => cut text = shown :=
    funext fun text => funext fun shown => propext isExcerpt_iff
  rw [hcut, ← List.forall₂_map_left_iff (R := Eq), List.forall₂_eq_eq_eq]

theorem map_cut_originals_iff (trip : Trip) :
    (session.originals trip).map cut = (session.heard trip).flatMap Event.texts ↔
      ∀ message, session.ending? trip = some (message, false) → IsExcerpt message message := by
  unfold originals heard
  cases hending : session.ending? trip with
  | none => simp [Event.texts]
  | some ending =>
      obtain ⟨text, succeeded⟩ := ending
      cases succeeded with
      | true => simp [Event.texts]
      | false => simp [Event.texts, isExcerpt_iff]

/-- What is shown of an evaluation is as many texts as there are to show. -/
theorem length_originals (trip : Trip) :
    ((session.originals trip).map cut).length =
      ((session.heard trip).flatMap Event.texts).length := by
  unfold originals heard
  cases session.ending? trip with
  | none => simp [Event.texts]
  | some ending =>
      obtain ⟨text, succeeded⟩ := ending
      cases succeeded <;> simp [Event.texts]

theorem flatMap_eq_flatMap_iff {α β : Type} {f g : α → List β}
    (hlength : ∀ a, (f a).length = (g a).length) {l : List α} :
    l.flatMap f = l.flatMap g ↔ ∀ a ∈ l, f a = g a := by
  induction l with
  | nil => simp
  | cons a rest ih =>
      rw [List.flatMap_cons, List.flatMap_cons, List.forall_mem_cons, ← ih]
      constructor
      · exact fun heq => List.append_inj heq (hlength a)
      · rintro ⟨hfirst, hrest⟩
        rw [hfirst, hrest]

theorem forall₂_texts_iff (hquiet : s.IsQuiet) (hheard : s.observer.isSome = true)
    (operation : Operation) :
    List.Forall₂ IsExcerpt ((session.trips operation s).flatMap session.originals)
        ((session.perform operation s).journal.events.flatMap Event.texts) ↔
      ∀ trip ∈ session.trips operation s, ∀ message,
        session.ending? trip = some (message, false) → IsExcerpt message message := by
  rw [forall₂_isExcerpt_iff, flatMap_texts_perform hquiet hheard, List.map_flatMap,
    flatMap_eq_flatMap_iff length_originals]
  exact forall₂_congr fun trip _ => map_cut_originals_iff trip

/-- **Events show excerpts exactly when** every message of a failed evaluation is its own excerpt, as
it is when it is not too long: messages are the one kind of text that is shown uncut. -/
theorem showsExcerpts_iff (hquiet : s.IsQuiet) (hheard : s.observer.isSome = true)
    (operation : Operation) :
    session.ShowsExcerpts operation s ↔
      ∀ trip ∈ session.trips operation s, ∀ message,
        session.ending? trip = some (message, false) → IsExcerpt message message := by
  rw [← forall₂_texts_iff hquiet hheard]
  constructor
  · exact fun hshows => hshows.excerpts
  · intro hexcerpts
    refine ⟨hexcerpts, fun shown hmem => ?_⟩
    rw [← forall₂_isExcerpt_iff.mp hexcerpts] at hmem
    obtain ⟨text, htext, rfl⟩ := List.mem_map.mp hmem
    exact ⟨text, htext, (isExcerpt_iff.mpr rfl).length_le⟩

/-- A failure of the function handed over, as the message that the evaluation ends in. -/
def failureText (message : List Char) : String :=
  String.ofList ("host evaluation failed on every entry point: ".toList ++ message)

theorem ending?_replying {fault : Fault} {message : List Char} (program : String)
    (hkind : fault.kind ≠ .evaluationFailed) (hmessage : fault.message? = some message) :
    (make {} true).ending? ⟨program, .replying (.raises fault)⟩ =
      some (failureText message, false) := by
  have hsome : (make {} true).link.candidatesIn (Surroundings.replying (.raises fault)).host ≠ [] :=
    List.cons_ne_nil _ _
  have hturns : (make {} true).link.turnsOn program (Surroundings.replying (.raises fault)).host =
      [⟨⟨"evaluator", .direct, []⟩, .raises fault, 0⟩] := rfl
  have hverdict : (make {} true).link.verdictOn program
      (Surroundings.replying (.raises fault)).host = .raised (.allFailed fault) := by
    rw [Link.verdictOn, hturns, Link.verdict_of_raised rfl hkind, Link.verdict, Fault.message?,
      hmessage]
    rfl
  have houtcome : ((make {} true).link.evaluate program (.replying (.raises fault))).outcome =
      .raised (.allFailed fault) :=
    Link.evaluate_of_failed hsome hverdict
  unfold ending? failureText
  simp only [houtcome, Fault.message?, hmessage, Option.map_some]

/-- The function handed over fails with this text. -/
def refusing (text : String) : Surroundings :=
  .replying (.raises (.raised .general [.text text]))

theorem ending?_refusing (text : String) :
    (make {} true).ending? ⟨"1 + 1", refusing text⟩ = some (failureText text.toList, false) :=
  ending?_replying "1 + 1" FaultKind.noConfusion rfl

theorem refusal_is_shown_whole :
    (make {} true).ShowsExcerpts (.evaluate "1 + 1") (refusing "refused") := by
  have hshort : (failureText "refused".toList).length ≤ 20000 := by
    unfold failureText
    repeat rw [String.toList_ofList]
    rw [String.length_ofList]
    decide
  refine (showsExcerpts_iff (Surroundings.isQuiet_replying _) rfl _).mpr ?_
  intro trip hmem message hmessage
  obtain rfl : trip = ⟨"1 + 1", refusing "refused"⟩ := List.mem_singleton.mp hmem
  rw [ending?_refusing] at hmessage
  obtain ⟨rfl, -⟩ := Prod.mk.inj (Option.some.inj hmessage)
  exact .whole hshort

/-- A text that does not end like a note is too long to be its own excerpt, if it is too long. -/
theorem not_isExcerpt_self {text : String} (hlong : 20000 < text.length)
    (hlast : text.toList.getLast? ≠ some ')') : ¬IsExcerpt text text := by
  intro hexcerpt
  rw [isExcerpt_iff, cut_eq, truncateText_of_lt_length hlong] at hexcerpt
  refine hlast ?_
  rw [← hexcerpt, String.toList_ofList, List.getLast?_append, getLast?_cutNote, Option.some_or]

/-- A failure whose text is too long is shown in full. -/
theorem long_refusal_is_shown_in_full :
    ¬(make {} true).ShowsExcerpts (.evaluate "1 + 1")
      (refusing (String.ofList (List.replicate 30000 'x'))) := by
  intro hshows
  have hexcerpt := (forall₂_texts_iff (Surroundings.isQuiet_replying _) rfl _).mp hshows.excerpts _
    (List.mem_singleton_self _) _ (ending?_refusing _)
  rw [String.toList_ofList] at hexcerpt
  refine not_isExcerpt_self ?_ ?_ hexcerpt
  · unfold failureText
    rw [String.length_ofList, List.length_append, List.length_replicate]
    omega
  · unfold failureText
    rw [String.toList_ofList, List.getLast?_append, List.getLast?_replicate]
    simp

end Session

end HostLink
