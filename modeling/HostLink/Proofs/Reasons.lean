import HostLink.Proofs.Installing
import HostLink.Proofs.Members
import HostLink.Proofs.Unresolved

/-!
# Reasons

An operation that the host fails says why: with the text of the answer where it is no JSON object,
and with the reason that the object gives otherwise, whatever its spelling. An operation returns
only where the last word of an object on its success is that there was one. Two things come between:
a number that is too long, and brackets that go too deep.
-/

namespace HostLink

open Json (IsTextOf)

/-! ### What answers report -/

namespace Response

/-- The answer is a JSON object, and its last word on success is that there was one. -/
def ReportsSuccess (short : Bool) (raw : String) : Prop :=
  ∃ members, IsTextOf short (.object members) raw.toList ∧
    Value.last? "ok" members = some (.bool true)

/-- An answer that can be read has no number that is too long. -/
theorem not_reportsSuccess_of_short {raw : String} {members : List (FieldName × Value)}
    (htext : IsTextOf true (.object members) raw.toList) : ¬ReportsSuccess false raw := by
  rintro ⟨others, hlong, -⟩
  exact htext.not_long hlong

theorem isPresent_text {text : String} (hne : text ≠ "") : (Value.text text).isPresent = true := by
  simp [Value.isPresent, hne]

theorem toText_text (text : String) : (Value.text text).toText = .ok text := by
  rw [Value.toText, Value.text?]
  simp

/-- The answer has something to tell: it is no object, or one that gives a reason or reports success. -/
inductive IsTelling (raw : String) : Prop
  | other (hother : ∀ short members, ¬IsTextOf short (.object members) raw.toList)
  | failure {members : List (FieldName × Value)} {msg : String}
      (htext : IsTextOf true (.object members) raw.toList)
      (hok : Value.last? "ok" members = some (.bool false))
      (herror : Value.last? "error" members = some (.text msg)) (hmsg : msg ≠ "")
  | success {short : Bool} (hsuccess : ReportsSuccess short raw)

theorem decode_of_undecodable {raw : String} (hnone : object? (.text raw) = none) :
    decode (.text raw) = .ok (ofUndecodable (.text raw)) := by
  unfold decode undecodable
  rw [hnone, Value.quoted?]

theorem ofUndecodable_text (raw : String) :
    ofUndecodable (.text raw) =
      ⟨false, [], .text (if raw = "" then "unknown" else raw), .text raw⟩ := by
  by_cases hempty : raw = ""
  · subst hempty
    rfl
  · rw [ofUndecodable, orUnknown, if_pos (isPresent_text hempty), if_neg hempty]

theorem unknown_or_ne_empty (raw : String) : (if raw = "" then "unknown" else raw) ≠ "" := by
  split
  · decide
  · assumption

theorem reason_of_undecodable (raw : String) :
    (ofUndecodable (.text raw)).reason = .ok (if raw = "" then "unknown" else raw) := by
  rw [ofUndecodable_text, reason, orUnknown, if_pos (isPresent_text (unknown_or_ne_empty raw)),
    toText_text]

theorem ok_iff_of_ofObject {fields : List (FieldName × Value)} {raw : Value} {response : Response}
    (hresponse : ofObject fields raw = .ok response) :
    response.ok = true ↔ Value.field? "ok" fields = some (.bool true) := by
  unfold ofObject at hresponse
  split at hresponse
  · rename_i hok
    obtain rfl := Except.ok.inj hresponse
    exact iff_of_true rfl hok
  · rename_i hother
    refine iff_of_false (fun hok => ?_) hother
    dsimp only at hresponse
    split at hresponse
    · cases htext : ((Value.field? "error" fields).getD .null).toText with
      | error fault =>
          rw [htext] at hresponse
          cases hresponse
      | ok text =>
          rw [htext] at hresponse
          obtain rfl := Except.ok.inj hresponse
          cases hok
    · obtain rfl := Except.ok.inj hresponse
      cases hok

/-- A response is one of success where its answer reports it and can be read. -/
theorem ok_iff_reportsSuccess {raw : String} {response : Response}
    (hresponse : decode (.text raw) = .ok response) :
    response.ok = true ↔ ReportsSuccess true raw := by
  cases hobject : object? (.text raw) with
  | none =>
      obtain rfl := Except.ok.inj (hresponse.symm.trans (decode_of_undecodable hobject))
      refine iff_of_false Bool.false_ne_true ?_
      rintro ⟨members, htext, -⟩
      obtain ⟨fields, hsome, -⟩ := exists_object? htext
      cases hobject.symm.trans hsome
  | some fields =>
      rw [decode, hobject] at hresponse
      rw [ok_iff_of_ofObject hresponse]
      constructor
      · intro hok
        obtain ⟨members, htext, hlast⟩ := exists_members hobject
        exact ⟨members, htext, hlast _ ▸ hok⟩
      · rintro ⟨members, htext, hok⟩
        obtain ⟨fields', hobject', -, hlast⟩ := exists_object? htext
        obtain rfl := Option.some.inj (hobject.symm.trans hobject')
        rw [hlast, hok]

theorem decode_of_reported {members : List (FieldName × Value)} {raw msg : String}
    (htext : IsTextOf true (.object members) raw.toList)
    (hok : Value.last? "ok" members = some (.bool false))
    (herror : Value.last? "error" members = some (.text msg)) (hmsg : msg ≠ "") :
    ∃ fields, decode (.text raw) = .ok ⟨false, fields, .text msg, .text raw⟩ := by
  obtain ⟨fields, hobject, -, hlast⟩ := exists_object? htext
  refine ⟨fields, ?_⟩
  rw [decode, hobject]
  dsimp only
  rw [ofObject, hlast, hlast, hok, herror]
  dsimp only
  rw [Option.getD_some, if_pos (isPresent_text hmsg), toText_text]
  rfl

theorem reason_of_reported {fields : List (FieldName × Value)} {msg : String} {raw : Value}
    (hmsg : msg ≠ "") : (⟨false, fields, .text msg, raw⟩ : Response).reason = .ok msg := by
  rw [reason, orUnknown, if_pos (isPresent_text hmsg), toText_text]

end Response

/-! ### Runs that return -/

namespace Run

variable {α β : Type} {x : Run α} {f : α → Run β} {s : Surroundings}

theorem returned_of_bind {b : β} (hbound : ((x >>= f) s).outcome = .returned b) :
    ∃ a, (x s).outcome = .returned a ∧ (f a (x s).surroundings).outcome = .returned b := by
  rw [bind_apply] at hbound
  cases houtcome : (x s).outcome with
  | returned a =>
      rw [houtcome] at hbound
      exact ⟨a, rfl, hbound⟩
  | raised fault =>
      rw [houtcome] at hbound
      cases hbound
  | stalled =>
      rw [houtcome] at hbound
      cases hbound

theorem surroundings_emit (e : Event) (s : Surroundings) :
    (emit e s).surroundings = s.afterEvent := by
  obtain ⟨host, observer⟩ := s
  cases observer with
  | none => rfl
  | some o =>
      simp only [emit]
      split <;> rfl

end Run

namespace Session

open Run

variable {session : Session} {s : Surroundings} {request : Request} {raw : String}

/-- An evaluation returns what the link does, whatever the observer makes of it. -/
theorem link_of_evaluate_returned {program : String}
    (hraw : (session.evaluate program s).outcome = .returned raw) :
    (session.link.evaluate program s).outcome = .returned raw := by
  obtain ⟨_, -, hraw⟩ := returned_of_bind hraw
  obtain ⟨answer, hanswer, hraw⟩ := returned_of_bind hraw
  rw [surroundings_emit, attempt_apply, (link_evaluate_afterEvent _ _ _).1] at hanswer
  cases answer with
  | error fault =>
      obtain ⟨_, -, hraw⟩ := returned_of_bind hraw
      obtain ⟨_, -, hraw⟩ := returned_of_bind hraw
      cases hraw
  | ok found =>
      obtain ⟨_, -, hraw⟩ := returned_of_bind hraw
      obtain rfl := Outcome.returned.inj hraw
      dsimp only at hanswer
      split at hanswer
      · rename_i houtcome
        cases hanswer
        exact houtcome
      · cases hanswer
      · cases hanswer

theorem reads_of_decode_returned {response : Response} {t : Surroundings}
    (hdecoded : (session.decode (.text raw) t).outcome = .returned response) :
    session.Reads raw := by
  unfold Reads
  cases hdeep : Response.overflow? session.link.levels (.text raw) with
  | none => rfl
  | some descent =>
      rw [decode_of_overflow hdeep] at hdecoded
      cases hdecoded

theorem decode_of_send_returned {response : Response}
    (hresponse : (session.send request s).outcome = .returned response)
    (hraw : (session.link.evaluate request.program s).outcome = .returned raw) :
    Response.decode (.text raw) = .ok response := by
  obtain ⟨found, hfound, hresponse⟩ := returned_of_bind hresponse
  obtain rfl := Outcome.returned.inj (hraw.symm.trans (link_of_evaluate_returned hfound))
  obtain ⟨decoded, hdecoded, hresponse⟩ := returned_of_bind hresponse
  obtain ⟨expected, hexpected⟩ := Response.decode_text raw
  have hreads : session.Reads raw := reads_of_decode_returned hdecoded
  obtain rfl := Outcome.returned.inj (hdecoded.symm.trans (decode_of_ok hreads hexpected _).1)
  have hsame : decoded = response := by
    by_cases hok : (!decoded.ok) = true
    · simp only [hok, if_true] at hresponse
      obtain ⟨_, -, hresponse⟩ := returned_of_bind hresponse
      exact Outcome.returned.inj hresponse
    · simp only [hok, if_false, Bool.false_eq_true] at hresponse
      exact Outcome.returned.inj hresponse
  rw [hexpected, hsame]

/-! ### What is passed on -/

/-- An operation that fails passes on why. -/
structure PassesOn {α : Type} (raw : String) (fails : String → Fault) (outcome : Outcome α) :
    Prop where
  /-- Of an answer that is no JSON object, the text. -/
  undecodable : (∀ short members, ¬IsTextOf short (.object members) raw.toList) →
    outcome = .raised (fails (if raw = "" then "unknown" else raw))
  /-- Of any text of an object that reports failure, and in which no number is too long, the reason
  that it gives. -/
  reported : ∀ members msg, IsTextOf true (.object members) raw.toList →
    Value.last? "ok" members = some (.bool false) →
    Value.last? "error" members = some (.text msg) → msg ≠ "" → outcome = .raised (fails msg)

/-- What is made of a response: a failure with the reason in it, or what follows a success. -/
def conclude {α : Type} (fails : String → Fault) (succeed : Response → Run α)
    (response : Response) : Run α :=
  if !response.ok then do
    let reason ← ofExcept response.reason
    raise (fails reason)
  else succeed response

section Conclusions

variable {α : Type} {fails : String → Fault} {succeed : Response → Run α}

theorem conclude_of_failed {response : Response} {reason : String} (hok : response.ok = false)
    (hreason : response.reason = .ok reason) (s : Surroundings) :
    (conclude fails succeed response s).outcome = .raised (fails reason) := by
  simp only [conclude, hok, Bool.not_false, if_true, hreason]
  rfl

theorem returned_of_conclude {response : Response} {a : α}
    (hreturned : (conclude fails succeed response s).outcome = .returned a) :
    response.ok = true ∧ conclude fails succeed response = succeed response := by
  cases hok : response.ok with
  | true =>
      refine ⟨rfl, ?_⟩
      simp only [conclude, hok, Bool.not_true, if_false, Bool.false_eq_true]
  | false =>
      simp only [conclude, hok, Bool.not_false, if_true] at hreturned
      obtain ⟨_, -, hraised⟩ := returned_of_bind hreturned
      cases hraised

/-- An answer that goes too deep is no reason. -/
theorem outcome_of_overflow (hquiet : s.IsQuiet) {descent : Descent}
    (hdeep : Response.overflow? session.link.levels (.text raw) = some descent)
    (hraw : (session.link.evaluate request.program s).outcome = .returned raw) :
    ((session.send request >>= conclude fails succeed) s).outcome =
      .raised (.stackExhausted descent) := by
  rw [bind_of_raised (send_of_overflow hquiet hdeep hraw).1]

/-- An answer that is no object is the reason itself. -/
theorem outcome_of_undecodable (hquiet : s.IsQuiet) (hreads : session.Reads raw)
    (hraw : (session.link.evaluate request.program s).outcome = .returned raw)
    (hnone : Response.object? (.text raw) = none) :
    ((session.send request >>= conclude fails succeed) s).outcome =
      .raised (fails (if raw = "" then "unknown" else raw)) := by
  have hsent := (send_of_returned hquiet hreads (Response.decode_of_undecodable hnone) hraw).1
  rw [bind_of_returned hsent]
  exact conclude_of_failed rfl (Response.reason_of_undecodable raw) _

theorem passesOn_conclude (hquiet : s.IsQuiet)
    (hreads : Response.IsTelling raw → session.Reads raw)
    (hraw : (session.link.evaluate request.program s).outcome = .returned raw) :
    PassesOn raw fails ((session.send request >>= conclude fails succeed) s).outcome where
  undecodable hother :=
    outcome_of_undecodable hquiet (hreads (.other hother)) hraw
      (Response.object?_eq_none_of_other hother)
  reported members msg htext hok herror hmsg := by
    obtain ⟨fields, hresponse⟩ := Response.decode_of_reported htext hok herror hmsg
    have hread := hreads (.failure htext hok herror hmsg)
    have hsent := (send_of_returned hquiet hread hresponse hraw).1
    rw [bind_of_returned hsent]
    exact conclude_of_failed rfl (Response.reason_of_reported hmsg) _

theorem reportsSuccess_of_returned {a : α}
    (hreturned : ((session.send request >>= conclude fails succeed) s).outcome = .returned a)
    (hraw : (session.link.evaluate request.program s).outcome = .returned raw) :
    Response.ReportsSuccess true raw := by
  obtain ⟨response, hsent, hreturned⟩ := returned_of_bind hreturned
  have hok := (returned_of_conclude hreturned).1
  exact (Response.ok_iff_reportsSuccess (decode_of_send_returned hsent hraw)).mp hok

end Conclusions

/-- What follows the installation of callbacks. -/
def confirm (a : Address) (callbacks : Callbacks) (_ : Response) : Run Bool := do
  note .installer .info (some ("Intercept installed at ".toList ++ a.text))
  emit (.interceptInstalled a callbacks.onEnter.isSome callbacks.onLeave.isSome)
  return true

theorem confirm_returns (hquiet : s.IsQuiet) (a : Address) (callbacks : Callbacks)
    (response : Response) : (confirm a callbacks response s).outcome = .returned true := by
  unfold confirm
  rw [outcome_note_bind, emit_bind hquiet]
  rfl

theorem attach_eq (a : Address) (callbacks : Callbacks) :
    session.attach a callbacks = build (Request.installIntercept a callbacks) >>= fun request =>
      session.send request >>= conclude .installFailed (confirm a callbacks) :=
  rfl

theorem scan_eq (session : Session) (moduleName pattern : Value) :
    ∃ succeed, session.scan moduleName pattern =
      build (Request.scanPattern moduleName pattern) >>= fun request =>
        session.send request >>= conclude .scanFailed succeed :=
  ⟨_, rfl⟩

/-- The host answers an installation with a text: the callbacks are accepted, the spec is resolved,
and the evaluation returns the text. -/
def AnswersInstall (session : Session) (spec v : Value) (s : Surroundings) (raw : String) : Prop :=
  ∃ callbacks a, Callbacks.coerce v = .ok callbacks ∧
    (session.resolve spec s).outcome = .returned a ∧
    (session.link.evaluate (Program.installProgram a callbacks)
      (session.resolve spec s).surroundings).outcome = .returned raw

/-- The host answers a scan with a text. -/
def AnswersScan (session : Session) (moduleName pattern : Value) (s : Surroundings)
    (raw : String) : Prop :=
  ∃ request, Request.scanPattern moduleName pattern = .ok request ∧
    (session.link.evaluate request.program s).outcome = .returned raw

theorem outcome_install {spec v : Value} (hanswer : session.AnswersInstall spec v s raw) :
    ∃ request t a callbacks, (s.IsQuiet → t.IsQuiet) ∧
      (session.link.evaluate request.program t).outcome = .returned raw ∧
      (session.install spec v s).outcome = ((session.send request >>=
        conclude .installFailed (confirm a callbacks)) t).outcome := by
  obtain ⟨callbacks, a, hcallbacks, hresolved, hraw⟩ := hanswer
  refine ⟨⟨.installIntercept, Program.installProgram a callbacks⟩,
    (session.resolve spec s).surroundings, a, callbacks,
    fun hquiet => (isQuiet_after_resolve session spec hquiet).1, hraw, ?_⟩
  have hmatches : (session.install spec v s).Matches _ := install_matches_attach hcallbacks spec s
  rw [hmatches.outcome, bind_of_returned hresolved]
  dsimp only
  rw [attach_eq, Program.installIntercept_eq, (build_ok_bind _ _ _).1]

theorem outcome_scan {moduleName pattern : Value}
    (hanswer : session.AnswersScan moduleName pattern s raw) :
    ∃ request succeed, (session.link.evaluate request.program s).outcome = .returned raw ∧
      (session.scan moduleName pattern s).outcome =
        ((session.send request >>= conclude .scanFailed succeed) s).outcome := by
  obtain ⟨request, hrequest, hraw⟩ := hanswer
  obtain ⟨succeed, hscan⟩ := scan_eq session moduleName pattern
  refine ⟨request, succeed, hraw, ?_⟩
  rw [hscan, hrequest, (build_ok_bind _ _ _).1]

theorem isQuiet_after_send (hquiet : s.IsQuiet) (request : Request) :
    (session.send request s).surroundings.IsQuiet :=
  ((suits_lookupContract session _).obeys_send request s ⟨hquiet, rfl⟩).surroundings.1

theorem install_of_reportsSuccess (hquiet : s.IsQuiet) (hreads : session.Reads raw) {spec v : Value}
    (hanswer : session.AnswersInstall spec v s raw) (hsuccess : Response.ReportsSuccess true raw) :
    (session.install spec v s).outcome = .returned true := by
  obtain ⟨request, t, a, callbacks, ht, hraw, houtcome⟩ := outcome_install hanswer
  obtain ⟨response, hresponse⟩ := Response.decode_text raw
  have hok := (Response.ok_iff_reportsSuccess hresponse).mpr hsuccess
  rw [houtcome, bind_of_returned (send_of_returned (ht hquiet) hreads hresponse hraw).1, conclude]
  simp only [hok, Bool.not_true, if_false, Bool.false_eq_true]
  exact confirm_returns (isQuiet_after_send (ht hquiet) request) a callbacks response

theorem install_of_undecodable (hquiet : s.IsQuiet) (hreads : session.Reads raw) {spec v : Value}
    (hanswer : session.AnswersInstall spec v s raw)
    (hnone : Response.object? (.text raw) = none) :
    (session.install spec v s).outcome =
      .raised (.installFailed (if raw = "" then "unknown" else raw)) := by
  obtain ⟨request, t, a, callbacks, ht, hraw, houtcome⟩ := outcome_install hanswer
  rw [houtcome, outcome_of_undecodable (ht hquiet) hreads hraw hnone]

theorem install_of_overflow (hquiet : s.IsQuiet) {descent : Descent}
    (hdeep : Response.overflow? session.link.levels (.text raw) = some descent) {spec v : Value}
    (hanswer : session.AnswersInstall spec v s raw) :
    (session.install spec v s).outcome = .raised (.stackExhausted descent) := by
  obtain ⟨request, t, a, callbacks, ht, hraw, houtcome⟩ := outcome_install hanswer
  rw [houtcome, outcome_of_overflow (ht hquiet) hdeep hraw]

/-- Both operations pass on why they fail. They return only where the answer is a JSON object that
reports success, and then an installation does. -/
structure SaysWhy (session : Session) (s : Surroundings) (raw : String) : Prop where
  install_fails : s.IsQuiet → ∀ spec v, session.AnswersInstall spec v s raw →
    PassesOn raw .installFailed (session.install spec v s).outcome
  install_returns : ∀ spec v done, session.AnswersInstall spec v s raw →
    (session.install spec v s).outcome = .returned done → ∃ short, Response.ReportsSuccess short raw
  install_succeeds : s.IsQuiet → ∀ spec v, session.AnswersInstall spec v s raw →
    ∀ short, Response.ReportsSuccess short raw →
      (session.install spec v s).outcome = .returned true
  scan_fails : s.IsQuiet → ∀ moduleName pattern, session.AnswersScan moduleName pattern s raw →
    PassesOn raw .scanFailed (session.scan moduleName pattern s).outcome
  scan_returns : ∀ moduleName pattern found, session.AnswersScan moduleName pattern s raw →
    (session.scan moduleName pattern s).outcome = .returned found →
      ∃ short, Response.ReportsSuccess short raw

theorem saysWhy_of_reads (s : Surroundings) (hshort : ¬Response.ReportsSuccess false raw)
    (hreads : Response.IsTelling raw → session.Reads raw) : session.SaysWhy s raw where
  install_fails hquiet spec v hanswer := by
    obtain ⟨request, t, a, callbacks, ht, hraw, houtcome⟩ := outcome_install hanswer
    rw [houtcome]
    exact passesOn_conclude (ht hquiet) hreads hraw
  install_returns spec v done hanswer hdone := by
    obtain ⟨request, t, a, callbacks, -, hraw, houtcome⟩ := outcome_install hanswer
    exact ⟨true, reportsSuccess_of_returned (houtcome.symm.trans hdone) hraw⟩
  install_succeeds hquiet spec v hanswer short hsuccess := by
    cases short with
    | true => exact install_of_reportsSuccess hquiet (hreads (.success hsuccess)) hanswer hsuccess
    | false => exact absurd hsuccess hshort
  scan_fails hquiet moduleName pattern hanswer := by
    obtain ⟨request, succeed, hraw, houtcome⟩ := outcome_scan hanswer
    rw [houtcome]
    exact passesOn_conclude hquiet hreads hraw
  scan_returns moduleName pattern found hanswer hfound := by
    obtain ⟨request, succeed, hraw, houtcome⟩ := outcome_scan hanswer
    exact ⟨true, reportsSuccess_of_returned (houtcome.symm.trans hfound) hraw⟩

/-- A number that is too long keeps an installation from succeeding. -/
theorem not_saysWhy_of_long (hquiet : s.IsQuiet) (hreads : session.Reads raw) {spec v : Value}
    (hanswer : session.AnswersInstall spec v s raw) (hlong : Response.ReportsSuccess false raw) :
    ¬session.SaysWhy s raw := by
  intro hwhy
  have hdone := hwhy.install_succeeds hquiet _ _ hanswer false hlong
  obtain ⟨members, htext, -⟩ := hlong
  have hfailed :=
    install_of_undecodable hquiet hreads hanswer (Response.object?_eq_none_of_long htext)
  cases hdone.symm.trans hfailed

/-- An answer that goes too deep tells nothing, whatever it was to tell. -/
theorem not_saysWhy_of_overflow (hquiet : s.IsQuiet) {descent : Descent}
    (hdeep : Response.overflow? session.link.levels (.text raw) = some descent) {spec v : Value}
    (hanswer : session.AnswersInstall spec v s raw) (htelling : Response.IsTelling raw) :
    ¬session.SaysWhy s raw := by
  intro hwhy
  have hraised := install_of_overflow hquiet hdeep hanswer
  have hfails := hwhy.install_fails hquiet _ _ hanswer
  cases htelling with
  | other hother => cases hraised.symm.trans (hfails.undecodable hother)
  | failure htext hok herror hmsg =>
      cases hraised.symm.trans (hfails.reported _ _ htext hok herror hmsg)
  | success hsuccess => cases hraised.symm.trans (hwhy.install_succeeds hquiet _ _ hanswer _ hsuccess)

/-! ### A host with one answer -/

/-- A session that calls the function handed over without a limit, on a stack with so much room. -/
def withRoom (room : Nat) : Session where
  config := {}
  link := { Link.handedOver "evaluator" {} with room := room }

theorem answersInstall_answering (room : Nat) (a : Address) (callbacks : Callbacks) (raw : String) :
    (withRoom room).AnswersInstall (.address a) (.callbacks callbacks) (.answering raw) raw :=
  ⟨callbacks, a, rfl, rfl, Surroundings.evaluate_answering_of_probes rfl rfl _ raw⟩

theorem reads_of_saysWhy {room : Nat} (hwhy : (withRoom room).SaysWhy (.answering raw) raw)
    (htelling : Response.IsTelling raw) : (withRoom room).Reads raw := by
  unfold Reads
  cases hdeep : Response.overflow? (withRoom room).link.levels (.text raw) with
  | none => rfl
  | some descent =>
      have hanswer := answersInstall_answering room .zero ⟨none, none⟩ raw
      exact absurd hwhy (not_saysWhy_of_overflow (Surroundings.isQuiet_answering raw) hdeep hanswer
        htelling)

/-- **The reason of the host reaches the caller**, unless an answer that reports success holds a
whole number that is too long to be read, or an answer that has something to tell goes deeper than
the stack of the session has room. -/
theorem saysWhy_iff {room : Nat} {raw : String} :
    (∀ session : Session, session.link.room = room → ∀ s, session.SaysWhy s raw) ↔
      ¬Response.ReportsSuccess false raw ∧
        (Response.IsTelling raw → Response.overflow? (room + 1) (.text raw) = none) := by
  constructor
  · intro hwhy
    -- A host that gives this answer to all that it is asked is enough to tell.
    have hroom : (withRoom room).SaysWhy (.answering raw) raw := hwhy _ rfl _
    have hreads := reads_of_saysWhy hroom
    refine ⟨fun hlong => ?_, hreads⟩
    exact not_saysWhy_of_long (Surroundings.isQuiet_answering raw) (hreads (.success hlong))
      (answersInstall_answering room .zero ⟨none, none⟩ raw) hlong hroom
  · rintro ⟨hshort, hreads⟩ session rfl s
    exact saysWhy_of_reads s hshort hreads

/-- No stack has room for all answers: with enough brackets, a text that is no object is not passed
on. -/
theorem not_saysWhy_brackets {room count : Nat} (hdeep : room + 1 < count) :
    ¬(withRoom room).SaysWhy (.answering (String.ofList (List.replicate count '[')))
      (String.ofList (List.replicate count '[')) := by
  intro hwhy
  have htelling : Response.IsTelling (String.ofList (List.replicate count '[')) := by
    refine .other fun short members htext => ?_
    obtain ⟨others, rfl⟩ := Nat.exists_eq_succ_of_ne_zero (Nat.ne_zero_of_lt hdeep)
    rw [String.toList_ofList] at htext
    exact absurd htext.begins (by decide)
  have hover := Response.overflow?_brackets hdeep []
  rw [List.append_nil] at hover
  cases hover.symm.trans (reads_of_saysWhy hwhy htelling)

/-- An object that reports failure, with a character of its reason written by its number. -/
def spelledReason : String :=
  String.ofList (Json.answer false "error".toList "\"b\\u0061d\"".toList)

theorem spells_bad : Json.Spells "bad".toList "b\\u0061d".toList := by
  have hunit : Json.IsUnit (Char.toNat 'a') ['0', '0', '6', '1'] :=
    Json.codeUnit?_eq_some_iff.mp rfl
  have hspells : Json.Spells ['b', 'a', 'd'] ('b' :: '\\' :: 'u' :: ['0', '0', '6', '1', 'd']) :=
    .cons (.plain (by decide)) (.cons (.unit hunit) (.cons (.plain (by decide)) .nil))
  exact hspells

theorem isTextOf_spelledReason :
    IsTextOf true (.object [(.text "ok", .bool false), (.text "error", .text "bad")])
      spelledReason.toList :=
  Json.isTextOf_answer false (by decide : "error".toList.all Json.isLiteral = true)
    spells_bad.isText

theorem spelled_reason_is_passed_on :
    ((make {} true).install (.address ⟨16⟩) (.callbacks ⟨some "trace", none⟩)
      (.answering spelledReason)).outcome = .raised (.installFailed "bad") := by
  have hshort := Response.not_reportsSuccess_of_short isTextOf_spelledReason
  have hflat : Json.openings spelledReason.toList = 1 := by
    rw [spelledReason, String.toList_ofList, Json.openings_answer]
    decide
  have hreads : Response.overflow? (900 + 1) (.text spelledReason) = none :=
    Response.overflow?_of_openings_le (hflat.trans_le (by decide))
  have hwhy := saysWhy_iff.mpr ⟨hshort, fun _ => hreads⟩ (make {} true) rfl
    (.answering spelledReason)
  have hfails := hwhy.install_fails (Surroundings.isQuiet_answering _) _ _
    (answersInstall_answering 900 ⟨16⟩ ⟨some "trace", none⟩ _)
  exact hfails.reported _ "bad" isTextOf_spelledReason rfl rfl (by decide)

/-- An object that reports success beside a number of as many ones. -/
def successBeside (ones : Nat) : String :=
  String.ofList (Json.answer true "n".toList (List.replicate (ones + 1) '1'))

theorem reportsSuccess_successBeside (ones : Nat) :
    Response.ReportsSuccess (decide (ones + 1 ≤ Text.decimalDigitLimit)) (successBeside ones) := by
  obtain ⟨n, hones⟩ := Json.isText_ones ones
  have htext := Json.isTextOf_answer true (by decide : "n".toList.all Json.isLiteral = true) hones
  exact ⟨_, htext, rfl⟩

theorem openings_successBeside (ones : Nat) : Json.openings (successBeside ones).toList = 1 := by
  rw [successBeside, String.toList_ofList, Json.openings_answer, Json.openings_replicate rfl]
  rfl

theorem long_number_hides_success :
    ¬(make {} true).SaysWhy (.answering (successBeside 4300)) (successBeside 4300) :=
  not_saysWhy_of_long (Surroundings.isQuiet_answering _)
    (reads_of_openings_eq_one (openings_successBeside 4300))
    (answersInstall_answering 900 .zero ⟨none, none⟩ _) (reportsSuccess_successBeside 4300)

end Session

end HostLink
