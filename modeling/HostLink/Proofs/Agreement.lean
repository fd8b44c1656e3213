import HostLink.Proofs.Lookup

/-!
# Two readers of pointers

Scans and lookups read the pointers of an answer each in their own way. They agree on every value
that an answer can hold; only an offset that cannot be read keeps a pointer from being reported.
-/

namespace HostLink

open Text

namespace Response

theorem isPlain_of_get? {raw : String} {response : Response} {name : FieldName} {v : Value}
    (hresponse : decode (.text raw) = .ok response) (hv : response.get? name = some v) :
    v.IsPlain := by
  rw [get?] at hv
  cases hobject : object? (.text raw) with
  | none =>
      obtain rfl := Except.ok.inj (hresponse.symm.trans (decode_of_undecodable hobject))
      cases hv
  | some fields =>
      obtain ⟨_, hdecode, hpayload⟩ := decode_of_object? hobject
      obtain rfl := Except.ok.inj (hresponse.symm.trans hdecode)
      obtain ⟨members, htext, hlast⟩ := exists_members hobject
      rw [hpayload, hlast] at hv
      exact htext.isPlain_of_last? hv

theorem isPlain_of_single {raw : String} {response : Response} {name : FieldName} {v : Value}
    (hresponse : decode (.text raw) = .ok response)
    (hlist : response.get? name = some (.list [v])) : v.IsPlain :=
  (isPlain_of_get? hresponse hlist).of_mem_list List.mem_cons_self

theorem exists_response_of_success {members : List (FieldName × Value)} {raw : String}
    (htext : Json.IsTextOf true (.object members) raw.toList)
    (hok : Value.last? "ok" members = some (.bool true)) :
    ∃ response, decode (.text raw) = .ok response ∧ response.ok = true ∧
      ∀ name, response.get? name = Value.last? name members := by
  obtain ⟨fields, hdecode, hlast⟩ := decode_of_success htext hok
  exact ⟨_, hdecode, rfl, hlast⟩

theorem pointer?_of_decode {raw : String} {response : Response}
    (hresponse : decode (.text raw) = .ok response) :
    pointer? raw = (response.get? Request.resultField).bind Address.ofPointer? := by
  rw [pointer?, hresponse]

end Response

namespace Session

variable {session : Session} {s t : Surroundings} {name pattern text raw raw' : String}
  {request : Request} {response response' : Response} {v : Value}

theorem readMatches_single (v : Value) (found : List Address) :
    readMatches [v] = .ok found ↔ ∃ a, Address.ofPointer? v = some a ∧ found = [a] := by
  rw [readMatches, Address.ofMatch?_eq_ofPointer?]
  cases Address.ofPointer? v with
  | none => simp
  | some a =>
      rw [readMatches]
      simp [Except.map, eq_comm]

theorem scan_single_iff (hquiet : s.IsQuiet) (hread : session.Reads raw)
    (hraw : (session.link.evaluate (Program.scanProgram name pattern) s).outcome = .returned raw)
    (hresponse : Response.decode (.text raw) = .ok response)
    (hmatched : response.get? "matches" = some (.list [v])) (found : List Address) :
    (session.scan (.text name) (.text pattern) s).outcome = .returned found ↔
      response.ok = true ∧ ∃ a, Address.ofPointer? v = some a ∧ found = [a] := by
  have hreads : response.ok = true →
      (session.scan (.text name) (.text pattern) s).outcome =
        (Run.ofExcept (readMatches [v]) s).outcome := by
    intro hok
    obtain ⟨members, htext, hlast⟩ := (Response.ok_iff_reportsSuccess hresponse).mp hok
    obtain ⟨fields, hdecode, -⟩ := Response.decode_of_success htext hlast
    obtain rfl := Except.ok.inj (hresponse.symm.trans hdecode)
    rw [Response.get?] at hmatched
    rw [outcome_scan_of_success hquiet hread hraw hdecode, hmatched, collected]
  constructor
  · intro hfound
    obtain ⟨request, succeed, hsent, houtcome⟩ :=
      outcome_scan ⟨_, Program.scanPattern_eq name pattern, hraw⟩
    have hok : response.ok = true := (Response.ok_iff_reportsSuccess hresponse).mpr
      (reportsSuccess_of_returned (houtcome.symm.trans hfound) hsent)
    refine ⟨hok, (readMatches_single v found).mp ?_⟩
    rw [hreads hok] at hfound
    cases hmatches : readMatches [v] with
    | error fault =>
        rw [hmatches] at hfound
        cases hfound
    | ok others =>
        rw [hmatches] at hfound
        rw [Outcome.returned.inj hfound]
  · rintro ⟨hok, hsingle⟩
    rw [hreads hok, (readMatches_single v found).mpr hsingle]
    rfl

/-! ### Reports of lookups -/

/-- The observer hears that the spec was resolved. -/
def ReportsResolved (session : Session) (text : String) (t : Surroundings) : Prop :=
  ∃ a, Event.resolved (.text text) a true ∈ (session.resolve (.text text) t).journal.events

theorem reportsResolved_iff_eventsOf :
    session.ReportsResolved text t ↔ ∃ a, Event.resolved (.text text) a true ∈
      (session.resolve (.text text) t).journal.eventsOf .resolved := by
  have hkind : ∀ a, (Event.resolved (.text text) a true).kind = .resolved := fun _ => rfl
  simp only [ReportsResolved, Journal.eventsOf_eq_filter, List.mem_filter, hkind, decide_true,
    and_true]

theorem reportsResolved_of_placed (hquiet : t.IsQuiet) (hheard : t.observer.isSome = true)
    (hsymbolic : (Value.text text).IsSymbolic)
    (hrequest : (Descriptor.ofTrimmed (trimmed text)).request? = some request)
    {found placed : Option Address} (hfound : (session.lookup request t).outcome = .returned found)
    (hplace : (Descriptor.ofTrimmed (trimmed text)).place found = .ok placed) :
    session.ReportsResolved text t ↔ found.isSome = true := by
  have hplaced : placed.isSome = found.isSome := by
    cases found with
    | none =>
        rw [Descriptor.place_none] at hplace
        rw [← Except.ok.inj hplace]
    | some pointer => rw [Descriptor.isSome_of_place hplace, Option.isSome_some]
  obtain ⟨-, hevents⟩ := resolve_of_found hquiet hheard hsymbolic hrequest hfound hplace
  rw [reportsResolved_iff_eventsOf, hevents, ← hplaced]
  simp

theorem MeetsOverlongOffset.not_reportsResolved
    (hmeets : session.MeetsOverlongOffset (.text text) t) (hquiet : t.IsQuiet)
    (hheard : t.observer.isSome = true) : ¬session.ReportsResolved text t := by
  obtain ⟨digits, hraised⟩ := hmeets.resolve
  have hnone := (eventsOf_resolve hquiet hheard hmeets.isSymbolic).2 fun a ha => by
    cases hraised.symm.trans ha
  rw [reportsResolved_iff_eventsOf, hnone]
  simp

theorem place_or_meets (hsymbolic : (Value.text text).IsSymbolic)
    (hrequest : (Descriptor.ofTrimmed (trimmed text)).request? = some request)
    {found : Option Address} (hfound : (session.lookup request t).outcome = .returned found) :
    (∃ placed, (Descriptor.ofTrimmed (trimmed text)).place found = .ok placed) ∨
      (session.MeetsOverlongOffset (.text text) t ∧ found.isSome = true) := by
  cases hplace : (Descriptor.ofTrimmed (trimmed text)).place found with
  | ok placed => exact .inl ⟨placed, rfl⟩
  | error fault =>
      obtain ⟨name, offset, base, hdescriptor, rfl, hlong, -⟩ :=
        Descriptor.place_eq_error_iff.mp hplace
      obtain ⟨_, heq, hink, -⟩ := hsymbolic
      obtain rfl := Value.text.inj heq
      rw [hdescriptor] at hrequest
      obtain rfl := Option.some.inj hrequest
      exact .inr ⟨⟨text, name, offset, base, rfl, hink, hdescriptor, hlong, hfound⟩, rfl⟩

/-- A lookup reports its pointer exactly when its offset can be read. -/
theorem reportsResolved_iff_isSome (hquiet : t.IsQuiet) (hheard : t.observer.isSome = true)
    (hsymbolic : (Value.text text).IsSymbolic)
    (hrequest : (Descriptor.ofTrimmed (trimmed text)).request? = some request)
    {found : Option Address} (hfound : (session.lookup request t).outcome = .returned found) :
    (session.ReportsResolved text t ↔ found.isSome = true) ↔
      ¬session.MeetsOverlongOffset (.text text) t := by
  rcases place_or_meets hsymbolic hrequest hfound with ⟨placed, hplace⟩ | ⟨hmeets, hsome⟩
  · refine iff_of_true ?_ fun hmeets => ?_
    · exact reportsResolved_of_placed hquiet hheard hsymbolic hrequest hfound hplace
    · obtain ⟨digits, hraised⟩ := hmeets.resolve
      obtain ⟨hreturned, -⟩ := resolve_of_found hquiet hheard hsymbolic hrequest hfound hplace
      cases hraised.symm.trans hreturned
  · refine iff_of_false (fun hreports => ?_) (not_not_intro hmeets)
    exact hmeets.not_reportsResolved hquiet hheard (hreports.mpr hsome)

/-! ### Agreement -/

/-- The two readers agree on a value: a scan that is answered with it as the only match, and a
lookup that is answered with it as the pointer. -/
structure ReadsAlike (session : Session) (name pattern text : String) (response : Response)
    (v : Value) (s t : Surroundings) : Prop where
  scanned : ∀ found, (session.scan (.text name) (.text pattern) s).outcome = .returned found ↔
    response.ok = true ∧ ∃ a, Address.ofPointer? v = some a ∧ found = [a]
  /-- What lookups read as text is refused, if it is refused, in the one way that they catch. -/
  caught : (∀ n, v ≠ .int n) → ∀ fault, v.toText.bind Address.ofText = .error fault →
    FaultFamily.badValue ∈ fault.kind.families
  reported : session.ReportsResolved text t ↔ (Address.ofPointer? v).isSome = true

/-- **The two readers agree exactly when** no base that the host gives meets an offset of too many
digits. The answers are any that can be read and decoded, and the value is any that they can hold. -/
theorem readsAlike_iff (hs : s.IsQuiet) (ht : t.IsQuiet) (hheard : t.observer.isSome = true)
    (hsymbolic : (Value.text text).IsSymbolic)
    (hrequest : (Descriptor.ofTrimmed (trimmed text)).request? = some request)
    (hraw : (session.link.evaluate (Program.scanProgram name pattern) s).outcome = .returned raw)
    (hraw' : (session.link.evaluate request.program t).outcome = .returned raw')
    (hread : session.Reads raw) (hread' : session.Reads raw')
    (hresponse : Response.decode (.text raw) = .ok response)
    (hresponse' : Response.decode (.text raw') = .ok response')
    (hmatched : response.get? "matches" = some (.list [v]))
    (hpointer : response'.get? Request.resultField = some v) :
    session.ReadsAlike name pattern text response v s t ↔
      ¬session.MeetsOverlongOffset (.text text) t := by
  have hfound := (lookup_of_returned ht hraw').1
  rw [pointer?_of_reads hread', Response.pointer?_of_decode hresponse', hpointer,
    Option.bind_some] at hfound
  -- Scans agree on every value, so the report of the lookup alone decides.
  rw [← reportsResolved_iff_isSome ht hheard hsymbolic hrequest hfound]
  constructor
  · exact ReadsAlike.reported
  · intro hreported
    refine ⟨scan_single_iff hs hread hraw hresponse hmatched, ?_, hreported⟩
    intro hint fault herror
    rw [Address.kind_of_read_error (Response.isPlain_of_single hresponse hmatched) hint herror]
    decide

/-! ### A host with one answer -/

/-- A pointer in base sixteen is the only match. -/
def matchingPointer (n : Nat) : String :=
  matching ('[' :: (Json.string ('0' :: 'x' :: hex n) ++ [']']))

theorem exists_response_matchingPointer (n : Nat) :
    ∃ response, Response.decode (.text (matchingPointer n)) = .ok response ∧ response.ok = true ∧
      response.get? "matches" = some (.list [.written n]) := by
  have htext := isTextOf_matching (Json.isText_single
    (Json.reads_string (Json.isLiteral_string_hex n)))
  obtain ⟨response, hresponse, hok, hlast⟩ := Response.exists_response_of_success htext rfl
  exact ⟨response, hresponse, hok, hlast "matches"⟩

theorem exists_response_pointerTo (n : Nat) :
    ∃ response, Response.decode (.text (Response.pointerTo n)) = .ok response ∧
      response.get? Request.resultField = some (.written n) := by
  obtain ⟨response, hresponse, -, hlast⟩ :=
    Response.exists_response_of_success (isTextOf_pointerTo n) rfl
  exact ⟨response, hresponse, hlast Request.resultField⟩

theorem pointer_is_read_alike :
    ∃ response, Response.decode (.text (matchingPointer 16)) = .ok response ∧
      (make {} true).ReadsAlike "m" "00" "main" response (.written 16)
        (.answering (matchingPointer 16)) (.answering (Response.pointerTo 16)) := by
  obtain ⟨response, hresponse, -, hmatched⟩ := exists_response_matchingPointer 16
  obtain ⟨response', hresponse', hpointer⟩ := exists_response_pointerTo 16
  have hflat : Json.openings ('[' :: (Json.string ('0' :: 'x' :: hex 16) ++ [']'])) ≤ 1 := by
    rw [Json.openings_cons_of_isOpening rfl, Json.openings_append, Json.openings_string]
    decide
  refine ⟨response, hresponse, (readsAlike_iff (Surroundings.isQuiet_answering _)
    (Surroundings.isQuiet_answering _) rfl isSymbolic_main Descriptor.request?_main
    (Surroundings.evaluate_answering _ _) (Surroundings.evaluate_answering _ _)
    (reads_matching hflat) (reads_of_openings_eq_one (Response.openings_pointerTo 16)) hresponse
    hresponse' hmatched hpointer).mpr ?_⟩
  rintro ⟨text, name, offset, base, heq, -, hoffset, -⟩
  obtain rfl := Value.text.inj heq
  cases Descriptor.ofTrimmed_main.symm.trans hoffset

/-- A scan returns the pointer, and a lookup with an offset of one digit too many does not. -/
theorem overlong_offset_is_read_otherwise :
    ∃ response response', Response.decode (.text (matchingPointer 16)) = .ok response ∧
      response.ok = true ∧ response.get? "matches" = some (.list [.written 16]) ∧
      Response.decode (.text (Response.pointerTo 16)) = .ok response' ∧
      response'.get? Request.resultField = some (.written 16) ∧
      ¬(make {} true).ReadsAlike "m" "00" (zerosAfter 4301) response (.written 16)
        (.answering (matchingPointer 16)) (.answering (Response.pointerTo 16)) := by
  obtain ⟨response, hresponse, hok, hmatched⟩ := exists_response_matchingPointer 16
  obtain ⟨response', hresponse', hpointer⟩ := exists_response_pointerTo 16
  refine ⟨response, response', hresponse, hok, hmatched, hresponse', hpointer, ?_⟩
  intro halike
  have hlong : decimalDigitLimit < 4300 + 1 := by decide
  have hsome : (Address.ofPointer? (.written 16)).isSome = true := by
    rw [← Address.ofMatch?_eq_ofPointer?, Address.ofMatch?_of_pointsTo (Value.pointsTo_written 16)]
    rfl
  exact (meetsOverlongOffset_zerosAfter hlong).not_reportsResolved
    (Surroundings.isQuiet_answering _) rfl (halike.reported.mpr hsome)

end Session

end HostLink
