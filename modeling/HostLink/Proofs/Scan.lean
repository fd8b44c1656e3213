import HostLink.Proofs.Pointer
import HostLink.Proofs.Reasons

/-!
# What a scan finds

A scan finds all of its matches or none: every entry of the list that the host sends is a pointer,
and then the addresses are these pointers in their order, or the first entry that is none is named
and nothing is reported.
-/

namespace HostLink

open Text
open Json (IsTextOf Part)

/-! ### Lists of matches -/

/-- A list holds pointers alone, or there is a first entry that is none. -/
theorem Value.pointers_or_bad (entries : List Value) :
    (∃ ns, List.Forall₂ PointsTo entries ns) ∨
      ∃ good bad rest ns, entries = good ++ bad :: rest ∧ List.Forall₂ PointsTo good ns ∧
        ∀ n, ¬bad.PointsTo n := by
  induction entries with
  | nil => exact .inl ⟨[], .nil⟩
  | cons v rest ih =>
      by_cases hv : ∃ n, v.PointsTo n
      · obtain ⟨n, hn⟩ := hv
        rcases ih with ⟨ns, hall⟩ | ⟨good, bad, others, ns, rfl, hgood, hbad⟩
        · exact .inl ⟨n :: ns, .cons hn hall⟩
        · exact .inr ⟨v :: good, bad, others, n :: ns, rfl, .cons hn hgood, hbad⟩
      · exact .inr ⟨[], v, rest, [], rfl, .nil, not_exists.mp hv⟩

namespace Session

open Run

theorem readMatches_of_pointers {entries : List Value} {ns : List Int}
    (hall : List.Forall₂ Value.PointsTo entries ns) :
    readMatches entries = .ok (ns.map Address.ofInt) := by
  induction hall with
  | nil => rfl
  | cons hn _ ih =>
      rw [readMatches, Address.ofMatch?_of_pointsTo hn, ih]
      rfl

/-- **The first entry that is no pointer is named**, whatever follows it. -/
theorem readMatches_of_bad {good : List Value} {bad : Value} {ns : List Int}
    (hgood : List.Forall₂ Value.PointsTo good ns) (hplain : bad.IsPlain)
    (hbad : ∀ n, ¬bad.PointsTo n) (rest : List Value) :
    readMatches (good ++ bad :: rest) = .error (.badMatch bad) := by
  induction hgood with
  | nil => rw [List.nil_append, readMatches, (Address.ofMatch?_eq_none_iff hplain).mpr hbad]
  | cons hn _ ih =>
      rw [List.cons_append, readMatches, Address.ofMatch?_of_pointsTo hn, ih]
      rfl

end Session

/-! ### Answers that report success -/

namespace Json

theorem IsTextOf.isPlain {short : Bool} {part : Part} {s : List Char} (hs : IsTextOf short part s) :
    part.IsPlain := by
  obtain ⟨-, inner, -, -, -, hinner, -⟩ := hs
  exact hinner.isPlain

theorem IsTextOf.isPlain_of_last? {short : Bool} {members : List (FieldName × Value)}
    {s : List Char} (htext : IsTextOf short (.object members) s) {name : FieldName} {v : Value}
    (hlast : Value.last? name members = some v) : v.IsPlain :=
  htext.isPlain _ (Value.mem_of_last? hlast)

end Json

theorem Response.isPrintable_of_last? {members : List (FieldName × Value)} {raw : String}
    (htext : IsTextOf true (.object members) raw.toList) {name : FieldName} {v : Value}
    (hv : Value.last? name members = some v) : v.IsPrintable := by
  obtain ⟨fields, hobject, -, hlast⟩ := exists_object? htext
  rw [← hlast] at hv
  exact isPrintable_of_object? hobject _ (Value.mem_of_field? hv)

theorem Response.decode_of_success {members : List (FieldName × Value)} {raw : String}
    (htext : IsTextOf true (.object members) raw.toList)
    (hok : Value.last? "ok" members = some (.bool true)) :
    ∃ fields, decode (.text raw) = .ok ⟨true, fields, .null, .text raw⟩ ∧
      ∀ name, Value.field? name fields = Value.last? name members := by
  obtain ⟨fields, hobject, -, hlast⟩ := exists_object? htext
  refine ⟨fields, ?_, hlast⟩
  rw [decode, hobject]
  dsimp only
  rw [ofObject, hlast, hok]

/-! ### Events of one kind -/

/-- Of a kind that is not heard before the end, there is one event at the end or none. -/
theorem Result.Concludes.eventsOf {α : Type} {result : Result α} {first : List Event}
    {last : α → Event → Prop} {kind : EventKind} (hconcludes : result.Concludes first last)
    (hfirst : ∀ e ∈ first, e.kind ≠ kind) (hkind : ∀ a e, last a e → e.kind = kind) :
    (∀ a, result.outcome = .returned a → ∃ e, last a e ∧ result.journal.eventsOf kind = [e]) ∧
      ((∀ a, result.outcome ≠ .returned a) → result.journal.eventsOf kind = []) := by
  have hnone : first.filter (fun e => e.kind = kind) = [] :=
    List.filter_eq_nil_iff.mpr fun e hmem => by simpa using hfirst e hmem
  rw [Journal.eventsOf_eq_filter]
  cases hconcludes with
  | returned a e houtcome hlast hevents =>
      have hone : result.journal.events.filter (fun e => e.kind = kind) = [e] := by
        rw [hevents, List.filter_append, hnone]
        simp [hkind a e hlast]
      refine ⟨fun b hb => ⟨e, ?_, hone⟩, fun hnever => absurd houtcome (hnever a)⟩
      rw [houtcome] at hb
      exact Outcome.returned.inj hb ▸ hlast
  | failed houtcome hevents =>
      rw [hevents]
      exact ⟨fun a ha => absurd ha (houtcome a), fun _ => hnone⟩

namespace Session

open Run

variable {session : Session} {s : Surroundings} {name pattern raw : String}

theorem kind_of_mem_heard {trip : Trip} {e : Event} (hmem : e ∈ session.heard trip) :
    e.kind = .evalStart ∨ e.kind = .evalEnd := by
  rcases List.mem_cons.mp hmem with rfl | hmem
  · exact .inl rfl
  · right
    split at hmem
    · rw [List.mem_singleton.mp hmem]
      rfl
    · rw [List.mem_singleton.mp hmem]
      rfl
    · cases hmem

/-! ### Scans -/

/-- What a scan makes of the field that holds the matches. -/
def collected (raw : String) : Option Value → Except Fault (List Address)
  | some (.list entries) => readMatches entries
  | _ => .error (.noMatchList raw)

theorem outcome_request_of_returned {β : Type} {response : Response} (hquiet : s.IsQuiet)
    (hreads : session.Reads raw) (request : Request)
    (hraw : (session.link.evaluate request.program s).outcome = .returned raw)
    (hresponse : Response.decode (.text raw) = .ok response) :
    ∃ t : Surroundings, t.IsQuiet ∧ ∀ f : Response → Run β,
      ((build (.ok request) >>= fun request => session.send request >>= f) s).outcome =
        (f response t).outcome := by
  refine ⟨(session.send request s).surroundings, isQuiet_after_send hquiet request, fun f => ?_⟩
  rw [(build_ok_bind _ _ _).1, bind_of_returned (send_of_returned hquiet hreads hresponse hraw).1]

theorem outcome_scan_of_success (hquiet : s.IsQuiet) (hreads : session.Reads raw) {fields : List (FieldName × Value)}
    (hraw : (session.link.evaluate (Program.scanProgram name pattern) s).outcome = .returned raw)
    (hresponse : Response.decode (.text raw) = .ok ⟨true, fields, .null, .text raw⟩) :
    (session.scan (.text name) (.text pattern) s).outcome =
      (ofExcept (collected raw (Value.field? "matches" fields)) s).outcome := by
  unfold scan
  rw [Program.scanPattern_eq]
  obtain ⟨t, ht, houtcome⟩ := outcome_request_of_returned hquiet hreads
    ⟨.scanPattern, Program.scanProgram name pattern⟩ hraw hresponse
  refine (houtcome _).trans ?_
  simp only [Bool.not_true, Bool.false_eq_true, if_false, Response.get?]
  -- All fields but lists end in the same fault, which is settled once.
  generalize Value.field? "matches" fields = matched
  have hmissing : ((ofExcept (Value.text raw).toText >>= fun text =>
      (raise (.noMatchList text) : Run (List Address))) t).outcome =
      .raised (.noMatchList raw) := by
    rw [Response.toText_text]
    rfl
  cases matched with
  | none => exact hmissing
  | some v =>
      cases v with
      | list entries =>
          rw [collected]
          dsimp only
          cases readMatches entries with
          | error fault => rfl
          | ok found =>
              rw [bind_of_pure (ofExcept_ok found), outcome_note_bind, emit_bind ht]
              rfl
      | _ => exact hmissing

theorem eventsOf_scan (session : Session) (name pattern : String) (hquiet : s.IsQuiet)
    (hheard : s.observer.isSome = true) :
    (∀ found, (session.scan (.text name) (.text pattern) s).outcome = .returned found →
      (session.scan (.text name) (.text pattern) s).journal.eventsOf .scanComplete =
        [.scanComplete (.text name) (.text pattern) found.length]) ∧
    ((∀ found, (session.scan (.text name) (.text pattern) s).outcome ≠ .returned found) →
      (session.scan (.text name) (.text pattern) s).journal.eventsOf .scanComplete = []) := by
  have hother : ∀ e ∈ session.heard ⟨Program.scanProgram name pattern, s⟩,
      e.kind ≠ .scanComplete := by
    intro e hmem
    rcases kind_of_mem_heard hmem with hkind | hkind <;> simp [hkind]
  have hkind : ∀ (found : List Address) (e : Event),
      e = .scanComplete (.text name) (.text pattern) found.length → e.kind = .scanComplete := by
    rintro found e rfl
    rfl
  obtain ⟨hreturned, hfailed⟩ := (concludes_scan hquiet hheard name pattern).eventsOf hother hkind
  refine ⟨fun found hfound => ?_, hfailed⟩
  obtain ⟨e, rfl, hevents⟩ := hreturned found hfound
  exact hevents

theorem eventsOf_scan_of_raised (session : Session) (name pattern : String) (hquiet : s.IsQuiet)
    (hheard : s.observer.isSome = true) {fault : Fault}
    (hraised : (session.scan (.text name) (.text pattern) s).outcome = .raised fault) :
    (session.scan (.text name) (.text pattern) s).journal.eventsOf .scanComplete = [] := by
  apply (eventsOf_scan session name pattern hquiet hheard).2
  intro found hfound
  cases hraised.symm.trans hfound

section Matched

variable {members : List (FieldName × Value)} (hquiet : s.IsQuiet) (hreads : session.Reads raw)
  (hraw : (session.link.evaluate (Program.scanProgram name pattern) s).outcome = .returned raw)
  (htext : IsTextOf true (.object members) raw.toList)
  (hok : Value.last? "ok" members = some (.bool true))

include hquiet hreads hraw htext hok

theorem outcome_scan_of_text :
    (session.scan (.text name) (.text pattern) s).outcome =
      (ofExcept (collected raw (Value.last? "matches" members)) s).outcome := by
  obtain ⟨fields, hresponse, hlast⟩ := Response.decode_of_success htext hok
  rw [outcome_scan_of_success hquiet hreads hraw hresponse, hlast]

theorem scan_of_pointers {entries : List Value} {ns : List Int}
    (hmatched : Value.last? "matches" members = some (.list entries))
    (hall : List.Forall₂ Value.PointsTo entries ns) :
    (session.scan (.text name) (.text pattern) s).outcome =
      .returned (ns.map Address.ofInt) := by
  rw [outcome_scan_of_text hquiet hreads hraw htext hok, hmatched, collected, readMatches_of_pointers hall]
  rfl

theorem scan_of_bad {good rest : List Value} {bad : Value} {ns : List Int}
    (hmatched : Value.last? "matches" members = some (.list (good ++ bad :: rest)))
    (hgood : List.Forall₂ Value.PointsTo good ns) (hbad : ∀ n, ¬bad.PointsTo n) :
    (session.scan (.text name) (.text pattern) s).outcome = .raised (.badMatch bad) ∧
      bad.IsPrintable := by
  have hmem : bad ∈ good ++ bad :: rest := List.mem_append_right good List.mem_cons_self
  have hplain : bad.IsPlain := (htext.isPlain_of_last? hmatched).of_mem_list hmem
  refine ⟨?_, Value.isPrintable_list_iff.mp (Response.isPrintable_of_last? htext hmatched) bad hmem⟩
  rw [outcome_scan_of_text hquiet hreads hraw htext hok, hmatched, collected,
    readMatches_of_bad hgood hplain hbad]
  rfl

theorem scan_of_missing
    (hother : ∀ entries, Value.last? "matches" members ≠ some (.list entries)) :
    (session.scan (.text name) (.text pattern) s).outcome = .raised (.noMatchList raw) := by
  rw [outcome_scan_of_text hquiet hreads hraw htext hok, collected]
  · rfl
  · exact hother

end Matched

/-! ### Exact scans -/

/-- A scan is exact, and finds all or nothing, where an answer has this field for its matches. -/
structure IsExact (session : Session) (name pattern : String) (s : Surroundings)
    (matched : Option Value) : Prop where
  found : ∀ entries ns, matched = some (.list entries) →
    List.Forall₂ Value.PointsTo entries ns →
    ∃ found, (session.scan (.text name) (.text pattern) s).outcome = .returned found ∧
      found.map (fun a => (a.toNat : Int)) = ns.map (· % 2 ^ 32) ∧
      (session.scan (.text name) (.text pattern) s).journal.eventsOf .scanComplete =
        [.scanComplete (.text name) (.text pattern) entries.length]
  pointers : ∀ ns : List Nat, matched = some (.list (ns.map Value.written)) →
    ∃ found, (session.scan (.text name) (.text pattern) s).outcome = .returned found ∧
      found.map Address.toNat = ns.map (· % 2 ^ 32)
  refused : ∀ good bad rest ns, matched = some (.list (good ++ bad :: rest)) →
    List.Forall₂ Value.PointsTo good ns → (∀ n, ¬bad.PointsTo n) →
    (session.scan (.text name) (.text pattern) s).outcome = .raised (.badMatch bad) ∧
      (∃ shown, bad.quoted? = some shown ∧
        (Fault.badMatch bad).message? = some ("scan failed: bad match address: ".toList ++ shown)) ∧
      (session.scan (.text name) (.text pattern) s).journal.eventsOf .scanComplete = []
  missing : (∀ entries, matched ≠ some (.list entries)) →
    (session.scan (.text name) (.text pattern) s).Raises .scanFailed ∧
      (session.scan (.text name) (.text pattern) s).journal.eventsOf .scanComplete = []

theorem isExact_of_success (hquiet : s.IsQuiet) (hheard : s.observer.isSome = true)
    (hreads : session.Reads raw) {members : List (FieldName × Value)}
    (hraw : (session.link.evaluate (Program.scanProgram name pattern) s).outcome = .returned raw)
    (htext : IsTextOf true (.object members) raw.toList)
    (hok : Value.last? "ok" members = some (.bool true)) :
    session.IsExact name pattern s (Value.last? "matches" members) := by
  refine ⟨?_, ?_, ?_, ?_⟩
  · intro entries ns hmatched hall
    have hfound := scan_of_pointers hquiet hreads hraw htext hok hmatched hall
    refine ⟨_, hfound, ?_, ?_⟩
    · simp [List.map_map, Function.comp_def, Address.toNat_ofInt]
    · rw [(eventsOf_scan session name pattern hquiet hheard).1 _ hfound, List.length_map,
        hall.length_eq]
  · intro ns hmatched
    have hall : List.Forall₂ Value.PointsTo (ns.map Value.written) (ns.map Nat.cast) := by
      rw [List.forall₂_map_left_iff, List.forall₂_map_right_iff, List.forall₂_same]
      exact fun n _ => Value.pointsTo_written n
    refine ⟨_, scan_of_pointers hquiet hreads hraw htext hok hmatched hall, ?_⟩
    simp [List.map_map, Function.comp_def, Address.ofInt_natCast, Address.toNat_ofNat]
  · intro good bad rest ns hmatched hgood hbad
    obtain ⟨hraised, shown, hshown⟩ := scan_of_bad hquiet hreads hraw htext hok hmatched hgood hbad
    refine ⟨hraised, ⟨shown, hshown, ?_⟩, ?_⟩
    · simp [Fault.message?, hshown]
    · exact eventsOf_scan_of_raised session name pattern hquiet hheard hraised
  · intro hother
    have hraised := scan_of_missing hquiet hreads hraw htext hok hother
    exact ⟨⟨_, hraised, rfl⟩, eventsOf_scan_of_raised session name pattern hquiet hheard hraised⟩

/-- An answer with a number that is too long is no answer to a scan, whatever its matches are. -/
theorem outcome_scan_of_long (hquiet : s.IsQuiet) (hreads : session.Reads raw)
    {members : List (FieldName × Value)}
    (hraw : (session.link.evaluate (Program.scanProgram name pattern) s).outcome = .returned raw)
    (htext : IsTextOf false (.object members) raw.toList) :
    ∃ reason, (session.scan (.text name) (.text pattern) s).outcome =
      .raised (.scanFailed reason) := by
  obtain ⟨succeed, hscan⟩ := scan_eq session (.text name) (.text pattern)
  refine ⟨if raw = "" then "unknown" else raw, ?_⟩
  rw [hscan, Program.scanPattern_eq, (build_ok_bind _ _ _).1]
  exact outcome_of_undecodable hquiet hreads hraw (Response.object?_eq_none_of_long htext)

theorem outcome_scan_of_overflow (hquiet : s.IsQuiet) {descent : Descent}
    (hraw : (session.link.evaluate (Program.scanProgram name pattern) s).outcome = .returned raw)
    (hdeep : Response.overflow? session.link.levels (.text raw) = some descent) :
    (session.scan (.text name) (.text pattern) s).outcome = .raised (.stackExhausted descent) := by
  obtain ⟨succeed, hscan⟩ := scan_eq session (.text name) (.text pattern)
  rw [hscan, Program.scanPattern_eq, (build_ok_bind _ _ _).1]
  exact outcome_of_overflow hquiet hdeep hraw

/-- With a list of matches, a scan either returns or names an entry. -/
theorem IsExact.of_list {entries : List Value}
    (hexact : session.IsExact name pattern s (some (.list entries))) :
    (∃ found, (session.scan (.text name) (.text pattern) s).outcome = .returned found) ∨
      ∃ bad, (session.scan (.text name) (.text pattern) s).outcome = .raised (.badMatch bad) := by
  rcases Value.pointers_or_bad entries with ⟨ns, hall⟩ | ⟨good, bad, rest, ns, rfl, hgood, hbad⟩
  · obtain ⟨found, hfound, -⟩ := hexact.found entries ns rfl hall
    exact .inl ⟨found, hfound⟩
  · exact .inr ⟨bad, (hexact.refused good bad rest ns rfl hgood hbad).1⟩

theorem not_isExact_of_scanFailed {reason : String} (entries : List Value)
    (houtcome : (session.scan (.text name) (.text pattern) s).outcome =
      .raised (.scanFailed reason)) :
    ¬session.IsExact name pattern s (some (.list entries)) := by
  intro hexact
  rcases hexact.of_list with ⟨found, hfound⟩ | ⟨bad, hbad⟩
  · cases houtcome.symm.trans hfound
  · cases houtcome.symm.trans hbad

/-- A scan that exhausts the stack is not exact, with a list of matches or without one. -/
theorem not_isExact_of_stackExhausted {descent : Descent} (matched : Option Value)
    (houtcome : (session.scan (.text name) (.text pattern) s).outcome =
      .raised (.stackExhausted descent)) : ¬session.IsExact name pattern s matched := by
  intro hexact
  by_cases hlist : ∃ entries, matched = some (.list entries)
  · obtain ⟨entries, rfl⟩ := hlist
    rcases hexact.of_list with ⟨found, hfound⟩ | ⟨bad, hbad⟩
    · cases houtcome.symm.trans hfound
    · cases houtcome.symm.trans hbad
  · have hraises := (hexact.missing (not_exists.mp hlist)).1
    rw [Result.raises_iff houtcome] at hraises
    cases hraises

/-- Without a list of matches a scan fails as it should, for whatever reason it does. -/
theorem isExact_of_scanFailed (hquiet : s.IsQuiet) (hheard : s.observer.isSome = true)
    {reason : String} {matched : Option Value}
    (hother : ∀ entries, matched ≠ some (.list entries))
    (houtcome : (session.scan (.text name) (.text pattern) s).outcome =
      .raised (.scanFailed reason)) : session.IsExact name pattern s matched where
  found entries _ hmatched := absurd hmatched (hother entries)
  pointers _ hmatched := absurd hmatched (hother _)
  refused _ _ _ _ hmatched := absurd hmatched (hother _)
  missing _ :=
    ⟨⟨_, houtcome, rfl⟩, eventsOf_scan_of_raised session name pattern hquiet hheard houtcome⟩

/-- **A scan is exact, and finds all or nothing, exactly when** the answer does not go too deep to be
read, and no whole number in it is too long or there is no list of matches in it. The answer is any
text of an object that reports success. -/
theorem isExact_iff (hquiet : s.IsQuiet) (hheard : s.observer.isSome = true) {short : Bool}
    {members : List (FieldName × Value)}
    (hraw : (session.link.evaluate (Program.scanProgram name pattern) s).outcome = .returned raw)
    (htext : IsTextOf short (.object members) raw.toList)
    (hok : Value.last? "ok" members = some (.bool true)) :
    session.IsExact name pattern s (Value.last? "matches" members) ↔ session.Reads raw ∧
      (short = true ∨ ∀ entries, Value.last? "matches" members ≠ some (.list entries)) := by
  cases hdeep : Response.overflow? session.link.levels (.text raw) with
  | some descent =>
      have houtcome := outcome_scan_of_overflow hquiet hraw hdeep
      refine iff_of_false (not_isExact_of_stackExhausted _ houtcome) fun ⟨hreads, _⟩ => ?_
      cases hdeep.symm.trans hreads
  | none =>
      have hreads : session.Reads raw := hdeep
      rw [and_iff_right hreads]
      cases short with
      | true => exact iff_of_true (isExact_of_success hquiet hheard hreads hraw htext hok) (.inl rfl)
      | false =>
          obtain ⟨reason, houtcome⟩ := outcome_scan_of_long hquiet hreads hraw htext
          constructor
          · intro hexact
            right
            intro entries hmatched
            rw [hmatched] at hexact
            exact not_isExact_of_scanFailed entries houtcome hexact
          · intro hshort
            exact isExact_of_scanFailed hquiet hheard (hshort.resolve_left Bool.false_ne_true)
              houtcome

/-! ### A host with one answer -/

/-- An object that reports success, with matches that are written so. -/
def matching (written : List Char) : String :=
  String.ofList (Json.answer true "matches".toList written)

theorem isTextOf_matching {short : Bool} {v : Value} {written : List Char}
    (hwritten : Json.IsText short (.value v) written) :
    IsTextOf short (.object [(.text "ok", .bool true), (.text "matches", v)])
      (matching written).toList :=
  Json.isTextOf_answer true (by decide : "matches".toList.all Json.isLiteral = true) hwritten

theorem openings_matching (written : List Char) :
    Json.openings (matching written).toList = Json.openings written + 1 := by
  rw [matching, String.toList_ofList, Json.openings_answer]
  simp [Json.openings, Json.isOpening]

/-- Matches between brackets, with none inside them, can be read. -/
theorem reads_matching {written : List Char} (hflat : Json.openings written ≤ 1) :
    (make {} true).Reads (matching written) := by
  have hmatching : Json.openings (matching written).toList ≤ 2 := by
    rw [openings_matching]
    exact Nat.succ_le_succ hflat
  exact reads_of_openings_le (hmatching.trans (by decide))

/-- A pointer in base sixteen, and a number below zero. -/
theorem mixed_matches_are_exact :
    (make {} true).IsExact "m" "00" (.answering (matching "[\"0x10\", -1]".toList))
      (some (.list [.written 16, .int (-1)])) := by
  have hgap : Json.IsGap [] := fun c hmem => by cases hmem
  have hspace : Json.IsGap [' '] := by simp [Json.IsGap]
  have hdigits : Json.AreDigits ['1'] := by
    intro c hmem
    obtain rfl := List.mem_singleton.mp hmem
    decide
  have hone : Json.IsText true (.value (.int (-1))) ['-', '1'] :=
    .atom (.minus (.whole (.digits (by decide) hdigits)))
  have hentries := Json.IsText.list hgap (.nextItem
    (Json.reads_string (Json.isLiteral_string_hex 16)) hgap hspace (.lastItem hone hgap))
  have hreads : (make {} true).Reads (matching "[\"0x10\", -1]".toList) :=
    reads_matching (by decide)
  exact (isExact_iff (Surroundings.isQuiet_answering _) rfl (Surroundings.evaluate_answering _ _)
    (isTextOf_matching hentries) rfl).mpr ⟨hreads, .inl rfl⟩

/-- A number of as many ones, and one more, is the only match. -/
def matchingOnes (ones : Nat) : String :=
  matching ('[' :: (List.replicate (ones + 1) '1' ++ [']']))

/-- A match of one digit too many is lost, and with it all that the scan found. -/
theorem long_match_is_lost :
    ∃ n, IsTextOf false (.object [(.text "ok", .bool true), (.text "matches", .list [.int n])])
        (matchingOnes 4300).toList ∧
      ¬(make {} true).IsExact "m" "00" (.answering (matchingOnes 4300))
        (some (.list [.int n])) := by
  obtain ⟨n, hones⟩ := Json.isText_ones 4300
  have htext := isTextOf_matching (Json.isText_single hones)
  have hflat : Json.openings ('[' :: (List.replicate 4301 '1' ++ [']'])) = 1 := by
    rw [Json.openings_cons_of_isOpening rfl, Json.openings_append, Json.openings_replicate rfl]
    rfl
  have hraised : ∃ reason, ((make {} true).scan (.text "m") (.text "00")
      (.answering (matchingOnes 4300))).outcome = .raised (.scanFailed reason) :=
    outcome_scan_of_long (Surroundings.isQuiet_answering _) (reads_matching hflat.le)
      (Surroundings.evaluate_answering _ _) htext
  obtain ⟨reason, houtcome⟩ := hraised
  exact ⟨n, htext, not_isExact_of_scanFailed _ houtcome⟩

end Session

end HostLink
