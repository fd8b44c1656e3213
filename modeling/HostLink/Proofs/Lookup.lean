import HostLink.Proofs.Scan

/-!
# What a lookup comes to

A symbolic spec comes to the pointer that the host gives, with the offset added to it, or it is
given up. A pointer at zero, a sum that wraps around to zero and a pointer that is missing are kept
apart by what the observer hears.
-/

namespace HostLink

open Text
open Json (IsTextOf)

/-! ### From a pointer to its place -/

namespace Descriptor

/-- What is added to the pointer that the host gives. -/
def shift : Descriptor → Except Fault Int
  | .moduleOffset _ offset => (Offset.parse offset).map fun n => (n.toNat : Int)
  | _ => .ok 0

theorem place_of_shift {d : Descriptor} {n : Int} (hshift : d.shift = .ok n) (p : Int) :
    d.place (some (.ofInt p)) = .ok (some (.ofInt (p + n))) := by
  cases d with
  | moduleOffset name offset =>
      rw [shift] at hshift
      rw [place]
      cases hparse : Offset.parse offset with
      | error fault =>
          rw [hparse] at hshift
          cases hshift
      | ok a =>
          rw [hparse] at hshift
          obtain rfl := Except.ok.inj hshift
          exact congrArg (fun sum => Except.ok (some sum)) (Address.add_ofInt p a.toNat)
  | _ =>
      obtain rfl := Except.ok.inj hshift
      rw [Int.add_zero]
      rfl

/-- The offset from a base can be read. -/
def HasShortOffset (d : Descriptor) : Prop :=
  ∀ name offset, d = .moduleOffset name offset → Offset.isOverlong (trimmed offset) = false

theorem HasShortOffset.exists_shift {d : Descriptor} (hshort : d.HasShortOffset) :
    ∃ n, d.shift = .ok n := by
  cases d with
  | moduleOffset name offset =>
      obtain ⟨a, hparse⟩ := Offset.parse_of_not_isOverlong (hshort name offset rfl)
      exact ⟨a.toNat, by rw [shift, hparse]; rfl⟩
  | _ => exact ⟨0, rfl⟩

theorem ofTrimmed_main : ofTrimmed (trimmed "main") = .bareSymbol "main" := by
  decide

theorem request?_main : (ofTrimmed (trimmed "main")).request? =
    some ⟨.resolveExport, Program.exportProgram none "main"⟩ := by
  rw [ofTrimmed_main, request?]

end Descriptor

/-! ### The pointer in an answer -/

namespace Response

theorem pointer?_of_undecodable {raw : String} (hnone : object? (.text raw) = none) :
    pointer? raw = none := by
  rw [pointer?, decode_of_undecodable hnone]
  rfl

theorem pointer?_of_isTextOf {raw : String} {members : List (FieldName × Value)}
    (htext : IsTextOf true (.object members) raw.toList) :
    pointer? raw = (Value.last? Request.resultField members).bind Address.ofPointer? := by
  obtain ⟨fields, hobject, -, hlast⟩ := Response.exists_object? htext
  rw [pointer?_of_object? hobject, hlast]

theorem pointer?_of_pointsTo {raw : String} {members : List (FieldName × Value)} {v : Value}
    {p : Int} (htext : IsTextOf true (.object members) raw.toList)
    (hv : Value.last? Request.resultField members = some v) (hp : v.PointsTo p) :
    pointer? raw = some (.ofInt p) := by
  rw [pointer?_of_isTextOf htext, hv, Option.bind_some,
    Address.ofPointer?_eq_some_iff hp.isPlain]
  exact ⟨p, hp, rfl⟩

theorem pointer?_of_missing {short : Bool} {raw : String} {members : List (FieldName × Value)}
    (htext : IsTextOf short (.object members) raw.toList)
    (hnone : ∀ v, Value.last? Request.resultField members = some v → ∀ p, ¬v.PointsTo p) :
    pointer? raw = none := by
  cases short with
  | false => exact pointer?_of_undecodable (object?_eq_none_of_long htext)
  | true =>
      rw [pointer?_of_isTextOf htext, Option.bind_eq_none_iff]
      intro v hv
      have hplain : v.IsPlain := htext.isPlain_of_last? hv
      rw [← Address.ofMatch?_eq_ofPointer?, Address.ofMatch?_eq_none_iff hplain]
      exact hnone v hv

end Response

namespace Session

variable {session : Session} {s : Surroundings} {text raw : String} {request : Request}

/-- With an entry point, no failure of an evaluation is that there is none. -/
theorem kind_of_evaluate_raised {program : String} {fault : Fault}
    (hsome : session.link.candidatesIn s.host ≠ [])
    (hraised : (session.link.evaluate program s).outcome = .raised fault) :
    fault.kind ≠ .noEntryPoint := by
  have hsuits : Link.Suits session.link.settings.timeout
      { fault := fun fault => fault.kind ≠ .noEntryPoint } :=
    ⟨fun _ _ _ _ => trivial, fun _ hkind => hkind, .inl trivial, fun _ _ => trivial,
      fun _ _ _ => trivial⟩
  have hallows := (hsuits.holds_evaluate hsome trivial program).outcome
  rwa [hraised] at hallows

/-! ### Lookups of symbolic specs -/

theorem resolve_of_found (hquiet : s.IsQuiet) (hheard : s.observer.isSome = true)
    (hsymbolic : (Value.text text).IsSymbolic)
    (hrequest : (Descriptor.ofTrimmed (trimmed text)).request? = some request)
    {found placed : Option Address} (hfound : (session.lookup request s).outcome = .returned found)
    (hplace : (Descriptor.ofTrimmed (trimmed text)).place found = .ok placed) :
    (session.resolve (.text text) s).outcome = .returned (placed.getD .zero) ∧
      (session.resolve (.text text) s).journal.eventsOf .resolved =
        [.resolved (.text text) (placed.getD .zero) placed.isSome] := by
  obtain ⟨_, heq, hink, hhex⟩ := hsymbolic
  obtain rfl := Value.text.inj heq
  obtain ⟨houtcome, -, hevents⟩ :=
    resolveWithHost_of_placed (.text text) hquiet hrequest hfound hplace
  rw [resolve_of_symbolic session hink hhex]
  refine ⟨houtcome, ?_⟩
  rw [hevents, Surroundings.told, if_pos hheard]
  rfl

theorem isUnresolved_of_lookup (hquiet : s.IsQuiet) (hheard : s.observer.isSome = true)
    (hsymbolic : (Value.text text).IsSymbolic)
    (hrequest : (Descriptor.ofTrimmed (trimmed text)).request? = some request)
    (hnone : (session.lookup request s).outcome = .returned none) :
    IsUnresolved (.text text) (session.resolve (.text text) s) :=
  resolve_of_found hquiet hheard hsymbolic hrequest hnone (Descriptor.place_none _)

/-- A spec that was resolved or given up is told once, with the address that is returned. -/
theorem eventsOf_resolve (hquiet : s.IsQuiet) (hheard : s.observer.isSome = true)
    (hsymbolic : (Value.text text).IsSymbolic) :
    (∀ a, (session.resolve (.text text) s).outcome = .returned a → ∃ succeeded,
      (session.resolve (.text text) s).journal.eventsOf .resolved =
        [.resolved (.text text) a succeeded]) ∧
    ((∀ a, (session.resolve (.text text) s).outcome ≠ .returned a) →
      (session.resolve (.text text) s).journal.eventsOf .resolved = []) := by
  obtain ⟨_, heq, hink, hhex⟩ := hsymbolic
  obtain rfl := Value.text.inj heq
  obtain ⟨request, hrequest⟩ := Descriptor.request?_ofTrimmed hhex
  have hspec : (Value.text text).request? = some request := by
    rw [Value.request?, if_pos hink, hrequest]
  have hother : ∀ e ∈ session.heard ⟨request.program, s⟩, e.kind ≠ .resolved := by
    intro e hmem
    rcases kind_of_mem_heard hmem with hkind | hkind <;> simp [hkind]
  have hkind : ∀ (a : Address) (e : Event),
      (∃ succeeded, e = .resolved (.text text) a succeeded) → e.kind = .resolved := by
    rintro a e ⟨succeeded, rfl⟩
    rfl
  obtain ⟨hreturned, hraised⟩ :=
    (concludes_resolve hquiet hheard hspec).eventsOf hother hkind
  refine ⟨fun a ha => ?_, hraised⟩
  obtain ⟨e, ⟨succeeded, rfl⟩, hevents⟩ := hreturned a ha
  exact ⟨succeeded, hevents⟩

/-- A symbolic spec is looked up with this program as it is described. -/
structure LooksUpAsDescribed (session : Session) (text program : String) (s : Surroundings) :
    Prop where
  failed : ∀ fault, (session.link.evaluate program s).outcome = .raised fault →
    IsUnresolved (.text text) (session.resolve (.text text) s)
  undecodable : ∀ raw, (session.link.evaluate program s).outcome = .returned raw →
    (∀ short members, ¬IsTextOf short (.object members) raw.toList) →
    IsUnresolved (.text text) (session.resolve (.text text) s)
  missing : ∀ raw short members, (session.link.evaluate program s).outcome = .returned raw →
    IsTextOf short (.object members) raw.toList →
    (∀ v, Value.last? Request.resultField members = some v → ∀ p, ¬v.PointsTo p) →
    IsUnresolved (.text text) (session.resolve (.text text) s)
  found : ∀ raw short members v p, (session.link.evaluate program s).outcome = .returned raw →
    IsTextOf short (.object members) raw.toList →
    Value.last? "ok" members = some (.bool true) →
    Value.last? Request.resultField members = some v → v.PointsTo p →
    ∃ n a, (Descriptor.ofTrimmed (trimmed text)).shift = .ok n ∧
      (session.resolve (.text text) s).outcome = .returned a ∧
      (a.toNat : Int) = (p + n) % 2 ^ 32 ∧
      (session.resolve (.text text) s).journal.eventsOf .resolved = [.resolved (.text text) a true]
  /-- The event shows the spec as it was given, and the address by a text that is read as it. -/
  told : ∀ a, (session.resolve (.text text) s).outcome = .returned a →
    ∃ succeeded, (session.resolve (.text text) s).journal.eventsOf .resolved =
        [.resolved (.text text) a succeeded] ∧
      Address.ofText a.toText = .ok a ∧ (a = .zero → a.toText = "0x0")

/-- The answer reports success and gives a pointer, but a whole number in it is too long, or it goes
too deep. -/
def HidesPointer (session : Session) (program : String) (s : Surroundings) : Prop :=
  ∃ raw short members v p, (session.link.evaluate program s).outcome = .returned raw ∧
    IsTextOf short (.object members) raw.toList ∧
    Value.last? "ok" members = some (.bool true) ∧
    Value.last? Request.resultField members = some v ∧ v.PointsTo p ∧
    (short = false ∨ ¬session.Reads raw)

/-- A pointer that is read is resolved to, with the offset added. -/
theorem resolve_of_pointsTo (hquiet : s.IsQuiet) (hheard : s.observer.isSome = true)
    (hsymbolic : (Value.text text).IsSymbolic)
    (hrequest : (Descriptor.ofTrimmed (trimmed text)).request? = some request)
    (hshort : (Descriptor.ofTrimmed (trimmed text)).HasShortOffset)
    (hraw : (session.link.evaluate request.program s).outcome = .returned raw)
    (hreads : session.Reads raw) {members : List (FieldName × Value)}
    (htext : IsTextOf true (.object members) raw.toList) {v : Value} {p : Int}
    (hv : Value.last? Request.resultField members = some v) (hp : v.PointsTo p) :
    ∃ n a, (Descriptor.ofTrimmed (trimmed text)).shift = .ok n ∧
      (session.resolve (.text text) s).outcome = .returned a ∧
      (a.toNat : Int) = (p + n) % 2 ^ 32 ∧
      (session.resolve (.text text) s).journal.eventsOf .resolved =
        [.resolved (.text text) a true] := by
  obtain ⟨n, hshift⟩ := hshort.exists_shift
  have hfound := (lookup_of_returned hquiet hraw).1
  rw [pointer?_of_reads hreads, Response.pointer?_of_pointsTo htext hv hp] at hfound
  obtain ⟨houtcome, hevents⟩ := resolve_of_found hquiet hheard hsymbolic hrequest hfound
    (Descriptor.place_of_shift hshift p)
  exact ⟨n, _, hshift, houtcome, Address.toNat_ofInt _, hevents⟩

theorem looksUpAsDescribed_of_not_hidesPointer (hquiet : s.IsQuiet)
    (hheard : s.observer.isSome = true) (hsome : session.link.candidatesIn s.host ≠ [])
    (hsymbolic : (Value.text text).IsSymbolic)
    (hrequest : (Descriptor.ofTrimmed (trimmed text)).request? = some request)
    (hshort : (Descriptor.ofTrimmed (trimmed text)).HasShortOffset)
    (hopen : ¬session.HidesPointer request.program s) :
    session.LooksUpAsDescribed text request.program s := by
  have hgivenUp : ∀ raw, (session.link.evaluate request.program s).outcome = .returned raw →
      Response.pointer? raw = none →
      IsUnresolved (.text text) (session.resolve (.text text) s) := by
    intro raw hraw hnone
    apply isUnresolved_of_lookup hquiet hheard hsymbolic hrequest
    rw [(lookup_of_returned hquiet hraw).1, pointer?_eq_none_iff.mpr (.inr hnone)]
  refine ⟨?_, ?_, ?_, ?_, ?_⟩
  · intro fault hraised
    apply isUnresolved_of_lookup hquiet hheard hsymbolic hrequest
    exact lookup_of_raised hquiet hraised (kind_of_evaluate_raised hsome hraised)
  · intro raw hraw hother
    apply hgivenUp raw hraw
    apply Response.pointer?_of_undecodable
    rw [Option.eq_none_iff_forall_ne_some]
    intro fields hfields
    obtain ⟨members, htext, -⟩ := Response.object?_eq_some_iff.mp hfields
    exact hother true members htext
  · intro raw short members hraw htext hnone
    exact hgivenUp raw hraw (Response.pointer?_of_missing htext hnone)
  · intro raw short members v p hraw htext hok hv hp
    have hplain : ¬(short = false ∨ ¬session.Reads raw) :=
      fun hhides => hopen ⟨raw, short, members, v, p, hraw, htext, hok, hv, hp, hhides⟩
    obtain ⟨hnumbers, hreads⟩ := not_or.mp hplain
    obtain rfl := Bool.eq_true_of_not_eq_false hnumbers
    exact resolve_of_pointsTo hquiet hheard hsymbolic hrequest hshort hraw (not_not.mp hreads) htext
      hv hp
  · intro a hreturned
    obtain ⟨succeeded, hevents⟩ :=
      (eventsOf_resolve hquiet hheard hsymbolic).1 a hreturned
    refine ⟨succeeded, hevents, Address.ofText_toText a, ?_⟩
    rintro rfl
    decide

theorem isUnresolved_of_hidesPointer (hquiet : s.IsQuiet) (hheard : s.observer.isSome = true)
    (hsymbolic : (Value.text text).IsSymbolic)
    (hrequest : (Descriptor.ofTrimmed (trimmed text)).request? = some request)
    (hhidden : session.HidesPointer request.program s) :
    IsUnresolved (.text text) (session.resolve (.text text) s) := by
  obtain ⟨raw, short, members, v, p, hraw, htext, -, -, -, hhides⟩ := hhidden
  have hnone : session.pointer? raw = none := by
    rcases hhides with rfl | hdeep
    · exact pointer?_eq_none_iff.mpr
        (.inr (Response.pointer?_of_undecodable (Response.object?_eq_none_of_long htext)))
    · exact pointer?_eq_none_iff.mpr (.inl hdeep)
  apply isUnresolved_of_lookup hquiet hheard hsymbolic hrequest
  rw [(lookup_of_returned hquiet hraw).1, hnone]

theorem not_looksUpAsDescribed {program : String}
    (hunresolved : IsUnresolved (.text text) (session.resolve (.text text) s))
    (hhidden : session.HidesPointer program s) : ¬session.LooksUpAsDescribed text program s := by
  intro hdescribed
  obtain ⟨raw, short, members, v, p, hraw, htext, hok, hv, hp, -⟩ := hhidden
  obtain ⟨n, a, -, -, -, hevents⟩ := hdescribed.found raw short members v p hraw htext hok hv hp
  have hsame := hunresolved.2.symm.trans hevents
  simp at hsame

/-- **A symbolic spec is looked up as described exactly when** the host does not give a pointer
beside a whole number that is too long to be read, or beside a member that goes too deep. There is an
entry point, and the offset can be read; the host may fail, stall or answer with any text. -/
theorem looksUpAsDescribed_iff (hquiet : s.IsQuiet) (hheard : s.observer.isSome = true)
    (hsome : session.link.candidatesIn s.host ≠ []) (hsymbolic : (Value.text text).IsSymbolic)
    (hrequest : (Descriptor.ofTrimmed (trimmed text)).request? = some request)
    (hshort : (Descriptor.ofTrimmed (trimmed text)).HasShortOffset) :
    session.LooksUpAsDescribed text request.program s ↔
      ¬session.HidesPointer request.program s := by
  constructor
  · intro hdescribed hhidden
    exact not_looksUpAsDescribed
      (isUnresolved_of_hidesPointer hquiet hheard hsymbolic hrequest hhidden) hhidden hdescribed
  · exact looksUpAsDescribed_of_not_hidesPointer hquiet hheard hsome hsymbolic hrequest hshort

/-! ### A host with one answer -/

theorem isSymbolic_main : (Value.text "main").IsSymbolic :=
  ⟨"main", rfl, by decide, by decide⟩

theorem candidatesIn_answering (raw : String) :
    (make {} true).link.candidatesIn (Surroundings.answering raw).host ≠ [] := by
  intro hnone
  have hraised := Link.evaluate_of_no_candidates (s := .answering raw) hnone ""
  cases (congrArg Result.outcome hraised).symm.trans (Surroundings.evaluate_answering "" raw)

theorem not_hidesPointer_answering {program : String} {members : List (FieldName × Value)}
    (hreads : (make {} true).Reads raw) (htext : IsTextOf true (.object members) raw.toList) :
    ¬(make {} true).HidesPointer program (.answering raw) := by
  rintro ⟨other, short, members', v, p, hraw, hother, hok, -, -, hhides⟩
  obtain rfl := Outcome.returned.inj ((Surroundings.evaluate_answering program raw).symm.trans hraw)
  obtain rfl := hhides.resolve_right (not_not_intro hreads)
  exact Response.not_reportsSuccess_of_short htext ⟨members', hother, hok⟩

theorem isTextOf_pointerTo (n : Nat) :
    IsTextOf true (.object [(.text "ok", .bool true), (.text Request.resultField, .written n)])
      (Response.pointerTo n).toList :=
  Json.isTextOf_answer true (by decide : "__r".toList.all Json.isLiteral = true)
    (Json.reads_string (Json.isLiteral_string_hex n))

/-- A base and an offset that add up to 2^32 are found, at zero. -/
theorem sum_that_wraps_is_found :
    (make {} true).LooksUpAsDescribed "m:16" (Program.baseProgram "m")
        (.answering (Response.pointerTo 4294967280)) ∧
      ((make {} true).resolve (.text "m:16")
        (.answering (Response.pointerTo 4294967280))).outcome = .returned .zero ∧
      ((make {} true).resolve (.text "m:16")
        (.answering (Response.pointerTo 4294967280))).journal.eventsOf .resolved =
          [.resolved (.text "m:16") .zero true] := by
  have hoffset : Descriptor.ofTrimmed (trimmed "m:16") = .moduleOffset "m" "16" := by decide
  have hshort : (Descriptor.ofTrimmed (trimmed "m:16")).HasShortOffset := by
    rw [hoffset]
    rintro _ _ ⟨⟩
    decide
  have hshift : (Descriptor.ofTrimmed (trimmed "m:16")).shift = .ok 16 := by
    rw [hoffset]
    rfl
  have htext := isTextOf_pointerTo 4294967280
  have hraw := Surroundings.evaluate_answering (Program.baseProgram "m")
    (Response.pointerTo 4294967280)
  have hrequest : (Descriptor.ofTrimmed (trimmed "m:16")).request? =
      some ⟨.resolveModuleBase, Program.baseProgram "m"⟩ := by
    rw [hoffset, Descriptor.request?]
  have hdescribed := (looksUpAsDescribed_iff (Surroundings.isQuiet_answering _) rfl
    (candidatesIn_answering _) ⟨"m:16", rfl, by decide, by decide⟩ hrequest hshort).mpr
      (not_hidesPointer_answering
        (reads_of_openings_eq_one (Response.openings_pointerTo 4294967280)) htext)
  refine ⟨hdescribed, ?_⟩
  obtain ⟨n, a, hn, houtcome, hsum, hevents⟩ :=
    hdescribed.found _ true _ _ 4294967280 hraw htext rfl rfl (Value.pointsTo_written _)
  obtain rfl := Except.ok.inj (hshift.symm.trans hn)
  have hzero : a = .zero := by
    rw [← Address.ofInt_toNat a, hsum]
    decide
  rw [← hzero]
  exact ⟨houtcome, hevents⟩

/-- A pointer, and a number of as many ones and one more beside it. -/
def pointerBeside (n ones : Nat) : String :=
  String.ofList (Json.enclosed (Json.string "ok".toList ++ ':' :: (Json.word true ++ ',' ::
    (Json.string "__r".toList ++ ':' :: (Json.string ('0' :: 'x' :: hex n) ++ ',' ::
      (Json.string "n".toList ++ ':' :: List.replicate (ones + 1) '1'))))))

theorem hidesPointer_pointerBeside (program : String) (n : Nat) :
    (make {} true).HidesPointer program (.answering (pointerBeside n decimalDigitLimit)) := by
  obtain ⟨m, hones⟩ := Json.isText_ones decimalDigitLimit
  have hmembers := Json.isText_nextMember (by decide : "ok".toList.all Json.isLiteral = true)
    (.atom (.bool true)) (Json.isText_nextMember
      (by decide : "__r".toList.all Json.isLiteral = true)
      (Json.reads_string (Json.isLiteral_string_hex n))
      (Json.isText_lastMember (by decide : "n".toList.all Json.isLiteral = true) hones))
  rw [String.ofList_toList, String.ofList_toList, String.ofList_toList] at hmembers
  have htext : IsTextOf false (.object [(.text "ok", .bool true),
      (.text Request.resultField, .written n), (.text "n", .int m)])
      (pointerBeside n decimalDigitLimit).toList := by
    rw [pointerBeside, String.toList_ofList]
    exact (Json.isText_enclosed hmembers).isTextOf
  exact ⟨_, _, _, _, n, Surroundings.evaluate_answering program _, htext, rfl, rfl,
    Value.pointsTo_written n, .inl rfl⟩

/-- A pointer is given up for a number of one digit too many beside it. -/
theorem pointer_beside_long_number_is_given_up :
    ¬(make {} true).LooksUpAsDescribed "main" (Program.exportProgram none "main")
      (.answering (pointerBeside 16 4300)) := by
  have hhidden : (make {} true).HidesPointer (Program.exportProgram none "main")
      (.answering (pointerBeside 16 4300)) := hidesPointer_pointerBeside _ 16
  exact not_looksUpAsDescribed (isUnresolved_of_hidesPointer (Surroundings.isQuiet_answering _) rfl
    isSymbolic_main Descriptor.request?_main hhidden) hhidden

end Session

end HostLink
