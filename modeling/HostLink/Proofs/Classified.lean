import HostLink.Proofs.Scan

/-!
# What becomes of an answer

Every text is an answer. One that is a JSON object is kept with all its fields, and its last word on
success says whether there was one; any other is a failure, with itself for the reason. The strict
reading refuses the answers that are no objects and agrees with the other reading on the rest. Only
an object with a whole number that is too long is not told from what is no object.
-/

namespace HostLink

open Text
open Json (IsTextOf)

/-! ### Values that show something -/

namespace Value

theorem decimalInt_ne_nil (n : Int) : decimalInt n ≠ [] := by
  unfold decimalInt
  split
  · exact List.cons_ne_nil _ _
  · exact Nat.toDigits_ne_nil

/-- **What counts as present has a text with something in it.** -/
theorem IsPlain.text_ne_nil {v : Value} (hv : v.IsPlain) (hpresent : v.isPresent = true)
    {s : List Char} (hs : v.text? = some s) : s ≠ [] := by
  cases hv with
  | null => cases hpresent
  | bool b =>
      obtain rfl := Option.some.inj hs
      cases b <;> decide
  | int n =>
      have hwritten : decimalInt? n = some s := hs
      unfold decimalInt? at hwritten
      split at hwritten
      · obtain rfl := Option.some.inj hwritten
        exact decimalInt_ne_nil n
      · cases hwritten
  | float x =>
      obtain rfl := Option.some.inj hs
      exact x.text_ne_nil
  | text t =>
      obtain rfl := Option.some.inj hs
      simpa [isPresent] using hpresent
  | ragged hps =>
      obtain rfl := Option.some.inj hs
      simpa [isPresent] using hpresent
  | list hall =>
      obtain ⟨parts, -, rfl⟩ := Option.map_eq_some_iff.mp hs
      exact List.cons_ne_nil _ _
  | record fields =>
      obtain ⟨parts, -, rfl⟩ := Option.map_eq_some_iff.mp hs
      exact List.cons_ne_nil _ _

end Value

namespace Response

variable {raw : String} {response : Response}

/-! ### Responses and their reasons -/

/-- A success has no reason, and a failure has one with something in it. -/
structure GivesReason (response : Response) : Prop where
  success : response.ok = true → response.error = .null
  failure : response.ok = false → ∃ reason, reason ≠ "" ∧ response.error = .text reason

theorem givesReason_of_failure {fields : List (FieldName × Value)} {reason : String}
    (hreason : reason ≠ "") (raw : Value) : GivesReason ⟨false, fields, .text reason, raw⟩ where
  success hok := by cases hok
  failure _ := ⟨reason, hreason, rfl⟩

theorem givesReason_ofUndecodable (raw : String) : (ofUndecodable (.text raw)).GivesReason := by
  rw [ofUndecodable_text]
  exact givesReason_of_failure (unknown_or_ne_empty raw) _

theorem exists_ofObject {fields : List (FieldName × Value)} (raw : Value)
    (hprintable : ((Value.field? "error" fields).getD .null).IsPrintable)
    (hplain : ((Value.field? "error" fields).getD .null).IsPlain) :
    ∃ response, ofObject fields raw = .ok response ∧ response.payload = fields ∧
      response.raw = raw ∧ response.GivesReason := by
  unfold ofObject
  split
  · exact ⟨_, rfl, rfl, rfl, fun _ => rfl, fun hok => by cases hok⟩
  · dsimp only
    split
    · rename_i hpresent
      obtain ⟨text, htext⟩ := Value.text?_of_isPrintable hprintable
      have hne : String.ofList text ≠ "" := by
        simpa using hplain.text_ne_nil hpresent htext
      rw [Value.toText, htext]
      exact ⟨_, rfl, rfl, rfl, givesReason_of_failure hne raw⟩
    · exact ⟨_, rfl, rfl, rfl, givesReason_of_failure (by decide) raw⟩

/-! ### Two readings -/

theorem decodeStrict_eq_decode {raw : Value} {fields : List (FieldName × Value)}
    (hobject : object? raw = some fields) : decodeStrict raw = decode raw := by
  rw [decodeStrict, decode, hobject]

theorem decodeStrict_of_undecodable (hnone : object? (.text raw) = none) :
    decodeStrict (.text raw) = .error (.undecodableResponse (.text raw)) := by
  rw [decodeStrict, hnone]
  rfl

/-- **What the strict reading makes of an answer the other one makes of it too.** -/
theorem decode_of_decodeStrict {raw : Value} (hstrict : decodeStrict raw = .ok response) :
    decode raw = .ok response := by
  cases hobject : object? raw with
  | some fields => rw [← decodeStrict_eq_decode hobject, hstrict]
  | none =>
      rw [decodeStrict, hobject] at hstrict
      cases hstrict

/-! ### Answers -/

/-- The answer is a JSON object, and a whole number in it is too long to be read. -/
def IsOverlong (raw : String) : Prop :=
  ∃ members, IsTextOf false (.object members) raw.toList

/-- The answer is no JSON object, whatever the length of its numbers. -/
def IsNoObject (raw : String) : Prop :=
  ∀ short members, ¬IsTextOf short (.object members) raw.toList

/-- What a response tells of the answer that it was made from. -/
structure Reflects (response : Response) (raw : String) : Prop where
  keeps : response.raw = .text raw
  success : response.ok = true ↔ ∃ short, ReportsSuccess short raw
  reason : response.GivesReason
  /-- Of a repeated name the last value counts. -/
  fields : ∀ short members, IsTextOf short (.object members) raw.toList →
    Value.ofFields members = .record response.payload
  noFields : IsNoObject raw → response.payload = []

/-- What becomes of an answer in both readings. -/
structure IsClassified (raw : String) : Prop where
  decodes : ∃ response, decode (.text raw) = .ok response ∧ response.Reflects raw
  /-- An answer that is no object is its own reason. -/
  decodes_noObject : IsNoObject raw → decode (.text raw) =
    .ok ⟨false, [], .text (if raw = "" then "unknown" else raw), .text raw⟩
  agrees : ∀ response, decodeStrict (.text raw) = .ok response →
    decode (.text raw) = .ok response
  accepts : ¬IsNoObject raw → ∃ response, decodeStrict (.text raw) = .ok response
  refuses : IsNoObject raw →
    decodeStrict (.text raw) = .error (.undecodableResponse (.text raw))

theorem IsNoObject.reflects (hother : IsNoObject raw) :
    (ofUndecodable (.text raw)).Reflects raw where
  keeps := rfl
  success := iff_of_false Bool.false_ne_true fun ⟨short, members, htext, _⟩ =>
    hother short members htext
  reason := givesReason_ofUndecodable raw
  fields short members htext := absurd htext (hother short members)
  noFields _ := rfl

theorem isClassified_of_isNoObject (hother : IsNoObject raw) : IsClassified raw := by
  have hnone := object?_eq_none_of_other hother
  have hdecode := decode_of_undecodable hnone
  exact {
    decodes := ⟨_, hdecode, hother.reflects⟩
    decodes_noObject := fun _ => hdecode.trans (congrArg _ (ofUndecodable_text raw))
    agrees := fun _ => decode_of_decodeStrict
    accepts := fun hobject => absurd hother hobject
    refuses := fun _ => decodeStrict_of_undecodable hnone }

section Objects

variable {members : List (FieldName × Value)}

theorem isPlain_error (htext : IsTextOf true (.object members) raw.toList) :
    ((Value.last? "error" members).getD .null).IsPlain := by
  cases herror : Value.last? "error" members with
  | none => exact .null
  | some v => exact htext.isPlain_of_last? herror

theorem reportsSuccess_iff_of_isTextOf (htext : IsTextOf true (.object members) raw.toList) :
    (∃ short, ReportsSuccess short raw) ↔ ReportsSuccess true raw := by
  refine ⟨?_, fun hsuccess => ⟨true, hsuccess⟩⟩
  rintro ⟨short, others, hother, hok⟩
  exact ⟨others, (htext.unique hother).1 ▸ hother, hok⟩

theorem exists_reflects_of_object (htext : IsTextOf true (.object members) raw.toList) :
    ∃ response, decode (.text raw) = .ok response ∧ response.Reflects raw := by
  obtain ⟨fields, hobject, hfields, hlast⟩ := exists_object? htext
  obtain ⟨response, hresponse, hpayload, hraw, hreason⟩ := exists_ofObject (.text raw)
    (Value.isPrintable_of_field? "error" (isPrintable_of_object? hobject))
    (hlast "error" ▸ isPlain_error htext)
  have hdecode : decode (.text raw) = .ok response := by
    rw [decode, hobject]
    exact hresponse
  refine ⟨response, hdecode, hraw, ?_, hreason, ?_, ?_⟩
  · rw [ok_iff_reportsSuccess hdecode, reportsSuccess_iff_of_isTextOf htext]
  · intro short others hother
    rw [(htext.unique hother).2, hfields, hpayload]
  · exact fun hother => absurd htext (hother true members)

theorem isClassified_of_object (htext : IsTextOf true (.object members) raw.toList) :
    IsClassified raw := by
  obtain ⟨response, hdecode, hreflects⟩ := exists_reflects_of_object htext
  obtain ⟨fields, hobject, -⟩ := exists_object? htext
  have hsome : ¬IsNoObject raw := fun hother => hother true members htext
  exact {
    decodes := ⟨response, hdecode, hreflects⟩
    decodes_noObject := fun hother => absurd hother hsome
    agrees := fun _ => decode_of_decodeStrict
    accepts := fun _ => ⟨response, (decodeStrict_eq_decode hobject).trans hdecode⟩
    refuses := fun hother => absurd hother hsome }

end Objects

theorem IsOverlong.not_isClassified (hlong : IsOverlong raw) : ¬IsClassified raw := by
  obtain ⟨members, htext⟩ := hlong
  intro hclassified
  obtain ⟨response, hstrict⟩ := hclassified.accepts fun hother => hother false members htext
  cases hstrict.symm.trans (decodeStrict_of_undecodable (object?_eq_none_of_long htext))

/-- **An answer is classified by what it says**, unless it is an object with a whole number that is
too long to be read. -/
theorem isClassified_iff : IsClassified raw ↔ ¬IsOverlong raw := by
  refine ⟨fun hclassified hlong => hlong.not_isClassified hclassified, fun hshort => ?_⟩
  by_cases hother : IsNoObject raw
  · exact isClassified_of_isNoObject hother
  · simp only [IsNoObject, not_forall, not_not] at hother
    obtain ⟨short, members, htext⟩ := hother
    cases short with
    | true => exact isClassified_of_object htext
    | false => exact absurd ⟨members, htext⟩ hshort

theorem success_beside_short_number : ∃ response,
    decode (.text (Session.successBeside 0)) = .ok response ∧ response.ok = true ∧
      response.error = .null := by
  obtain ⟨members, htext, hok⟩ := Session.reportsSuccess_successBeside 0
  have hclassified := isClassified_iff.mpr fun ⟨_, hlong⟩ => htext.not_long hlong
  obtain ⟨response, hresponse, hreflects⟩ := hclassified.decodes
  have hsuccess := hreflects.success.mpr ⟨true, members, htext, hok⟩
  exact ⟨response, hresponse, hsuccess, hreflects.reason.success hsuccess⟩

theorem success_beside_long_number : ¬IsClassified (Session.successBeside 4300) := by
  obtain ⟨members, htext, -⟩ := Session.reportsSuccess_successBeside 4300
  exact IsOverlong.not_isClassified ⟨members, htext⟩

end Response

end HostLink
