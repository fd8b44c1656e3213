import HostLink.Proofs.Json
import HostLink.Request
import HostLink.Response

/-!
# Answers as text

Any text is an answer. One that is a JSON object keeps all its fields, whether or not it reports
success, and its pointer is looked for among them.
-/

namespace HostLink

namespace Value

theorem mem_of_field? {name : FieldName} {fields : List (FieldName × Value)} {v : Value}
    (hfield : field? name fields = some v) : (name, v) ∈ fields := by
  obtain ⟨left, right, rfl, -⟩ := List.lookup_eq_some_iff.mp hfield
  simp

theorem isPrintable_of_field? (name : FieldName) {fields : List (FieldName × Value)}
    (hall : ∀ field ∈ fields, field.2.IsPrintable) :
    ((field? name fields).getD .null).IsPrintable := by
  unfold field?
  cases hlookup : fields.lookup name with
  | none => exact ⟨_, by rw [Option.getD_none, quoted?]⟩
  | some v => exact hall _ (mem_of_field? hlookup)

end Value

namespace Response

theorem isPrintable_of_object? {raw : Value} {fields : List (FieldName × Value)}
    (hobject : object? raw = some fields) : ∀ field ∈ fields, field.2.IsPrintable := by
  unfold object? at hobject
  split at hobject
  · rename_i read hread
    obtain rfl := Option.some.inj hobject
    obtain ⟨source, -, hvalue⟩ := Option.bind_eq_some_iff.mp hread
    exact Value.isPrintable_record_iff.mp (Json.isPrintable_of_read hvalue)
  · cases hobject

theorem decode_of_object? {raw : Value} {fields : List (FieldName × Value)}
    (hobject : object? raw = some fields) :
    ∃ response, decode raw = .ok response ∧ response.payload = fields := by
  obtain ⟨text, htext⟩ := Value.text?_of_isPrintable
    (Value.isPrintable_of_field? "error" (isPrintable_of_object? hobject))
  unfold decode
  rw [hobject]
  dsimp only
  unfold ofObject
  split
  · exact ⟨_, rfl, rfl⟩
  · dsimp only
    split
    · rw [Value.toText, htext]
      exact ⟨_, rfl, rfl⟩
    · exact ⟨_, rfl, rfl⟩

/-- **Any text can be decoded.** -/
theorem decode_text (raw : String) : ∃ response, decode (.text raw) = .ok response := by
  cases hobject : object? (.text raw) with
  | some fields =>
      obtain ⟨response, hresponse, -⟩ := decode_of_object? hobject
      exact ⟨response, hresponse⟩
  | none =>
      refine ⟨ofUndecodable (.text raw), ?_⟩
      unfold decode undecodable
      rw [hobject, Value.quoted?]

/-- The pointer in an answer, where it has one. -/
def pointer? (raw : String) : Option Address :=
  match decode (.text raw) with
  | .ok response => (response.get? Request.resultField).bind Address.ofPointer?
  | .error _ => none

/-- The pointer is found whatever the answer says about success. -/
theorem pointer?_of_object? {raw : String} {fields : List (FieldName × Value)}
    (hobject : object? (.text raw) = some fields) :
    pointer? raw = (Value.field? Request.resultField fields).bind Address.ofPointer? := by
  obtain ⟨response, hresponse, hpayload⟩ := decode_of_object? hobject
  unfold pointer? get?
  rw [hresponse, ← hpayload]

end Response

end HostLink
