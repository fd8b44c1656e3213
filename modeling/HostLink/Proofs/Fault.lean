import HostLink.Fault
import HostLink.Proofs.Json

/-!
# Failures that can be shown

A failure has a message unless a value in it has no text. So a failure made from text alone always
has one.
-/

namespace HostLink.Fault

theorem isSome_argumentsText? (texts : List String) :
    (argumentsText? (texts.map .text)).isSome = true := by
  match texts with
  | [] => rfl
  | [text] => rfl
  | first :: second :: rest =>
      have hprintable : ∀ v ∈ (first :: second :: rest).map Value.text, v.IsPrintable := by
        intro v hmem
        obtain ⟨text, -, rfl⟩ := List.mem_map.mp hmem
        exact ⟨_, by rw [Value.quoted?]⟩
      obtain ⟨parts, hparts⟩ := Value.exists_quotedItems?_iff.mpr hprintable
      have hgroup : argumentsText? ((first :: second :: rest).map .text) =
          (Value.group ((first :: second :: rest).map .text)).quoted? := rfl
      rw [hgroup, Value.quoted?, hparts]
      rfl

/-- Code and text are shown beside the files, of which there are at most two. -/
theorem isSome_systemText? (texts : List String) :
    (systemText? (texts.map .text)).isSome = true := by
  match texts with
  | [] => rfl
  | [text] => rfl
  | [code, text] => rfl
  | [code, text, file] => simp [systemText?, isWaitCode, Value.text?, Value.quoted?]
  | [code, text, file, number] => simp [systemText?, isWaitCode, Value.text?, Value.quoted?]
  | [code, text, file, number, other] =>
      simp [systemText?, isWaitCode, Value.text?, Value.quoted?]
  | code :: text :: file :: number :: other :: more :: rest =>
      have hmany : 3 < ((file :: number :: other :: more :: rest).map Value.text).length := by
        simp only [List.map_cons, List.length_cons]
        omega
      rw [List.map_cons, List.map_cons, systemText?, if_pos hmany]
      exact isSome_argumentsText? (code :: text :: file :: number :: other :: more :: rest)

/-- **A failure made from text alone can be shown.** -/
theorem isSome_message?_raised (kind : FaultKind) (texts : List String) :
    (Fault.raised kind (texts.map .text)).message?.isSome = true := by
  have hsingle : ∀ v, texts.map Value.text = [v] →
      v.quoted?.isSome = true ∧ v.text?.isSome = true := by
    intro v hargs
    obtain ⟨text, -, rfl⟩ := List.mem_map.mp (hargs ▸ List.mem_singleton_self v)
    exact ⟨by rw [Value.quoted?]; rfl, rfl⟩
  rw [message?]
  unfold raisedText?
  split
  case h_1 v hargs => rw [Option.isSome_map]; exact (hsingle v hargs).1
  case h_2 v hargs => rw [Option.isSome_map]; exact (hsingle v hargs).1
  case h_3 v hargs => rw [Option.isSome_map]; exact (hsingle v hargs).2
  case h_4 v hargs => rw [Option.isSome_map]; exact (hsingle v hargs).2
  case h_5 v hargs => exact (hsingle v hargs).1
  case h_6 => exact isSome_systemText? texts
  case h_7 => exact isSome_argumentsText? texts

end HostLink.Fault
