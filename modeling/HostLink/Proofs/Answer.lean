import HostLink.Proofs.Members
import HostLink.Proofs.Nesting

/-!
# Answers with two fields

A host answers with an object that reports success and has one field more. Such an answer is read as
exactly these two fields.
-/

namespace HostLink

open Text

theorem Value.ofFields_of_nodup {fields : List (FieldName × Value)}
    (hnodup : (fields.map (·.1)).Nodup) : ofFields fields = .record fields := by
  have hdistinct : allDistinct (fields.map (·.1)) = true := by
    unfold allDistinct
    rw [Std.HashSet.size_ofList, beq_self_eq_true]
    exact hnodup.imp fun hne => by simpa using hne
  rw [ofFields, if_pos hdistinct]

namespace Json

/-- A string without escapes. -/
def string (s : List Char) : List Char :=
  '"' :: (s ++ ['"'])

theorem reads_string {s : List Char} (hs : s.all isLiteral = true) :
    IsText true (.value (.text (String.ofList s))) (string s) :=
  (spells_of_isLiteral hs).isText

theorem isText_lastMember {short : Bool} {name written : List Char} {v : Value}
    (hname : name.all isLiteral = true) (hv : IsText short (.value v) written) :
    IsText short (.members [(.text (String.ofList name), v)]) (string name ++ ':' :: written) := by
  obtain ⟨pieces, hpieces, hjoin⟩ := (spells_of_isLiteral hname).pieces
  have hmember := IsText.lastMember hpieces isGap_nil isGap_nil hv isGap_nil
  rw [hjoin, FieldName.ofPoints_points] at hmember
  simpa [string] using hmember

theorem isText_nextMember {short short' : Bool} {name written others : List Char} {v : Value}
    {members : List (FieldName × Value)} (hname : name.all isLiteral = true)
    (hv : IsText short (.value v) written) (hmembers : IsText short' (.members members) others) :
    IsText (short && short') (.members ((.text (String.ofList name), v) :: members))
      (string name ++ ':' :: (written ++ ',' :: others)) := by
  obtain ⟨pieces, hpieces, hjoin⟩ := (spells_of_isLiteral hname).pieces
  have hmember := IsText.nextMember hpieces isGap_nil isGap_nil hv isGap_nil isGap_nil hmembers
  rw [hjoin, FieldName.ofPoints_points] at hmember
  simpa [string] using hmember

/-- Members between the brackets of an object. -/
def enclosed (members : List Char) : List Char :=
  '\x7b' :: (members ++ ['\x7d'])

theorem isText_enclosed {short : Bool} {members : List (FieldName × Value)} {s : List Char}
    (hmembers : IsText short (.members members) s) :
    IsText short (.object members) (enclosed s) :=
  .object isGap_nil hmembers

/-- An object that reports success or failure, and has one field more. -/
def answer (ok : Bool) (name written : List Char) : List Char :=
  '\x7b' :: (string "ok".toList ++ ':' ::
    (word ok ++ ',' :: (string name ++ ':' :: (written ++ ['\x7d']))))

/-- An answer is a text of an object with its two members. -/
theorem isText_answer (ok : Bool) {short : Bool} {name written : List Char} {v : Value}
    (hname : name.all isLiteral = true) (hv : IsText short (.value v) written) :
    IsText short (.object [(.text "ok", .bool ok), (.text (String.ofList name), v)])
      (answer ok name written) := by
  have hmembers := isText_nextMember (by decide : "ok".toList.all isLiteral = true)
    (.atom (.bool ok)) (isText_lastMember hname hv)
  rw [String.ofList_toList, Bool.true_and] at hmembers
  simpa [answer, enclosed] using isText_enclosed hmembers

theorem isTextOf_answer (ok : Bool) {short : Bool} {name written : List Char} {v : Value}
    (hname : name.all isLiteral = true) (hv : IsText short (.value v) written) :
    IsTextOf short (.object [(.text "ok", .bool ok), (.text (String.ofList name), v)])
      (String.ofList (answer ok name written)).toList := by
  rw [String.toList_ofList]
  exact (isText_answer ok hname hv).isTextOf

theorem openings_string (s : List Char) : openings (string s) = openings s := by
  rw [string, openings_cons_of_not_isOpening rfl, openings_append]
  rfl

/-- An answer opens no bracket of its own but the first. -/
theorem openings_answer (ok : Bool) (name written : List Char) :
    openings (answer ok name written) = openings name + openings written + 1 := by
  have hword : openings (word ok) = 0 := by
    cases ok <;> rfl
  have hend : openings (written ++ ['\x7d']) = openings written := by
    rw [openings_append]
    rfl
  rw [answer, openings_cons_of_isOpening rfl, openings_append, openings_string,
    openings_cons_of_not_isOpening rfl, openings_append, hword,
    openings_cons_of_not_isOpening rfl, openings_append, openings_string,
    openings_cons_of_not_isOpening rfl, hend]
  simp [openings, isOpening]

theorem openings_hex (n : Nat) : openings (hex n) = 0 := by
  have hdigit : ∀ d < 16, ¬isOpening d.digitChar = true := by decide
  refine List.countP_eq_zero.mpr fun c hmem => ?_
  obtain ⟨d, hd, rfl⟩ := mem_hex hmem
  exact hdigit d hd

theorem isLiteral_string_hex (n : Nat) : ('0' :: 'x' :: hex n).all isLiteral = true := by
  have hdigit : ∀ d < 16, isLiteral d.digitChar = true := by decide
  refine List.all_eq_true.mpr fun c hmem => ?_
  rcases List.mem_cons.mp hmem with rfl | hmem
  · decide
  · rcases List.mem_cons.mp hmem with rfl | hmem
    · decide
    · obtain ⟨d, hd, rfl⟩ := mem_hex hmem
      exact hdigit d hd

/-- A number of as many ones and one more. -/
theorem isText_ones (ones : Nat) :
    ∃ n, IsText (decide (ones + 1 ≤ decimalDigitLimit)) (.value (.int n))
      (List.replicate (ones + 1) '1') := by
  have hones : AreDigits (List.replicate (ones + 1) '1') := by
    intro c hmem
    obtain rfl := List.eq_of_mem_replicate hmem
    decide
  have hlength := length_digitsOf hones
  rw [List.length_replicate] at hlength
  have hnumber : IsNumber false _ _ (List.replicate (ones + 1) '1') :=
    .whole (.digits (by decide) hones)
  rw [← List.replicate_succ, hlength] at hnumber
  exact ⟨_, .atom (.number hnumber)⟩

theorem isText_single {short : Bool} {v : Value} {written : List Char}
    (hv : IsText short (.value v) written) :
    IsText short (.value (.list [v])) ('[' :: (written ++ [']'])) := by
  have hlist := IsText.list isGap_nil (.lastItem hv isGap_nil)
  rwa [List.append_nil] at hlist

end Json

namespace Response

open Json

theorem object?_answer (ok : Bool) {name written : List Char} {v : Value}
    (hname : name.all isLiteral = true) (hother : String.ofList name ≠ "ok")
    (hwritten : IsText true (.value v) written) :
    object? (.text (String.ofList (answer ok name written))) =
      some [(.text "ok", .bool ok), (.text (String.ofList name), v)] := by
  have hnodup : (([(.text "ok", .bool ok), (.text (String.ofList name), v)] :
      List (FieldName × Value)).map (·.1)).Nodup := by
    simpa using fun heq => hother heq.symm
  exact object?_eq_some_iff.mpr
    ⟨_, isTextOf_answer ok hname hwritten, Value.ofFields_of_nodup hnodup⟩

def pointerTo (n : Nat) : String :=
  String.ofList (answer true "__r".toList (string ('0' :: 'x' :: hex n)))

def noPointer : String :=
  String.ofList (answer true "__r".toList "null".toList)

def failureWith (error : List Char) : String :=
  String.ofList (answer false "error".toList (string error))

theorem pointer?_answer {ok : Bool} {written : List Char} {v : Value}
    (hwritten : IsText true (.value v) written) :
    pointer? (String.ofList (answer ok "__r".toList written)) = Address.ofPointer? v := by
  have hobject := object?_answer ok (by decide : "__r".toList.all isLiteral = true)
    (by decide) hwritten
  rw [pointer?_of_object? hobject, String.ofList_toList]
  rfl

theorem ofPointer?_hex (n : Nat) :
    Address.ofPointer? (.text (String.ofList ('0' :: 'x' :: hex n))) =
      some ⟨BitVec.ofNat 32 n⟩ := by
  unfold Address.ofPointer?
  dsimp only
  rw [Value.toText, Value.text?]
  dsimp only
  rw [String.ofList_toList]
  simp only [Except.bind, Address.ofText_hex, Except.toOption]

theorem pointer?_pointerTo (n : Nat) : pointer? (pointerTo n) = some ⟨BitVec.ofNat 32 n⟩ := by
  rw [pointerTo, pointer?_answer (reads_string (isLiteral_string_hex n)), ofPointer?_hex]

example : pointerTo 16 = "\x7b\"ok\":true,\"__r\":\"0x10\"\x7d" := by decide

theorem pointer?_noPointer : pointer? noPointer = none := by
  rw [noPointer, pointer?_answer (.atom .null)]
  rfl

theorem pointer?_failureWith {error : List Char} (herror : error.all isLiteral = true) :
    pointer? (failureWith error) = none := by
  have hobject := object?_answer false (by decide : "error".toList.all isLiteral = true)
    (by decide) (reads_string herror)
  rw [failureWith, pointer?_of_object? hobject, String.ofList_toList]
  rfl

theorem openings_pointerTo (n : Nat) : openings (pointerTo n).toList = 1 := by
  rw [pointerTo, String.toList_ofList, openings_answer, openings_string,
    openings_cons_of_not_isOpening rfl, openings_cons_of_not_isOpening rfl, openings_hex]
  rfl

theorem openings_noPointer : openings noPointer.toList = 1 := by
  rw [noPointer, String.toList_ofList, openings_answer]
  rfl

theorem openings_failureWith {error : List Char} (herror : openings error = 0) :
    openings (failureWith error).toList = 1 := by
  rw [failureWith, String.toList_ofList, openings_answer, openings_string, herror]
  rfl

end Response

end HostLink
