import HostLink.Proofs.Classified
import HostLink.Proofs.OffsetText
import Mathlib.Data.Nat.Digits.Lemmas

/-!
# Objects that are written and read back

A document holds words, texts, whole numbers that are not too long, and lists and objects of these,
with no name given twice. It may be written with blanks wherever they may stand, with its characters
in any spelling and the fields of each object in any order. Both readings of an answer take any
such text for the object that was written.
-/

namespace HostLink

open Text

/-! ### Documents -/

namespace Value

inductive IsDocument : Value → Prop
  | null : IsDocument .null
  | bool (b : Bool) : IsDocument (.bool b)
  | int {n : Int} (hshort : n.natAbs < 10 ^ decimalDigitLimit) : IsDocument (.int n)
  | text (s : String) : IsDocument (.text s)
  | list {vs : List Value} (hall : ∀ v ∈ vs, IsDocument v) : IsDocument (.list vs)
  | record {fields : List (FieldName × Value)} (hnodup : (fields.map (·.1)).Nodup)
      (hall : ∀ field ∈ fields, IsDocument field.2) : IsDocument (.record fields)

/-- Values that differ in the order of fields alone, at any depth. -/
inductive Agrees : Value → Value → Prop
  | same (v : Value) : Agrees v v
  | list {vs ws : List Value} (hitems : List.Forall₂ Agrees vs ws) : Agrees (.list vs) (.list ws)
  | record {fields middle others : List (FieldName × Value)} (hperm : middle.Perm others)
      (hnames : fields.map (·.1) = middle.map (·.1))
      (hvalues : List.Forall₂ Agrees (fields.map (·.2)) (middle.map (·.2))) :
      Agrees (.record fields) (.record others)

theorem Agrees.eq_bool_iff {v w : Value} (hagrees : v.Agrees w) (b : Bool) :
    v = .bool b ↔ w = .bool b := by
  cases hagrees with
  | same => exact Iff.rfl
  | list | record => exact iff_of_false Value.noConfusion Value.noConfusion

theorem Agrees.exists_record {w : Value} {fields : List (FieldName × Value)}
    (hagrees : w.Agrees (.record fields)) :
    ∃ others middle : List (FieldName × Value), w = .record others ∧ middle.Perm fields ∧
      others.map (·.1) = middle.map (·.1) ∧
      List.Forall₂ Agrees (others.map (·.2)) (middle.map (·.2)) := by
  cases hagrees with
  | same =>
      refine ⟨fields, fields, rfl, List.Perm.refl _, rfl, ?_⟩
      exact List.forall₂_same.mpr fun v _ => .same v
  | record hperm hnames hvalues => exact ⟨_, _, rfl, hperm, hnames, hvalues⟩

/-! ### Fields in another order -/

theorem field?_eq_some_iff_mem {fields : List (FieldName × Value)}
    (hnodup : (fields.map (·.1)).Nodup) {name : FieldName} {v : Value} :
    field? name fields = some v ↔ (name, v) ∈ fields := by
  refine ⟨mem_of_field?, fun hmem => ?_⟩
  induction fields with
  | nil => cases hmem
  | cons field rest ih =>
      rw [List.map_cons, List.nodup_cons] at hnodup
      rw [field?_cons]
      rcases List.mem_cons.mp hmem with rfl | hmem
      · exact if_pos rfl
      · have hother : field.1 ≠ name := by
          rintro rfl
          exact hnodup.1 (List.mem_map.mpr ⟨_, hmem, rfl⟩)
        rw [if_neg hother]
        exact ih hnodup.2 hmem

theorem field?_perm {fields others : List (FieldName × Value)} (hperm : fields.Perm others)
    (hnodup : (others.map (·.1)).Nodup) (name : FieldName) :
    field? name fields = field? name others := by
  have hnodup' : (fields.map (·.1)).Nodup := (hperm.map _).nodup_iff.mpr hnodup
  apply Option.ext
  intro v
  rw [field?_eq_some_iff_mem hnodup', field?_eq_some_iff_mem hnodup, hperm.mem_iff]

theorem field?_eq_bool_iff {fields others : List (FieldName × Value)}
    (hnames : fields.map (·.1) = others.map (·.1))
    (hvalues : List.Forall₂ Agrees (fields.map (·.2)) (others.map (·.2))) (name : FieldName)
    (b : Bool) : field? name fields = some (.bool b) ↔ field? name others = some (.bool b) := by
  induction fields generalizing others with
  | nil =>
      obtain rfl := List.map_eq_nil_iff.mp hnames.symm
      exact Iff.rfl
  | cons field rest ih =>
      obtain ⟨other, others, rfl, hname, hrest⟩ := List.map_eq_cons_iff.mp hnames.symm
      obtain ⟨hv, hrest'⟩ := List.forall₂_cons.mp hvalues
      rw [field?_cons, field?_cons, hname]
      by_cases heq : field.1 = name
      · rw [if_pos heq, if_pos heq, Option.some_inj, Option.some_inj]
        exact hv.eq_bool_iff b
      · rw [if_neg heq, if_neg heq]
        exact ih hrest.symm hrest'

end Value

namespace Json

/-! ### Numbers of so many digits -/

theorem exists_digitsOf_eq_cons {c : Char} {s : List Char} (hc : c ≠ '0')
    (hall : AreDigits (c :: s)) : ∃ d rest, d ≠ 0 ∧ digitsOf (c :: s) = d :: rest := by
  obtain ⟨d, hd⟩ := Option.isSome_iff_exists.mp (hall c List.mem_cons_self)
  refine ⟨d, digitsOf s, ?_, List.filterMap_cons_some hd⟩
  rintro rfl
  exact hc (eq_zero_of_asciiDigit? hd)

/-- A number has no more digits than its size allows, as it starts with no zero. -/
theorem IsWhole.length_le {digits : List Nat} {s : List Char} (hwhole : IsWhole digits s)
    {limit : Nat} (hlimit : 0 < limit) (hsmall : positional 10 digits < 10 ^ limit) :
    digits.length ≤ limit := by
  cases hwhole with
  | zero => exact hlimit
  | @digits c s hc hall =>
      obtain ⟨d, rest, hd, hdigits⟩ := exists_digitsOf_eq_cons hc hall
      rw [positional_eq_ofDigits] at hsmall
      have hne : (digitsOf (c :: s)).reverse ≠ [] := by simp [hdigits]
      have hlast : (digitsOf (c :: s)).reverse.getLast hne ≠ 0 := by simpa [hdigits] using hd
      have hpow : 10 ^ (digitsOf (c :: s)).reverse.length ≤
          10 * Nat.ofDigits 10 (digitsOf (c :: s)).reverse :=
        Nat.pow_length_le_mul_ofDigits hne hlast
      rw [List.length_reverse] at hpow
      have hbound : 10 ^ (digitsOf (c :: s)).length < 10 ^ (limit + 1) := by
        calc
          10 ^ (digitsOf (c :: s)).length ≤
              10 * Nat.ofDigits 10 (digitsOf (c :: s)).reverse := hpow
          _ < 10 * 10 ^ limit := Nat.mul_lt_mul_of_pos_left hsmall (by decide)
          _ = 10 ^ (limit + 1) := (Nat.pow_succ').symm
      exact Nat.le_of_lt_succ ((Nat.pow_lt_pow_iff_right (by decide)).mp hbound)

/-! ### How documents are written -/

/-- The ways to write a part of a document. No blank stands before it, and the items and members
that a part holds are followed by the blanks after them. -/
inductive Encodes : Part → List Char → Prop
  | null : Encodes (.value .null) "null".toList
  | bool (b : Bool) : Encodes (.value (.bool b)) (word b)
  | whole {digits s} (hs : IsWhole digits s) : Encodes (.value (.int (positional 10 digits))) s
  | minus {digits s} (hs : IsWhole digits s) :
      Encodes (.value (.int (-positional 10 digits))) ('-' :: s)
  | text {s written} (hs : Spells s written) :
      Encodes (.value (.text (String.ofList s))) ('"' :: (written ++ ['"']))
  | emptyList {gap} (hgap : IsGap gap) : Encodes (.value (.list [])) ('[' :: (gap ++ [']']))
  | list {vs gap s} (hgap : IsGap gap) (hitems : Encodes (.items vs) s) :
      Encodes (.value (.list vs)) ('[' :: (gap ++ (s ++ [']'])))
  /-- The fields may be written in any order. -/
  | record {members fields s} (hperm : members.Perm fields)
      (hobject : Encodes (.object members) s) : Encodes (.value (.record fields)) s
  | emptyObject {gap} (hgap : IsGap gap) : Encodes (.object []) ('\x7b' :: (gap ++ ['\x7d']))
  | object {members gap s} (hgap : IsGap gap) (hmembers : Encodes (.members members) s) :
      Encodes (.object members) ('\x7b' :: (gap ++ (s ++ ['\x7d'])))
  | lastItem {v gap s} (hv : Encodes (.value v) s) (hgap : IsGap gap) :
      Encodes (.items [v]) (s ++ gap)
  | nextItem {v vs before after s others} (hv : Encodes (.value v) s) (hbefore : IsGap before)
      (hafter : IsGap after) (hitems : Encodes (.items vs) others) :
      Encodes (.items (v :: vs)) (s ++ (before ++ ',' :: (after ++ others)))
  | lastMember {name v gap gap' gap'' written s} (hname : Spells name written) (hgap : IsGap gap)
      (hgap' : IsGap gap') (hv : Encodes (.value v) s) (hgap'' : IsGap gap'') :
      Encodes (.members [(.text (String.ofList name), v)])
        ('"' :: (written ++ '"' :: (gap ++ ':' :: (gap' ++ (s ++ gap'')))))
  | nextMember {name v members gap gap' before after written s others}
      (hname : Spells name written) (hgap : IsGap gap) (hgap' : IsGap gap')
      (hv : Encodes (.value v) s) (hbefore : IsGap before) (hafter : IsGap after)
      (hmembers : Encodes (.members members) others) :
      Encodes (.members ((.text (String.ofList name), v) :: members))
        ('"' :: (written ++ '"' :: (gap ++ ':' ::
          (gap' ++ (s ++ (before ++ ',' :: (after ++ others)))))))

/-- A value as it is written, with blanks around it. -/
def IsEncoding (v : Value) (s : List Char) : Prop :=
  ∃ before inner after, IsGap before ∧ IsGap after ∧ Encodes (.value v) inner ∧
    s = before ++ (inner ++ after)

/-! ### What is written is a text -/

def Part.IsDocument : Part → Prop
  | .value v => v.IsDocument
  | .items vs => ∀ v ∈ vs, v.IsDocument
  | .object fields | .members fields => ∀ field ∈ fields, field.2.IsDocument

structure AgreeInOrder (fields others : List (FieldName × Value)) : Prop where
  names : fields.map (·.1) = others.map (·.1)
  values : List.Forall₂ Value.Agrees (fields.map (·.2)) (others.map (·.2))

theorem AgreeInOrder.cons {name : FieldName} {v w : Value}
    {fields others : List (FieldName × Value)} (hv : v.Agrees w)
    (hrest : AgreeInOrder fields others) :
    AgreeInOrder ((name, v) :: fields) ((name, w) :: others) :=
  ⟨by rw [List.map_cons, List.map_cons, hrest.names], .cons hv hrest.values⟩

/-- The text is one of a part that agrees with this one. -/
def Part.HasText (s : List Char) : Part → Prop
  | .value v => ∃ w : Value, w.Agrees v ∧ IsText true (.value w) s
  | .items vs => ∃ ws, List.Forall₂ Value.Agrees ws vs ∧ IsText true (.items ws) s
  | .object fields => ∃ others, AgreeInOrder others fields ∧ IsText true (.object others) s
  | .members fields => ∃ others, AgreeInOrder others fields ∧ IsText true (.members others) s

theorem isNumber_of_short {negative : Bool} {digits : List Nat} {s : List Char}
    (hs : IsWhole digits s) (hshort : positional 10 digits < 10 ^ decimalDigitLimit) :
    IsNumber negative true (.int (applySign negative (positional 10 digits))) s := by
  have hnumber : IsNumber negative _ _ s := .whole hs
  rwa [decide_eq_true (hs.length_le (by decide) hshort)] at hnumber

/-- **However a document is written, it is a text**, by induction on how it is written. -/
theorem Encodes.hasText {part : Part} {s : List Char} (hs : Encodes part s)
    (hdocument : part.IsDocument) : part.HasText s := by
  induction hs with
  | null => exact ⟨_, .same _, .atom .null⟩
  | bool b => exact ⟨_, .same _, .atom (.bool b)⟩
  | whole hs =>
      cases hdocument with
      | int hshort =>
          rw [Int.natAbs_natCast] at hshort
          exact ⟨_, .same _, .atom (.number (isNumber_of_short hs hshort))⟩
  | minus hs =>
      cases hdocument with
      | int hshort =>
          rw [Int.natAbs_neg, Int.natAbs_natCast] at hshort
          exact ⟨_, .same _, .atom (.minus (isNumber_of_short hs hshort))⟩
  | text hs => exact ⟨_, .same _, hs.isText⟩
  | emptyList hgap => exact ⟨_, .same _, .emptyList hgap⟩
  | list hgap _ ih =>
      cases hdocument with
      | list hall =>
          obtain ⟨ws, hitems, htext⟩ := ih hall
          exact ⟨_, .list hitems, .list hgap htext⟩
  | @record members fields s hperm _ ih =>
      cases hdocument with
      | record hnodup hall =>
          obtain ⟨others, hagree, htext⟩ := ih fun field hmem => hall field (hperm.mem_iff.mp hmem)
          -- The reader keeps the order of the members, as no name comes twice.
          have hnodup' : (others.map (·.1)).Nodup := by
            rw [hagree.names]
            exact (hperm.map _).nodup_iff.mpr hnodup
          have hrecord := htext.record
          rw [Value.ofFields_of_nodup hnodup'] at hrecord
          exact ⟨_, .record hperm hagree.names hagree.values, hrecord⟩
  | emptyObject hgap => exact ⟨[], ⟨rfl, .nil⟩, .emptyObject hgap⟩
  | object hgap _ ih =>
      obtain ⟨others, hagree, htext⟩ := ih hdocument
      exact ⟨others, hagree, .object hgap htext⟩
  | lastItem _ hgap ih =>
      obtain ⟨w, hv, htext⟩ := ih (hdocument _ List.mem_cons_self)
      exact ⟨[w], .cons hv .nil, .lastItem htext hgap⟩
  | nextItem _ hbefore hafter _ ih ihs =>
      obtain ⟨hfirst, hrest⟩ := List.forall_mem_cons.mp hdocument
      obtain ⟨w, hv, htext⟩ := ih hfirst
      obtain ⟨ws, hitems, htexts⟩ := ihs hrest
      exact ⟨w :: ws, .cons hv hitems, .nextItem htext hbefore hafter htexts⟩
  | lastMember hname hgap hgap' _ hgap'' ih =>
      obtain ⟨w, hv, htext⟩ := ih (hdocument _ List.mem_cons_self)
      obtain ⟨pieces, hpieces, hjoin⟩ := hname.pieces
      have hmember := IsText.lastMember hpieces hgap hgap' htext hgap''
      rw [hjoin, FieldName.ofPoints_points] at hmember
      exact ⟨_, .cons hv ⟨rfl, .nil⟩, hmember⟩
  | nextMember hname hgap hgap' _ hbefore hafter _ ih ihs =>
      obtain ⟨hfirst, hrest⟩ := List.forall_mem_cons.mp hdocument
      obtain ⟨w, hv, htext⟩ := ih hfirst
      obtain ⟨others, hagree, htexts⟩ := ihs hrest
      obtain ⟨pieces, hpieces, hjoin⟩ := hname.pieces
      have hmember := IsText.nextMember hpieces hgap hgap' htext hbefore hafter htexts
      rw [hjoin, FieldName.ofPoints_points] at hmember
      exact ⟨_, hagree.cons hv, hmember⟩

end Json

/-! ### Answers that are documents -/

namespace Response

open Json

/-- Both readings take the answer for this object, whatever the order of its fields. -/
structure IsReadAs (response : Response) (raw : String) (fields : List (FieldName × Value)) :
    Prop where
  decode : decode (.text raw) = .ok response
  decodeStrict : decodeStrict (.text raw) = .ok response
  payload : (Value.record response.payload).Agrees (.record fields)
  success : response.ok = true ↔ Value.field? "ok" fields = some (.bool true)

/-- **An object is read back from every text of it.** -/
theorem exists_isReadAs {fields : List (FieldName × Value)} {raw : String}
    (hdocument : (Value.record fields).IsDocument)
    (htext : IsEncoding (.record fields) raw.toList) :
    ∃ response : Response, response.IsReadAs raw fields := by
  obtain ⟨before, inner, after, hbefore, hafter, hencodes, hraw⟩ := htext
  obtain ⟨w, hagrees, hinner⟩ := hencodes.hasText hdocument
  obtain ⟨others, middle, rfl, hperm, hnames, hvalues⟩ := hagrees.exists_record
  have hwhole : IsTextOf true (.value (.record others)) raw.toList :=
    ⟨before, inner, after, hbefore, hafter, hinner, hraw⟩
  have hobject : object? (.text raw) = some others :=
    object?_eq_some_iff.mpr hwhole.object_of_record
  obtain ⟨response, hresponse, rfl⟩ := decode_of_object? hobject
  have hmade : ofObject response.payload (.text raw) = .ok response := by
    rw [← hresponse, decode, hobject]
  have hnodup : (fields.map (·.1)).Nodup := by
    cases hdocument with
    | record hnodup _ => exact hnodup
  refine ⟨response, ⟨hresponse, ?_, hagrees, ?_⟩⟩
  · rw [decodeStrict_eq_decode hobject, hresponse]
  · rw [ok_iff_of_ofObject hmade, Value.field?_eq_bool_iff hnames hvalues,
      Value.field?_perm hperm hnodup]

/-- A character is written as a surrogate pair, in letters of both cases, and the fields in another
order. -/
theorem escaped_object_is_read_back :
    ∃ response : Response, response.IsReadAs "\x7b\"s\":\"\\ud83D\\uDe00\", \"ok\":true\n\x7d"
      [(.text "ok", .bool true), (.text "s", .text "😀")] := by
  have hgrin : Spells ['😀'] ['\\', 'u', 'd', '8', '3', 'D', '\\', 'u', 'D', 'e', '0', '0'] :=
    .cons (.pair (by decide) (codeUnit?_eq_some_iff.mp (by decide))
      (codeUnit?_eq_some_iff.mp (by decide))) .nil
  have hs : Spells ['s'] ['s'] := spells_of_isLiteral (by decide)
  have hok : Spells ['o', 'k'] ['o', 'k'] := spells_of_isLiteral (by decide)
  have hblank : IsGap [' '] := fun c hmem => .inl (List.mem_singleton.mp hmem)
  have hbreak : IsGap ['\n'] := fun c hmem => by simp [List.mem_singleton.mp hmem]
  have hobject := Encodes.object isGap_nil <| .nextMember hs isGap_nil isGap_nil (.text hgrin)
    isGap_nil hblank (.lastMember hok isGap_nil isGap_nil (.bool true) hbreak)
  refine exists_isReadAs (.record (by decide) ?_) ⟨[], _, [], isGap_nil, isGap_nil,
    .record (List.Perm.swap _ _ _) hobject, ?_⟩
  · simp only [List.forall_mem_cons, List.not_mem_nil, false_implies, implies_true, and_true]
    exact ⟨.bool true, .text "😀"⟩
  · rw [String.toList_ofList]
    rfl

end Response

end HostLink
