import HostLink.Proofs.Link
import HostLink.Proofs.Request

/-!
# Bodies inside the wrapper

The text of the wrapper after a body closes nothing that the body left open, and the text before it
opens nothing. So a wrapped body comes to the wrapper's text around what the body comes to, and it
fails as the body fails, where a fault on the first line stands further to the right.
-/

namespace HostLink

/-! ### Further to the right -/

/-- What stands on the first line moves to the right. -/
def indented (width line column : Nat) : Nat :=
  if line = 1 then column + width else column

def Position.indent (width : Nat) (p : Position) : Position :=
  { p with column := indented width p.line p.column }

def Segment.indent (width : Nat) : Segment → Segment
  | .literal c => .literal c
  | .hole name => .hole name
  | .fault p => .fault (p.indent width)

def Fault.indent (width : Nat) : Fault → Fault
  | .badPlaceholder line column => .badPlaceholder line (indented width line column)
  | fault => fault

namespace Position

theorem indented_add (width line column count : Nat) :
    indented width line column + count = indented width line (column + count) := by
  unfold indented
  by_cases hfirst : line = 1
  · rw [if_pos hfirst, if_pos hfirst, Nat.add_right_comm]
  · rw [if_neg hfirst, if_neg hfirst]

theorem indent_skip (width count : Nat) (p : Position) :
    (p.indent width).skip count = (p.skip count).indent width := by
  unfold indent skip
  rw [indented_add]

theorem indent_advance {p : Position} (hline : 1 ≤ p.line) (width : Nat) (c : Char) :
    (p.indent width).advance c = (p.advance c).indent width := by
  have hnext : p.line + 1 ≠ 1 := by omega
  unfold indent advance
  by_cases hfeed : c = '\n' ∧ p.afterReturn = true
  · rw [if_pos hfeed, if_pos hfeed]
  · rw [if_neg hfeed, if_neg hfeed]
    -- A line break leads to a later line, where columns stay what they are.
    by_cases hbreak : Text.isLineBreak c = true
    · have hfront : indented width (p.line + 1) 1 = 1 := if_neg hnext
      rw [if_pos hbreak, if_pos hbreak]
      dsimp only
      rw [hfront]
    · rw [if_neg hbreak, if_neg hbreak, indented_add]

theorem line_advance_pos {p : Position} (hline : 1 ≤ p.line) (c : Char) :
    1 ≤ (p.advance c).line := by
  unfold advance
  by_cases hfeed : c = '\n' ∧ p.afterReturn = true
  · rwa [if_pos hfeed]
  · rw [if_neg hfeed]
    by_cases hbreak : Text.isLineBreak c = true
    · rw [if_pos hbreak]
      exact Nat.le_add_left 1 p.line
    · rwa [if_neg hbreak]

theorem foldl_advance {text : List Char} (hone : ∀ c ∈ text, Text.isLineBreak c = false)
    (line column : Nat) :
    text.foldl advance ⟨line, column, false⟩ = ⟨line, column + text.length, false⟩ := by
  induction text generalizing column with
  | nil => rfl
  | cons c rest ih =>
      obtain ⟨hc, hrest⟩ := List.forall_mem_cons.mp hone
      have hstep : advance ⟨line, column, false⟩ c = ⟨line, column + 1, false⟩ := by
        simp [advance, hc]
      rw [List.foldl_cons, hstep, ih hrest, List.length_cons, Nat.add_assoc, Nat.add_comm 1]

end Position

namespace Template

/-! ### Texts that close nothing -/

/-- A text that opens no hole, and that neither goes on with a name nor closes one in braces. -/
structure ClosesNothing (text : List Char) : Prop where
  noHole : '$' ∉ text
  front : ∀ c ∈ text.head?, isNameChar c = false ∧ c ≠ '\x7b' ∧ c ≠ '\x7d'

variable {tail : List Char}

theorem ClosesNothing.takeWhile (htail : ClosesNothing tail) (s : List Char) :
    (s ++ tail).takeWhile isNameChar = s.takeWhile isNameChar ∧
      (s ++ tail).dropWhile isNameChar = s.dropWhile isNameChar ++ tail := by
  induction s with
  | nil =>
      cases tail with
      | nil => exact ⟨rfl, rfl⟩
      | cons c tail =>
          have hc := (htail.front c rfl).1
          simp [hc]
  | cons c s ih =>
      by_cases hc : isNameChar c = true
      · simp [hc, ih.1, ih.2]
      · simp [hc]

theorem ClosesNothing.readName? (htail : ClosesNothing tail) (s : List Char) :
    readName? (s ++ tail) = (readName? s).map fun read => (read.1, read.2 ++ tail) := by
  cases s with
  | nil =>
      cases tail with
      | nil => rfl
      | cons c tail =>
          have hc := (htail.front c rfl).1
          simp only [isNameChar, Bool.or_eq_false_iff] at hc
          simp [Template.readName?, hc.1]
  | cons c s =>
      rw [List.cons_append, Template.readName?, Template.readName?, (htail.takeWhile s).1,
        (htail.takeWhile s).2]
      by_cases hc : isNameStart c = true
      · rw [if_pos hc, if_pos hc]
        rfl
      · rw [if_neg hc, if_neg hc]
        rfl

theorem readBraced?_of_ne {c : Char} (hc : c ≠ '\x7b') (s : List Char) :
    Template.readBraced? (c :: s) = none := by
  unfold Template.readBraced?
  split
  · rename_i heq
    exact absurd (List.cons.inj heq).1 hc
  · rfl

theorem readBraced?_brace (s : List Char) :
    Template.readBraced? ('\x7b' :: s) = (Template.readName? s).bind fun read =>
      if read.2.head? = some '\x7d' then some (read.1, read.2.tail) else none := by
  rw [Template.readBraced?]
  split
  · rename_i name rest hread
    rw [hread]
    rfl
  · rename_i hother
    cases hread : Template.readName? s with
    | none => rfl
    | some read =>
        obtain ⟨name, rest⟩ := read
        refine (if_neg fun hhead => ?_).symm
        obtain ⟨after, rfl⟩ := List.head?_eq_some_iff.mp hhead
        exact hother name after hread

theorem ClosesNothing.readBraced? (htail : ClosesNothing tail) (s : List Char) :
    readBraced? (s ++ tail) = (readBraced? s).map fun read => (read.1, read.2 ++ tail) := by
  cases s with
  | nil =>
      cases tail with
      | nil => rfl
      | cons c tail =>
          rw [List.nil_append, readBraced?_of_ne (htail.front c rfl).2.1]
          rfl
  | cons c s =>
      by_cases hc : c = '\x7b'
      · subst hc
        rw [List.cons_append, readBraced?_brace, readBraced?_brace, htail.readName?]
        cases Template.readName? s with
        | none => rfl
        | some read =>
            obtain ⟨name, rest⟩ := read
            cases rest with
            | nil =>
                have hfront : tail.head? ≠ some '\x7d' := fun hhead =>
                  (htail.front _ hhead).2.2 rfl
                simp [hfront]
            | cons d rest =>
                by_cases hd : d = '\x7d'
                · simp [hd]
                · simp [hd]
      · rw [List.cons_append, readBraced?_of_ne hc, readBraced?_of_ne hc]
        rfl

theorem ClosesNothing.readHole? (htail : ClosesNothing tail) (s : List Char) :
    readHole? (s ++ tail) = (readHole? s).map fun read => (read.1, read.2 ++ tail) := by
  rw [Template.readHole?, Template.readHole?, htail.readName?, htail.readBraced?]
  cases Template.readName? s <;> rfl

/-- Segments that go on with others, unless they end in a fault. -/
def andThen : List Segment → List Segment → List Segment
  | [], rest => rest
  | .literal c :: segs, rest => .literal c :: andThen segs rest
  | .hole name :: segs, rest => .hole name :: andThen segs rest
  | .fault p :: _, _ => [.fault p]

/-- **What follows the body stays what it is**: nothing in the body goes on into it. -/
theorem ClosesNothing.segments_append (htail : ClosesNothing tail) (p : Position)
    (body : List Char) :
    segments p (body ++ tail) = andThen (segments p body) (tail.map .literal) := by
  fun_induction segments p body with
  | case1 p =>
      have hplain := Template.segments_append htail.noHole p []
      rwa [List.append_nil, segments, List.append_nil] at hplain
  | case2 p c rest hc ih =>
      rw [List.cons_append, segments_cons_of_ne hc, ih]
      rfl
  | case3 p c hc =>
      obtain rfl : c = '$' := not_not.mp hc
      -- A `$` at the end of the body finds neither a name nor another `$` in what follows.
      cases tail with
      | nil => exact segments_dollar p
      | cons d tail =>
          have hd : d ≠ '$' := fun heq => htail.noHole (heq ▸ List.mem_cons_self)
          exact segments_of_readHole?_eq_none hd (htail.readHole? []) p
  | case4 p c hc rest ih =>
      obtain rfl : c = '$' := not_not.mp hc
      rw [List.cons_append, List.cons_append, segments_doubled_dollar, ih]
      rfl
  | case5 p c hc d rest hd hread =>
      obtain rfl : c = '$' := not_not.mp hc
      have hwhole : Template.readHole? (d :: (rest ++ tail)) = none := by
        rw [← List.cons_append, htail.readHole?, hread]
        rfl
      exact segments_of_readHole?_eq_none hd hwhole p
  | case6 p c hc d rest hd name after hread ih =>
      obtain rfl : c = '$' := not_not.mp hc
      have hwhole : Template.readHole? (d :: (rest ++ tail)) = some (name, after ++ tail) := by
        rw [← List.cons_append, htail.readHole?, hread]
        rfl
      rw [List.cons_append, List.cons_append, segments_of_readHole? hd hwhole]
      exact congrArg _ ih

theorem fill_andThen (filling : Filling) (segs : List Segment) (tail : List Char) :
    fill filling (andThen segs (tail.map .literal)) = (fill filling segs).map (· ++ tail) := by
  induction segs with
  | nil =>
      have hfill := fill_literals_append filling tail []
      rw [List.append_nil] at hfill
      rw [andThen, hfill, fill]
      exact congrArg Except.ok (List.append_nil tail)
  | cons segment segs ih =>
      cases segment with
      | literal c =>
          rw [andThen, fill, fill, ih]
          cases fill filling segs <;> rfl
      | hole name =>
          rw [andThen, fill, fill, ih]
          cases filling name with
          | none => rfl
          | some part =>
              cases part with
              | error fault => rfl
              | ok part =>
                  cases fill filling segs with
                  | error fault => rfl
                  | ok text => simp [Except.map, bind, Except.bind, pure, Except.pure]
      | fault p => rfl

/-! ### Bodies further to the right -/

theorem segments_indent (width : Nat) {p : Position} (hline : 1 ≤ p.line) (body : List Char) :
    segments (p.indent width) body = (segments p body).map (Segment.indent width) := by
  fun_induction segments p body with
  | case1 p => rw [segments]; rfl
  | case2 p c rest hc ih =>
      rw [segments_cons_of_ne hc, Position.indent_advance hline,
        ih (Position.line_advance_pos hline c)]
      rfl
  | case3 p c hc =>
      obtain rfl : c = '$' := not_not.mp hc
      exact segments_dollar _
  | case4 p c hc rest ih =>
      obtain rfl : c = '$' := not_not.mp hc
      rw [segments_doubled_dollar, Position.indent_skip, ih hline]
      rfl
  | case5 p c hc d rest hd hread =>
      obtain rfl : c = '$' := not_not.mp hc
      exact segments_of_readHole?_eq_none hd hread _
  | case6 p c hc d rest hd name after hread ih =>
      obtain rfl : c = '$' := not_not.mp hc
      rw [segments_of_readHole? hd hread, Position.indent_skip]
      exact congrArg _ (ih hline)

theorem fill_indent {filling : Filling} (width : Nat)
    (hplaceless : ∀ name fault, filling name = some (.error fault) → fault.indent width = fault)
    (segs : List Segment) :
    fill filling (segs.map (Segment.indent width)) =
      (fill filling segs).mapError (Fault.indent width) := by
  induction segs with
  | nil => rfl
  | cons segment segs ih =>
      rw [List.map_cons]
      cases segment with
      | literal c =>
          rw [Segment.indent, fill, fill, ih]
          cases fill filling segs <;> rfl
      | hole name =>
          rw [Segment.indent, fill, fill, ih]
          cases hname : filling name with
          | none => rfl
          | some part =>
              cases part with
              | error fault => exact congrArg Except.error (hplaceless name fault hname).symm
              | ok part => cases fill filling segs <;> rfl
      | fault p => rfl

/-! ### Failures that no place is part of -/

theorem ofValue_error {v : Value} {fault : Fault} (hfails : Literal.ofValue v = .error fault) :
    fault = .numberTooLong := by
  unfold Literal.ofValue at hfails
  split at hfails
  · cases hfails
  · cases htext : v.toText with
    | ok s =>
        rw [htext] at hfails
        cases hfails
    | error found =>
        rw [htext] at hfails
        obtain rfl := Except.error.inj hfails
        exact Value.toText_error htext

theorem literals_error {strings : List (String × Value)} {fault : Fault}
    (hfails : literals strings = .error fault) : fault = .numberTooLong := by
  induction strings with
  | nil => cases hfails
  | cons entry rest ih =>
      rw [literals] at hfails
      cases hentry : Literal.ofValue entry.2 with
      | error found =>
          rw [hentry] at hfails
          obtain rfl := Except.error.inj hfails
          exact ofValue_error hentry
      | ok text =>
          rw [hentry] at hfails
          cases hrest : literals rest with
          | error found =>
              rw [hrest] at hfails
              obtain rfl := Except.error.inj hfails
              exact ih hrest
          | ok texts =>
              rw [hrest] at hfails
              cases hfails

theorem filling_error {strings : List (String × List Char)} {fragments : List (String × Value)}
    {name : List Char} {fault : Fault}
    (hfails : filling strings fragments name = some (.error fault)) : fault = .numberTooLong := by
  unfold filling at hfails
  cases hfragment : fragments.lookup (String.ofList name) with
  | none =>
      rw [hfragment] at hfails
      cases hstring : strings.lookup (String.ofList name) <;> simp [hstring] at hfails
  | some v =>
      rw [hfragment] at hfails
      cases htext : v.toText with
      | ok s => simp [htext, Except.map] at hfails
      | error found =>
          obtain rfl : found = fault := by simpa [htext, Except.map] using hfails
          exact Value.toText_error htext

/-! ### The wrapper -/

def wrapper : List Char :=
  Request.wrapperStart ++ '$' :: ("body".toList ++ Request.wrapperEnd)

/-- How far the wrapper moves the first line of a body to the right. -/
def width : Nat :=
  Request.wrapperStart.length

theorem foldl_advance_wrapperStart :
    Request.wrapperStart.foldl Position.advance {} = Position.indent width {} := by
  have hone : (Request.wrapperStart.all fun c => !Text.isLineBreak c) = true := by
    unfold Request.wrapperStart
    rw [String.toList_ofList]
    decide
  refine Position.foldl_advance (fun c hmem => ?_) 1 1
  simpa using List.all_eq_true.mp hone c hmem

theorem not_mem_wrapperStart : '$' ∉ Request.wrapperStart := by
  have hplain : Program.isPlain Request.wrapperStart = true := by
    unfold Request.wrapperStart
    rw [String.toList_ofList]
    decide
  exact (Program.isPlain_iff.mp hplain).1

theorem closesNothing_wrapperEnd : ClosesNothing Request.wrapperEnd := by
  have hplain : Program.isPlain Request.wrapperEnd = true := by
    unfold Request.wrapperEnd
    rw [String.toList_append, String.toList_ofList, String.toList_ofList]
    decide
  have hhead : Request.wrapperEnd.head? = some ' ' := by
    unfold Request.wrapperEnd
    rw [String.toList_append, String.toList_ofList, String.toList_ofList]
    rfl
  refine ⟨(Program.isPlain_iff.mp hplain).1, fun c hmem => ?_⟩
  obtain rfl := Option.some.inj (hhead.symm.trans hmem)
  decide

/-- The body takes the place of the wrapper's hole as it is. -/
theorem render_wrapper (body : String) :
    render wrapper [] [("body", .text body)] = .ok (Request.wrap body.toList) := by
  have hsound : ∀ slot ∈ [Slot.mk "body".toList body.toList Request.wrapperEnd],
      slot.isSound = true := by
    rw [List.forall_mem_singleton]
    unfold Slot.isSound Request.wrapperEnd
    rw [String.toList_append, String.toList_ofList, String.toList_ofList, String.toList_ofList]
    dsimp only
    decide
  have hparts : ∀ slot ∈ [Slot.mk "body".toList body.toList Request.wrapperEnd],
      filling [] [("body", .text body)] slot.name = some (.ok slot.part) := by
    rw [List.forall_mem_singleton]
    simp [-String.reduceToList, filling, Value.toText, Value.text?, Except.map]
  have hfilled := fill_segments_bodyWith not_mem_wrapperStart hsound hparts {}
  simp only [bodyWith, filledWith, interleave, List.map_cons, List.map_nil, List.flatMap_cons,
    List.flatMap_nil, List.append_nil, List.cons_append] at hfilled
  rw [Request.wrap, List.append_assoc]
  exact hfilled

theorem segments_wrap (body : List Char) :
    segments {} (Request.wrap body) = Request.wrapperStart.map .literal ++
      andThen ((segments {} body).map (Segment.indent width))
        (Request.wrapperEnd.map .literal) := by
  rw [Request.wrap, List.append_assoc, segments_append not_mem_wrapperStart,
    foldl_advance_wrapperStart, closesNothing_wrapperEnd.segments_append,
    segments_indent width (Nat.le_refl 1)]

theorem fill_segments_wrap {filling : Filling}
    (hplaceless : ∀ name fault, filling name = some (.error fault) → fault.indent width = fault)
    (body : List Char) :
    fill filling (segments {} (Request.wrap body)) =
      ((fill filling (segments {} body)).map Request.wrap).mapError (Fault.indent width) := by
  rw [segments_wrap, fill_literals_append, fill_andThen, fill_indent width hplaceless]
  cases fill filling (segments {} body) with
  | error fault => rfl
  | ok text => exact congrArg Except.ok (List.append_assoc _ _ _).symm

theorem render_wrap (body : List Char) (strings fragments : List (String × Value)) :
    render (Request.wrap body) strings fragments =
      ((render body strings fragments).map Request.wrap).mapError (Fault.indent width) := by
  unfold render
  cases hstrings : literals strings with
  | error fault =>
      rw [literals_error hstrings]
      rfl
  | ok texts =>
      refine fill_segments_wrap (fun name fault hfails => ?_) body
      rw [filling_error hfails]
      rfl

theorem ofBody_wrapped (kind : RequestKind) (body : String)
    (strings fragments : List (String × Value)) :
    Request.ofBody kind true (.text body) strings fragments =
      ((Request.ofBody kind false (.text body) strings fragments).map fun request =>
        ⟨request.kind, String.ofList (Request.wrap request.program.toList)⟩).mapError
          (Fault.indent width) := by
  have hwhole : Request.ofBody kind true (.text body) strings fragments =
      Request.ofTemplate kind (Request.wrap body.toList) strings fragments := by
    simp [Request.ofBody, Value.toText, Value.text?, bind, Except.bind]
  rw [hwhole, Request.ofTemplate, render_wrap]
  simp only [Request.ofBody, Bool.false_eq_true, if_false, Request.ofTemplate]
  cases render body.toList strings fragments with
  | error fault => rfl
  | ok program => simp [Except.map, Except.mapError]

/-- A body comes to the same inside the wrapper, which is itself a template. -/
structure CommutesWithWrapping (kind : RequestKind) (body : String)
    (strings fragments : List (String × Value)) : Prop where
  wrapped : render wrapper [] [("body", .text body)] = .ok (Request.wrap body.toList)
  /-- No hole of the body goes on into the wrapper, and no `$` of it is paired there. -/
  separate : segments {} (Request.wrap body.toList) = Request.wrapperStart.map .literal ++
    andThen ((segments {} body.toList).map (Segment.indent width))
      (Request.wrapperEnd.map .literal)
  rendered : ∀ request, Request.ofBody kind false (.text body) strings fragments = .ok request →
    request.kind = kind ∧
      Request.ofBody kind true (.text body) strings fragments = .ok ⟨kind, String.ofList
        (Request.wrapperStart ++ request.program.toList ++ Request.wrapperEnd)⟩
  undefined : ∀ name, Request.ofBody kind false (.text body) strings fragments =
      .error (.undefinedPlaceholder name) →
    Request.ofBody kind true (.text body) strings fragments = .error (.undefinedPlaceholder name)
  misplaced : ∀ line column, Request.ofBody kind false (.text body) strings fragments =
      .error (.badPlaceholder line column) →
    Request.ofBody kind true (.text body) strings fragments =
      .error (.badPlaceholder line (if line = 1 then column + width else column))
  /-- A value without a text fails both. -/
  overlong : Request.ofBody kind false (.text body) strings fragments = .error .numberTooLong →
    Request.ofBody kind true (.text body) strings fragments = .error .numberTooLong

/-- **Wrapping commutes with rendering**, whatever the body is. -/
theorem commutesWithWrapping (kind : RequestKind) (body : String)
    (strings fragments : List (String × Value)) :
    CommutesWithWrapping kind body strings fragments where
  wrapped := render_wrapper body
  separate := segments_wrap body.toList
  rendered request hrendered := by
    have hkind : request.kind = kind := by
      simp only [Request.ofBody, Bool.false_eq_true, if_false, Request.ofTemplate] at hrendered
      cases hrender : render body.toList strings fragments with
      | error fault =>
          rw [hrender] at hrendered
          cases hrendered
      | ok program =>
          rw [hrender] at hrendered
          exact congrArg Request.kind (Except.ok.inj hrendered).symm
    refine ⟨hkind, ?_⟩
    rw [ofBody_wrapped, hrendered, ← hkind]
    rfl
  undefined name hfails := by
    rw [ofBody_wrapped, hfails]
    rfl
  misplaced line column hfails := by
    rw [ofBody_wrapped, hfails]
    rfl
  overlong hfails := by
    rw [ofBody_wrapped, hfails]
    rfl

end Template

end HostLink
