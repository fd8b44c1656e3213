import HostLink.Proofs.Request

/-!
# Bodies that are written from texts and holes

A body may be written from any texts and holes, with each `$` of a text doubled and the name of each
hole in braces. It comes apart into what it was written from, whatever stands side by side. So a
template changes the holes and nothing else, each is filled in one of two ways, and of the holes
that nothing fills the first is named.
-/

namespace HostLink.Template

open Program (argument)

/-! ### Bodies -/

/-- Letters, digits and underscores, and no digit in front. -/
structure Name where
  text : String
  sound : isName text.toList = true := by decide

inductive Stretch where
  | text (s : List Char)
  | hole (name : Name)

def doubled (s : List Char) : List Char :=
  s.flatMap fun c => if c = '$' then ['$', '$'] else [c]

namespace Stretch

def written : Stretch → List Char
  | .text s => doubled s
  | .hole name => '$' :: '\x7b' :: (name.text.toList ++ ['\x7d'])

def segments : Stretch → List Segment
  | .text s => s.map .literal
  | .hole name => [.hole name.text.toList]

end Stretch

def bodyOf (stretches : List Stretch) : List Char :=
  stretches.flatMap Stretch.written

/-! ### Taking bodies apart -/

theorem readBraced?_append {name : List Char} (hname : isName name = true) (rest : List Char) :
    readBraced? ('\x7b' :: (name ++ '\x7d' :: rest)) = some (name, rest) := by
  have hends : continuesName ('\x7d' :: rest) = false := rfl
  rw [readBraced?, readName?_append hname hends]
  rfl

theorem segments_braced {name : List Char} (hname : isName name = true) (p : Position)
    (rest : List Char) :
    segments p ('$' :: '\x7b' :: (name ++ '\x7d' :: rest)) =
      .hole name :: segments (p.skip (name.length + 3)) rest := by
  have hread : readHole? ('\x7b' :: (name ++ '\x7d' :: rest)) = some (name, rest) := by
    rw [readHole?, readBraced?_append hname]
    rfl
  rw [segments_of_readHole? (by decide) hread, if_pos rfl]

theorem segments_doubled (s : List Char) (p : Position) (rest : List Char) :
    ∃ q, segments p (doubled s ++ rest) = s.map .literal ++ segments q rest := by
  induction s generalizing p with
  | nil => exact ⟨p, rfl⟩
  | cons c s ih =>
      by_cases hc : c = '$'
      · obtain ⟨q, hq⟩ := ih (p.skip 2)
        refine ⟨q, ?_⟩
        rw [doubled, List.flatMap_cons, if_pos hc, hc]
        exact (segments_doubled_dollar p _).trans (congrArg _ hq)
      · obtain ⟨q, hq⟩ := ih (p.advance c)
        refine ⟨q, ?_⟩
        rw [doubled, List.flatMap_cons, if_neg hc]
        exact (segments_cons_of_ne hc p _).trans (congrArg _ hq)

theorem segments_written (stretch : Stretch) (p : Position) (rest : List Char) :
    ∃ q, segments p (stretch.written ++ rest) = stretch.segments ++ segments q rest := by
  cases stretch with
  | text s => exact segments_doubled s p rest
  | hole name =>
      refine ⟨p.skip (name.text.toList.length + 3), ?_⟩
      simpa [Stretch.written, Stretch.segments] using segments_braced name.sound p rest

/-- **A body comes apart into what it was written from.** -/
theorem segments_bodyOf (stretches : List Stretch) (p : Position) :
    segments p (bodyOf stretches) = stretches.flatMap Stretch.segments := by
  induction stretches generalizing p with
  | nil => rw [bodyOf, List.flatMap_nil, segments, List.flatMap_nil]
  | cons stretch rest ih =>
      obtain ⟨q, hq⟩ := segments_written stretch p (bodyOf rest)
      rw [bodyOf, List.flatMap_cons, List.flatMap_cons]
      exact hq.trans (congrArg _ (ih q))

/-! ### Filling -/

/-- What fills a hole: the fragment of its name as it is, or else a literal of the string. -/
def part? (strings : List (String × Option String)) (fragments : List (String × String))
    (name : Name) : Option (List Char) :=
  match fragments.lookup name.text with
  | some s => some s.toList
  | none => (strings.lookup name.text).map argument

/-- The stretch in what the template comes to. -/
def Stretch.filled (part? : Name → Option (List Char)) : Stretch → List Char
  | .text s => s
  | .hole name => (part? name).getD []

variable {supply other : Filling} {found : Name → Option (List Char)} {stretches : List Stretch}

theorem fill_congr {segs : List Segment}
    (hsame : ∀ name, .hole name ∈ segs → supply name = other name) :
    fill supply segs = fill other segs := by
  induction segs with
  | nil => rfl
  | cons segment rest ih =>
      have hrest := ih fun name hmem => hsame name (List.mem_cons_of_mem _ hmem)
      cases segment with
      | literal c => rw [fill, fill, hrest]
      | hole name => rw [fill, fill, hsame name List.mem_cons_self, hrest]
      | fault p => rfl

/-- Where all holes are filled, what follows is filled after them. -/
theorem fill_stretches_append (hsupply : ∀ name : Name, supply name.text.toList =
      (found name).map .ok)
    (hfound : ∀ name, .hole name ∈ stretches → (found name).isSome = true) (rest : List Segment) :
    fill supply (stretches.flatMap Stretch.segments ++ rest) =
      (fill supply rest).map (stretches.flatMap (Stretch.filled found) ++ ·) := by
  induction stretches with
  | nil =>
      simp only [List.flatMap_nil, List.nil_append]
      cases fill supply rest <;> rfl
  | cons stretch stretches ih =>
      have hrest := ih fun name hmem => hfound name (List.mem_cons_of_mem _ hmem)
      have hfirst : ∀ segs, fill supply (stretch.segments ++ segs) =
          (fill supply segs).map (stretch.filled found ++ ·) := by
        intro segs
        cases stretch with
        | text s => exact fill_literals_append supply s segs
        | hole name =>
            obtain ⟨part, hpart⟩ := Option.isSome_iff_exists.mp (hfound name List.mem_cons_self)
            have hname : supply name.text.toList = some (.ok part) := by
              rw [hsupply, hpart, Option.map_some]
            simpa [Stretch.segments, Stretch.filled, hpart] using fill_hole_cons hname segs
      rw [List.flatMap_cons, List.flatMap_cons, List.append_assoc, hfirst, hrest]
      cases fill supply rest with
      | error fault => rfl
      | ok text => simp [Except.map]

theorem fill_of_missing (hsupply : ∀ name : Name, supply name.text.toList =
      (found name).map .ok) {name : Name} (hmissing : found name = none) (rest : List Segment) :
    fill supply (.hole name.text.toList :: rest) = .error (.undefinedPlaceholder name.text) := by
  rw [fill, hsupply, hmissing, Option.map_none, String.ofList_toList]

/-! ### Rendering -/

theorem lookup_map_snd {α β : Type} (f : α → β) (name : String) (l : List (String × α)) :
    (l.map fun entry => (entry.1, f entry.2)).lookup name = (l.lookup name).map f := by
  induction l with
  | nil => rfl
  | cons entry rest ih =>
      rw [List.map_cons, List.lookup_cons, List.lookup_cons, ih]
      cases name == entry.1 <;> rfl

/-- The template of a body, rendered with these strings and fragments. -/
def rendered (kind : RequestKind) (stretches : List Stretch)
    (strings : List (String × Option String)) (fragments : List (String × String)) :
    Except Fault Request :=
  Request.ofBody kind false (.text (String.ofList (bodyOf stretches)))
    (strings.map fun entry => (entry.1, .ofOption entry.2))
    (fragments.map fun entry => (entry.1, .text entry.2))

variable {strings : List (String × Option String)} {fragments : List (String × String)}

theorem filling_eq (strings : List (String × Option String)) (fragments : List (String × String))
    (name : Name) :
    filling (strings.map fun entry => (entry.1, argument entry.2))
        (fragments.map fun entry => (entry.1, .text entry.2)) name.text.toList =
      (part? strings fragments name).map .ok := by
  unfold filling part?
  rw [String.ofList_toList, lookup_map_snd, lookup_map_snd]
  cases fragments.lookup name.text with
  | none => rfl
  | some s => simp [Value.toText, Value.text?, Except.map]

theorem rendered_eq (kind : RequestKind) (stretches : List Stretch)
    (strings : List (String × Option String)) (fragments : List (String × String)) :
    rendered kind stretches strings fragments =
      (fill (filling (strings.map fun entry => (entry.1, argument entry.2))
        (fragments.map fun entry => (entry.1, .text entry.2)))
          (stretches.flatMap Stretch.segments)).map fun program =>
        ⟨kind, String.ofList program⟩ := by
  simp only [rendered, Request.ofBody, Request.ofTemplate, render, Program.literals_ofOption,
    String.toList_ofList, ← segments_bodyOf stretches {}]
  rfl

/-- A template is filled in one pass, from strings and from fragments. -/
structure FillsInOnePass (kind : RequestKind) (stretches : List Stretch)
    (strings : List (String × Option String)) (fragments : List (String × String)) : Prop where
  filled : (∀ name, .hole name ∈ stretches → (part? strings fragments name).isSome = true) →
    rendered kind stretches strings fragments =
      .ok ⟨kind, String.ofList (stretches.flatMap (Stretch.filled (part? strings fragments)))⟩
  /-- The first hole that nothing fills is named, whatever comes after it. -/
  undefined : ∀ before name after, stretches = before ++ .hole name :: after →
    (∀ other, .hole other ∈ before → (part? strings fragments other).isSome = true) →
    part? strings fragments name = none →
    rendered kind stretches strings fragments = .error (.undefinedPlaceholder name.text)
  /-- Only the names of the holes count. -/
  unused : ∀ strings' fragments',
    (∀ name, .hole name ∈ stretches → part? strings' fragments' name =
      part? strings fragments name) →
    rendered kind stretches strings' fragments' = rendered kind stretches strings fragments

/-- **Filling changes the holes and nothing else**, and what fills them is not looked at again. -/
theorem fillsInOnePass (kind : RequestKind) (stretches : List Stretch)
    (strings : List (String × Option String)) (fragments : List (String × String)) :
    FillsInOnePass kind stretches strings fragments where
  filled hfound := by
    have hfill := fill_stretches_append (filling_eq strings fragments) hfound []
    rw [List.append_nil] at hfill
    rw [rendered_eq, hfill]
    simp [fill, Except.map]
  undefined before name after hstretches hbefore hmissing := by
    subst hstretches
    rw [rendered_eq, List.flatMap_append, List.flatMap_cons,
      fill_stretches_append (filling_eq strings fragments) hbefore, Stretch.segments,
      List.singleton_append, fill_of_missing (filling_eq strings fragments) hmissing]
    rfl
  unused strings' fragments' hsame := by
    rw [rendered_eq, rendered_eq]
    refine congrArg _ (fill_congr fun name hmem => ?_)
    obtain ⟨stretch, hstretch, hhole⟩ := List.mem_flatMap.mp hmem
    cases stretch with
    | text s => simp [Stretch.segments] at hhole
    | hole known =>
        obtain rfl : name = known.text.toList := by simpa [Stretch.segments] using hhole
        rw [filling_eq, filling_eq, hsame known hstretch]

end HostLink.Template
