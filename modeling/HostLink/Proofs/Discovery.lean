import HostLink.Proofs.Environment

/-!
# Entry points found afresh

The entry points of a link are those of its settings that the environment of the moment has. They
follow from the changes that were made to the environment, and from nothing else that was done: what
a name stood for before is never called again. Names around the program are as those of one
environment in which its own names come before the built in ones.
-/

namespace HostLink

namespace Settings

/-- The native call of the host object, which is told by a selector what to do. -/
def native (s : Settings) (selector : String) : Candidate :=
  ⟨memberLabel s.hostObject s.nativeCall, .member s.hostObject s.nativeCall, [.text selector]⟩

def method (s : Settings) : Candidate :=
  ⟨memberLabel s.hostObject s.evalMethod, .member s.hostObject s.evalMethod, []⟩

/-- The entry points between the first and the last native call. -/
def middle (s : Settings) : List Candidate :=
  s.method :: s.globalEvaluators.map fun name => ⟨name, .global name, []⟩

/-- The entry points that are looked for, in order. -/
def entries (s : Settings) : List Candidate :=
  s.native s.evalSelector :: s.middle ++ [s.native s.fallbackSelector]

def entriesIn (s : Settings) (environment : Environment) : List Candidate :=
  s.entries.filter fun c => environment.reaches c.target

theorem map_candidate_probes (s : Settings) : s.probes.map Probe.candidate = s.entries := by
  unfold probes probesWith entries middle
  simp only [List.map_cons, List.map_append, List.map_map, List.map_nil, List.cons_append]
  rfl

theorem target_ne_direct (s : Settings) {c : Candidate} (hentry : c ∈ s.entries) :
    c.target ≠ .direct := by
  unfold entries middle at hentry
  rcases List.mem_append.mp hentry with hentry | hentry
  · rcases List.mem_cons.mp hentry with rfl | hentry
    · exact Target.noConfusion
    · rcases List.mem_cons.mp hentry with rfl | hentry
      · exact Target.noConfusion
      · obtain ⟨name, -, rfl⟩ := List.mem_map.mp hentry
        exact Target.noConfusion
  · obtain rfl := List.mem_singleton.mp hentry
    exact Target.noConfusion

/-- The native call is found for both of its selectors or for none. -/
theorem entriesIn_eq (s : Settings) (environment : Environment) :
    s.entriesIn environment =
      if environment.reaches (.member s.hostObject s.nativeCall) = true then
        s.native s.evalSelector :: (s.middle.filter fun c => environment.reaches c.target) ++
          [s.native s.fallbackSelector]
      else s.middle.filter fun c => environment.reaches c.target := by
  unfold entriesIn entries
  rw [List.cons_append, List.filter_cons, List.filter_append, List.filter_cons, List.filter_nil]
  change (if environment.reaches (.member s.hostObject s.nativeCall) = true then _ ::
    (_ ++ if environment.reaches (.member s.hostObject s.nativeCall) = true then _ else _)
    else _ ++ if environment.reaches (.member s.hostObject s.nativeCall) = true then _ else _) = _
  by_cases hnative : environment.reaches (.member s.hostObject s.nativeCall) = true
  · simp only [hnative, if_true, List.cons_append]
  · simp only [hnative, if_false, Bool.false_eq_true, List.append_nil]

end Settings

namespace Link

open Run

theorem candidatesIn_ofSettings (settings : Settings) (host : Host) :
    (ofSettings settings).candidatesIn host = settings.entriesIn host.environment := by
  have hprobes : (ofSettings settings).probesIn host =
      settings.probes.filter fun probe => host.environment.reaches probe.candidate.target := by
    refine List.filter_congr fun probe hmem => host.isSome_function? fun hdirect => ?_
    have hentry : probe.candidate ∈ settings.entries := by
      rw [← settings.map_candidate_probes]
      exact List.mem_map_of_mem hmem
    exact settings.target_ne_direct hentry hdirect
  rw [candidatesIn_eq_map, hprobes, Settings.entriesIn, ← settings.map_candidate_probes,
    List.filter_map]
  rfl

theorem name_apply (link : Link) (s : Surroundings) :
    link.name s = ⟨.returned ((link.candidatesIn s.host).head?.map (·.label)), [], s⟩ :=
  rfl

/-- **A link without a name is one that has no entry point.** -/
theorem name_eq_none_iff (link : Link) (program : String) (s : Surroundings) :
    (link.name s).outcome = .returned none ↔ (link.evaluate program s).Raises .noEntryPoint := by
  rw [name_apply]
  by_cases hnone : link.candidatesIn s.host = []
  · rw [evaluate_of_no_candidates hnone, hnone]
    exact iff_of_true rfl ⟨_, rfl, rfl⟩
  · have hsuits : Suits link.settings.timeout
        { fault := fun fault => fault.kind ≠ .noEntryPoint } :=
      ⟨fun _ _ _ _ => trivial, fun _ hkind => hkind, .inl trivial, fun _ _ => trivial,
        fun _ _ _ => trivial⟩
    have hallows := (hsuits.holds_evaluate hnone trivial program).outcome
    refine iff_of_false (fun hname => hnone ?_) ?_
    · simpa using hname
    · rintro ⟨fault, hraised, hkind⟩
      rw [hraised] at hallows
      exact hallows hkind

/-- An evaluation calls the first few of the entry points that are there, and nothing else. -/
theorem exists_calls_eq (link : Link) (program : String) (s : Surroundings) :
    ∃ called, called <+: link.candidatesIn s.host ∧
      (link.evaluate program s).journal.calls =
        called.map fun c => (s.host.settle c.target, c.arguments program) := by
  have hturns : (link.turnsOn program s.host).map (·.candidate) = link.candidatesIn s.host := by
    rw [turnsOn, map_candidate_turns]
  rw [journal_evaluate, calls_written, ← hturns]
  generalize List.findIdx _ _ + 1 = count
  refine ⟨((link.turnsOn program s.host).take count).map (·.candidate),
    (List.take_prefix _ _).map _, ?_⟩
  rw [List.map_map]
  rfl

end Link

/-! ### Runs -/

/-- What is done with a link, or to the environment. -/
inductive Task where
  | change (c : Change)
  | evaluate (program : String)
  | name
  | candidates

/-- What comes of a task. -/
inductive Finding where
  | changed
  | text (s : String)
  | name (label : Option String)
  | candidates (found : List Candidate)

/-- The environment after the changes among tasks. -/
def Task.changed (tasks : List Task) (environment : Environment) : Environment :=
  tasks.foldl (fun environment task =>
    match task with
    | .change c => c.apply environment
    | _ => environment) environment

namespace Link

def take (link : Link) : Task → Run Finding
  | .change c => do
    Run.changeHost (Host.change c)
    pure .changed
  | .evaluate program => do
    let s ← link.evaluate program
    pure (.text s)
  | .name => do
    let label ← link.name
    pure (.name label)
  | .candidates => do
    let found ← link.candidates
    pure (.candidates found)

/-- Tasks one after another, whatever becomes of each. -/
def takeAll (link : Link) : List Task → Run (List (Except Fault Finding))
  | [] => pure []
  | task :: rest => do
    let finding ← Run.attempt (link.take task)
    let findings ← link.takeAll rest
    pure (finding :: findings)

open Run

variable {link : Link} {task : Task} {tasks : List Task} {s t : Surroundings}

/-- What can be called after a task follows from what could be called before it. -/
theorem view_take (link : Link) (task : Task) (s : Surroundings) :
    (link.take task s).surroundings.host.environment.view Item.abilities =
      (Task.changed [task] s.host.environment).view Item.abilities := by
  cases task with
  | change c => rfl
  | name => rfl
  | candidates => rfl
  | evaluate program =>
      -- An evaluation does nothing to the host but call it.
      have hsuits : Suits link.settings.timeout
          { inv := fun t => t.host.environment.view Item.abilities =
              s.host.environment.view Item.abilities } :=
        ⟨fun t target args hinv => (t.host.view_call target args).trans hinv,
          fun _ _ => trivial, .inl trivial, fun _ _ => trivial, fun _ _ _ => trivial⟩
      exact (Obeys.bind (hsuits.obeys_evaluate trivial program) (fun raw => obeys_pure _) s
        rfl).surroundings

/-- If the run goes on after something was attempted, then from what that left behind. -/
theorem attempt_bind_of_ends {α β : Type} {x : Run α} {f : Except Fault α → Run β}
    (hends : ((attempt x >>= f) s).outcome ≠ .stalled) :
    ∃ answer, ((attempt x >>= f) s).outcome = (f answer (x s).surroundings).outcome ∧
      ((attempt x >>= f) s).surroundings = (f answer (x s).surroundings).surroundings := by
  cases hx : (x s).outcome with
  | returned a =>
      rw [attempt_bind_of_returned hx]
      exact ⟨.ok a, rfl, rfl⟩
  | raised fault =>
      rw [attempt_bind_of_raised hx]
      exact ⟨.error fault, rfl, rfl⟩
  | stalled =>
      have hstalled : (attempt x s).outcome = .stalled := by rw [attempt_of_stalled hx]
      exact absurd (by rw [bind_of_stalled hstalled]) hends

theorem takeAll_cons (hends : (link.takeAll (task :: tasks) s).outcome ≠ .stalled) :
    (link.takeAll tasks (link.take task s).surroundings).outcome ≠ .stalled ∧
      (link.takeAll (task :: tasks) s).surroundings =
        (link.takeAll tasks (link.take task s).surroundings).surroundings := by
  rw [takeAll] at hends ⊢
  obtain ⟨finding, houtcome, hafter⟩ := attempt_bind_of_ends hends
  rw [houtcome] at hends
  rw [hafter]
  refine ⟨fun hrest => hends (by rw [bind_of_stalled hrest]), ?_⟩
  rw [bind_apply]
  cases (link.takeAll tasks (link.take task s).surroundings).outcome <;> rfl

/-- The same changes are seen alike where the same was seen before them. -/
theorem view_changed {γ : Type} {see : Item → γ} {environment other : Environment}
    (hview : environment.view see = other.view see) (tasks : List Task) :
    (Task.changed tasks environment).view see = (Task.changed tasks other).view see := by
  induction tasks generalizing environment other with
  | nil => exact hview
  | cons task rest ih =>
      cases task with
      | change c => exact ih (by rw [Environment.view_apply, Environment.view_apply, hview])
      | _ => exact ih hview

/-- **What can be called after a run follows from the changes alone.** -/
theorem view_takeAll (hends : (link.takeAll tasks s).outcome ≠ .stalled) :
    (link.takeAll tasks s).surroundings.host.environment.view Item.abilities =
      (Task.changed tasks s.host.environment).view Item.abilities := by
  induction tasks generalizing s with
  | nil => rfl
  | cons task rest ih =>
      obtain ⟨hrest, hafter⟩ := takeAll_cons hends
      rw [hafter, ih hrest]
      exact view_changed (link.view_take task s) rest

theorem entriesIn_congr {environment other : Environment}
    (hview : environment.view Item.abilities = other.view Item.abilities) (settings : Settings) :
    settings.entriesIn environment = settings.entriesIn other := by
  rw [Settings.entriesIn, Settings.entriesIn, Environment.reaches_congr hview]

/-! ### Runs that are alike -/

variable {R : Host → Host → Prop}

/-- What the second task does to the second host is like what the first does to the first. -/
inductive Beside (R : Host → Host → Prop) (host other : Host) : Task → Task → Prop
  | change {c c' : Change} (hafter : R (host.change c) (other.change c')) :
    Beside R host other (.change c) (.change c')
  | evaluate (program : String) : Beside R host other (.evaluate program) (.evaluate program)
  | name : Beside R host other .name .name
  | candidates : Beside R host other .candidates .candidates

theorem alike_take (hR : Host.IsLikeness R) {task' : Task} (hhosts : R s.host t.host)
    (hobserver : t.observer = s.observer) (hbeside : Beside R s.host t.host task task') :
    (link.take task s).Alike R Eq (link.take task' t) := by
  have hreturn : ∀ finding : Finding,
      Alike R Eq (Pure.pure finding : Run Finding) (Pure.pure finding) := fun _ => alike_pure rfl
  cases hbeside with
  | change hafter => exact ⟨.returned rfl, rfl, hobserver, hafter⟩
  | evaluate program =>
      exact ((alike_evaluate hR link program).bind_same fun _ => hreturn _).apply hhosts hobserver
  | name =>
      have hname : Alike R Eq link.name link.name :=
        (alike_candidates hR link).bind_same fun _ => alike_pure rfl
      exact (hname.bind_same fun _ => hreturn _).apply hhosts hobserver
  | candidates =>
      exact ((alike_candidates hR link).bind_same fun _ => hreturn _).apply hhosts hobserver

theorem alike_takeAll_cons {task' : Task} {tasks' : List Task}
    (htask : (link.take task s).Alike R Eq (link.take task' t))
    (hrest : (link.takeAll tasks (link.take task s).surroundings).Alike R Eq
      (link.takeAll tasks' (link.take task' t).surroundings)) :
    (link.takeAll (task :: tasks) s).Alike R Eq (link.takeAll (task' :: tasks') t) := by
  have hattempt := alike_attempt htask
  refine alike_bind hattempt fun finding finding' hcaught => ?_
  rw [attempt_apply, attempt_apply]
  refine alike_bind hrest fun findings findings' heq => ?_
  rw [hcaught.eq, heq]
  exact ⟨.returned rfl, rfl, hrest.observer, hrest.host⟩

/-- The tasks for names that are given, where all that the names around the program stand for at the
moment is given to them, change by change. -/
def seenTasks (link : Link) : List Task → Surroundings → List Task
  | [], _ => []
  | .change c :: rest, s =>
    .change (s.host.environment.seen c) ::
      link.seenTasks rest (link.take (.change c) s).surroundings
  | task :: rest, s => task :: link.seenTasks rest (link.take task s).surroundings

/-- **Names around the program are as good as given ones**, at every moment of a run. -/
theorem alike_seenTasks (hgiven : s.host.GivenAs t.host) (hobserver : t.observer = s.observer)
    (tasks : List Task) :
    (link.takeAll tasks s).Alike Host.GivenAs Eq
      (link.takeAll (link.seenTasks tasks s) t) := by
  induction tasks generalizing s t with
  | nil => exact (alike_pure rfl).apply hgiven hobserver
  | cons task rest ih =>
      -- The other host keeps up: its names stay given, and what a change uncovers is given as well.
      have hrest : ∀ {task' : Task}, Beside Host.GivenAs s.host t.host task task' →
          (link.takeAll (task :: rest) s).Alike Host.GivenAs Eq
            (link.takeAll (task' :: link.seenTasks rest (link.take task s).surroundings) t) := by
        intro task' hbeside
        have htask : (link.take task s).Alike Host.GivenAs Eq (link.take task' t) :=
          alike_take Host.isLikeness_givenAs hgiven hobserver hbeside
        exact alike_takeAll_cons htask (ih htask.host htask.observer)
      cases task with
      | change c => exact hrest (.change (hgiven.change_seen c))
      | evaluate program => exact hrest (.evaluate program)
      | name => exact hrest .name
      | candidates => exact hrest .candidates

theorem alike_samePlaces (hsame : s.host.SamePlaces t.host) (hobserver : t.observer = s.observer)
    (tasks : List Task) :
    (link.takeAll tasks s).Alike Host.SamePlaces Eq (link.takeAll tasks t) := by
  induction tasks generalizing s t with
  | nil => exact (alike_pure rfl).apply hsame hobserver
  | cons task rest ih =>
      have hbeside : Beside Host.SamePlaces s.host t.host task task := by
        cases task with
        | change c => exact .change (hsame.change c)
        | evaluate program => exact .evaluate program
        | name => exact .name
        | candidates => exact .candidates
      have htask : (link.take task s).Alike Host.SamePlaces Eq (link.take task t) :=
        alike_take Host.isLikeness_samePlaces hsame hobserver hbeside
      exact alike_takeAll_cons htask (ih htask.host htask.observer)

/-! ### Following the environment -/

/-- What is found and called at a moment follows from the environment of that moment. -/
structure FollowsEnvironment (settings : Settings) : Prop where
  /-- Found are the entry points of the settings that can be called, in order. -/
  candidates : ∀ s, (ofSettings settings).candidates s =
    ⟨.returned (settings.entriesIn s.host.environment), [], s⟩
  name : ∀ s, (ofSettings settings).name s =
    ⟨.returned ((settings.entriesIn s.host.environment).head?.map (·.label)), [], s⟩
  nameless : ∀ program s, ((ofSettings settings).name s).outcome = .returned none ↔
    ((ofSettings settings).evaluate program s).Raises .noEntryPoint
  /-- The native call is the first and the last of the entry points found, or none of them. -/
  native : ∀ environment : Environment, settings.entriesIn environment =
    if environment.reaches (.member settings.hostObject settings.nativeCall) = true then
      settings.native settings.evalSelector ::
        (settings.middle.filter fun c => environment.reaches c.target) ++
          [settings.native settings.fallbackSelector]
    else settings.middle.filter fun c => environment.reaches c.target
  /-- Of a name that is not there, only members of the absent value can be called. -/
  absent : ∀ (environment : Environment) (object member : String),
    environment.lookup object = none → environment.reaches (.global object) = false ∧
      environment.reaches (.member object member) = Kind.null.hasMember member
  /-- An evaluation calls the first few of the entry points that are there, and nothing else. -/
  calls : ∀ program s, ∃ called, called <+: settings.entriesIn s.host.environment ∧
    ((ofSettings settings).evaluate program s).journal.calls =
      called.map fun c => (s.host.settle c.target, c.arguments program)
  /-- Whatever else was done, what is found afterwards follows from the changes that were made. -/
  changed : ∀ tasks s, ((ofSettings settings).takeAll tasks s).outcome ≠ .stalled →
    settings.entriesIn ((ofSettings settings).takeAll tasks s).surroundings.host.environment =
      settings.entriesIn (Task.changed tasks s.host.environment)
  /-- Once a name is changed, it makes no difference what it stood for before. -/
  forgotten : ∀ before c : Change, before.layer = c.layer → before.name = c.name →
    ∀ (tasks : List Task) (s : Surroundings),
      let result := (ofSettings settings).takeAll (.change c :: tasks) s
      let result' := (ofSettings settings).takeAll (.change c :: tasks)
        { s with host := s.host.change before }
      result'.outcome = result.outcome ∧ result'.journal = result.journal
  /-- A run with the names around the program is as one with a single environment, in which names
  stand for the same at every moment. -/
  overlaid : ∀ (tasks : List Task) (s : Surroundings),
    let result := (ofSettings settings).takeAll tasks s
    let result' := (ofSettings settings).takeAll ((ofSettings settings).seenTasks tasks s)
      { s with host := s.host.overlaid }
    result'.outcome = result.outcome ∧ result'.journal = result.journal ∧
      result.surroundings.host.GivenAs result'.surroundings.host

/-- **Discovery follows the environment.** -/
theorem followsEnvironment (settings : Settings) : FollowsEnvironment settings where
  candidates s := by rw [candidates_apply, candidatesIn_ofSettings]
  name s := by rw [name_apply, candidatesIn_ofSettings]
  nameless program s := name_eq_none_iff _ program s
  native := settings.entriesIn_eq
  absent environment object member habsent := Environment.reaches_of_absent habsent member
  calls program s := by
    rw [← candidatesIn_ofSettings]
    exact exists_calls_eq _ program s
  changed tasks s hends := entriesIn_congr (view_takeAll hends) settings
  forgotten before c hlayer hname tasks s := by
    have hsame := s.host.samePlaces_change_change hlayer hname
    have htask : ((ofSettings settings).take (.change c) s).Alike Host.SamePlaces Eq
        ((ofSettings settings).take (.change c) { s with host := s.host.change before }) :=
      ⟨.returned rfl, rfl, rfl, hsame⟩
    have halike := alike_takeAll_cons htask (alike_samePlaces htask.host htask.observer tasks)
    exact ⟨halike.outcome.eq, halike.journal⟩
  overlaid tasks s := by
    have halike : ((ofSettings settings).takeAll tasks s).Alike Host.GivenAs Eq
        ((ofSettings settings).takeAll ((ofSettings settings).seenTasks tasks s)
          { s with host := s.host.overlaid }) :=
      alike_seenTasks (t := { s with host := s.host.overlaid }) s.host.givenAs_overlaid rfl tasks
    exact ⟨halike.outcome.eq, halike.journal, halike.host⟩

end Link

end HostLink
