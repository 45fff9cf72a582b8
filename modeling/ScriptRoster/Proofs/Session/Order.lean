import ScriptRoster.Proofs.Session.Solo

/-!
# The load that ends last

As long as a session keeps its script, loads that overlap are not told apart by when they began:
each records what it found when it ends. So once all have ended, the session shows what was found by
the one that ended last, which may have begun first.
-/

namespace ScriptRoster

open Cache Files

/-- Whether an event leaves the session with the script that it has. -/
def Event.Stays : Event → Prop
  | .ask request => request.target? = none
  | _ => True

/-- Whether a task leaves the session with its script, and loads that script if it loads any. -/
structure Task.Stays (session : Session) (task : Task) : Prop where
  sought : task.stage.sought? = none
  target : task.stage = .start → task.request.target? = none
  errand : ∀ errand, task.stage.errand? = some errand → errand.generation = session.generation

/-- The session after loads have ended with some results, one after the other. -/
def Session.recordLast (session : Session) (results : List (Except ExtractionError Report)) :
    Session :=
  match results.getLast? with
  | some result => session.record result
  | none => session

namespace Traffic

/-- The result of the load that an event ends. -/
def ending? (traffic : Traffic) : Event → Option (Except ExtractionError Report)
  | .go index => traffic.tasks[index]?.bind fun task => task.stage.ending?
  | _ => none

/-- The results of the loads that some events end, in the order in which they end. -/
def endings (traffic : Traffic) : List Event → List (Except ExtractionError Report)
  | [] => []
  | event :: rest => (traffic.ending? event).toList ++ (traffic.next event).endings rest

end Traffic

/-! ## Steps under one configuration -/

section Steps

variable {before after : Session} {next : Stage} {task : Task}
  {result : Except ExtractionError Report}

/-- While the session keeps its script, a task stays in its course, begins a load or ends one. -/
theorem Turn.cases_of_stays (turn : Turn task.request before task.stage after next)
    (stays : task.Stays before) :
    (Session.SameCourse before after ∧ next.sought? = none ∧ next.errand? = task.stage.errand? ∧
        task.stage.ending? = none ∧ next ≠ .start) ∨
      (∃ kind path, task.stage.errand? = none ∧ after = { before with load := .loading } ∧
        next = .makeKey ⟨kind, path, before.generation⟩) ∨
      ∃ errand result answer, task.stage = .finish errand result ∧ after = before.record result ∧
        next = .done answer := by
  obtain ⟨sought, target, errand⟩ := stays
  generalize task.stage = stage at turn sought target errand
  cases turn with
  | calm same soughtToo errandToo unfinished onward =>
      exact .inl ⟨same, soughtToo.trans sought, errandToo, unfinished, onward⟩
  | repointed asked =>
      rw [target rfl] at asked
      cases asked
  | located | overtaken => cases sought
  | begun _ idle => exact .inr (.inl ⟨_, _, idle, rfl, rfl⟩)
  | recorded => exact .inr (.inr ⟨_, _, _, rfl, rfl, rfl⟩)
  | discarded other => exact absurd (errand _ rfl).symm other

/-- A task that leaves the session with its script makes no new generation. -/
theorem Turn.generation_eq (turn : Turn task.request before task.stage after next)
    (stays : task.Stays before) : after.generation = before.generation := by
  rcases turn.cases_of_stays stays with ⟨same, -⟩ | ⟨_, _, -, rfl, -⟩ | ⟨_, _, _, -, rfl, -⟩
  · exact same.generation
  · rfl
  · exact Session.generation_record _ _

/-- A task that leaves the session with its script keeps to that. -/
theorem Turn.stays (turn : Turn task.request before task.stage after next)
    (stays : task.Stays before) : Task.Stays after { task with stage := next } := by
  have generation := turn.generation_eq stays
  rcases turn.cases_of_stays stays with
    ⟨-, sought, errand, -, onward⟩ | ⟨_, _, -, -, rfl⟩ | ⟨_, _, _, -, -, rfl⟩
  · refine ⟨sought, fun start => absurd start onward, fun work loads => ?_⟩
    rw [generation]
    exact stays.errand work (errand ▸ loads)
  · refine ⟨rfl, nofun, fun work loads => ?_⟩
    cases loads
    exact generation.symm
  · exact ⟨rfl, nofun, fun _ => nofun⟩

/-- A load that ends records its result, whenever it began. -/
theorem Turn.recorded_of_ending (turn : Turn task.request before task.stage after next)
    (stays : task.Stays before) (ends : task.stage.ending? = some result) :
    after.names = (before.record result).names ∧ after.load = (before.record result).load := by
  rcases turn.cases_of_stays stays with
    ⟨-, -, -, unfinished, -⟩ | ⟨_, _, idle, -, -⟩ | ⟨_, _, _, stage, rfl, -⟩
  · rw [unfinished] at ends
    cases ends
  · rw [Stage.ending_of_errand idle] at ends
    cases ends
  · rw [stage] at ends
    cases ends
    exact ⟨rfl, rfl⟩

/-- Any other step leaves the list alone, and the load state too unless it begins a load. -/
theorem Turn.kept_of_unfinished (turn : Turn task.request before task.stage after next)
    (stays : task.Stays before) (unfinished : task.stage.ending? = none) :
    after.names = before.names ∧
      (after.load = before.load ∧ next.errand? = task.stage.errand? ∨
        after.load = .loading ∧ ∃ errand, next.errand? = some errand) := by
  rcases turn.cases_of_stays stays with
    ⟨same, -, errand, -, -⟩ | ⟨_, _, -, rfl, rfl⟩ | ⟨_, _, _, stage, -, -⟩
  · exact ⟨same.names, .inl ⟨same.load, errand⟩⟩
  · exact ⟨rfl, .inr ⟨rfl, _, rfl⟩⟩
  · rw [stage] at unfinished
    cases unfinished

theorem Task.Stays.of_generation (stays : task.Stays before)
    (same : after.generation = before.generation) : task.Stays after where
  sought := stays.sought
  target := stays.target
  errand work loads := (stays.errand work loads).trans same.symm

/-- Of several results the last one is what a session shows. -/
theorem Session.recordLast_append (session : Session)
    (results : List (Except ExtractionError Report)) (result : Except ExtractionError Report) :
    session.recordLast (results ++ [result]) = session.record result := by
  rw [Session.recordLast, List.getLast?_concat]

/-- What a session shows after a load has ended does not depend on what it showed before. -/
theorem Session.shown_record (session other : Session) (result : Except ExtractionError Report) :
    (session.record result).names = (other.record result).names ∧
      (session.record result).load = (other.record result).load := by
  cases result <;> exact ⟨rfl, rfl⟩

theorem Task.errand_of_answered (answered : task.answer?.isSome = true) :
    task.stage.errand? = none := by
  obtain ⟨answer, told⟩ := Option.isSome_iff_exists.mp answered
  rw [Task.stage_of_answered told]
  rfl

end Steps

/-! ## Runs under one configuration -/

namespace Traffic

/-- A session shows the list and the load state that loads with some results have left, but that a
load may be under way. -/
structure Shows (start : Session) (results : List (Except ExtractionError Report))
    (traffic : Traffic) : Prop where
  stays : ∀ (index : Nat) (task : Task), traffic.tasks[index]? = some task →
    task.Stays traffic.scene.session
  names : traffic.scene.session.names = (start.recordLast results).names
  load : traffic.scene.session.load = (start.recordLast results).load ∨
    traffic.scene.session.load = .loading ∧
      ∃ (index : Nat) (task : Task) (errand : Errand),
        traffic.tasks[index]? = some task ∧ task.stage.errand? = some errand

variable {traffic : Traffic} {event : Event} {index : Nat} {task : Task} {start : Session}
  {results : List (Except ExtractionError Report)}

theorem shows_quiet (scene : Scene) : (quiet scene).Shows scene.session [] where
  stays index task there := by
    rw [quiet, List.getElem?_nil] at there
    cases there
  names := rfl
  load := .inl rfl

theorem ending?_go (there : traffic.tasks[index]? = some task) :
    traffic.ending? (.go index) = task.stage.ending? := by
  rw [ending?, there, Option.bind_some]

theorem Rests.ending?_eq (rests : traffic.Rests event) : traffic.ending? event = none := by
  cases event with
  | go index => rw [ending?, rests.idle index rfl, Option.bind_none]
  | ask | cancel | edit => rfl

theorem Shows.rests (shown : traffic.Shows start results) (rests : traffic.Rests event)
    (stays : event.Stays) : (traffic.next event).Shows start results := by
  constructor
  · intro index task there
    rw [rests.session]
    rcases rests.tasks index task there with ⟨old, before, request, stage⟩ | ⟨request, rfl, rfl⟩
    · obtain ⟨sought, target, errand⟩ := shown.stays index old before
      rw [stage] at sought target errand
      rw [request] at target
      exact ⟨sought, target, errand⟩
    · exact ⟨rfl, fun _ => stays, fun _ => nofun⟩
  · rw [rests.session]
    exact shown.names
  · rw [rests.session]
    rcases shown.load with settled | ⟨loading, index, old, errand, before, loads⟩
    · exact .inl settled
    · obtain ⟨task, there, stage⟩ := rests.kept index old before
      exact .inr ⟨loading, index, task, errand, there, by rw [stage, loads]⟩

/-- A step of a task shows at most the result with which its load ends. -/
theorem Shows.advance (shown : traffic.Shows start results)
    (there : traffic.tasks[index]? = some task) :
    (traffic.advance index task).Shows start (results ++ task.stage.ending?.toList) := by
  have turn := task.turn_next traffic.scene
  have stays := shown.stays index task there
  have generation := turn.generation_eq stays
  have inside := (List.getElem?_eq_some_iff.mp there).1
  constructor
  · intro other later found
    rw [scene_advance]
    rcases getElem?_advance found with ⟨rfl, rfl⟩ | ⟨-, before⟩
    · exact turn.stays stays
    · exact (shown.stays other later before).of_generation generation
  · rw [scene_advance]
    cases ends : task.stage.ending? with
    | some result =>
        rw [(turn.recorded_of_ending stays ends).1, Option.toList_some, Session.recordLast_append]
        exact (Session.shown_record _ _ _).1
    | none =>
        rw [(turn.kept_of_unfinished stays ends).1, Option.toList_none, List.append_nil]
        exact shown.names
  · rw [scene_advance]
    cases ends : task.stage.ending? with
    | some result =>
        rw [(turn.recorded_of_ending stays ends).2, Option.toList_some, Session.recordLast_append]
        exact .inl (Session.shown_record _ _ _).2
    | none =>
        rw [Option.toList_none, List.append_nil]
        rcases (turn.kept_of_unfinished stays ends).2 with ⟨same, kept⟩ | ⟨loading, errand, loads⟩
        · rw [same]
          rcases shown.load with settled | ⟨loading, other, old, errand, before, loads⟩
          · exact .inl settled
          · refine .inr ⟨loading, other, ?_⟩
            -- the load that is under way has moved on itself, or stands where it stood
            by_cases here : other = index
            · subst here
              cases there.symm.trans before
              exact ⟨_, errand, List.getElem?_set_self inside, kept.trans loads⟩
            · refine ⟨old, errand, ?_, loads⟩
              rw [Traffic.advance, List.getElem?_set_ne (Ne.symm here), before]
        · exact .inr ⟨loading, index, _, errand, List.getElem?_set_self inside, loads⟩

/-- As long as a session keeps its script, it shows what the loads that have ended have left. -/
theorem Shows.run (shown : traffic.Shows start results) (events : List Event)
    (stays : ∀ event ∈ events, event.Stays) :
    (events.foldl Traffic.next traffic).Shows start (results ++ traffic.endings events) := by
  induction events generalizing traffic results with
  | nil =>
      rw [endings, List.append_nil]
      exact shown
  | cons event events ih =>
      have first :
          (traffic.next event).Shows start (results ++ (traffic.ending? event).toList) := by
        rcases traffic.rests_or_advances event with rests | ⟨index, task, rfl, there, same⟩
        · rw [rests.ending?_eq, Option.toList_none, List.append_nil]
          exact shown.rests rests (stays event List.mem_cons_self)
        · rw [same, ending?_go there]
          exact shown.advance there
      rw [endings, ← List.append_assoc]
      exact ih first fun later member => stays later (List.mem_cons_of_mem event member)

end Traffic

/-! ## An older load that ends last -/

namespace Traffic

/-- A load is about to end after another one has been answered that was not asked for before the
first had begun. -/
structure Overtaken (scene : Scene) (first second : List Event) (older newer : Nat) : Prop where
  stays : ∀ event ∈ first ++ second, event.Stays
  begun : ∃ task errand, (first.foldl next (quiet scene)).tasks[older]? = some task ∧
    task.stage.errand? = some errand
  unasked : (first.foldl next (quiet scene)).tasks[newer]? = none
  answered : ∃ task kind, ((first ++ second).foldl next (quiet scene)).tasks[newer]? = some task ∧
    task.request.kind? = some kind ∧ task.answer?.isSome
  ending : ∃ task, ((first ++ second).foldl next (quiet scene)).tasks[older]? = some task ∧
    task.stage.ending?.isSome

/-- The older load may end as well. -/
theorem Overtaken.stays_last {scene : Scene} {first second : List Event} {older newer : Nat}
    (overtaken : Overtaken scene first second older newer) :
    ∀ event ∈ first ++ second ++ [Event.go older], event.Stays := by
  intro event member
  rcases List.mem_append.mp member with earlier | last
  · exact overtaken.stays event earlier
  · rw [List.mem_singleton.mp last]
    trivial

/-- The events of a load that comes to a host where it can read nothing. -/
def olderLoad (gone : Host) : List Event :=
  .edit gone :: .ask (.load true) :: List.replicate 3 (.go 0)

/-- The events of a load from another host that is asked for afterwards. -/
def newerLoad (back : Host) : List Event :=
  .edit back :: .ask (.load true) :: List.replicate 13 (.go 1)

variable (session : Session) (world : World) {gone back : Host} {location : Location}
  {keyError : StoreError} {error : ExtractionError} {report : Report}

/-- The older load has failed to read the script and is about to end. -/
theorem foldl_olderLoad (ready : session.path = .ready location)
    (keyless : session.keyOf gone location.resolved = .error keyError)
    (unreadable : readScript gone.files gone.cwd location.resolved = .error error) :
    ∃ between, (olderLoad gone).foldl next (.quiet ⟨session, world⟩) =
      ⟨⟨{ session with load := .loading }, between⟩,
        [⟨.load true, .finish ⟨.fresh, location.resolved, session.generation⟩ (.error error),
          false⟩], []⟩ := by
  obtain ⟨between, -, older⟩ :=
    unreadable_load session { world with host := gone } ready keyless unreadable
  exact ⟨between, older⟩

/-- The newer load has been answered with what it found, while the older one is still about to end.
-/
theorem foldl_newerLoad (ready : session.path = .ready location)
    (quiet : session.inFlight = [])
    (keyless : session.keyOf gone location.resolved = .error keyError)
    (unreadable : readScript gone.files gone.cwd location.resolved = .error error)
    (drawn : session.profile.drawAt back location.resolved = .ok report) :
    ∃ later promises answer reads,
      (olderLoad gone ++ newerLoad back).foldl next (.quiet ⟨session, world⟩) =
        ⟨⟨{ session with names := report.names, load := .loaded, promises }, later⟩,
          [⟨.load true, .finish ⟨.fresh, location.resolved, session.generation⟩ (.error error),
              false⟩,
            ⟨.load true, .done answer, false⟩], reads⟩ := by
  obtain ⟨between, older⟩ := foldl_olderLoad session world ready keyless unreadable
  have there : [Task.mk (.load true)
      (.finish ⟨.fresh, location.resolved, session.generation⟩ (.error error)) false,
      .ofRequest (.load true) false][1]? = some (.ofRequest (.load true) false) := rfl
  obtain ⟨later, promises, answer, reads, newer⟩ :=
    fresh_load { session with load := .loading } { between with host := back } _ [] quiet ready
      (Nat.le_refl 13) there
  have found : Profile.drawAt ({ session with load := .loading } : Session).profile
      ({ between with host := back } : World).host location.resolved = .ok report := drawn
  rw [found] at newer
  refine ⟨later, promises, answer, reads, ?_⟩
  rw [List.foldl_append, older, newerLoad, List.foldl_cons, List.foldl_cons]
  exact newer

theorem stays_olderLoad (gone back : Host) :
    ∀ event ∈ olderLoad gone ++ newerLoad back, event.Stays := by
  intro event member
  rw [List.mem_append, olderLoad, newerLoad, List.mem_cons, List.mem_cons, List.mem_cons,
    List.mem_cons, List.mem_replicate, List.mem_replicate] at member
  rcases member with (rfl | rfl | ⟨-, rfl⟩) | rfl | rfl | ⟨-, rfl⟩ <;> trivial

theorem overtaken_olderLoad (ready : session.path = .ready location)
    (quiet : session.inFlight = [])
    (keyless : session.keyOf gone location.resolved = .error keyError)
    (unreadable : readScript gone.files gone.cwd location.resolved = .error error)
    (drawn : session.profile.drawAt back location.resolved = .ok report) :
    Overtaken ⟨session, world⟩ (olderLoad gone) (newerLoad back) 0 1 := by
  obtain ⟨between, older⟩ := foldl_olderLoad session world ready keyless unreadable
  obtain ⟨later, promises, answer, reads, both⟩ :=
    foldl_newerLoad session world ready quiet keyless unreadable drawn
  constructor
  · exact stays_olderLoad gone back
  · rw [older]
    exact ⟨_, _, rfl, rfl⟩
  · rw [older]
    rfl
  · rw [both]
    exact ⟨_, _, rfl, rfl, rfl⟩
  · rw [both]
    exact ⟨_, rfl, rfl⟩

/-- The older load takes away the list that the newer one has found. -/
theorem olderLoad_ends (ready : session.path = .ready location)
    (quiet : session.inFlight = [])
    (keyless : session.keyOf gone location.resolved = .error keyError)
    (unreadable : readScript gone.files gone.cwd location.resolved = .error error)
    (drawn : session.profile.drawAt back location.resolved = .ok report) :
    ∃ traffic, (olderLoad gone ++ newerLoad back).foldl next (.quiet ⟨session, world⟩) = traffic ∧
      traffic.scene.session.names = report.names ∧
      (traffic.next (.go 0)).scene.session.names = [] ∧
      ∀ task ∈ (traffic.next (.go 0)).tasks, task.answer?.isSome := by
  obtain ⟨later, promises, answer, reads, both⟩ :=
    foldl_newerLoad session world ready quiet keyless unreadable drawn
  obtain ⟨last, -, finish⟩ := Scene.finish_current
    ⟨{ session with names := report.names, load := .loaded, promises }, later⟩
    ⟨.fresh, location.resolved, session.generation⟩ (.error error) rfl
  have ends : (Task.mk (.load true)
      (.finish ⟨.fresh, location.resolved, session.generation⟩ (.error error)) false).next
        ⟨{ session with names := report.names, load := .loaded, promises }, later⟩ = _ := finish
  refine ⟨_, both, rfl, ?_⟩
  rw [go_first ends rfl]
  refine ⟨rfl, ?_⟩
  simp [Task.answer?]

/-- A script is deleted before the older load reads it, and is back before the newer one does. -/
theorem olderLoad_withScript {content : String} (modified : Int)
    (ready : session.path = .ready ⟨"/s", onlyScript⟩) (quiet : session.inFlight = [])
    (mode : session.profile.keyMode = .modified)
    (drawn : session.profile.draw (dropMark content) = .ok report) :
    Overtaken ⟨session, world⟩ (olderLoad .withoutScript)
        (newerLoad (.withScript content modified)) 0 1 ∧
      ∃ traffic,
        (olderLoad .withoutScript ++ newerLoad (.withScript content modified)).foldl next
            (.quiet ⟨session, world⟩) = traffic ∧
          traffic.scene.session.names = report.names ∧
          (traffic.next (.go 0)).scene.session.names = [] ∧
          ∀ task ∈ (traffic.next (.go 0)).tasks, task.answer?.isSome := by
  have keyless := Session.keyOf_withoutScript mode
  have unreadable := Host.readScript_withoutScript
  rw [← Host.drawAt_withScript content modified] at drawn
  exact ⟨overtaken_olderLoad session world ready quiet keyless unreadable drawn,
    olderLoad_ends session world ready quiet keyless unreadable drawn⟩

end Traffic

/-! ## What is shown in the end -/

/-- As long as a session keeps its script, in every order of steps, a load that ends records its own
result, whenever it began, and any other event leaves the list alone, and the load state too unless
a load begins. So once all calls are answered, list and load state are those of the load that ended
last, or those at the start if none has ended. -/
theorem last_ending_shows (scene : Scene) (events : List Event)
    (stays : ∀ event ∈ events, event.Stays) {traffic : Traffic}
    (ended : events.foldl Traffic.next (.quiet scene) = traffic) :
    (∀ event, event.Stays →
      match traffic.ending? event with
      | some result =>
          (traffic.next event).scene.session.names = (scene.session.record result).names ∧
            (traffic.next event).scene.session.load = (scene.session.record result).load
      | none =>
          (traffic.next event).scene.session.names = traffic.scene.session.names ∧
            ((traffic.next event).scene.session.load = traffic.scene.session.load ∨
              (traffic.next event).scene.session.load = .loading)) ∧
    ((∀ task ∈ traffic.tasks, task.answer?.isSome) →
      traffic.scene.session.names =
          (scene.session.recordLast (Traffic.endings (.quiet scene) events)).names ∧
        traffic.scene.session.load =
          (scene.session.recordLast (Traffic.endings (.quiet scene) events)).load) := by
  have shown : traffic.Shows scene.session (Traffic.endings (.quiet scene) events) := by
    rw [← ended]
    exact (Traffic.shows_quiet scene).run events stays
  constructor
  · intro event staysToo
    rcases traffic.rests_or_advances event with rests | ⟨index, task, rfl, there, same⟩
    · rw [rests.ending?_eq, rests.session]
      exact ⟨rfl, .inl rfl⟩
    · have turn := task.turn_next traffic.scene
      have keeps := shown.stays index task there
      rw [Traffic.ending?_go there, same, Traffic.scene_advance]
      cases ends : task.stage.ending? with
      | some result =>
          obtain ⟨names, load⟩ := turn.recorded_of_ending keeps ends
          obtain ⟨sameNames, sameLoad⟩ :=
            Session.shown_record traffic.scene.session scene.session result
          exact ⟨names.trans sameNames, load.trans sameLoad⟩
      | none =>
          obtain ⟨names, load⟩ := turn.kept_of_unfinished keeps ends
          exact ⟨names, load.imp And.left And.left⟩
  · intro answered
    refine ⟨shown.names, ?_⟩
    rcases shown.load with settled | ⟨-, index, task, errand, there, loads⟩
    · exact settled
    · rw [Task.errand_of_answered (answered task (List.mem_of_getElem? there))] at loads
      cases loads

/-- Of two loads, the older one ends last, without a list, and so nothing is listed in the end. -/
theorem last_ending_shows_older :
    ∃ (scene : Scene) (events : List Event) (traffic : Traffic),
      events.foldl Traffic.next (.quiet scene) = traffic ∧
      (∀ task ∈ traffic.tasks, task.answer?.isSome) ∧
      traffic.scene.session.names = [] ∧
      traffic.scene.session.names =
        (scene.session.recordLast (Traffic.endings (.quiet scene) events)).names := by
  have listed : (Profile.ofSettings .defaults).draw (dropMark "function A \x7b\x7d") =
      .ok ⟨["A"], .extracted .structural⟩ := by decide +kernel
  obtain ⟨overtaken, traffic, both, -, unlisted, answered⟩ := Traffic.olderLoad_withScript
    ((Session.start (.ofSettings .defaults)).pointed "/s" (.ok ⟨"/s", onlyScript⟩))
    (.bare (.withScript "function A \x7b\x7d" 5)) 5 rfl rfl rfl listed
  have ended := List.foldl_append.trans
    (congrArg (fun traffic => [Event.go 0].foldl Traffic.next traffic) both)
  obtain ⟨-, shown⟩ := last_ending_shows _ _ overtaken.stays_last ended
  exact ⟨_, _, _, ended, answered, unlisted, (shown answered).1⟩

/-- A load that began first, while the script was missing, and ends last takes away the list that a
newer load has found since the script is there. -/
theorem newer_load_undone :
    ¬ ∀ (scene : Scene) (first second : List Event) (older newer : Nat) (traffic : Traffic),
      Traffic.Overtaken scene first second older newer →
      (first ++ second).foldl Traffic.next (.quiet scene) = traffic →
        (traffic.next (.go older)).scene.session.names = traffic.scene.session.names ∧
          (traffic.next (.go older)).scene.session.load = traffic.scene.session.load := by
  intro claim
  have listed : (Profile.ofSettings .defaults).draw (dropMark "function A \x7b\x7d") =
      .ok ⟨["A"], .extracted .structural⟩ := by decide +kernel
  obtain ⟨overtaken, traffic, both, before, after, -⟩ := Traffic.olderLoad_withScript
    ((Session.start (.ofSettings .defaults)).pointed "/s" (.ok ⟨"/s", onlyScript⟩))
    (.bare (.withScript "function A \x7b\x7d" 5)) 5 rfl rfl rfl listed
  have kept := (claim _ _ _ _ _ traffic overtaken both).1
  rw [before, after] at kept
  cases kept

end ScriptRoster
