import ScriptRoster.Proofs.Session.OneScript
import ScriptRoster.Proofs.Session.Traffic

/-!
# A task that goes on alone

While one task does all the steps and nothing else happens, the traffic goes where the task would go
without the others.
-/

namespace ScriptRoster

open Cache Files

/-- Putting an element where it is already changes nothing. -/
theorem set_of_getElem? {α : Type*} {items : List α} {index : Nat} {item : α}
    (there : items[index]? = some item) : items.set index item = items := by
  obtain ⟨inside, rfl⟩ := List.getElem?_eq_some_iff.mp there
  exact List.set_getElem_self inside

theorem Task.stage_of_answered {task : Task} {answer : Answer}
    (answered : task.answer? = some answer) : task.stage = .done answer := by
  obtain ⟨request, stage, cancelled⟩ := task
  cases stage with
  | done told => exact congrArg Stage.done (Option.some.inj answered)
  | _ => cases answered

namespace Traffic

variable {traffic : Traffic} {index : Nat} {task : Task} {answer : Answer}

/-- A task that has been answered changes nothing any more. -/
theorem advance_answered (there : traffic.tasks[index]? = some task)
    (answered : task.answer? = some answer) : traffic.advance index task = traffic := by
  have done := Task.stage_of_answered answered
  obtain ⟨request, stage, cancelled⟩ := task
  cases done
  simp only [advance, Task.step, Task.next, Task.readings, set_of_getElem? there, List.append_nil]

theorem foldl_go_answered (there : traffic.tasks[index]? = some task)
    (answered : task.answer? = some answer) (n : Nat) :
    (List.replicate n (.go index)).foldl next traffic = traffic := by
  induction n with
  | zero => rfl
  | succ n ih =>
      rw [List.replicate_succ, List.foldl_cons, next_go there, advance_answered there answered, ih]

end Traffic

/-- A task that comes to its answer alone comes to it in the traffic as well, where it may be let go
on for some more steps. -/
theorem Task.Reaches.traffic {n m index : Nat} {scene later : Scene} {task after : Task}
    {answer : Answer} (reaches : Reaches n scene task later after)
    (answered : after.answer? = some answer) (h : n ≤ m) {tasks : List Task}
    {reads : Reads} (there : tasks[index]? = some task) :
    ∃ more, (List.replicate m (.go index)).foldl Traffic.next ⟨scene, tasks, reads⟩ =
      ⟨later, tasks.set index after, more⟩ := by
  induction reaches generalizing m tasks reads with
  | @here n scene task =>
      have rests : tasks = (Traffic.mk scene tasks reads).tasks := rfl
      rw [rests] at there
      rw [Traffic.foldl_go_answered there answered, set_of_getElem? there]
      exact ⟨reads, rfl⟩
  | @step n scene task later after _ _ _ ih =>
      obtain ⟨m, rfl⟩ := Nat.exists_eq_add_of_le' (Nat.one_le_of_lt h)
      have inside := (List.getElem?_eq_some_iff.mp there).1
      obtain ⟨more, ended⟩ := ih answered (Nat.le_of_succ_le_succ h)
        (List.getElem?_set_self (a := (task.step scene).2) inside)
      refine ⟨more, ?_⟩
      rw [List.replicate_succ, List.foldl_cons]
      rw [show Traffic.next ⟨scene, tasks, reads⟩ (.go index) = _ from Traffic.next_go there]
      rw [List.set_set] at ended
      exact ended

/-- A task that begins to load the script alone, without asking the cache, answers with what is in it
and leaves the session so. -/
theorem Traffic.fresh_answer (session : Session) (world : World) (tasks : List Task)
    (reads : Reads) {location : Location} {index m : Nat} {request : Request} {stage : Stage}
    {cancelled : Bool} (quiet : session.inFlight = []) (ready : session.path = .ready location)
    (h : 13 ≤ m) (there : tasks[index]? = some ⟨request, stage, cancelled⟩)
    (free : Task.moves stage = true)
    (starts : (Task.mk request stage cancelled).next ⟨session, world⟩ =
      Scene.startLoad ⟨session, world⟩ .fresh) :
    ∃ later promises more,
      (List.replicate m (.go index)).foldl Traffic.next ⟨⟨session, world⟩, tasks, reads⟩ =
        ⟨⟨{ session.record (session.profile.drawAt world.host location.resolved) with promises },
            later⟩,
          tasks.set index ⟨request, .done (.loaded
            ((session.profile.drawAt world.host location.resolved).mapError .extraction)),
              cancelled⟩, more⟩ := by
  obtain ⟨result, later, promises, loads, reaches⟩ := Task.reaches_answer
    ⟨request, stage, cancelled⟩ ⟨session, world⟩ stage .fresh free starts quiet ready
  rw [loads.result_eq] at reaches
  obtain ⟨more, ended⟩ := reaches.traffic rfl h there
  exact ⟨later, promises, more, ended⟩

/-- A session that loads its script alone, without asking the cache, ends up with what is in it. -/
theorem Traffic.fresh_load (session : Session) (world : World) (tasks : List Task)
    (reads : Reads) {location : Location} {index m : Nat} {cancelled : Bool}
    (quiet : session.inFlight = []) (ready : session.path = .ready location) (h : 13 ≤ m)
    (there : tasks[index]? = some (.ofRequest (.load true) cancelled)) :
    ∃ later promises answer more,
      (List.replicate m (.go index)).foldl Traffic.next ⟨⟨session, world⟩, tasks, reads⟩ =
        ⟨⟨{ session.record (session.profile.drawAt world.host location.resolved) with promises },
            later⟩,
          tasks.set index ⟨.load true, .done answer, cancelled⟩, more⟩ := by
  obtain ⟨later, promises, more, ended⟩ :=
    Traffic.fresh_answer session world tasks reads quiet ready h there rfl rfl
  exact ⟨later, promises, _, more, ended⟩

/-- A session that configures a script alone, without asking the cache, answers with what is in it
and ends up so. -/
theorem Traffic.fresh_configure (session : Session) (world : World) (tasks : List Task)
    (reads : Reads) {location : Location} {index m : Nat}
    {raw : String} {cancelled : Bool} (quiet : session.inFlight = [])
    (located : Location.resolve world.host raw = .ok location) (h : 16 ≤ m)
    (there : tasks[index]? = some (.ofRequest (.configure raw true) cancelled)) :
    ∃ later promises more,
      (List.replicate m (.go index)).foldl Traffic.next ⟨⟨session, world⟩, tasks, reads⟩ =
        ⟨⟨{ (session.pointed raw (.ok location)).record
              (session.profile.drawAt world.host location.resolved) with promises }, later⟩,
          tasks.set index ⟨.configure raw true, .done (.loaded
            ((session.profile.drawAt world.host location.resolved).mapError .extraction)),
              cancelled⟩, more⟩ := by
  obtain ⟨between, aside, configured⟩ :=
    Task.reaches_configured (.ofRequest (.configure raw true) cancelled) ⟨session, world⟩ raw
      (some .fresh) rfl
  rw [located] at configured
  obtain ⟨result, later, promises, loads, reaches⟩ :=
    Task.reaches_answer (.ofRequest (.configure raw true) cancelled)
      ⟨session.pointed raw (.ok location), between⟩ (.startLoad .fresh) .fresh rfl rfl quiet rfl
  rw [loads.result_eq, aside.host] at reaches
  obtain ⟨more, ended⟩ := (configured.trans reaches).traffic rfl h there
  exact ⟨later, promises, more, ended⟩

/-- A task does one step in which it reads nothing. -/
theorem Traffic.go_silent {index : Nat} {task : Task} {next : Stage} {scene later : Scene}
    {tasks : List Task} {reads : Reads} (there : tasks[index]? = some task)
    (moves : task.next scene = (later, next)) (silent : task.readings scene = []) :
    Traffic.next ⟨scene, tasks, reads⟩ (.go index) =
      ⟨later, tasks.set index { task with stage := next }, reads⟩ := by
  simp only [Traffic.next, Traffic.advance, Task.step, there, moves, silent, List.append_nil]

/-- The first task does one step in which it reads nothing. -/
theorem Traffic.go_first {request : Request} {stage next : Stage} {cancelled : Bool}
    {scene later : Scene} {rest : List Task} {reads : Reads}
    (moves : (Task.mk request stage cancelled).next scene = (later, next))
    (silent : (Task.mk request stage cancelled).readings scene = []) :
    Traffic.next ⟨scene, ⟨request, stage, cancelled⟩ :: rest, reads⟩ (.go 0) =
      ⟨later, ⟨request, next, cancelled⟩ :: rest, reads⟩ :=
  Traffic.go_silent rfl moves silent

theorem Scene.start_of_target {request : Request} {raw : String} {next : Option LoadKind}
    (scene : Scene) (asked : request.target? = some (raw, next)) :
    scene.start request = scene.setScript raw next := by
  cases request with
  | setScript | configure =>
      cases asked
      rfl
  | load | reload | run => cases asked

/-- A call that points a session at a script looks for it, alone, in two steps. -/
theorem Traffic.seeks (session : Session) (world : World) (tasks : List Task) (reads : Reads)
    {request : Request} {raw : String} {next : Option LoadKind} {index : Nat} {cancelled : Bool}
    (asked : request.target? = some (raw, next))
    (there : tasks[index]? = some (.ofRequest request cancelled)) :
    ∃ later, World.Unasked world later ∧
      (List.replicate 2 (.go index)).foldl Traffic.next ⟨⟨session, world⟩, tasks, reads⟩ =
        ⟨⟨session.repointed raw, later⟩,
          tasks.set index ⟨request, .settle raw (session.generation + 1) next
            (Location.resolve world.host raw), cancelled⟩, reads⟩ := by
  obtain ⟨between, noted, setScript⟩ := Scene.setScript_eq ⟨session, world⟩ raw next
  obtain ⟨later, remarked, resolve⟩ :=
    Scene.resolve_eq ⟨session.repointed raw, between⟩ raw (session.generation + 1) next
  have inside := (List.getElem?_eq_some_iff.mp there).1
  have first : (Task.ofRequest request cancelled).next ⟨session, world⟩ =
      (⟨session.repointed raw, between⟩, .resolve raw (session.generation + 1) next) :=
    (Scene.start_of_target ⟨session, world⟩ asked).trans setScript
  have second : (Task.mk request (.resolve raw (session.generation + 1) next) cancelled).next
      ⟨session.repointed raw, between⟩ =
        (⟨session.repointed raw, later⟩, .settle raw (session.generation + 1) next
          (Location.resolve world.host raw)) := by
    rw [← noted.host]
    exact resolve
  have begun : Traffic.next ⟨⟨session, world⟩, tasks, reads⟩ (.go index) =
      ⟨⟨session.repointed raw, between⟩,
        tasks.set index ⟨request, .resolve raw (session.generation + 1) next, cancelled⟩, reads⟩ :=
    Traffic.go_silent there first rfl
  refine ⟨later, noted.trans remarked, ?_⟩
  rw [List.replicate_succ, List.foldl_cons, begun, List.replicate_succ, List.foldl_cons,
    Traffic.go_silent (List.getElem?_set_self inside) second rfl, List.set_set]
  rfl

/-- A call that points a session at a script knows, alone, in three steps whether it is there. -/
theorem Traffic.points (session : Session) (world : World) (tasks : List Task) (reads : Reads)
    {request : Request} {raw : String} {next : Option LoadKind} {index : Nat} {cancelled : Bool}
    (asked : request.target? = some (raw, next))
    (there : tasks[index]? = some (.ofRequest request cancelled)) :
    ∃ later, World.Unasked world later ∧
      (List.replicate 3 (.go index)).foldl Traffic.next ⟨⟨session, world⟩, tasks, reads⟩ =
        ⟨⟨session.pointed raw (Location.resolve world.host raw), later⟩,
          tasks.set index ⟨request, Scene.configured next
            ((Location.resolve world.host raw).mapError .path), cancelled⟩, reads⟩ := by
  obtain ⟨between, aside, sought⟩ := Traffic.seeks session world tasks reads asked there
  obtain ⟨later, told, settle⟩ := Scene.settle_current ⟨session.repointed raw, between⟩ raw next
    (Location.resolve world.host raw) rfl
  have inside := (List.getElem?_eq_some_iff.mp there).1
  have third : (Task.mk request (.settle raw (session.generation + 1) next
      (Location.resolve world.host raw)) cancelled).next ⟨session.repointed raw, between⟩ = _ :=
    settle
  refine ⟨later, aside.trans told, ?_⟩
  rw [List.replicate_succ', List.foldl_append, sought, List.foldl_cons, List.foldl_nil,
    Traffic.go_silent (List.getElem?_set_self inside) third rfl, List.set_set]
  rfl

/-- A load of a script that is there begins in one step. -/
theorem Traffic.load_begins (session : Session) (world : World) {location : Location}
    (ready : session.path = .ready location) :
    [.ask (.load true), .go 0].foldl Traffic.next (.quiet ⟨session, world⟩) =
      ⟨⟨{ session with load := .loading }, world⟩,
        [⟨.load true, .makeKey ⟨.fresh, location.resolved, session.generation⟩, false⟩], []⟩ := by
  have first : (Task.mk (.load true) .start false).next ⟨session, world⟩ =
      (⟨{ session with load := .loading }, world⟩,
        .makeKey ⟨.fresh, location.resolved, session.generation⟩) :=
    Scene.startLoad_ready ⟨session, world⟩ ready
  rw [List.foldl_cons, Traffic.next_ask_quiet, List.foldl_cons, Task.ofRequest,
    Traffic.go_first first rfl, List.foldl_nil]

/-- A load that can neither make a key nor read its script comes to its end in three steps. -/
theorem Traffic.unreadable_load (session : Session) (world : World) {location : Location}
    {keyError : StoreError} {error : ExtractionError} (ready : session.path = .ready location)
    (keyless : session.keyOf world.host location.resolved = .error keyError)
    (unreadable : readScript world.host.files world.host.cwd location.resolved = .error error) :
    ∃ later, World.Unasked world later ∧
      (.ask (.load true) :: List.replicate 3 (.go 0)).foldl Traffic.next (.quiet ⟨session, world⟩) =
        ⟨⟨{ session with load := .loading }, later⟩,
          [⟨.load true, .finish ⟨.fresh, location.resolved, session.generation⟩ (.error error),
            false⟩], []⟩ := by
  obtain ⟨later, aside, makeKey⟩ := Scene.makeKey_of_error
    ⟨{ session with load := .loading }, world⟩ ⟨.fresh, location.resolved, session.generation⟩
    keyless
  have still : readScript later.host.files later.host.cwd location.resolved = .error error := by
    rw [aside.host, unreadable]
  have second : (Task.mk (.load true)
      (.makeKey ⟨.fresh, location.resolved, session.generation⟩) false).next
        ⟨{ session with load := .loading }, world⟩ =
      (⟨{ session with load := .loading }, later⟩,
        .read ⟨.fresh, location.resolved, session.generation⟩ none) := makeKey
  have third : (Task.mk (.load true)
      (.read ⟨.fresh, location.resolved, session.generation⟩ none) false).next
        ⟨{ session with load := .loading }, later⟩ =
      (⟨{ session with load := .loading }, later⟩,
        .finish ⟨.fresh, location.resolved, session.generation⟩ (.error error)) :=
    Scene.read_error ⟨{ session with load := .loading }, later⟩ _ still
  have silent : (Task.mk (.load true)
      (.read ⟨.fresh, location.resolved, session.generation⟩ none) false).readings
        ⟨{ session with load := .loading }, later⟩ = [] := by
    simp only [Task.readings, still]
  refine ⟨later, aside, ?_⟩
  rw [show Event.ask (.load true) :: List.replicate 3 (.go 0) =
      [.ask (.load true), .go 0] ++ [.go 0, .go 0] from rfl, List.foldl_append,
    Traffic.load_begins session world ready, List.foldl_cons, Traffic.go_first second rfl,
    List.foldl_cons, Traffic.go_first third silent, List.foldl_nil]

end ScriptRoster
