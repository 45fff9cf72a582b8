import ScriptRoster.Proofs.Session.Calling
import ScriptRoster.Proofs.Session.Life

/-!
# Calls are counted

A session counts the calls that have found their function and are not answered yet. Whatever the
order of steps, the count is exact, and it is zero when nothing is called. A step of a call changes
nothing but this count and what the interpreter does to its host.
-/

namespace ScriptRoster

open Cache Files Invocation

/-- Whether a function is to be called. -/
def Request.isCall : Request → Bool
  | .run _ => true
  | _ => false

namespace Stage

/-- Whether a task has begun and is not answered yet. -/
def isUnderWay : Stage → Bool
  | .start | .done _ => false
  | _ => true

/-- Whether a call has found its function and is not answered yet. -/
def isCall : Stage → Bool
  | .spawn .. | .watch .. | .conclude .. => true
  | _ => false

end Stage

/-- Whether a call has begun, so that it has found its function, and is not answered yet. -/
def Task.isCalling (task : Task) : Bool := task.request.isCall && task.stage.isUnderWay

/-- What a step of a call does to its host: nothing, or what an interpreter does that is started or
goes on. -/
inductive Interprets (before : Host) : Host → Prop
  | idle : Interprets before before
  | started (cwd : Place) (program : String) (arguments : List String) :
      Interprets before (Shell.Machine.start before cwd program arguments).1
  | wentOn (steps time : Nat) (machine : Shell.Machine) :
      Interprets before (Shell.Machine.runWithin steps time before machine).1

/-- What a step of a call leaves as it was in the surroundings of a session. -/
structure World.Undisturbed (before after : World) : Prop where
  store : after.store = before.store
  refuses : after.refuses = before.refuses
  calls : after.calls = before.calls
  sourcesCalled : after.sourcesCalled = before.sourcesCalled
  host : Interprets before.host after.host

/-- Two sessions differ at most in the number of functions that are being called. -/
def Session.SameButActive (before after : Session) : Prop :=
  after = { before with active := after.active }

/-- A run begins by starting an interpreter, or not at all. -/
theorem Invocation.Run.interprets_begin {host after : Host} {interpreter : Interpreter}
    {script : Path} {name : String} {cancelled : Bool} {run : Run}
    (begun : Run.begin host interpreter script name cancelled = .ok (after, run)) :
    Interprets host after := by
  obtain ⟨-, -, path, program, -, starts⟩ := Run.of_begin begun
  have started : (Shell.Machine.start _ _ _ _).1 = after := congrArg Prod.fst starts
  rw [← started]
  exact .started ..

/-- A run that goes on does to its host what its interpreter does. -/
theorem Invocation.Run.interprets_advance (host : Host) (stopAsked : Bool) (run : Run) :
    Interprets host (run.advance host stopAsked).1 := by
  unfold advance
  split
  · exact .wentOn stepsInSlice (run.time + slice) run.machine
  · exact .idle

section Steps

variable {request : Request} {scene there : Scene} {stage next : Stage} {errand : Errand}
  {cancelled : Bool}

/-! ## Counting one step -/

theorem Stage.isCall_of_errand (loads : stage.errand? = some errand) :
    stage.isCall = false ∧ stage.isUnderWay = true := by
  cases stage <;> first | exact ⟨rfl, rfl⟩ | cases loads

theorem Stage.isCall_of_begins {kind : LoadKind} (begins : stage.begins? request = some kind) :
    stage.isCall = false ∧ (stage.isUnderWay = true ∨ request.isCall = false) := by
  cases stage with
  | start =>
      refine ⟨rfl, .inr ?_⟩
      cases request <;> first | rfl | cases begins
  | startLoad => exact ⟨rfl, .inl rfl⟩
  | _ => cases begins

theorem Stage.isCall_of_calls (calls : stage.calls = true) :
    stage.isCall = true ∧ stage.isUnderWay = true := by
  cases stage <;> first | exact ⟨rfl, rfl⟩ | cases calls

theorem isCall_configured (following : Option LoadKind) (result : Except SessionError Location) :
    (Scene.configured following result).isCall = false := by
  cases following with
  | none => rfl
  | some kind => cases result <;> rfl

/-- A load does not touch the number of calls. -/
theorem Move.active_eq (move : Move scene stage there next) :
    there.session.active = scene.session.active := by
  cases move <;> rfl

/-- A step counts a call more when it has found its function, and one less when it is answered. -/
theorem Act.active_eq (act : Act request scene stage there next)
    (counted : (if stage.isCall then 1 else 0) ≤ scene.session.active) :
    there.session.active + (if stage.isCall then 1 else 0) =
      scene.session.active + if next.isCall then 1 else 0 := by
  cases act with
  | begun begins | refused begins =>
      rw [(Stage.isCall_of_begins begins).1]
      rfl
  | located | overtaken =>
      rw [isCall_configured]
      rfl
  | @recorded errand result =>
      rw [show (scene.session.record result).active = scene.session.active by cases result <;> rfl]
      rfl
  | ended calls =>
      rw [(Stage.isCall_of_calls calls).1]
      rfl
  | concluded =>
      exact Nat.sub_add_cancel counted
  | repointed | resolved | discarded | listed | unlisted | spawned | watched | rested => rfl

/-- A step changes the number of calls by what it does to the stage of its own task. -/
theorem Task.active_next (scene : Scene) (task : Task)
    (counted : (if task.stage.isCall then 1 else 0) ≤ scene.session.active) :
    (task.next scene).1.session.active + (if task.stage.isCall then 1 else 0) =
      scene.session.active + if (task.next scene).2.isCall then 1 else 0 := by
  rcases task.move_or_act scene with move | act
  · obtain ⟨errand, before, after⟩ := move.exists_errand
    rw [(Stage.isCall_of_errand before).1, (Stage.isCall_of_errand after).1, move.active_eq]
  · exact act.active_eq counted

/-! ## The stages of a call -/

/-- A task calls a function exactly at the stages of a call. -/
def Task.Fits (task : Task) : Prop := task.isCalling = task.stage.isCall

theorem Request.isCall_of_target {target : String × Option LoadKind}
    (asked : request.target? = some target) : request.isCall = false := by
  cases request <;> first | rfl | cases asked

/-- Whoever is under way and at no stage of a call does not call a function. -/
theorem Request.isCall_of_fits (fits : (request.isCall && stage.isUnderWay) = stage.isCall)
    (begun : stage.isUnderWay = true) (aside : stage.isCall = false) : request.isCall = false := by
  rwa [begun, aside, Bool.and_true] at fits

/-- A task that calls a function where it should still does so after a step. -/
theorem Act.fits_next (act : Act request scene stage there next)
    (fits : (request.isCall && stage.isUnderWay) = stage.isCall) :
    (request.isCall && next.isUnderWay) = next.isCall := by
  cases act with
  | repointed asked =>
      rw [Request.isCall_of_target asked]
      rfl
  | resolved =>
      rw [Request.isCall_of_fits fits rfl rfl]
      rfl
  | located | overtaken =>
      rw [Request.isCall_of_fits fits rfl rfl, isCall_configured]
      rfl
  | begun begins =>
      obtain ⟨aside, begun | other⟩ := Stage.isCall_of_begins begins
      · rw [Request.isCall_of_fits fits begun aside]
        rfl
      · rw [other]
        rfl
  | listed asked =>
      rw [asked]
      rfl
  | spawned | watched => exact fits
  | ended calls =>
      obtain ⟨call, begun⟩ := Stage.isCall_of_calls calls
      rw [call, begun] at fits
      exact fits
  | refused | recorded | discarded | unlisted | concluded | rested => exact Bool.and_false _

theorem Task.Fits.step {task : Task} (fits : task.Fits) (scene : Scene) :
    (task.step scene).2.Fits := by
  rcases task.move_or_act scene with move | act
  · obtain ⟨errand, before, after⟩ := move.exists_errand
    obtain ⟨aside, begun⟩ := Stage.isCall_of_errand before
    obtain ⟨still, onward⟩ := Stage.isCall_of_errand after
    have other := Request.isCall_of_fits fits begun aside
    change (task.request.isCall && (task.next scene).2.isUnderWay) = (task.next scene).2.isCall
    rw [other, still, Bool.false_and]
  · exact act.fits_next fits

/-! ## What a call leaves as it was -/

theorem World.Undisturbed.note (world : World) (notices : Journal) :
    World.Undisturbed world (world.note notices) := ⟨rfl, rfl, rfl, rfl, .idle⟩

/-- Starting an interpreter disturbs neither the session nor the rest of its surroundings. -/
theorem Scene.undisturbed_spawn (scene : Scene) (cancelled : Bool) (path : Path) (name : String) :
    (scene.spawn cancelled path name).1.session = scene.session ∧
      World.Undisturbed scene.world (scene.spawn cancelled path name).1.world := by
  unfold spawn
  dsimp only
  split
  · next host run begun =>
      exact ⟨rfl, rfl, rfl, rfl, rfl, Run.interprets_begin begun⟩
  · exact ⟨rfl, .note _ _⟩

theorem Scene.undisturbed_watch (scene : Scene) (cancelled : Bool) (run : Run) :
    (scene.watch cancelled run).1.session = scene.session ∧
      World.Undisturbed scene.world (scene.watch cancelled run).1.world := by
  unfold watch
  split
  · exact ⟨rfl, rfl, rfl, rfl, rfl, .idle⟩
  · refine ⟨rfl, rfl, rfl, rfl, rfl, ?_⟩
    exact Run.interprets_advance scene.world.host cancelled run

/-- A step of a call changes nothing of the session but the number of calls. -/
theorem Task.Fits.undisturbed {task : Task} {name : String} (fits : task.Fits)
    (asked : task.request = .run name) (scene : Scene) :
    Session.SameButActive scene.session (task.step scene).1.session ∧
      World.Undisturbed scene.world (task.step scene).1.world := by
  obtain ⟨request, stage, cancelled⟩ := task
  cases asked
  have same : ∀ {after : Scene}, after.session = scene.session →
      Session.SameButActive scene.session after.session := fun kept => kept ▸ rfl
  cases stage with
  | start =>
      change Session.SameButActive scene.session (scene.startRun name).1.session ∧
        World.Undisturbed scene.world (scene.startRun name).1.world
      unfold Scene.startRun
      dsimp only
      split
      · split
        · exact ⟨rfl, .note _ _⟩
        · exact ⟨rfl, rfl, rfl, rfl, rfl, .idle⟩
      · exact ⟨rfl, rfl, rfl, rfl, rfl, .idle⟩
  | spawn path name =>
      obtain ⟨session, world⟩ := scene.undisturbed_spawn cancelled path name
      exact ⟨same session, world⟩
  | watch run =>
      obtain ⟨session, world⟩ := scene.undisturbed_watch cancelled run
      exact ⟨same session, world⟩
  | conclude outcome took => exact ⟨rfl, .note _ _⟩
  | done answer => exact ⟨rfl, rfl, rfl, rfl, rfl, .idle⟩
  | _ => cases fits

/-- A call finds its function if the session has a script and lists the name. -/
theorem Task.isCalling_startRun (scene : Scene) (name : String) (cancelled : Bool) :
    (Task.step scene ⟨.run name, .start, cancelled⟩).2.isCalling = true ↔
      (∃ location, scene.session.path = .ready location) ∧
        ∃ listed, Name.IsFirst scene.session.names name listed := by
  change (true && (scene.startRun name).2.isUnderWay) = true ↔ _
  rw [Bool.true_and]
  rcases scene.session.ready_or_unready with ⟨location, ready⟩ | unready
  · cases found : scene.session.listed? name with
    | some listed =>
        obtain ⟨world, -, eq⟩ := scene.startRun_listed ready found
        rw [eq]
        exact iff_of_true rfl ⟨⟨location, ready⟩, listed, Session.listed?_eq_some_iff.mp found⟩
    | none =>
        rw [scene.startRun_unlisted ready found]
        refine iff_of_false Bool.false_ne_true ?_
        rintro ⟨-, listed, first⟩
        cases found.symm.trans (Session.listed?_eq_some_iff.mpr first)
  · rw [scene.startRun_unready name unready]
    refine iff_of_false Bool.false_ne_true ?_
    rintro ⟨⟨location, ready⟩, -⟩
    exact unready location ready

end Steps

/-! ## Counting in every order of steps -/

namespace Traffic

variable {traffic : Traffic} {event : Event} {index : Nat} {task : Task}

/-- The session counts the tasks at the stages of a call, and only calls come to these. -/
structure Counted (traffic : Traffic) : Prop where
  fits : ∀ (index : Nat) (task : Task), traffic.tasks[index]? = some task → task.Fits
  active : traffic.scene.session.active = traffic.tasks.countP fun task => task.stage.isCall

theorem counted_quiet (profile : Profile) (world : World) :
    (quiet ⟨.start profile, world⟩).Counted where
  fits _ _ there := by cases there
  active := rfl

/-- The step of a task changes the number of calls as it changes the task. -/
theorem Counted.active_advance (counted : traffic.Counted)
    (there : traffic.tasks[index]? = some task) :
    (traffic.advance index task).scene.session.active + (if task.stage.isCall then 1 else 0) =
      traffic.scene.session.active + if (task.step traffic.scene).2.stage.isCall then 1 else 0 := by
  apply task.active_next traffic.scene
  rw [counted.active]
  split
  · next calls => exact List.countP_pos_iff.mpr ⟨task, List.mem_of_getElem? there, calls⟩
  · exact Nat.zero_le _

theorem Counted.next (counted : traffic.Counted) (event : Event) :
    (traffic.next event).Counted := by
  rcases traffic.rests_or_advances event with rests | ⟨index, task, rfl, there, same⟩
  · constructor
    · intro other task there
      rcases rests.tasks other task there with
        ⟨old, before, request, stage⟩ | ⟨request, -, rfl⟩
      · have fits := counted.fits other old before
        rwa [Task.Fits, Task.isCalling, request, stage] at fits
      · exact Bool.and_false _
    · rw [rests.session, counted.active]
      exact (rests.countP_eq (fun _ => rfl) fun _ => rfl).symm
  · rw [same]
    constructor
    · intro other later found
      rcases getElem?_advance found with ⟨-, rfl⟩ | ⟨-, before⟩
      · exact (counted.fits index task there).step traffic.scene
      · exact counted.fits other later before
    · have session := counted.active_advance there
      have tasks := countP_advance_add (fun task => task.stage.isCall) there
      rw [counted.active] at session
      omega

/-- The number of calls is right after every run of events. -/
theorem Counted.run (counted : traffic.Counted) (events : List Event) :
    (events.foldl Traffic.next traffic).Counted := by
  induction events generalizing traffic with
  | nil => exact counted
  | cons event events ih => exact ih (counted.next event)

end Traffic

/-- In every order of steps, the number of calls that a session shows is that of the calls that have
found their function and are not answered yet, and so zero if there are none. A step adds a call to
it if it finds the function, which it does if and only if there is a script and the name is listed,
and takes one off if it answers the call. No step of a call changes anything else of the session,
asks the store for anything, or changes the store or more of the host than the interpreter does. -/
theorem calls_counted (profile : Profile) (world : World) (events : List Event) :
    let traffic := Traffic.since profile world events
    traffic.scene.session.active = traffic.tasks.countP Task.isCalling ∧
      ((∀ task ∈ traffic.tasks, task.isCalling = false) → traffic.scene.session.active = 0) ∧
      ∀ index task, traffic.tasks[index]? = some task →
        (traffic.next (.go index)).scene.session.active + (if task.isCalling then 1 else 0) =
            traffic.scene.session.active +
              (if (task.step traffic.scene).2.isCalling then 1 else 0) ∧
          ∀ name, task.request = .run name →
            (task.stage = .start →
              ((task.step traffic.scene).2.isCalling = true ↔
                (∃ location, traffic.scene.session.path = .ready location) ∧
                  ∃ listed, Name.IsFirst traffic.scene.session.names name listed)) ∧
            Session.SameButActive traffic.scene.session
              (traffic.next (.go index)).scene.session ∧
            World.Undisturbed traffic.scene.world (traffic.next (.go index)).scene.world := by
  intro traffic
  have counted : traffic.Counted := (Traffic.counted_quiet profile world).run events
  have exact : traffic.scene.session.active = traffic.tasks.countP Task.isCalling := by
    rw [counted.active]
    refine List.countP_congr fun task member => ?_
    obtain ⟨index, there⟩ := List.mem_iff_getElem?.mp member
    rw [counted.fits index task there]
  refine ⟨exact, ?_, ?_⟩
  · intro idle
    rw [exact, List.countP_eq_zero]
    exact fun task member => by rw [idle task member]; exact Bool.false_ne_true
  · intro index task there
    have fits := counted.fits index task there
    have later := fits.step traffic.scene
    rw [Traffic.next_go there]
    refine ⟨?_, ?_⟩
    · rw [fits, later]
      exact counted.active_advance there
    · intro name asked
      refine ⟨?_, fits.undisturbed asked traffic.scene⟩
      intro start
      obtain ⟨request, stage, cancelled⟩ := task
      cases asked
      cases start
      exact Task.isCalling_startRun traffic.scene name cancelled

end ScriptRoster
