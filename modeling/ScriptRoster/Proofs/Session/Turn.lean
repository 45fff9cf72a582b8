import ScriptRoster.Proofs.Session.Stage

/-!
# What one step can do

Each kind of step is one case of a relation, with what it finds and what it leaves: moves inside of
a load, and acts outside, which point the session at a script, begin and end loads, and call
functions. For the course of the session, its path, load state, list and generation, only a few of
them are turns.
-/

namespace ScriptRoster

open Cache Files

namespace Stage

/-- The generation whose path is being looked for. -/
def sought? : Stage → Option Nat
  | .resolve _ generation _ | .settle _ generation _ _ => some generation
  | _ => none

/-- What a load that is under way works on. -/
def errand? : Stage → Option Errand
  | .makeKey errand | .lookUp errand _ | .drop errand _ | .join errand _ | .await errand _
  | .lookAgain errand _ | .read errand _ | .callSource errand _ _ | .extract errand _ _
  | .keep errand _ _ | .leave errand _ _ | .publish errand _ _ | .finish errand _ => some errand
  | _ => none

/-- The result with which a load is about to end. -/
def ending? : Stage → Option (Except ExtractionError Report)
  | .finish _ result => some result
  | _ => none

end Stage

/-- Two sessions differ at most in their promises and in how many functions are being called. -/
structure Session.SameCourse (before after : Session) : Prop where
  profile : after.profile = before.profile
  path : after.path = before.path
  load : after.load = before.load
  names : after.names = before.names
  generation : after.generation = before.generation

theorem Session.SameCourse.refl (session : Session) : session.SameCourse session :=
  ⟨rfl, rfl, rfl, rfl, rfl⟩

/-! ## Inside a load -/

/-- One step of a load that has begun and does not end yet. -/
inductive Move (scene : Scene) : Stage → Scene → Stage → Prop
  | keyed {errand key} (made : scene.session.keyOf scene.world.host errand.path = .ok key) :
      Move scene (.makeKey errand) scene (errand.keyed key)
  | keyless {errand error world}
      (failed : scene.session.keyOf scene.world.host errand.path = .error error)
      (aside : World.Unasked scene.world world) :
      Move scene (.makeKey errand) ⟨scene.session, world⟩ (.read errand none)
  | hit {errand key names world} (found : scene.world.names? key = (some names, world)) :
      Move scene (.lookUp errand key) ⟨scene.session, world⟩
        (.finish errand (.ok ⟨names, .cache⟩))
  | missed {errand key world} (miss : scene.world.names? key = (none, world)) :
      Move scene (.lookUp errand key) ⟨scene.session, world⟩ (.join errand key)
  | dropped {errand key world} (aside : World.Unasked (scene.world.forget key).2 world) :
      Move scene (.drop errand key) ⟨scene.session, world⟩ (.join errand key)
  | joined {errand key id}
      (there : scene.session.inFlight.lookup ⟨key, errand.reuse⟩ = some id) :
      Move scene (.join errand key) scene (.await errand ⟨⟨key, errand.reuse⟩, id⟩)
  | promised {errand key} (missing : scene.session.inFlight.lookup ⟨key, errand.reuse⟩ = none) :
      Move scene (.join errand key)
        ⟨scene.session.promising ⟨key, errand.reuse⟩, scene.world⟩
        (.await errand ⟨⟨key, errand.reuse⟩, scene.session.promises.length⟩)
  | handed {errand ticket slot led result}
      (kept : scene.session.promises[ticket.promise]? = some ⟨slot, led, some result⟩) :
      Move scene (.await errand ticket) scene (.finish errand result)
  | led {errand ticket slot}
      (free : scene.session.promises[ticket.promise]? = some ⟨slot, false, none⟩) :
      Move scene (.await errand ticket)
        ⟨scene.session.withPromise ticket ⟨slot, true, none⟩, scene.world⟩
        (if errand.reuse then .lookAgain errand ticket else .read errand (some ticket))
  | waited {errand ticket} (unkept : ∀ slot led result,
        scene.session.promises[ticket.promise]? ≠ some ⟨slot, led, some result⟩)
      (taken : ∀ slot, scene.session.promises[ticket.promise]? ≠ some ⟨slot, false, none⟩) :
      Move scene (.await errand ticket) scene (.await errand ticket)
  | lateHit {errand ticket names between world}
      (found : scene.world.names? ticket.slot.key = (some names, between))
      (aside : World.Unasked between world) :
      Move scene (.lookAgain errand ticket) ⟨scene.session, world⟩
        (.leave errand ticket (.ok ⟨names, .cache⟩))
  | missedAgain {errand ticket world}
      (miss : scene.world.names? ticket.slot.key = (none, world)) :
      Move scene (.lookAgain errand ticket) ⟨scene.session, world⟩ (.read errand (some ticket))
  | opened {errand ticket content}
      (read : readScript scene.world.host.files scene.world.host.cwd errand.path = .ok content) :
      Move scene (.read errand ticket) scene (.callSource errand ticket content)
  | unreadable {errand ticket error}
      (failed : readScript scene.world.host.files scene.world.host.cwd errand.path = .error error) :
      Move scene (.read errand ticket) scene (Scene.extracted errand ticket (.error error))
  | called {errand ticket content world} (aside : World.Unasked scene.world world) :
      Move scene (.callSource errand ticket content) ⟨scene.session, world⟩
        (.extract errand ticket content)
  | drawn {errand ticket content world} (aside : World.Unasked scene.world world) :
      Move scene (.extract errand ticket content) ⟨scene.session, world⟩
        (Scene.extracted errand ticket (scene.session.profile.draw content))
  | stored {errand ticket report world}
      (aside : World.Unasked (scene.world.keep ticket.slot.key report.names).2 world) :
      Move scene (.keep errand ticket report) ⟨scene.session, world⟩
        (.leave errand ticket (.ok report))
  | left {errand ticket result} :
      Move scene (.leave errand ticket result) ⟨scene.session.landing ticket, scene.world⟩
        (.publish errand ticket result)
  | published {errand ticket result} :
      Move scene (.publish errand ticket result)
        ⟨scene.session.withPromise ticket ⟨ticket.slot, true, some result⟩, scene.world⟩
        (.finish errand result)

namespace Scene

variable (scene : Scene) (errand : Errand)

theorem move_makeKey :
    Move scene (.makeKey errand) (scene.makeKey errand).1 (scene.makeKey errand).2 := by
  cases made : scene.session.keyOf scene.world.host errand.path with
  | ok key =>
      rw [scene.makeKey_of_key errand made]
      exact .keyed made
  | error error =>
      obtain ⟨world, aside, eq⟩ := scene.makeKey_of_error errand made
      rw [eq]
      exact .keyless made aside

theorem move_lookUp (key : String) :
    Move scene (.lookUp errand key) (scene.lookUp errand key).1 (scene.lookUp errand key).2 := by
  cases asked : scene.world.names? key with
  | mk found world =>
      cases found with
      | some names =>
          rw [scene.lookUp_of_some errand asked]
          exact .hit asked
      | none =>
          rw [scene.lookUp_of_none errand asked]
          exact .missed asked

theorem move_drop (key : String) :
    Move scene (.drop errand key) (scene.drop errand key).1 (scene.drop errand key).2 := by
  obtain ⟨world, aside, eq⟩ := scene.drop_eq errand key
  rw [eq]
  exact .dropped aside

theorem move_join (key : String) :
    Move scene (.join errand key) (scene.join errand key).1 (scene.join errand key).2 := by
  cases there : scene.session.inFlight.lookup ⟨key, errand.reuse⟩ with
  | some id =>
      rw [scene.join_of_some errand there]
      exact .joined there
  | none =>
      rw [scene.join_of_none errand there]
      exact .promised there

theorem move_await (ticket : Ticket) :
    Move scene (.await errand ticket) (scene.await errand ticket).1
      (scene.await errand ticket).2 := by
  by_cases kept : ∃ slot led result,
      scene.session.promises[ticket.promise]? = some ⟨slot, led, some result⟩
  · obtain ⟨slot, led, result, kept⟩ := kept
    rw [scene.await_kept errand ticket kept]
    exact .handed kept
  by_cases free : ∃ slot, scene.session.promises[ticket.promise]? = some ⟨slot, false, none⟩
  · obtain ⟨slot, free⟩ := free
    rw [scene.await_free errand ticket free]
    exact .led free
  have unkept := fun slot led result found => kept ⟨slot, led, result, found⟩
  have taken := fun slot found => free ⟨slot, found⟩
  rw [scene.await_waits errand ticket unkept taken]
  exact .waited unkept taken

theorem move_lookAgain (ticket : Ticket) :
    Move scene (.lookAgain errand ticket) (scene.lookAgain errand ticket).1
      (scene.lookAgain errand ticket).2 := by
  cases asked : scene.world.names? ticket.slot.key with
  | mk found between =>
      cases found with
      | some names =>
          obtain ⟨world, aside, eq⟩ := scene.lookAgain_of_some errand ticket asked
          rw [eq]
          exact .lateHit asked aside
      | none =>
          rw [scene.lookAgain_of_none errand ticket asked]
          exact .missedAgain asked

theorem move_read (ticket : Option Ticket) :
    Move scene (.read errand ticket) (scene.read errand ticket).1 (scene.read errand ticket).2 := by
  cases read : readScript scene.world.host.files scene.world.host.cwd errand.path with
  | ok content =>
      rw [scene.read_ok errand read]
      exact .opened read
  | error error =>
      rw [scene.read_error errand read]
      exact .unreadable read

theorem move_callSource (ticket : Option Ticket) (content : String) :
    Move scene (.callSource errand ticket content) (scene.callSource errand ticket content).1
      (scene.callSource errand ticket content).2 := by
  obtain ⟨world, aside, eq⟩ := scene.callSource_eq errand ticket content
  rw [eq]
  exact .called aside

theorem move_extract (ticket : Option Ticket) (content : String) :
    Move scene (.extract errand ticket content) (scene.extract errand ticket content).1
      (scene.extract errand ticket content).2 := by
  obtain ⟨world, aside, eq⟩ := scene.extract_eq errand ticket content
  rw [eq]
  exact .drawn aside

theorem move_keep (ticket : Ticket) (report : Report) :
    Move scene (.keep errand ticket report) (scene.keep errand ticket report).1
      (scene.keep errand ticket report).2 := by
  obtain ⟨world, aside, eq⟩ := scene.keep_eq errand ticket report
  rw [eq]
  exact .stored aside

end Scene

section Moves

variable {scene after : Scene} {stage next : Stage}

theorem errand_keyed (errand : Errand) (key : String) :
    (errand.keyed key).errand? = some errand := by
  unfold Errand.keyed
  cases errand.kind <;> rfl

theorem errand_extracted (errand : Errand) (ticket : Option Ticket)
    (result : Except ExtractionError Report) :
    (Scene.extracted errand ticket result).errand? = some errand := by
  cases ticket with
  | none => rfl
  | some ticket => cases result <;> rfl

/-- A load that moves on keeps to its errand. -/
theorem Move.exists_errand (move : Move scene stage after next) :
    ∃ errand, stage.errand? = some errand ∧ next.errand? = some errand := by
  cases move with
  | keyed => exact ⟨_, rfl, errand_keyed _ _⟩
  | unreadable | drawn => exact ⟨_, rfl, errand_extracted _ _ _⟩
  | @led errand =>
      refine ⟨errand, rfl, ?_⟩
      cases errand.reuse <;> rfl
  | keyless | hit | missed | dropped | joined | promised | handed | waited | lateHit | missedAgain
  | opened | called | stored | left | published => exact ⟨_, rfl, rfl⟩

/-- A load leaves the path, the list, the load state and the generation alone until it ends. -/
theorem Move.sameCourse (move : Move scene stage after next) :
    Session.SameCourse scene.session after.session := by
  cases move <;> exact ⟨rfl, rfl, rfl, rfl, rfl⟩

theorem Move.ending? (move : Move scene stage after next) : stage.ending? = none := by
  cases move <;> rfl

end Moves

/-! ## Outside of loads -/

/-- The script that a request points the session at, and how it is loaded then. -/
def Request.target? : Request → Option (String × Option LoadKind)
  | .setScript raw => some (raw, none)
  | .configure raw fresh => some (raw, some (if fresh then .fresh else .cached))
  | _ => none

/-- The load that a request comes to at once. -/
def Request.kind? : Request → Option LoadKind
  | .load fresh => some (if fresh then .fresh else .cached)
  | .reload => some .reload
  | _ => none

namespace Stage

/-- The load that a task begins next. -/
def begins? (request : Request) : Stage → Option LoadKind
  | .start => request.kind?
  | .startLoad kind => some kind
  | _ => none

/-- Whether a function is being called. -/
def calls : Stage → Bool
  | .spawn .. | .watch .. => true
  | _ => false

variable {stage : Stage} {request : Request} {kind : LoadKind} {errand : Errand}

theorem errand_of_begins (begins : stage.begins? request = some kind) :
    stage.errand? = none ∧ stage.sought? = none := by
  cases stage <;> first | exact ⟨rfl, rfl⟩ | cases begins

theorem ending_of_errand (idle : stage.errand? = none) : stage.ending? = none := by
  cases stage <;> first | rfl | cases idle

theorem sought_of_errand (loads : stage.errand? = some errand) : stage.sought? = none := by
  cases stage <;> first | rfl | cases loads

end Stage

/-- One step of a task outside of a load. -/
inductive Act (request : Request) (scene : Scene) : Stage → Scene → Stage → Prop
  | repointed {raw next world} (asked : request.target? = some (raw, next))
      (aside : World.Unasked scene.world world) :
      Act request scene .start ⟨scene.session.repointed raw, world⟩
        (.resolve raw (scene.session.generation + 1) next)
  | resolved {raw generation next world} (aside : World.Unasked scene.world world) :
      Act request scene (.resolve raw generation next) ⟨scene.session, world⟩
        (.settle raw generation next (Location.resolve scene.world.host raw))
  | located {raw generation next found world} (current : scene.session.generation = generation)
      (aside : World.Unasked scene.world world) :
      Act request scene (.settle raw generation next found)
        ⟨{ scene.session with path := .ofFound raw found }, world⟩
        (Scene.configured next (found.mapError .path))
  | overtaken {raw generation next found} (other : scene.session.generation ≠ generation) :
      Act request scene (.settle raw generation next found) scene
        (Scene.configured next (.error .superseded))
  | begun {stage kind location} (begins : stage.begins? request = some kind)
      (ready : scene.session.path = .ready location) :
      Act request scene stage ⟨{ scene.session with load := .loading }, scene.world⟩
        (.makeKey ⟨kind, location.resolved, scene.session.generation⟩)
  | refused {stage kind} (begins : stage.begins? request = some kind)
      (unready : ∀ location, scene.session.path ≠ .ready location) :
      Act request scene stage scene (.done (kind.answer (.error .notConfigured)))
  | recorded {errand result world} (current : scene.session.generation = errand.generation)
      (aside : World.Unasked scene.world world) :
      Act request scene (.finish errand result) ⟨scene.session.record result, world⟩
        (.done (errand.kind.answer (result.mapError .extraction)))
  | discarded {errand result world} (other : scene.session.generation ≠ errand.generation)
      (aside : World.Unasked scene.world world) :
      Act request scene (.finish errand result) ⟨scene.session, world⟩
        (.done (errand.kind.answer (stale result)))
  | listed {name listed location world} (asked : request = .run name)
      (ready : scene.session.path = .ready location)
      (found : scene.session.listed? name = some listed)
      (aside : World.Unasked scene.world world) :
      Act request scene .start
        ⟨{ scene.session with active := scene.session.active + 1 }, world⟩
        (.spawn location.resolved listed)
  | unlisted {name failure} (asked : request = .run name) :
      Act request scene .start scene (.done (.ran (.unfinished name failure) ⟨0⟩))
  | spawned {path name run world} (store : world.store = scene.world.store) :
      Act request scene (.spawn path name) ⟨scene.session, world⟩ (.watch run)
  | watched {run later world} (store : world.store = scene.world.store) :
      Act request scene (.watch run) ⟨scene.session, world⟩ (.watch later)
  | ended {stage outcome took world} (calls : stage.calls = true)
      (store : world.store = scene.world.store) :
      Act request scene stage ⟨scene.session, world⟩ (.conclude outcome took)
  | concluded {outcome took world} (aside : World.Unasked scene.world world) :
      Act request scene (.conclude outcome took)
        ⟨{ scene.session with active := scene.session.active - 1 }, world⟩
        (.done (.ran outcome took))
  | rested {answer} : Act request scene (.done answer) scene (.done answer)

namespace Scene

variable (scene : Scene) {request : Request}

theorem act_startLoad {stage : Stage} (kind : LoadKind)
    (begins : stage.begins? request = some kind) :
    Act request scene stage (scene.startLoad kind).1 (scene.startLoad kind).2 := by
  rcases scene.session.ready_or_unready with ⟨location, ready⟩ | unready
  · rw [scene.startLoad_ready ready]
    exact .begun begins ready
  · rw [scene.startLoad_unready unready]
    exact .refused begins unready

theorem act_setScript (raw : String) (next : Option LoadKind)
    (asked : request.target? = some (raw, next)) :
    Act request scene .start (scene.setScript raw next).1 (scene.setScript raw next).2 := by
  obtain ⟨world, aside, eq⟩ := scene.setScript_eq raw next
  rw [eq]
  exact .repointed asked aside

theorem act_startRun (name : String) :
    Act (.run name) scene .start (scene.startRun name).1 (scene.startRun name).2 := by
  rcases scene.session.ready_or_unready with ⟨location, ready⟩ | unready
  · cases found : scene.session.listed? name with
    | some listed =>
        obtain ⟨world, aside, eq⟩ := scene.startRun_listed ready found
        rw [eq]
        exact .listed rfl ready found aside
    | none =>
        rw [scene.startRun_unlisted ready found]
        exact .unlisted rfl
  · rw [scene.startRun_unready name unready]
    exact .unlisted rfl

/-- Every request begins with a step that is one of those outside of loads. -/
theorem act_start (request : Request) :
    Act request scene .start (scene.start request).1 (scene.start request).2 := by
  cases request with
  | setScript raw => exact scene.act_setScript raw _ rfl
  | configure raw fresh => exact scene.act_setScript raw _ rfl
  | load fresh => exact scene.act_startLoad _ rfl
  | reload => exact scene.act_startLoad _ rfl
  | run name => exact scene.act_startRun name

/-- A path that was looked for is taken over under its own generation and discarded under another.
-/
theorem act_settle (raw : String) (generation : Nat) (next : Option LoadKind)
    (found : Except ResolveError Location) :
    Act request scene (.settle raw generation next found)
      (scene.settle raw generation next found).1 (scene.settle raw generation next found).2 := by
  by_cases current : scene.session.generation = generation
  · obtain ⟨world, aside, eq⟩ := scene.settle_current raw next found current
    rw [eq]
    exact .located current aside
  · rw [scene.settle_superseded raw next found current]
    exact .overtaken current

/-- A load ends by recording its result under its own generation and by discarding it under another.
-/
theorem act_finish (errand : Errand) (result : Except ExtractionError Report) :
    Act request scene (.finish errand result) (scene.finish errand result).1
      (scene.finish errand result).2 := by
  by_cases current : scene.session.generation = errand.generation
  · obtain ⟨world, aside, eq⟩ := scene.finish_current errand result current
    rw [eq]
    exact .recorded current aside
  · obtain ⟨world, aside, eq⟩ := scene.finish_superseded errand result current
    rw [eq]
    exact .discarded current aside

theorem act_spawn (cancelled : Bool) (path : Path) (name : String) :
    Act request scene (.spawn path name) (scene.spawn cancelled path name).1
      (scene.spawn cancelled path name).2 := by
  obtain ⟨world, store, ⟨run, eq⟩ | ⟨outcome, took, eq⟩⟩ := scene.spawn_cases cancelled path name
  · rw [eq]
    exact .spawned store
  · rw [eq]
    exact .ended rfl store

theorem act_watch (cancelled : Bool) (run : Invocation.Run) :
    Act request scene (.watch run) (scene.watch cancelled run).1
      (scene.watch cancelled run).2 := by
  obtain ⟨world, store, ⟨later, eq⟩ | ⟨outcome, took, eq⟩⟩ := scene.watch_cases cancelled run
  · rw [eq]
    exact .watched store
  · rw [eq]
    exact .ended rfl store

end Scene

/-- Every step of a task is a move inside of a load or an act outside. -/
theorem Task.move_or_act (scene : Scene) (task : Task) :
    Move scene task.stage (task.next scene).1 (task.next scene).2 ∨
      Act task.request scene task.stage (task.next scene).1 (task.next scene).2 := by
  obtain ⟨request, stage, cancelled⟩ := task
  cases stage with
  | start => exact .inr (scene.act_start request)
  | resolve raw generation next => exact .inr (.resolved (World.unasked_note _ _))
  | settle raw generation next found => exact .inr (scene.act_settle raw generation next found)
  | startLoad kind => exact .inr (scene.act_startLoad kind rfl)
  | makeKey errand => exact .inl (scene.move_makeKey errand)
  | lookUp errand key => exact .inl (scene.move_lookUp errand key)
  | drop errand key => exact .inl (scene.move_drop errand key)
  | join errand key => exact .inl (scene.move_join errand key)
  | await errand ticket => exact .inl (scene.move_await errand ticket)
  | lookAgain errand ticket => exact .inl (scene.move_lookAgain errand ticket)
  | read errand ticket => exact .inl (scene.move_read errand ticket)
  | callSource errand ticket content => exact .inl (scene.move_callSource errand ticket content)
  | extract errand ticket content => exact .inl (scene.move_extract errand ticket content)
  | keep errand ticket report => exact .inl (scene.move_keep errand ticket report)
  | leave errand ticket result => exact .inl .left
  | publish errand ticket result => exact .inl .published
  | finish errand result => exact .inr (scene.act_finish errand result)
  | spawn path name => exact .inr (scene.act_spawn cancelled path name)
  | watch run => exact .inr (scene.act_watch cancelled run)
  | conclude outcome took => exact .inr (.concluded (World.unasked_note _ _))
  | done answer => exact .inr .rested

/-! ## Turns -/

/-- What a step from one stage to another makes of the course of a session. -/
inductive Turn (request : Request) : Session → Stage → Session → Stage → Prop
  | calm {before after stage next} (same : Session.SameCourse before after)
      (sought : next.sought? = stage.sought?) (errand : next.errand? = stage.errand?)
      (unfinished : stage.ending? = none) (onward : next ≠ .start) :
      Turn request before stage after next
  | repointed {session : Session} {raw next} (asked : request.target? = some (raw, next)) :
      Turn request session .start (session.repointed raw)
        (.resolve raw (session.generation + 1) next)
  | located {session : Session} {raw generation next found}
      (current : session.generation = generation) :
      Turn request session (.settle raw generation next found)
        { session with path := .ofFound raw found }
        (Scene.configured next (found.mapError .path))
  | overtaken {session : Session} {raw generation next found}
      (other : session.generation ≠ generation) :
      Turn request session (.settle raw generation next found) session
        (Scene.configured next (.error .superseded))
  | begun {session : Session} {stage kind location} (sought : stage.sought? = none)
      (errand : stage.errand? = none) (ready : session.path = .ready location) :
      Turn request session stage { session with load := .loading }
        (.makeKey ⟨kind, location.resolved, session.generation⟩)
  | recorded {session : Session} {errand result}
      (current : session.generation = errand.generation) :
      Turn request session (.finish errand result) (session.record result)
        (.done (errand.kind.answer (result.mapError .extraction)))
  | discarded {session : Session} {errand result}
      (other : session.generation ≠ errand.generation) :
      Turn request session (.finish errand result) session
        (.done (errand.kind.answer (stale result)))

section Turns

variable {request : Request} {scene there : Scene} {stage next : Stage}

/-- A step of a load makes nothing of the course of a session. -/
theorem Move.turn (move : Move scene stage there next) :
    Turn request scene.session stage there.session next := by
  obtain ⟨errand, before, after⟩ := move.exists_errand
  refine .calm move.sameCourse ?_ (after.trans before.symm) move.ending? ?_
  · rw [Stage.sought_of_errand before, Stage.sought_of_errand after]
  · rintro rfl
    cases after

/-- Every step outside of a load makes one of a few things of the course of a session. -/
theorem Act.turn (act : Act request scene stage there next) :
    Turn request scene.session stage there.session next := by
  cases act with
  | repointed asked => exact .repointed asked
  | located current => exact .located current
  | overtaken other => exact .overtaken other
  | begun begins ready =>
      obtain ⟨errand, sought⟩ := Stage.errand_of_begins begins
      exact .begun sought errand ready
  | refused begins =>
      obtain ⟨errand, sought⟩ := Stage.errand_of_begins begins
      exact .calm (.refl _) sought.symm errand.symm (Stage.ending_of_errand errand) nofun
  | recorded current => exact .recorded current
  | discarded other => exact .discarded other
  | @ended stage _ _ _ calls =>
      cases stage with
      | spawn | watch => exact .calm (.refl _) rfl rfl rfl nofun
      | _ => cases calls
  | resolved | listed | unlisted | spawned | watched | concluded | rested =>
      exact .calm ⟨rfl, rfl, rfl, rfl, rfl⟩ rfl rfl rfl nofun

/-- Every step of a task is a turn of the session. -/
theorem Task.turn_next (scene : Scene) (task : Task) :
    Turn task.request scene.session task.stage (task.next scene).1.session (task.next scene).2 := by
  rcases task.move_or_act scene with move | act
  · exact move.turn
  · exact act.turn

/-- A turn leaves the profile of the session as it is. -/
theorem Turn.profile_eq {before after : Session} (turn : Turn request before stage after next) :
    after.profile = before.profile := by
  cases turn with
  | calm same => exact same.profile
  | recorded => exact Session.profile_record _ _
  | repointed | located | overtaken | begun | discarded => rfl

end Turns

end ScriptRoster
