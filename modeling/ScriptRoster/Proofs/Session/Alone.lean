import ScriptRoster.Proofs.Session.Course
import ScriptRoster.Session.Schedule

/-!
# A session on its own

What comes of a request to a session that has nothing else under way. The steps of its task add up
to the plain course of a load: make the key, ask the store, read, extract, keep.
-/

namespace ScriptRoster

open Cache Files

namespace Task

/-- The task at another stage. -/
def goTo (task : Task) (stage : Stage) : Task := { task with stage }

/-- A task comes to another stage in at most `n` steps and never has to wait. -/
inductive Reaches : Nat → Scene → Task → Scene → Task → Prop
  | here {n scene task} : Reaches n scene task scene task
  | step {n scene task later after} (unanswered : task.answer? = none)
      (free : task.isBlocked scene.session = false)
      (rest : Reaches n (task.step scene).1 (task.step scene).2 later after) :
      Reaches (n + 1) scene task later after

variable {scene between later last : Scene} {task after final : Task} {stage next : Stage}
  {n m : Nat}

theorem Reaches.mono (reaches : Reaches n scene task later after) (h : n ≤ m) :
    Reaches m scene task later after := by
  induction reaches generalizing m with
  | here => exact .here
  | step unanswered free _ ih =>
      obtain ⟨m, rfl⟩ := Nat.exists_eq_add_of_le' (Nat.one_le_of_lt h)
      exact .step unanswered free (ih (Nat.le_of_succ_le_succ h))

theorem Reaches.trans (reaches : Reaches n scene task later after)
    (goesOn : Reaches m later after last final) : Reaches (n + m) scene task last final := by
  induction reaches with
  | here => exact goesOn.mono (Nat.le_add_left _ _)
  | step unanswered free _ ih =>
      rw [Nat.add_right_comm]
      exact .step unanswered free (ih goesOn)

/-- Whether a stage is neither an answer nor a place to wait. -/
def moves : Stage → Bool
  | .await .. => false
  | .done _ => false
  | _ => true

/-- A task steps on from a stage where it need not wait. -/
theorem Reaches.move (free : moves stage = true)
    (h : (task.goTo stage).next scene = (between, next))
    (rest : Reaches n between (task.goTo next) later after) :
    Reaches (n + 1) scene (task.goTo stage) later after := by
  refine .step ?_ ?_ ?_
  · cases stage <;> first | rfl | cases free
  · cases stage <;> first | rfl | cases free
  · simp only [Task.step, h]
    exact rest

theorem goOnWithin_answered (hold : Stage → Bool) (fuel : Nat) (h : task.answer?.isSome = true) :
    goOnWithin hold fuel scene task = (scene, task) := by
  cases fuel with
  | zero => rfl
  | succ fuel => simp [goOnWithin, h]

/-- A task that reaches its answer is carried on up to it. -/
theorem Reaches.goOnWithin (reaches : Reaches n scene task later after)
    (answered : after.answer?.isSome = true) {fuel : Nat} (h : n ≤ fuel) :
    goOnWithin (fun _ => false) fuel scene task = (later, after) := by
  induction reaches generalizing fuel with
  | here => exact goOnWithin_answered _ _ answered
  | step unanswered free _ ih =>
      obtain ⟨fuel, rfl⟩ := Nat.exists_eq_add_of_le' (Nat.one_le_of_lt h)
      simp only [Task.goOnWithin, unanswered, free]
      exact ih answered (Nat.le_of_succ_le_succ h)

/-- A request is answered by what its task reaches in a few steps. -/
theorem Reaches.perform {request : Request} {cancelled : Bool} {answer : Answer}
    (reaches : Reaches n scene (.ofRequest request cancelled) later (after.goTo (.done answer)))
    (few : n ≤ 64) : scene.perform request cancelled = (later, some answer) := by
  have patient : n ≤ stepLimit := Nat.le_trans few (by decide)
  simp only [Scene.perform, goOn, goOnUntil, reaches.goOnWithin rfl patient]
  rfl

end Task

namespace Session

/-- The session that has been pointed at a script and knows whether it is there. -/
def pointed (session : Session) (raw : String) (found : Except ResolveError Location) : Session :=
  { session.repointed raw with path := .ofFound raw found }

theorem profile_pointed (session : Session) (raw : String)
    (found : Except ResolveError Location) :
    (session.pointed raw found).profile = session.profile :=
  rfl

theorem inFlight_pointed (session : Session) (raw : String)
    (found : Except ResolveError Location) :
    (session.pointed raw found).inFlight = session.inFlight := rfl

/-- The ticket for the next promise that a session makes. -/
def nextTicket (session : Session) (slot : Slot) : Ticket := ⟨slot, session.promises.length⟩

/-- The session whose newest promise has been taken on by the caller that put it there. -/
def leading (session : Session) (slot : Slot) : Session :=
  (session.promising slot).withPromise (session.nextTicket slot) ⟨slot, true, none⟩

variable {session : Session} {slot : Slot}

theorem inFlight_leading (quiet : session.inFlight = []) :
    (session.leading slot).inFlight = [(slot, session.promises.length)] := by
  simp only [leading, promising, withPromise, quiet]

theorem leading_settled (quiet : session.inFlight = []) {promises : List Promise} :
    { session.leading slot with promises, inFlight := [] } = { session with promises } := by
  simp only [leading, promising, withPromise, quiet]

theorem record_load_promises (session : Session) (promises : List Promise)
    (result : Except ExtractionError Report) :
    ({ session with load := .loading, promises } : Session).record result =
      { session.record result with promises } := by
  cases result <;> rfl

end Session

namespace Task

variable (task : Task) (scene : Scene) (errand : Errand)

/-- A script that is read is extracted in three steps. -/
theorem reaches_extracted (ticket : Option Ticket) :
    ∃ world, World.Unasked scene.world world ∧
      Reaches 3 scene (task.goTo (.read errand ticket)) ⟨scene.session, world⟩
        (task.goTo (Scene.extracted errand ticket
          (scene.session.profile.drawAt scene.world.host errand.path))) := by
  unfold Profile.drawAt
  cases script : readScript scene.world.host.files scene.world.host.cwd errand.path with
  | error error =>
      exact ⟨scene.world, .refl _, .move rfl (scene.read_error errand script) .here⟩
  | ok content =>
      obtain ⟨middle, called, callSource⟩ := scene.callSource_eq errand ticket content
      obtain ⟨world, noted, extract⟩ :=
        Scene.extract_eq ⟨scene.session, middle⟩ errand ticket content
      exact ⟨world, called.trans noted,
        .move rfl (scene.read_ok errand script) (.move rfl callSource (.move rfl extract .here))⟩

/-- A script that is read for a promise is extracted and its names are kept. -/
theorem reaches_supplied (ticket : Ticket) :
    ∃ result world,
      Supplies scene.session.profile errand.path ticket.slot.key scene.world result world ∧
      Reaches 4 scene (task.goTo (.read errand (some ticket))) ⟨scene.session, world⟩
        (task.goTo (.leave errand ticket result)) := by
  obtain ⟨between, aside, extracted⟩ := reaches_extracted task scene errand (some ticket)
  cases drawn : scene.session.profile.drawAt scene.world.host errand.path with
  | error error =>
      rw [drawn] at extracted
      exact ⟨.error error, between, .failed drawn aside, extracted.mono (by decide)⟩
  | ok report =>
      rw [drawn] at extracted
      obtain ⟨world, stored, keep⟩ := Scene.keep_eq ⟨scene.session, between⟩ errand ticket report
      exact ⟨.ok report, world, .kept drawn aside stored,
        extracted.trans (m := 1) (.move rfl keep .here)⟩

/-- Who finds no promise in flight makes one and takes it on. -/
theorem reaches_leading (key : String) (quiet : scene.session.inFlight = []) :
    Reaches 2 scene (task.goTo (.join errand key))
      ⟨scene.session.leading ⟨key, errand.reuse⟩, scene.world⟩
      (task.goTo
        (if errand.reuse then .lookAgain errand (scene.session.nextTicket ⟨key, errand.reuse⟩)
        else .read errand (some (scene.session.nextTicket ⟨key, errand.reuse⟩)))) := by
  have missing : scene.session.inFlight.lookup ⟨key, errand.reuse⟩ = none := by
    rw [quiet]
    rfl
  have free :
      (scene.session.promising ⟨key, errand.reuse⟩).promises[scene.session.promises.length]? =
        some ⟨⟨key, errand.reuse⟩, false, none⟩ := by
    simp [Session.promising]
  have await := Scene.await_free ⟨scene.session.promising ⟨key, errand.reuse⟩, scene.world⟩ errand
    (scene.session.nextTicket ⟨key, errand.reuse⟩) free
  refine .move rfl (scene.join_of_none errand missing) (.step rfl ?_ ?_)
  · simp only [isBlocked, goTo, Scene.isHeld, free]
  · unfold Session.nextTicket at await
    simp only [step, next, goTo, await]
    exact .here

/-- Who keeps a promise that nobody else made leaves nothing in flight. -/
theorem reaches_published (ticket : Ticket) (result : Except ExtractionError Report)
    (only : scene.session.inFlight = [(ticket.slot, ticket.promise)]) :
    ∃ promises, Reaches 2 scene (task.goTo (.leave errand ticket result))
      ⟨{ scene.session with promises, inFlight := [] }, scene.world⟩
      (task.goTo (.finish errand result)) := by
  refine ⟨scene.session.promises.set ticket.promise ⟨ticket.slot, true, some result⟩, ?_⟩
  refine .move rfl (scene.leave_eq errand ticket result) (.move rfl (Scene.publish_eq _ _ _ _) ?_)
  simp only [Session.landing, Session.withPromise, only, List.filter_cons, bne_self_eq_false]
  exact .here

/-- Who has taken on the only promise in flight keeps it. -/
theorem reaches_kept (ticket : Ticket)
    (only : scene.session.inFlight = [(ticket.slot, ticket.promise)]) :
    ∃ result world promises,
      Supplies scene.session.profile errand.path ticket.slot.key scene.world result world ∧
      Reaches 6 scene (task.goTo (.read errand (some ticket)))
        ⟨{ scene.session with promises, inFlight := [] }, world⟩
        (task.goTo (.finish errand result)) := by
  obtain ⟨result, world, supplies, supplied⟩ := reaches_supplied task scene errand ticket
  obtain ⟨promises, published⟩ :=
    reaches_published task ⟨scene.session, world⟩ errand ticket result only
  exact ⟨result, world, promises, supplies, supplied.trans published⟩

/-- A load that does not look into the cache and joins no other reads the script. -/
theorem reaches_fresh (key : String) (quiet : scene.session.inFlight = [])
    (fresh : errand.reuse = false) :
    ∃ result world promises,
      Supplies scene.session.profile errand.path key scene.world result world ∧
      Reaches 8 scene (task.goTo (.join errand key)) ⟨{ scene.session with promises }, world⟩
        (task.goTo (.finish errand result)) := by
  have leads := reaches_leading task scene errand key quiet
  rw [fresh] at leads
  obtain ⟨result, world, promises, supplies, kept⟩ :=
    reaches_kept task ⟨scene.session.leading ⟨key, false⟩, scene.world⟩ errand
      (scene.session.nextTicket ⟨key, false⟩) (Session.inFlight_leading quiet)
  rw [Session.leading_settled quiet] at kept
  exact ⟨result, world, promises, supplies, leads.trans kept⟩

/-- A load that found nothing in the cache and joins no other looks again before it reads. -/
theorem reaches_cached (key : String) (quiet : scene.session.inFlight = [])
    (cached : errand.reuse = true) :
    ∃ result world promises,
      ((∃ names between, result = .ok ⟨names, .cache⟩ ∧
          scene.world.names? key = (some names, between) ∧ World.Unasked between world) ∨
        ∃ between, scene.world.names? key = (none, between) ∧
          Supplies scene.session.profile errand.path key between result world) ∧
      Reaches 9 scene (task.goTo (.join errand key)) ⟨{ scene.session with promises }, world⟩
        (task.goTo (.finish errand result)) := by
  have leads := reaches_leading task scene errand key quiet
  rw [cached] at leads
  cases again : scene.world.names? key with
  | mk found between =>
      cases found with
      | some names =>
          obtain ⟨world, aside, lookAgain⟩ :=
            Scene.lookAgain_of_some ⟨scene.session.leading ⟨key, true⟩, scene.world⟩ errand
              (scene.session.nextTicket ⟨key, true⟩) again
          obtain ⟨promises, published⟩ :=
            reaches_published task ⟨scene.session.leading ⟨key, true⟩, world⟩ errand
              (scene.session.nextTicket ⟨key, true⟩) (.ok ⟨names, .cache⟩)
              (Session.inFlight_leading quiet)
          rw [Session.leading_settled quiet] at published
          refine ⟨_, world, promises, .inl ⟨names, between, rfl, rfl, aside⟩, ?_⟩
          exact (leads.trans (m := 3) (.move rfl lookAgain published)).mono (by decide)
      | none =>
          have lookAgain :=
            Scene.lookAgain_of_none ⟨scene.session.leading ⟨key, true⟩, scene.world⟩ errand
              (scene.session.nextTicket ⟨key, true⟩) again
          obtain ⟨result, world, promises, supplies, kept⟩ :=
            reaches_kept task ⟨scene.session.leading ⟨key, true⟩, between⟩ errand
              (scene.session.nextTicket ⟨key, true⟩) (Session.inFlight_leading quiet)
          rw [Session.leading_settled quiet] at kept
          exact ⟨result, world, promises, .inr ⟨between, rfl, supplies⟩,
            leads.trans (.move rfl lookAgain kept)⟩

/-- A load of a session that has nothing else under way takes its course. -/
theorem reaches_loads (quiet : scene.session.inFlight = []) :
    ∃ result world promises,
      Loads scene.session.profile errand.path errand.kind scene.world result world ∧
      Reaches 11 scene (task.goTo (.makeKey errand)) ⟨{ scene.session with promises }, world⟩
        (task.goTo (.finish errand result)) := by
  obtain ⟨kind, path, generation⟩ := errand
  cases made : scene.session.keyOf scene.world.host path with
  | error error =>
      obtain ⟨middle, aside, makeKey⟩ := scene.makeKey_of_error ⟨kind, path, generation⟩ made
      obtain ⟨world, noted, extracted⟩ :=
        reaches_extracted task ⟨scene.session, middle⟩ ⟨kind, path, generation⟩ none
      refine ⟨_, world, scene.session.promises, .keyless made (aside.trans noted), ?_⟩
      rw [aside.host] at extracted
      refine Reaches.mono (n := 4) ?_ (by decide)
      exact .move rfl makeKey extracted
  | ok key =>
      have makeKey := scene.makeKey_of_key ⟨kind, path, generation⟩ made
      cases kind with
      | fresh =>
          obtain ⟨result, world, promises, supplies, reaches⟩ :=
            reaches_fresh task scene ⟨.fresh, path, generation⟩ key quiet rfl
          refine ⟨result, world, promises, .fresh made supplies, .mono (n := 9) ?_ (by decide)⟩
          exact .move rfl makeKey reaches
      | reload =>
          obtain ⟨middle, dropped, drop⟩ := scene.drop_eq ⟨.reload, path, generation⟩ key
          obtain ⟨result, world, promises, supplies, reaches⟩ :=
            reaches_fresh task ⟨scene.session, middle⟩ ⟨.reload, path, generation⟩ key quiet rfl
          refine ⟨result, world, promises, .reload made dropped supplies,
            .mono (n := 10) ?_ (by decide)⟩
          exact .move rfl makeKey (.move rfl drop reaches)
      | cached =>
          cases first : scene.world.names? key with
          | mk found middle =>
              cases found with
              | some names =>
                  have lookUp := scene.lookUp_of_some ⟨.cached, path, generation⟩ first
                  refine ⟨_, middle, scene.session.promises, .hit made first (.refl _), ?_⟩
                  exact .move rfl makeKey (.move rfl lookUp .here)
              | none =>
                  have lookUp := scene.lookUp_of_none ⟨.cached, path, generation⟩ first
                  obtain ⟨result, world, promises, course, reaches⟩ :=
                    reaches_cached task ⟨scene.session, middle⟩ ⟨.cached, path, generation⟩ key
                      quiet rfl
                  refine ⟨result, world, promises, ?_, .move rfl makeKey (.move rfl lookUp reaches)⟩
                  rcases course with ⟨names, between, rfl, found, aside⟩ | ⟨between, miss, supplies⟩
                  · exact .lateHit made first found aside
                  · exact .miss made first miss supplies

/-- A load of a script that was found is answered in a few steps. -/
theorem reaches_answer (stage : Stage) (kind : LoadKind) (free : moves stage = true)
    (starts : (task.goTo stage).next scene = scene.startLoad kind)
    (quiet : scene.session.inFlight = []) {location : Location}
    (ready : scene.session.path = .ready location) :
    ∃ result world promises,
      Loads scene.session.profile location.resolved kind scene.world result world ∧
      Reaches 13 scene (task.goTo stage)
        ⟨{ scene.session.record result with promises }, world⟩
        (task.goTo (.done (kind.answer (result.mapError .extraction)))) := by
  obtain ⟨result, middle, promises, loads, loaded⟩ :=
    reaches_loads task ⟨{ scene.session with load := .loading }, scene.world⟩
      ⟨kind, location.resolved, scene.session.generation⟩ quiet
  obtain ⟨world, noted, finish⟩ :=
    Scene.finish_current ⟨{ scene.session with load := .loading, promises }, middle⟩
      ⟨kind, location.resolved, scene.session.generation⟩ result rfl
  rw [Session.record_load_promises] at finish
  refine ⟨result, world, promises, loads.aside noted, ?_⟩
  exact .move free (starts.trans (scene.startLoad_ready ready))
    (loaded.trans (m := 1) (.move rfl finish .here))

/-- A session that is pointed at a script knows in three steps whether it is there. -/
theorem reaches_configured (raw : String) (next : Option LoadKind)
    (starts : scene.start task.request = scene.setScript raw next) :
    ∃ world, World.Unasked scene.world world ∧
      Reaches 3 scene (task.goTo .start)
        ⟨scene.session.pointed raw (Location.resolve scene.world.host raw), world⟩
        (task.goTo (Scene.configured next
          ((Location.resolve scene.world.host raw).mapError .path))) := by
  obtain ⟨first, noted, setScript⟩ := scene.setScript_eq raw next
  obtain ⟨second, remarked, resolve⟩ :=
    Scene.resolve_eq ⟨scene.session.repointed raw, first⟩ raw (scene.session.generation + 1) next
  obtain ⟨world, told, settle⟩ :=
    Scene.settle_current ⟨scene.session.repointed raw, second⟩ raw next
      (Location.resolve first.host raw) rfl
  rw [noted.host] at settle resolve
  exact ⟨world, (noted.trans remarked).trans told,
    .move rfl (starts.trans setScript) (.move rfl resolve (.move rfl settle .here))⟩

end Task

/-- A request that comes to a load of some kind, the script that it loads, and the session when the
load begins. -/
inductive Session.Asks (session : Session) (host : Host) :
    Request → LoadKind → Location → Session → Prop
  | load {fresh location} (ready : session.path = .ready location) :
      Asks session host (.load fresh) (if fresh then .fresh else .cached) location session
  | reload {location} (ready : session.path = .ready location) :
      Asks session host .reload .reload location session
  | configure {raw fresh location} (located : Location.resolve host raw = .ok location) :
      Asks session host (.configure raw fresh) (if fresh then .fresh else .cached) location
        (session.pointed raw (.ok location))

theorem Session.Asks.profile_eq {session base : Session} {host : Host} {request : Request}
    {kind : LoadKind} {location : Location}
    (asks : session.Asks host request kind location base) : base.profile = session.profile := by
  cases asks <;> rfl

theorem Session.Asks.inFlight_eq {session base : Session} {host : Host} {request : Request}
    {kind : LoadKind} {location : Location}
    (asks : session.Asks host request kind location base) : base.inFlight = session.inFlight := by
  cases asks <;> rfl

theorem Session.Asks.path_eq {session base : Session} {host : Host} {request : Request}
    {kind : LoadKind} {location : Location}
    (asks : session.Asks host request kind location base) : base.path = .ready location := by
  cases asks with
  | load ready => exact ready
  | reload ready => exact ready
  | configure => rfl

namespace Scene

variable (scene : Scene) (cancelled : Bool) {request : Request} {kind : LoadKind} {raw : String}
  {location : Location}

/-- A session that is pointed at a script answers where it is. -/
theorem perform_setScript (raw : String) :
    ∃ world, World.Unasked scene.world world ∧
      scene.perform (.setScript raw) cancelled =
        (⟨scene.session.pointed raw (Location.resolve scene.world.host raw), world⟩,
          some (.located ((Location.resolve scene.world.host raw).mapError .path))) := by
  obtain ⟨world, aside, reaches⟩ :=
    Task.reaches_configured (.ofRequest (.setScript raw) cancelled) scene raw none rfl
  exact ⟨world, aside, reaches.perform (by decide)⟩

theorem perform_configure_error (fresh : Bool) {error : ResolveError}
    (failed : Location.resolve scene.world.host raw = .error error) :
    ∃ world, World.Unasked scene.world world ∧
      scene.perform (.configure raw fresh) cancelled =
        (⟨scene.session.pointed raw (.error error), world⟩,
          some (.loaded (.error (.path error)))) := by
  obtain ⟨world, aside, configured⟩ :=
    Task.reaches_configured (.ofRequest (.configure raw fresh) cancelled) scene raw
      (some (if fresh then .fresh else .cached)) rfl
  rw [failed] at configured
  refine ⟨world, aside, ?_⟩
  cases fresh <;> exact configured.perform (by decide)

theorem perform_unready (starts : scene.start request = scene.startLoad kind)
    (unready : ∀ location, scene.session.path ≠ .ready location) :
    scene.perform request cancelled = (scene, some (kind.answer (.error .notConfigured))) := by
  have reaches : Task.Reaches 1 scene ((Task.ofRequest request cancelled).goTo .start) scene
      ((Task.ofRequest request cancelled).goTo
        (.done (kind.answer (.error .notConfigured)))) :=
    .move rfl (starts.trans (scene.startLoad_unready unready)) .here
  exact reaches.perform (by decide)

theorem perform_ready (starts : scene.start request = scene.startLoad kind)
    (quiet : scene.session.inFlight = []) (ready : scene.session.path = .ready location) :
    ∃ result world promises,
      Loads scene.session.profile location.resolved kind scene.world result world ∧
      scene.perform request cancelled =
        (⟨{ scene.session.record result with promises }, world⟩,
          some (kind.answer (result.mapError .extraction))) := by
  obtain ⟨result, world, promises, loads, reaches⟩ :=
    Task.reaches_answer (.ofRequest request cancelled) scene .start kind rfl starts quiet ready
  exact ⟨result, world, promises, loads, reaches.perform (by decide)⟩

/-- A session that is pointed at a script which is there goes on to load it. -/
theorem perform_configure (fresh : Bool) (quiet : scene.session.inFlight = [])
    (located : Location.resolve scene.world.host raw = .ok location) :
    ∃ result between world promises,
      World.Unasked scene.world between ∧
      Loads scene.session.profile location.resolved (if fresh then .fresh else .cached) between
        result world ∧
      scene.perform (.configure raw fresh) cancelled =
        (⟨{ (scene.session.pointed raw (.ok location)).record result with promises }, world⟩,
          some ((if fresh then LoadKind.fresh else .cached).answer
            (result.mapError .extraction))) := by
  obtain ⟨between, aside, configured⟩ :=
    Task.reaches_configured (.ofRequest (.configure raw fresh) cancelled) scene raw
      (some (if fresh then .fresh else .cached)) rfl
  rw [located] at configured
  obtain ⟨result, world, promises, loads, answered⟩ :=
    Task.reaches_answer (.ofRequest (.configure raw fresh) cancelled)
      ⟨scene.session.pointed raw (.ok location), between⟩
      (.startLoad (if fresh then .fresh else .cached)) _ rfl rfl quiet rfl
  exact ⟨result, between, world, promises, aside, loads,
    (configured.trans answered).perform (by decide)⟩

/-- Alone, a request that comes to a load takes the course of the load, and what it finds is
recorded and answered. -/
theorem perform_asks {base : Session} (quiet : scene.session.inFlight = [])
    (asks : scene.session.Asks scene.world.host request kind location base) :
    ∃ result between world promises,
      World.Unasked scene.world between ∧
      Loads scene.session.profile location.resolved kind between result world ∧
      scene.perform request cancelled =
        (⟨{ base.record result with promises }, world⟩,
          some (kind.answer (result.mapError .extraction))) := by
  cases asks with
  | @load fresh _ ready =>
      have starts : scene.start (.load fresh) = scene.startLoad _ := rfl
      obtain ⟨result, world, promises, loads, performed⟩ :=
        scene.perform_ready cancelled starts quiet ready
      exact ⟨result, scene.world, world, promises, .refl _, loads, performed⟩
  | reload ready =>
      have starts : scene.start .reload = scene.startLoad _ := rfl
      obtain ⟨result, world, promises, loads, performed⟩ :=
        scene.perform_ready cancelled starts quiet ready
      exact ⟨result, scene.world, world, promises, .refl _, loads, performed⟩
  | configure located => exact scene.perform_configure cancelled _ quiet located

/-- Alone, a load over a store in memory leaves the host alone. -/
theorem remembers_asks {base : Session} (quiet : scene.session.inFlight = [])
    (asks : scene.session.Asks scene.world.host request kind location base)
    (memory : scene.world.InMemory) :
    World.Remembers scene.world (scene.perform request cancelled).1.world := by
  obtain ⟨result, between, world, promises, aside, loads, performed⟩ :=
    scene.perform_asks cancelled quiet asks
  rw [performed]
  have first := aside.remembers memory
  exact first.trans (loads.remembers first.inMemory)

end Scene

end ScriptRoster
