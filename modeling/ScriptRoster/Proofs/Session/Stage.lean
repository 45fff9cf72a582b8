import ScriptRoster.Proofs.Cache.Holding
import ScriptRoster.Session.Task

/-!
# What each stage does

One law for each thing that a task does next: which part of the scene it changes, and which stage
follows. What is noted, and how many sources were called, is left open.
-/

namespace ScriptRoster

open Cache Files

/-- What a profile finds in a script. -/
def Profile.draw (profile : Profile) (content : String) : Except ExtractionError Report :=
  (Extraction.ofText profile.sources profile.preference content).outcome.map Report.ofExtracted

/-- The life of a path that was looked for. -/
def PathState.ofFound (raw : String) : Except ResolveError Location → PathState
  | .ok location => .ready location
  | .error error => .invalid raw error.message

namespace Session

/-- A session either has a script or has none yet. -/
theorem ready_or_unready (session : Session) :
    (∃ location, session.path = .ready location) ∨ ∀ location, session.path ≠ .ready location := by
  cases path : session.path with
  | ready location => exact .inl ⟨location, rfl⟩
  | unconfigured | resolving | invalid => exact .inr (fun _ => nofun)

/-- The session that has been pointed at another script. -/
def repointed (session : Session) (raw : String) : Session :=
  { session with
    generation := session.generation + 1
    path := .resolving raw
    load := .idle
    names := [] }

/-- The session that has recorded the result of a load. -/
def record (session : Session) : Except ExtractionError Report → Session
  | .ok report => { session with names := report.names, load := .loaded }
  | .error error => { session with names := [], load := .failed error.message }

theorem profile_record (session : Session) (result : Except ExtractionError Report) :
    (session.record result).profile = session.profile := by
  cases result <;> rfl

theorem path_record (session : Session) (result : Except ExtractionError Report) :
    (session.record result).path = session.path := by
  cases result <;> rfl

theorem generation_record (session : Session) (result : Except ExtractionError Report) :
    (session.record result).generation = session.generation := by
  cases result <;> rfl

theorem promises_record (session : Session) (result : Except ExtractionError Report) :
    (session.record result).promises = session.promises := by
  cases result <;> rfl

theorem inFlight_record (session : Session) (result : Except ExtractionError Report) :
    (session.record result).inFlight = session.inFlight := by
  cases result <;> rfl

/-- The session with a new promise in flight. -/
def promising (session : Session) (slot : Slot) : Session :=
  { session with
    promises := session.promises ++ [⟨slot, false, none⟩]
    inFlight := (slot, session.promises.length) :: session.inFlight }

/-- The session with the promise of a ticket taken on or kept. -/
def withPromise (session : Session) (ticket : Ticket) (promise : Promise) : Session :=
  { session with promises := session.promises.set ticket.promise promise }

/-- The session that no longer lets anybody join the promise of a ticket. -/
def landing (session : Session) (ticket : Ticket) : Session :=
  { session with
    inFlight := session.inFlight.filter fun entry => entry != (ticket.slot, ticket.promise) }

end Session

/-- What a load is answered with if another script has been configured meanwhile. -/
def stale (result : Except ExtractionError Report) : Except SessionError Report :=
  match result with
  | .ok _ => .error .superseded
  | .error error => .error (.extraction error)

/-- The stage after the key was made. -/
def Errand.keyed (errand : Errand) (key : String) : Stage :=
  match errand.kind with
  | .cached => .lookUp errand key
  | .fresh => .join errand key
  | .reload => .drop errand key

namespace Scene

variable (scene : Scene) (errand : Errand) (ticket : Ticket)
  (result : Except ExtractionError Report) {generation : Nat} {kind : LoadKind} {key : String}
  {content : String}

/-- A session that is pointed at a script forgets the one before and goes on to look for the path,
under a new generation. -/
theorem setScript_eq (raw : String) (next : Option LoadKind) :
    ∃ world, World.Unasked scene.world world ∧
      scene.setScript raw next =
        (⟨scene.session.repointed raw, world⟩,
          .resolve raw (scene.session.generation + 1) next) :=
  ⟨_, World.unasked_note _ _, rfl⟩

/-- The path is looked for at the host as it is at that moment, and the session is left alone
meanwhile. -/
theorem resolve_eq (raw : String) (generation : Nat) (next : Option LoadKind) :
    ∃ world, World.Unasked scene.world world ∧
      scene.resolve raw generation next =
        (⟨scene.session, world⟩,
          .settle raw generation next (Location.resolve scene.world.host raw)) :=
  ⟨_, World.unasked_note _ _, rfl⟩

/-- What was found is recorded under the generation it was looked for. -/
theorem settle_current (raw : String) (next : Option LoadKind)
    (found : Except ResolveError Location) (current : scene.session.generation = generation) :
    ∃ world, World.Unasked scene.world world ∧
      scene.settle raw generation next found =
        (⟨{ scene.session with path := .ofFound raw found }, world⟩,
          configured next (found.mapError .path)) := by
  unfold settle
  rw [if_pos current]
  cases found with
  | ok location => exact ⟨_, World.unasked_note _ _, rfl⟩
  | error error => exact ⟨_, World.Unasked.refl _, rfl⟩

/-- A path that was found after the session was pointed elsewhere is discarded. -/
theorem settle_superseded (raw : String) (next : Option LoadKind)
    (found : Except ResolveError Location) (other : scene.session.generation ≠ generation) :
    scene.settle raw generation next found =
      (scene, configured next (.error .superseded)) := by
  unfold settle
  rw [if_neg other]

/-- A load takes the path and the generation from the session as it begins. -/
theorem startLoad_ready {location : Location} (ready : scene.session.path = .ready location) :
    scene.startLoad kind =
      (⟨{ scene.session with load := .loading }, scene.world⟩,
        .makeKey ⟨kind, location.resolved, scene.session.generation⟩) := by
  simp only [startLoad, Session.location?, ready, withSession]

theorem startLoad_unready (unready : ∀ location, scene.session.path ≠ .ready location) :
    scene.startLoad kind = (scene, .done (kind.answer (.error .notConfigured))) := by
  simp only [startLoad, Session.location?]

theorem makeKey_of_key (made : scene.session.keyOf scene.world.host errand.path = .ok key) :
    scene.makeKey errand = (scene, errand.keyed key) := by
  simp only [makeKey, made, Errand.keyed]
  cases errand.kind <;> rfl

/-- A load whose key cannot be made extracts the script for itself alone. -/
theorem makeKey_of_error {error : StoreError}
    (failed : scene.session.keyOf scene.world.host errand.path = .error error) :
    ∃ world, World.Unasked scene.world world ∧
      scene.makeKey errand = (⟨scene.session, world⟩, .read errand none) := by
  simp only [makeKey, failed]
  exact ⟨_, World.unasked_note _ _, rfl⟩

theorem lookUp_of_some {names : List String} {world : World}
    (hit : scene.world.names? key = (some names, world)) :
    scene.lookUp errand key =
      (⟨scene.session, world⟩, .finish errand (.ok ⟨names, .cache⟩)) := by
  simp only [lookUp, hit, withWorld]

theorem lookUp_of_none {world : World} (miss : scene.world.names? key = (none, world)) :
    scene.lookUp errand key = (⟨scene.session, world⟩, .join errand key) := by
  simp only [lookUp, miss, withWorld]

theorem drop_eq (key : String) :
    ∃ world, World.Unasked (scene.world.forget key).2 world ∧
      scene.drop errand key = (⟨scene.session, world⟩, .join errand key) := by
  unfold drop
  split
  · next world forgotten =>
      rw [forgotten]
      exact ⟨_, World.Unasked.refl _, rfl⟩
  · next error world forgotten =>
      rw [forgotten]
      exact ⟨_, World.unasked_note _ _, rfl⟩

/-- A load joins the promise in flight for its key and for whether the cache may answer it. -/
theorem join_of_some {id : Nat}
    (there : scene.session.inFlight.lookup ⟨key, errand.reuse⟩ = some id) :
    scene.join errand key = (scene, .await errand ⟨⟨key, errand.reuse⟩, id⟩) := by
  simp only [join, there]

/-- A load that finds no promise in flight puts a new one there. -/
theorem join_of_none (missing : scene.session.inFlight.lookup ⟨key, errand.reuse⟩ = none) :
    scene.join errand key =
      (⟨scene.session.promising ⟨key, errand.reuse⟩, scene.world⟩,
        .await errand ⟨⟨key, errand.reuse⟩, scene.session.promises.length⟩) := by
  simp only [join, missing, withSession, Session.promising]

/-- A caller takes the result that its promise was kept with. -/
theorem await_kept {result : Except ExtractionError Report} {slot : Slot} {led : Bool}
    (kept : scene.session.promises[ticket.promise]? = some ⟨slot, led, some result⟩) :
    scene.await errand ticket = (scene, .finish errand result) := by
  simp only [await, kept]

/-- A caller takes on a promise that nobody has taken on, and looks into the cache again if it may.
-/
theorem await_free {slot : Slot}
    (free : scene.session.promises[ticket.promise]? = some ⟨slot, false, none⟩) :
    scene.await errand ticket =
      (⟨scene.session.withPromise ticket ⟨slot, true, none⟩, scene.world⟩,
        if errand.reuse then .lookAgain errand ticket else .read errand (some ticket)) := by
  simp only [await, free, withSession, Session.withPromise]

/-- A promise that was neither kept nor is free to be taken on has to be waited for. -/
theorem await_waits (unkept : ∀ slot led result,
      scene.session.promises[ticket.promise]? ≠ some ⟨slot, led, some result⟩)
    (taken : ∀ slot, scene.session.promises[ticket.promise]? ≠ some ⟨slot, false, none⟩) :
    scene.await errand ticket = (scene, .await errand ticket) := by
  simp only [await]
  split
  · next kept => exact absurd kept (unkept _ _ _)
  · rfl
  · next free => exact absurd free (taken _)
  · rfl

/-- Names that another load has kept meanwhile are published instead of an extraction. -/
theorem lookAgain_of_some {names : List String} {between : World}
    (hit : scene.world.names? ticket.slot.key = (some names, between)) :
    ∃ world, World.Unasked between world ∧
      scene.lookAgain errand ticket =
        (⟨scene.session, world⟩, .leave errand ticket (.ok ⟨names, .cache⟩)) := by
  simp only [lookAgain, hit]
  exact ⟨_, World.unasked_note _ _, rfl⟩

theorem lookAgain_of_none {world : World}
    (miss : scene.world.names? ticket.slot.key = (none, world)) :
    scene.lookAgain errand ticket = (⟨scene.session, world⟩, .read errand (some ticket)) := by
  simp only [lookAgain, miss, withWorld]

theorem read_ok {ticket : Option Ticket}
    (there : readScript scene.world.host.files scene.world.host.cwd errand.path = .ok content) :
    scene.read errand ticket = (scene, .callSource errand ticket content) := by
  simp only [read, there]

theorem read_error {ticket : Option Ticket} {error : ExtractionError}
    (failed : readScript scene.world.host.files scene.world.host.cwd errand.path = .error error) :
    scene.read errand ticket = (scene, extracted errand ticket (.error error)) := by
  simp only [read, failed]

theorem callSource_eq (ticket : Option Ticket) (content : String) :
    ∃ world, World.Unasked scene.world world ∧
      scene.callSource errand ticket content =
        (⟨scene.session, world⟩, .extract errand ticket content) := by
  refine ⟨_, ?_, rfl⟩
  exact ⟨⟨rfl, rfl⟩, rfl, rfl⟩

/-- What is extracted is what the profile finds in what was read, however the file has changed
since. -/
theorem extract_eq (ticket : Option Ticket) (content : String) :
    ∃ world, World.Unasked scene.world world ∧
      scene.extract errand ticket content =
        (⟨scene.session, world⟩,
          extracted errand ticket (scene.session.profile.draw content)) := by
  refine ⟨_, ?_, rfl⟩
  exact ⟨⟨rfl, rfl⟩, rfl, rfl⟩

/-- A list is published whether it could be kept in the store or not. -/
theorem keep_eq (report : Report) :
    ∃ world, World.Unasked (scene.world.keep ticket.slot.key report.names).2 world ∧
      scene.keep errand ticket report =
        (⟨scene.session, world⟩, .leave errand ticket (.ok report)) := by
  unfold keep
  split
  · next world kept =>
      rw [kept]
      exact ⟨_, World.Unasked.refl _, rfl⟩
  · next error world kept =>
      rw [kept]
      exact ⟨_, World.unasked_note _ _, rfl⟩

theorem leave_eq :
    scene.leave errand ticket result =
      (⟨scene.session.landing ticket, scene.world⟩, .publish errand ticket result) := rfl

/-- A promise is kept with the result of its leader, whatever that is. -/
theorem publish_eq :
    scene.publish errand ticket result =
      (⟨scene.session.withPromise ticket ⟨ticket.slot, true, some result⟩, scene.world⟩,
        .finish errand result) := rfl

/-- A load records its result under the generation it began in. -/
theorem finish_current (current : scene.session.generation = errand.generation) :
    ∃ world, World.Unasked scene.world world ∧
      scene.finish errand result =
        (⟨scene.session.record result, world⟩,
          .done (errand.kind.answer (result.mapError .extraction))) := by
  unfold finish
  cases result with
  | ok report =>
      simp only [if_pos current]
      exact ⟨_, World.unasked_note _ _, rfl⟩
  | error error =>
      simp only [if_pos current]
      exact ⟨_, World.Unasked.refl _, rfl⟩

/-- A load that ends under another generation records nothing. -/
theorem finish_superseded (other : scene.session.generation ≠ errand.generation) :
    ∃ world, World.Unasked scene.world world ∧
      scene.finish errand result =
        (⟨scene.session, world⟩, .done (errand.kind.answer (stale result))) := by
  unfold finish
  cases result with
  | ok report =>
      simp only [if_neg other]
      exact ⟨_, World.unasked_note _ _, rfl⟩
  | error error =>
      simp only [if_neg other]
      exact ⟨_, World.Unasked.refl _, rfl⟩

/-- A call looks its name up in the list of that moment and takes the spelling that is listed, with
the path of that moment. -/
theorem startRun_listed {location : Location} {name listed : String}
    (ready : scene.session.path = .ready location)
    (found : scene.session.listed? name = some listed) :
    ∃ world, World.Unasked scene.world world ∧
      scene.startRun name =
        (⟨{ scene.session with active := scene.session.active + 1 }, world⟩,
          .spawn location.resolved listed) := by
  simp only [startRun, Session.location?, ready, found]
  exact ⟨_, World.unasked_note _ _, rfl⟩

theorem startRun_unlisted {location : Location} {name : String}
    (ready : scene.session.path = .ready location) (missing : scene.session.listed? name = none) :
    scene.startRun name =
      (scene, .done (.ran (.unfinished name (.unknownFunction name)) ⟨0⟩)) := by
  simp only [startRun, Session.location?, ready, missing]

theorem startRun_unready (name : String)
    (unready : ∀ location, scene.session.path ≠ .ready location) :
    scene.startRun name = (scene, .done (.ran (.unfinished name .notConfigured) ⟨0⟩)) := by
  simp only [startRun, Session.location?]

/-- Starting an interpreter leaves the session and the store alone. -/
theorem spawn_cases (cancelled : Bool) (path : Path) (name : String) :
    ∃ world, world.store = scene.world.store ∧
      ((∃ run, scene.spawn cancelled path name = (⟨scene.session, world⟩, .watch run)) ∨
        ∃ outcome took,
          scene.spawn cancelled path name = (⟨scene.session, world⟩, .conclude outcome took)) := by
  unfold spawn
  dsimp only
  split
  · refine ⟨_, ?_, .inl ⟨_, rfl⟩⟩
    rfl
  · refine ⟨_, ?_, .inr ⟨_, _, rfl⟩⟩
    rfl

/-- Watching a function leaves the session and the store alone. -/
theorem watch_cases (cancelled : Bool) (run : Invocation.Run) :
    ∃ world, world.store = scene.world.store ∧
      ((∃ later, scene.watch cancelled run = (⟨scene.session, world⟩, .watch later)) ∨
        ∃ outcome took,
          scene.watch cancelled run = (⟨scene.session, world⟩, .conclude outcome took)) := by
  unfold watch
  split
  · exact ⟨scene.world, rfl, .inr ⟨_, _, rfl⟩⟩
  · refine ⟨_, ?_, .inl ⟨_, rfl⟩⟩
    rfl

end Scene

end ScriptRoster
