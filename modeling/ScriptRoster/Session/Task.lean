import ScriptRoster.ScriptFile
import ScriptRoster.Session.State

/-!
# Tasks

What a session is asked to do, it does as a task that goes from stage to stage. Each step is one
look at the session's state, one call to the store, one look at a file, or one slice of a running
function, so the steps of several tasks can alternate in any order.
-/

namespace ScriptRoster

open Files

/-- How names are loaded. -/
inductive LoadKind where
  /-- From the cache if it holds them. -/
  | cached
  /-- From the script. -/
  | fresh
  /-- From the script, after what the cache holds has been dropped. -/
  | reload
  deriving DecidableEq, Repr

/-- What a session can be asked to do. -/
inductive Request where
  | setScript (raw : String)
  | configure (raw : String) (fresh : Bool)
  | load (fresh : Bool)
  | reload
  | run (name : String)
  deriving DecidableEq, Repr

/-- What a session answers. -/
inductive Answer where
  | located (result : Except SessionError Location)
  | loaded (result : Except SessionError Report)
  | reloaded (result : Except SessionError Summary)
  | ran (outcome : Invocation.Outcome) (took : Text.Duration)

/-- The answer of a load. -/
def LoadKind.answer (kind : LoadKind) (result : Except SessionError Report) : Answer :=
  match kind with
  | .reload => .reloaded (result.map Report.summary)
  | _ => .loaded result

/-- What a load works on: a script, under a generation. -/
structure Errand where
  kind : LoadKind
  path : Path
  generation : Nat
  deriving DecidableEq, Repr

/-- Whether the cache may answer. -/
def Errand.reuse (errand : Errand) : Bool := errand.kind = .cached

/-- A promise, and the slot it was found in. -/
structure Ticket where
  slot : Slot
  promise : Nat
  deriving DecidableEq, Repr

/-- How far a task has come; a stage is named for what is done next. -/
inductive Stage where
  | start
  | resolve (raw : String) (generation : Nat) (next : Option LoadKind)
  | settle (raw : String) (generation : Nat) (next : Option LoadKind)
      (found : Except ResolveError Location)
  | startLoad (kind : LoadKind)
  | makeKey (errand : Errand)
  | lookUp (errand : Errand) (key : String)
  | drop (errand : Errand) (key : String)
  | join (errand : Errand) (key : String)
  | await (errand : Errand) (ticket : Ticket)
  | lookAgain (errand : Errand) (ticket : Ticket)
  | read (errand : Errand) (ticket : Option Ticket)
  | callSource (errand : Errand) (ticket : Option Ticket) (content : String)
  | extract (errand : Errand) (ticket : Option Ticket) (content : String)
  | keep (errand : Errand) (ticket : Ticket) (report : Report)
  | leave (errand : Errand) (ticket : Ticket) (result : Except ExtractionError Report)
  | publish (errand : Errand) (ticket : Ticket) (result : Except ExtractionError Report)
  | finish (errand : Errand) (result : Except ExtractionError Report)
  | spawn (path : Path) (name : String)
  | watch (run : Invocation.Run)
  | conclude (outcome : Invocation.Outcome) (took : Text.Duration)
  | done (answer : Answer)

/-- A session and its surroundings, which other sessions may share. -/
structure Scene where
  session : Session
  world : Cache.World

namespace Scene

/-- The topic of notices on sessions. -/
def topic : String := "psfunc::core::session"

def note (scene : Scene) (level : Level) (text : String) : Scene :=
  { scene with world := scene.world.note [⟨level, topic, text⟩] }

def withSession (scene : Scene) (session : Session) : Scene := { scene with session }

def withWorld (scene : Scene) (world : Cache.World) : Scene := { scene with world }

/-- Begins to configure a script: the names of the one before are dropped. -/
def setScript (scene : Scene) (raw : String) (next : Option LoadKind) : Scene × Stage :=
  let session := scene.session
  let generation := session.generation + 1
  let scene := scene.withSession
    { session with generation, path := .resolving raw, load := .idle, names := [] }
  (scene.note .debug ("Configuring script '" ++ raw ++ "' (generation " ++ toString generation
      ++ ")"),
    .resolve raw generation next)

/-- The stage after a script was configured, or not. -/
def configured (next : Option LoadKind) (result : Except SessionError Location) : Stage :=
  match next, result with
  | none, result => .done (.located result)
  | some kind, .ok _ => .startLoad kind
  | some kind, .error error => .done (kind.answer (.error error))

/-- Records where the script was found, unless another one has been configured since. -/
def settle (scene : Scene) (raw : String) (generation : Nat) (next : Option LoadKind)
    (found : Except ResolveError Location) : Scene × Stage :=
  let session := scene.session
  if session.generation = generation then
    match found with
    | .ok location =>
        let scene := scene.withSession { session with path := .ready location }
        (scene.note .info ("Using script '" ++ location.resolved.display ++ "'"),
          configured next (.ok location))
    | .error error =>
        (scene.withSession { session with path := .invalid raw error.message },
          configured next (.error (.path error)))
  else (scene, configured next (.error .superseded))

/-- Begins to load the names of the script. -/
def startLoad (scene : Scene) (kind : LoadKind) : Scene × Stage :=
  let session := scene.session
  match session.location? with
  | some location =>
      (scene.withSession { session with load := .loading },
        .makeKey ⟨kind, location.resolved, session.generation⟩)
  | none => (scene, .done (kind.answer (.error .notConfigured)))

/-- Makes the key of the script. Without one the cache is left alone. -/
def makeKey (scene : Scene) (errand : Errand) : Scene × Stage :=
  match scene.session.keyOf scene.world.host errand.path with
  | .ok key =>
      match errand.kind with
      | .cached => (scene, .lookUp errand key)
      | .fresh => (scene, .join errand key)
      | .reload => (scene, .drop errand key)
  | .error error =>
      (scene.note .warn ("Cache disabled for '" ++ errand.path.display ++ "': " ++ error.message),
        .read errand none)

/-- Looks into the cache. -/
def lookUp (scene : Scene) (errand : Errand) (key : String) : Scene × Stage :=
  match scene.world.names? key with
  | (some names, world) => (scene.withWorld world, .finish errand (.ok ⟨names, .cache⟩))
  | (none, world) => (scene.withWorld world, .join errand key)

/-- Drops what the cache holds. -/
def drop (scene : Scene) (errand : Errand) (key : String) : Scene × Stage :=
  match scene.world.forget key with
  | (.ok (), world) => (scene.withWorld world, .join errand key)
  | (.error error, world) =>
      ((scene.withWorld world).note .warn
          ("Could not remove cache entry '" ++ key ++ "': " ++ error.message),
        .join errand key)

/-- Joins the promise in flight for the key, or puts a new one there. -/
def join (scene : Scene) (errand : Errand) (key : String) : Scene × Stage :=
  let session := scene.session
  let slot : Slot := ⟨key, errand.reuse⟩
  match session.inFlight.lookup slot with
  | some id => (scene, .await errand ⟨slot, id⟩)
  | none =>
      let id := session.promises.length
      (scene.withSession
          { session with
            promises := session.promises ++ [⟨slot, false, none⟩]
            inFlight := (slot, id) :: session.inFlight },
        .await errand ⟨slot, id⟩)

/-- Whether a promise is being kept by another caller. -/
def isHeld (session : Session) (promise : Nat) : Bool :=
  match session.promises[promise]? with
  | some ⟨_, true, none⟩ => true
  | _ => false

/-- Takes the result of a promise, or takes the load on if nobody has. -/
def await (scene : Scene) (errand : Errand) (ticket : Ticket) : Scene × Stage :=
  let session := scene.session
  match session.promises[ticket.promise]? with
  | some ⟨_, _, some result⟩ => (scene, .finish errand result)
  | some ⟨_, true, none⟩ => (scene, .await errand ticket)
  | some ⟨slot, false, none⟩ =>
      (scene.withSession
          { session with promises := session.promises.set ticket.promise ⟨slot, true, none⟩ },
        if errand.reuse then .lookAgain errand ticket else .read errand (some ticket))
  | none => (scene, .await errand ticket)

/-- Looks into the cache again: another caller may have stored the names. -/
def lookAgain (scene : Scene) (errand : Errand) (ticket : Ticket) : Scene × Stage :=
  match scene.world.names? ticket.slot.key with
  | (some names, world) =>
      ((scene.withWorld world).note .debug
          ("'" ++ ticket.slot.key ++ "' was stored while waiting to extract"),
        .leave errand ticket (.ok ⟨names, .cache⟩))
  | (none, world) => (scene.withWorld world, .read errand (some ticket))

/-- The stage after an extraction. -/
def extracted (errand : Errand) (ticket : Option Ticket)
    (result : Except ExtractionError Report) : Stage :=
  match ticket, result with
  | none, result => .finish errand result
  | some ticket, .ok report => .keep errand ticket report
  | some ticket, .error error => .leave errand ticket (.error error)

/-- Reads the script. -/
def read (scene : Scene) (errand : Errand) (ticket : Option Ticket) : Scene × Stage :=
  match readScript scene.world.host.files scene.world.host.cwd errand.path with
  | .ok content => (scene, .callSource errand ticket content)
  | .error error => (scene, extracted errand ticket (.error error))

/-- The sources that the preference lets be tried. -/
def allowedSources (session : Session) : List Source :=
  session.profile.sources.filter fun source =>
    session.profile.preference.allows source.strategy

/-- Calls the first source, if there is one. -/
def callSource (scene : Scene) (errand : Errand) (ticket : Option Ticket) (content : String) :
    Scene × Stage :=
  let called := if (allowedSources scene.session).isEmpty then 0 else 1
  (scene.withWorld { scene.world with sourcesCalled := scene.world.sourcesCalled + called },
    .extract errand ticket content)

/-- Waits for the first source, and calls the others as far as they are needed. -/
def extract (scene : Scene) (errand : Errand) (ticket : Option Ticket) (content : String) :
    Scene × Stage :=
  let profile := scene.session.profile
  let extraction := Extraction.ofScript profile.sources profile.preference errand.path content
  let world := scene.world.note extraction.journal
  (scene.withWorld
      { world with sourcesCalled := world.sourcesCalled + (extraction.called.length - 1) },
    extracted errand ticket (extraction.outcome.map Report.ofExtracted))

/-- Puts the names into the cache. -/
def keep (scene : Scene) (errand : Errand) (ticket : Ticket) (report : Report) : Scene × Stage :=
  match scene.world.keep ticket.slot.key report.names with
  | (.ok (), world) => (scene.withWorld world, .leave errand ticket (.ok report))
  | (.error error, world) =>
      ((scene.withWorld world).note .warn
          ("Could not store names for '" ++ ticket.slot.key ++ "': " ++ error.message),
        .leave errand ticket (.ok report))

/-- Takes the promise out of flight, so that nobody joins it any more. -/
def leave (scene : Scene) (errand : Errand) (ticket : Ticket)
    (result : Except ExtractionError Report) : Scene × Stage :=
  let session := scene.session
  (scene.withSession
      { session with
        inFlight := session.inFlight.filter fun entry => entry != (ticket.slot, ticket.promise) },
    .publish errand ticket result)

/-- Hands the result to all who wait for it. -/
def publish (scene : Scene) (errand : Errand) (ticket : Ticket)
    (result : Except ExtractionError Report) : Scene × Stage :=
  let session := scene.session
  (scene.withSession
      { session with
        promises := session.promises.set ticket.promise ⟨ticket.slot, true, some result⟩ },
    .finish errand result)

/-- Records what a load found, unless another script has been configured since. -/
def finish (scene : Scene) (errand : Errand) (result : Except ExtractionError Report) :
    Scene × Stage :=
  let session := scene.session
  match result with
  | .ok report =>
      if session.generation = errand.generation then
        let scene := scene.withSession { session with names := report.names, load := .loaded }
        (scene.note .debug ("Loaded " ++ toString report.names.length ++ " function(s) from the "
            ++ report.origin.label),
          .done (errand.kind.answer (.ok report)))
      else
        (scene.note .debug ("Discarding names loaded for generation "
            ++ toString errand.generation),
          .done (errand.kind.answer (.error .superseded)))
  | .error error =>
      let scene :=
        if session.generation = errand.generation then
          scene.withSession { session with names := [], load := .failed error.message }
        else scene
      (scene, .done (errand.kind.answer (.error (.extraction error))))

/-- Begins to call a function, which has to be listed. -/
def startRun (scene : Scene) (name : String) : Scene × Stage :=
  let session := scene.session
  match session.location? with
  | some location =>
      match session.listed? name with
      | some listed =>
          let scene := scene.withSession { session with active := session.active + 1 }
          (scene.note .info ("Invoking '" ++ listed ++ "' from '" ++ location.resolved.display
              ++ "'"),
            .spawn location.resolved listed)
      | none => (scene, .done (.ran (.unfinished name (.unknownFunction name)) ⟨0⟩))
  | none => (scene, .done (.ran (.unfinished name .notConfigured) ⟨0⟩))

/-- Starts the interpreter, unless the call has been cancelled. -/
def spawn (scene : Scene) (cancelled : Bool) (path : Path) (name : String) : Scene × Stage :=
  let interpreter := scene.session.profile.interpreter
  let world := scene.world.note (Invocation.beginRemarks interpreter path name cancelled)
  match Invocation.Run.begin world.host interpreter path name cancelled with
  | .ok (host, run) => (scene.withWorld { world with host }, .watch run)
  | .error failure => (scene.withWorld world, .conclude (.unfinished name failure) ⟨0⟩)

/-- Lets a running function go on for a slice of time. -/
def watch (scene : Scene) (cancelled : Bool) (run : Invocation.Run) : Scene × Stage :=
  match run.outcome? with
  | some outcome => (scene, .conclude outcome ⟨run.time⟩)
  | none =>
      let (host, run) := run.advance scene.world.host cancelled
      (scene.withWorld { scene.world with host }, .watch run)

/-- Hands out the outcome of a call. -/
def conclude (scene : Scene) (outcome : Invocation.Outcome) (took : Text.Duration) :
    Scene × Stage :=
  let session := scene.session
  let scene := scene.withSession { session with active := session.active - 1 }
  (scene.withWorld (scene.world.note (Invocation.endRemarks outcome took)),
    .done (.ran outcome took))

/-- The first step of a request. -/
def start (scene : Scene) : Request → Scene × Stage
  | .setScript raw => scene.setScript raw none
  | .configure raw fresh => scene.setScript raw (some (if fresh then .fresh else .cached))
  | .load fresh => scene.startLoad (if fresh then .fresh else .cached)
  | .reload => scene.startLoad .reload
  | .run name => scene.startRun name

/-- Resolves a configured path. -/
def resolve (scene : Scene) (raw : String) (generation : Nat) (next : Option LoadKind) :
    Scene × Stage :=
  let host := scene.world.host
  (scene.withWorld (scene.world.note (Location.remarks host raw)),
    .settle raw generation next (Location.resolve host raw))

end Scene

/-- Something that a session was asked to do. -/
structure Task where
  request : Request
  stage : Stage
  /-- Whether the caller wants it no longer; only calls of functions heed this. -/
  cancelled : Bool

namespace Task

/-- A task that has not begun. -/
def ofRequest (request : Request) (cancelled : Bool) : Task := ⟨request, .start, cancelled⟩

/-- The next step of a task. -/
def next (scene : Scene) (task : Task) : Scene × Stage :=
  match task.stage with
  | .start => scene.start task.request
  | .resolve raw generation next => scene.resolve raw generation next
  | .settle raw generation next found => scene.settle raw generation next found
  | .startLoad kind => scene.startLoad kind
  | .makeKey errand => scene.makeKey errand
  | .lookUp errand key => scene.lookUp errand key
  | .drop errand key => scene.drop errand key
  | .join errand key => scene.join errand key
  | .await errand ticket => scene.await errand ticket
  | .lookAgain errand ticket => scene.lookAgain errand ticket
  | .read errand ticket => scene.read errand ticket
  | .callSource errand ticket content => scene.callSource errand ticket content
  | .extract errand ticket content => scene.extract errand ticket content
  | .keep errand ticket report => scene.keep errand ticket report
  | .leave errand ticket result => scene.leave errand ticket result
  | .publish errand ticket result => scene.publish errand ticket result
  | .finish errand result => scene.finish errand result
  | .spawn path name => scene.spawn task.cancelled path name
  | .watch run => scene.watch task.cancelled run
  | .conclude outcome took => scene.conclude outcome took
  | .done answer => (scene, .done answer)

/-- Does the next step of a task. -/
def step (scene : Scene) (task : Task) : Scene × Task :=
  let (scene, stage) := task.next scene
  (scene, { task with stage })

/-- The answer of a task that is done. -/
def answer? (task : Task) : Option Answer :=
  match task.stage with
  | .done answer => some answer
  | _ => none

/-- Whether a task has to wait for another. -/
def isBlocked (session : Session) (task : Task) : Bool :=
  match task.stage with
  | .await _ ticket => Scene.isHeld session ticket.promise
  | _ => false

end Task

end ScriptRoster
