import ScriptRoster.Cache.World
import ScriptRoster.Invocation.Run
import ScriptRoster.Location
import ScriptRoster.Text.Lowercase
import ScriptRoster.Text.Within

/-!
# The state of a session

A session is configured with a script, lists its functions and calls them. Its path and its list
each go through a life of their own. Each configuration has a generation, and what was begun under
an older one counts no longer. Loads that work on the same key share one promise.
-/

namespace ScriptRoster

open Files

/-- Where a list of names came from. -/
inductive Origin where
  | cache
  | extracted (strategy : Strategy)
  deriving DecidableEq, Repr

def Origin.label : Origin → String
  | .cache => "cache"
  | .extracted strategy => strategy.name ++ " parse"

/-- The names that a load found. -/
structure Report where
  names : List String
  origin : Origin
  deriving DecidableEq, Repr

/-- What a reload says of the names it found. -/
structure Summary where
  count : Nat
  origin : Origin
  deriving DecidableEq, Repr

def Report.summary (report : Report) : Summary := ⟨report.names.length, report.origin⟩

/-- The report on an extraction. -/
def Report.ofExtracted (found : Extracted) : Report := ⟨found.names, .extracted found.strategy⟩

/-- The life of a configured path. -/
inductive PathState where
  | unconfigured
  | resolving (raw : String)
  | ready (location : Location)
  | invalid (raw message : String)
  deriving DecidableEq, Repr

/-- The life of a list of names. -/
inductive LoadState where
  | idle
  | loading
  | loaded
  | failed (message : String)
  deriving DecidableEq, Repr

/-- Why a session does not do what it is asked to. -/
inductive SessionError where
  | path (error : ResolveError)
  | notConfigured
  | extraction (error : ExtractionError)
  | cache (error : Cache.StoreError)
  | superseded
  deriving DecidableEq, Repr

def SessionError.message : SessionError → String
  | .path error => error.message
  | .notConfigured => Invocation.notConfiguredText
  | .extraction error => error.message
  | .cache error => error.message
  | .superseded => "The script path changed while this operation was running."

/-- How a session works. -/
structure Profile where
  keyPrefix : String
  preference : Preference
  keyMode : KeyMode
  sources : List Source
  interpreter : Invocation.Interpreter

/-- The profile that settings ask for. -/
def Profile.ofSettings (settings : Settings) : Profile where
  keyPrefix := Cache.defaultKeyPrefix
  preference := settings.strategy
  keyMode := settings.keyMode
  sources := Source.defaults
  interpreter := .ofSettings settings

/-- What loads share a promise by: a key, and whether the cache may answer. -/
structure Slot where
  key : String
  reuse : Bool
  deriving DecidableEq, Repr

/-- A load that several callers may wait for. -/
structure Promise where
  slot : Slot
  /-- Whether one of the callers has taken the load on. -/
  led : Bool
  result? : Option (Except ExtractionError Report)

/-- The state of a session. -/
structure Session where
  profile : Profile
  path : PathState
  load : LoadState
  names : List String
  generation : Nat
  /-- The promises that callers may still join. -/
  inFlight : List (Slot × Nat)
  /-- All promises ever made. -/
  promises : List Promise
  /-- The number of functions that are being called. -/
  active : Nat

namespace Session

/-- A session without a script. -/
def start (profile : Profile) : Session where
  profile := profile
  path := .unconfigured
  load := .idle
  names := []
  generation := 0
  inFlight := []
  promises := []
  active := 0

/-- The script, if the session has one. -/
def location? (session : Session) : Option Location :=
  match session.path with
  | .ready location => some location
  | _ => none

/-- Whether something is under way. -/
def isLoading (session : Session) : Bool :=
  match session.path with
  | .resolving _ => true
  | _ => session.load = .loading

/-- What went wrong last. -/
def lastError? (session : Session) : Option String :=
  match session.path, session.load with
  | .invalid _ message, _ => some message
  | _, .failed message => some message
  | _, _ => none

/-- The names that hold a query, whatever the size of letters. A blank query is held by all. -/
def search (session : Session) (query : String) : List String :=
  let needle := (Text.lowercase (Text.trim query)).toList
  session.names.filter fun name =>
    needle.isEmpty || Text.isWithin needle (Text.lowercase name).toList

/-- The first name of the list that is the same as another. -/
def listed? (session : Session) (name : String) : Option String :=
  session.names.find? fun listed => Name.same listed name

/-- The key of the script at a path. -/
def keyOf (session : Session) (host : Host) (path : Path) : Except Cache.StoreError String :=
  Cache.scriptKey session.profile.keyPrefix session.profile.keyMode host path

/-- The key of the script. -/
def key (session : Session) (host : Host) : Except SessionError String :=
  match session.location? with
  | some location =>
      match session.keyOf host location.resolved with
      | .ok key => .ok key
      | .error error => .error (.cache error)
  | none => .error .notConfigured

end Session

end ScriptRoster
