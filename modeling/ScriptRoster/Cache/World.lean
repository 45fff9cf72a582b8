import ScriptRoster.Cache.Store
import ScriptRoster.Settings.Basic

/-!
# Cached names

Lists of names are kept in a store, under keys made from the path of a script and the time of its
last change. Whatever cannot be read from the store counts as absent. The store may refuse any
call; all calls are recorded.
-/

namespace ScriptRoster.Cache

open Files

/-- The surroundings that sessions share: the host, a store with a record of the calls made to it
and of whether each was refused, the number of sources called so far, and the journal. -/
structure World where
  host : Host
  store : Store
  /-- Whether the store refuses a call after so many others. -/
  refuses : Nat → Call → Bool
  calls : List (Call × Bool)
  sourcesCalled : Nat
  journal : Journal

/-- The prefix of keys where no other is given. -/
def defaultKeyPrefix : String := "psfunc-functions"

/-- The milliseconds in a key for a time of modification: none before 1970. -/
def keyTime (modified : Int) : Nat := modified.toNat

/-- The key of the script at a path. -/
def scriptKey (keyPrefix : String) (mode : KeyMode) (host : Host) (path : Path) :
    Except StoreError String :=
  let base := keyPrefix ++ "-" ++ path.display
  match mode with
  | .fixed => .ok base
  | .modified =>
      match host.files.find host.cwd path with
      | .ok (_, .file _ modified) => .ok (base ++ "-" ++ toString (keyTime modified))
      | .ok _ => .ok (base ++ "-" ++ toString (keyTime host.now))
      | .error cause => .error (.io cause)

namespace World

/-- The topic of notices on cached names. -/
def cacheTopic : String := "psfunc::core::cache"

/-- The world with notices added to its journal. -/
def note (world : World) (notices : Journal) : World :=
  { world with journal := world.journal ++ notices }

/-- Records a call; whether it is refused depends on the calls before it. -/
def record (world : World) (call : Call) : Bool × World :=
  let refused := world.refuses world.calls.length call
  (refused, { world with calls := world.calls ++ [(call, refused)] })

/-- The failure of a call that is refused. -/
def refusal (call : Call) : StoreError := .task (call.name ++ " refused")

/-- Asks the store for the payload under a key. -/
def fetch (world : World) (key : String) : Except StoreError (Option String) × World :=
  let (refused, world) := world.record (.get key)
  if refused then (.error (refusal (.get key)), world)
  else (world.store.get world.host key, world.note (world.store.remarks world.host key))

/-- The names kept under a key. -/
def names? (world : World) (key : String) : Option (List String) × World :=
  match world.fetch key with
  | (.ok (some payload), world) =>
      match Json.strings payload with
      | .ok names =>
          (some names, world.note [⟨.debug, cacheTopic, "Cache hit for '" ++ key ++ "' ("
            ++ toString names.length ++ " names)"⟩])
      | .error fault =>
          (none, world.note [⟨.warn, cacheTopic, "Ignoring unreadable cache payload for '" ++ key
            ++ "': " ++ fault.message payload⟩])
  | (.ok none, world) =>
      (none, world.note [⟨.debug, cacheTopic, "Cache miss for '" ++ key ++ "'"⟩])
  | (.error error, world) =>
      (none, world.note [⟨.warn, cacheTopic, "Ignoring cache entry for '" ++ key ++ "': "
        ++ error.message⟩])

/-- Takes over what a call to the store leaves behind. -/
def settle (world : World) :
    Except StoreError (Store × Host) → Except StoreError Unit × World
  | .ok (store, host) => (.ok (), { world with store, host })
  | .error error => (.error error, world)

/-- Keeps names under a key. -/
def keep (world : World) (key : String) (names : List String) : Except StoreError Unit × World :=
  let payload := Json.listText names
  let (refused, world) := world.record (.set key payload)
  if refused then (.error (refusal (.set key payload)), world)
  else world.settle (world.store.set world.host key payload)

/-- Forgets the names kept under a key. -/
def forget (world : World) (key : String) : Except StoreError Unit × World :=
  let (refused, world) := world.record (.remove key)
  if refused then (.error (refusal (.remove key)), world)
  else world.settle (world.store.remove world.host key)

end World

end ScriptRoster.Cache
