import ScriptRoster.Cache.Folder

/-!
# Stores

A store keeps payloads under keys, in memory or in a folder.
-/

namespace ScriptRoster.Cache

/-- Payloads by key. -/
abbrev Memory := List (String × String)

namespace Memory

/-- Keeps a payload under a key, in the stead of the one before. -/
def set (memory : Memory) (key payload : String) : Memory :=
  (key, payload) :: memory.filter (·.1 != key)

/-- Removes what is kept under a key. -/
def remove (memory : Memory) (key : String) : Memory := memory.filter (·.1 != key)

end Memory

/-- A place where payloads are kept. -/
inductive Store where
  | memory (entries : Memory)
  | folder (place : Folder)

/-- What a store is asked to do. -/
inductive Call where
  | get (key : String)
  | set (key payload : String)
  | remove (key : String)
  deriving DecidableEq, Repr

/-- The word for a call. -/
def Call.name : Call → String
  | .get _ => "get"
  | .set .. => "set"
  | .remove _ => "remove"

namespace Store

/-- The payload kept under a key. -/
def get (store : Store) (host : Host) (key : String) : Except StoreError (Option String) :=
  match store with
  | .memory entries => .ok (entries.lookup key)
  | .folder place => place.get host key

/-- What is noted while a key is looked up. -/
def remarks (store : Store) (host : Host) (key : String) : Journal :=
  match store with
  | .memory _ => []
  | .folder place => place.remarks host key

/-- Keeps a payload under a key. -/
def set (store : Store) (host : Host) (key payload : String) : Except StoreError (Store × Host) :=
  match store with
  | .memory entries => .ok (.memory (entries.set key payload), host)
  | .folder place => (place.set host key payload).map fun host => (.folder place, host)

/-- Removes what is kept under a key. -/
def remove (store : Store) (host : Host) (key : String) : Except StoreError (Store × Host) :=
  match store with
  | .memory entries => .ok (.memory (entries.remove key), host)
  | .folder place => (place.remove host key).map fun host => (.folder place, host)

end Store

end ScriptRoster.Cache
