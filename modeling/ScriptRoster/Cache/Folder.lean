import ScriptRoster.Cache.Entry
import ScriptRoster.Host
import ScriptRoster.Text.Digest

/-!
# Cache folders

A folder keeps one entry a file. The file of a key is named by a stem made from the key; keys that
share a stem share a file, so an entry carries its key, and one that was written for another key
counts as absent. A file is replaced as a whole.
-/

namespace ScriptRoster.Cache

open Files Text

/-- Why a store fails. -/
inductive StoreError where
  | io (cause : FileError)
  | temporary (path : String) (cause : FileError)
  | unreadable (source : String) (fault : Json.Fault)
  | directory (cause : DirectoryError)
  | persist (cause : FileError)
  | task (reason : String)
  deriving DecidableEq, Repr

def StoreError.message : StoreError → String
  | .io cause => "Cache I/O error: " ++ cause.message
  | .temporary path cause =>
      "Cache I/O error: " ++ cause.message ++ " at path " ++ shown path
  | .unreadable source fault => "Cache serialization error: " ++ fault.message source
  | .directory cause => "Cache directory unavailable: " ++ cause.message
  | .persist cause =>
      "Could not persist cache entry: failed to persist temporary file: " ++ cause.message
  | .task reason => "Cache task failed: " ++ reason

/-- A directory of entries and the stems of their file names. -/
structure Folder where
  dir : Path
  stem : String → String

/-- The first half of the digest of a key. -/
def digestStem (key : String) : String := Digest.hex ((Digest.hash (encode key)).take 16)

namespace Folder

/-- The end of the names of entry files. -/
def fileEnding : String := "json"

/-- The file of a key. -/
def entryPath (folder : Folder) (key : String) : Path :=
  folder.dir.join (.ofString (folder.stem key ++ "." ++ fileEnding))

/-- The entry in the file of a key, if there is a file. -/
def entry? (folder : Folder) (host : Host) (key : String) : Except StoreError (Option Entry) :=
  match host.files.readText host.cwd (folder.entryPath key) with
  | .error .notFound => .ok none
  | .error cause => .error (.io cause)
  | .ok text =>
      match Entry.ofText text with
      | .ok entry => .ok (some entry)
      | .error fault => .error (.unreadable text fault)

/-- The payload kept under a key. -/
def get (folder : Folder) (host : Host) (key : String) : Except StoreError (Option String) :=
  (folder.entry? host key).map fun entry =>
    (entry.filter (·.key = key)).map Entry.payload

/-- What is noted while a key is looked up. -/
def remarks (folder : Folder) (host : Host) (key : String) : Journal :=
  match folder.entry? host key with
  | .ok (some entry) =>
      if entry.key = key then []
      else [⟨.debug, "psfunc::core::cache",
        "Cache file '" ++ (folder.entryPath key).display ++ "' belongs to another key"⟩]
  | _ => []

/-- The name of the file that is written before it replaces an entry. -/
def temporaryName : String := ".tmp"

/-- Keeps a payload under a key. -/
def set (folder : Folder) (host : Host) (key payload : String) : Except StoreError Host :=
  let temporary := folder.dir.join (.ofString temporaryName)
  match host.files.locate true host.cwd temporary with
  | .error cause => .error (.temporary temporary.display cause)
  | .ok _ =>
      match host.files.replace host.cwd (folder.entryPath key)
          (encode (Entry.text ⟨key, payload⟩)) host.now with
      | .ok files => .ok { host with files }
      | .error cause => .error (.persist cause)

/-- Removes what is kept under a key. -/
def remove (folder : Folder) (host : Host) (key : String) : Except StoreError Host :=
  match host.files.removeFile host.cwd (folder.entryPath key) with
  | .ok files => .ok { host with files }
  | .error .notFound => .ok host
  | .error cause => .error (.io cause)

/-- Removes named files and counts them, up to the first that cannot be removed. -/
def clearNames (folder : Folder) (removed : Nat) (host : Host) :
    List Bytes → Except StoreError Nat × Host
  | [] => (.ok removed, host)
  | name :: rest =>
      match host.files.removeFile host.cwd (folder.dir.join ⟨name⟩) with
      | .ok files => folder.clearNames (removed + 1) { host with files } rest
      | .error cause => (.error (.io cause), host)

/-- Whether a file name is that of an entry. -/
def isEntryName (name : Bytes) : Bool := Path.extension? name = some (encode fileEnding)

/-- Removes every entry and counts them. -/
def clear (folder : Folder) (host : Host) : Except StoreError Nat × Host :=
  match host.files.list host.cwd folder.dir with
  | .error cause => (.error (.io cause), host)
  | .ok names => folder.clearNames 0 host (names.filter isEntryName)

/-- Makes the directory of a folder if it is not there. -/
def prepare (host : Host) (dir : Path) : Except StoreError (Folder × Host) :=
  match host.files.makeDirectories host.cwd dir with
  | .ok files => .ok (⟨dir, digestStem⟩, { host with files })
  | .error cause => .error (.io cause)

/-- The folder in the directory for caches. -/
def prepareDefault (host : Host) : Except StoreError (Folder × Host) :=
  match host.cacheDirectory with
  | .ok (dir, host) => prepare host dir
  | .error cause => .error (.directory cause)

end Folder

end ScriptRoster.Cache
