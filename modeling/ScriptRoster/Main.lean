import Std.Time.Format
import ScriptRoster.CommandLine.Program

/-!
# The entry point

The files that a run may look at are read into a tree, the program runs over the tree, and what it
changed is written back. Functions can be called with the small programs that the library knows.
-/

namespace ScriptRoster.Entry

open Files CommandLine

/-- The found that the program looks at. -/
def variableNames : List String :=
  ["HOME", "PATH", "PSFUNC_SCRIPT", "PSFUNC_CACHE_DIR", "XDG_CONFIG_HOME", "XDG_CACHE_HOME",
    "RUST_LOG", "NO_COLOR", "CLICOLOR_FORCE"]

/-- The place that a path leads to, links aside. -/
def placeOf (cwd : Place) (path : Path) : Place :=
  if path.isAbsolute then path.components else cwd ++ path.components

/-- A place as a text. -/
def nameOf (place : Place) : String := (Path.ofPlace place).display

/-- The directories and programs that are always there. -/
def fixtures : FileTree :=
  let place (name : String) : Place := (Path.ofString name).components
  ⟨["/tmp", "/bin", "/usr", "/usr/bin", "/dev"].map (fun name => (place name, .directory))
    ++ [(place "/dev/null", .device)]
    ++ Shell.Program.names.map fun name => (place ("/usr/bin/" ++ name), .program name)⟩

/-- The script that arguments, environment and settings name. -/
def script? (host : Host) (arguments : List String) : Option Path :=
  match Options.read arguments, (Settings.loadDefault host).1 with
  | .ok options, .ok settings =>
      let raw := settings.chosenScript options.script (host.lookup? scriptVariable)
      some (.ofString (host.expandHome raw))
  | _, _ => none

/-- Reads what stands along names below a place into a tree, links followed. -/
partial def readAlong (tree : FileTree) (place : Place) : List Text.Bytes → IO FileTree
  | [] => return tree
  | name :: rest => do
      if name = Path.here then readAlong tree place rest
      else if name = Path.above then readAlong tree place.dropLast rest
      else
        let below := place ++ [name]
        match ← (IO.FS.realPath (nameOf below)).toBaseIO with
        | .error _ => return tree
        | .ok real =>
            let target := Path.ofString (toString real)
            if target.components ≠ below then
              readAlong (tree.put below (.link target)) [] (target.components ++ rest)
            else if ← real.isDir then readAlong (tree.put below .directory) below rest
            else
              let content ← IO.FS.readBinFile real
              let changed := (← real.metadata).modified
              let modified := changed.sec * 1000 + changed.nsec.toNat / 1000000
              return tree.put below (.file content.toList modified)

/-- Reads what stands at a path and, if it is a directory, the files in it. -/
def readAll (tree : FileTree) (cwd : Place) (path : Path) : IO FileTree := do
  let place := placeOf cwd path
  let tree ← readAlong tree [] place
  match tree.find cwd path with
  | .ok (found, .directory) =>
      let real ← IO.FS.realPath (nameOf found)
      (← real.readDir).toList.foldlM (fun tree entry =>
        readAlong tree [] (found ++ [Text.encode entry.fileName])) tree
  | _ => return tree

/-- Writes what differs between two trees back. -/
def writeBack (old new : FileTree) : IO Unit := do
  for (place, item) in new.items.reverse do
    if old.at? place ≠ some item then
      match item with
      | .directory => IO.FS.createDirAll (nameOf place)
      | .file content _ => IO.FS.writeBinFile (nameOf place) ⟨content.toArray⟩
      | _ => pure ()
  for (place, _) in old.items do
    if (new.at? place).isNone then IO.FS.removeFile (nameOf place)

/-- The host of a run with arguments. -/
def readHost (arguments : List String) (now : Int) : IO Host := do
  let environment ← variableNames.filterMapM fun name => do
    return (← IO.getEnv name).map (name, ·)
  let cwd := (Path.ofString (toString (← IO.currentDir))).components
  let host : Host := ⟨fixtures, cwd, environment, now⟩
  let files ← readAlong host.files [] cwd
  let files ← readAll files cwd (host.settingsPath.join (.ofString Settings.fileName))
  let files ← readAll files cwd host.cachePath
  match script? { host with files } arguments with
  | some script => return { host with files := ← readAlong files [] (placeOf cwd script) }
  | none => return { host with files }

end ScriptRoster.Entry

open ScriptRoster in
/-- Runs the program. -/
def main (arguments : List String) : IO UInt32 := do
  let time ← Std.Time.Timestamp.now
  let stamp := (Std.Time.DateTime.ofTimestamp time Std.Time.TimeZone.ZoneRules.UTC).format
    "uuuu-MM-dd'T'HH:mm:ss'Z'"
  let host ← Entry.readHost arguments time.toMillisecondsSinceUnixEpoch.val
  let ending := CommandLine.run (fun _ => false) stamp host arguments
  Entry.writeBack host.files ending.host.files
  IO.print ending.output
  IO.eprint ending.errors
  return ending.code.toUInt32
