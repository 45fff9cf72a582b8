import ScriptRoster.CommandLine.Help
import ScriptRoster.CommandLine.Log
import ScriptRoster.CommandLine.Options
import ScriptRoster.CommandLine.Reply
import ScriptRoster.Session.Schedule

/-!
# The program

A run of the program reads its arguments, loads the settings, opens the cache, does one action with
a session of its own, and tells what came of it. What goes wrong on the way ends the run with a
code and a message.
-/

namespace ScriptRoster.CommandLine

open Files Cache

/-- What a run of the program leaves behind. -/
structure Ending where
  code : Nat
  output : String
  errors : String
  host : Host

/-- What an action works with. -/
structure Bench where
  settings : Settings
  /-- The text that names the script. -/
  script : String
  folder : Folder
  scene : Scene

/-- The topic of notices on what was asked for. -/
def dispatchTopic : String := "psfunc::cli::dispatcher"

/-- The topic of notices on what sessions are made to do. -/
def workTopic : String := "psfunc::cli::handlers::commons"

/-- The variable that names a script. -/
def scriptVariable : String := "PSFUNC_SCRIPT"

namespace Bench

/-- A world on a host, with cached names in a folder. -/
def world (host : Host) (folder : Folder) (journal : Journal) : World where
  host := host
  store := .folder folder
  refuses := fun _ _ => false
  calls := []
  sourcesCalled := 0
  journal := journal

/-- Loads the settings and opens the cache. -/
def prepare (host : Host) (script : Option String) (journal : Journal) :
    Except Trouble Bench × Host × Journal :=
  match Settings.loadDefault host with
  | (.error error, host, loading) => (.error (.settings error), host, journal ++ loading)
  | (.ok settings, host, loading) =>
      let journal := journal ++ loading
      match Folder.prepareDefault host with
      | .error error => (.error (.folder error), host, journal)
      | .ok (folder, host) =>
          let bench : Bench :=
            { settings, folder
              script := settings.chosenScript script (host.lookup? scriptVariable)
              scene := ⟨.start (.ofSettings settings), world host folder journal⟩ }
          (.ok bench, host, journal)

/-- The scene with a notice on what the session is made to do. -/
def noted (bench : Bench) (text : String) : Scene :=
  bench.scene.withWorld (bench.scene.world.note [⟨.debug, workTopic, text⟩])

/-- The trouble that an error of the session makes. -/
def sessionTrouble (bench : Bench) (error : SessionError) : Trouble :=
  .session bench.script error

/-- Points the session at the script and loads its functions. -/
def configure (bench : Bench) (fresh : Bool) : Except Trouble Report × Scene :=
  let scene := bench.noted ("Configuring session with '" ++ bench.script ++ "' (fresh: "
    ++ toString fresh ++ ")")
  match scene.perform (.configure bench.script fresh) false with
  | (scene, some (.loaded (.ok report))) => (.ok report, scene)
  | (scene, some (.loaded (.error error))) => (.error (bench.sessionTrouble error), scene)
  | (scene, _) => (.error (bench.sessionTrouble .notConfigured), scene)

/-- Points the session at the script and reads it anew. -/
def reload (bench : Bench) : Except Trouble Summary × Scene :=
  let scene := bench.noted ("Reloading '" ++ bench.script ++ "'")
  match scene.perform (.setScript bench.script) false with
  | (scene, some (.located (.ok _))) =>
      match scene.perform .reload false with
      | (scene, some (.reloaded (.ok summary))) => (.ok summary, scene)
      | (scene, some (.reloaded (.error error))) => (.error (bench.sessionTrouble error), scene)
      | (scene, _) => (.error (bench.sessionTrouble .notConfigured), scene)
  | (scene, some (.located (.error error))) => (.error (bench.sessionTrouble error), scene)
  | (scene, _) => (.error (bench.sessionTrouble .notConfigured), scene)

/-- Calls a function, unless a sign on the host asks for a stop. -/
def call (sign : Host → Bool) (scene : Scene) (name : String) : Reply × Scene :=
  let (scene, task) :=
    (Task.ofRequest (.run name) false).goOnHeeding sign Task.stepLimit scene
  match task.answer? with
  | some (.ran outcome took) => (.called outcome took task.cancelled, scene)
  | _ => (.called (.unfinished name .terminated) ⟨0⟩ task.cancelled, scene)

/-- Locates the script and makes its key. -/
def entry (bench : Bench) : Except Trouble (Path × String) × Scene :=
  let host := bench.scene.world.host
  let scene := bench.scene.withWorld
    (bench.scene.world.note (Location.remarks host bench.script))
  match Location.resolve host bench.script with
  | .error error => (.error (.location error), scene)
  | .ok location =>
      match scene.session.keyOf host location.resolved with
      | .error error => (.error (.store error), scene)
      | .ok key => (.ok (location.resolved, key), scene)

/-- Tells what the entry of the script holds. -/
def inspect (bench : Bench) : Except Trouble Reply × Scene :=
  match bench.entry with
  | (.error trouble, scene) => (.error trouble, scene)
  | (.ok (script, key), scene) =>
      let (names, world) := scene.world.names? key
      (.ok (.inspected script key (bench.folder.entryPath key) names), scene.withWorld world)

/-- Removes the entry of the script. -/
def clear (bench : Bench) : Except Trouble Reply × Scene :=
  match bench.entry with
  | (.error trouble, scene) => (.error trouble, scene)
  | (.ok (script, key), scene) =>
      let (names, world) := scene.world.names? key
      let (result, world) := world.forget key
      (.ok (.cleared script (bench.folder.entryPath key) names.isSome result),
        scene.withWorld world)

/-- Removes all entries. -/
def clearAll (bench : Bench) : Except Trouble Reply × Scene :=
  let world := bench.scene.world
  let (result, host) := bench.folder.clear world.host
  let scene := bench.scene.withWorld { world with host }
  match result with
  | .ok removed => (.ok (.emptied bench.folder.dir removed), scene)
  | .error error => (.error (.store error), scene)

/-- Does an action; a sign on the host asks for a stop. -/
def perform (sign : Host → Bool) (bench : Bench) : Action → Except Trouble Reply × Scene
  | .list fresh =>
      let (result, scene) := bench.configure fresh
      (result.map (.listed bench.script ·), scene)
  | .search query =>
      let (result, scene) := bench.configure false
      (result.map fun _ => .found query (scene.session.search query), scene)
  | .run name =>
      match bench.configure false with
      | (.error trouble, scene) => (.error trouble, scene)
      | (.ok _, scene) =>
          let (reply, scene) := call sign scene name
          (.ok reply, scene)
  | .reload =>
      let (result, scene) := bench.reload
      (result.map (.reloaded · scene.session.names), scene)
  | .pick query =>
      match bench.configure false with
      | (.error trouble, scene) => (.error trouble, scene)
      | (.ok report, scene) =>
          let names :=
            match query with
            | some query => scene.session.search query
            | none => report.names
          (if names.isEmpty then .ok (.nothingToPick bench.script) else .error .noTerminal, scene)
  | .inspectCache => bench.inspect
  | .clearCache => bench.clear
  | .clearAllCaches => bench.clearAll

end Bench

/-- The notice on the options that were given. -/
def Options.notice (options : Options) : Journal :=
  let script :=
    match options.script with
    | some script => "Some(" ++ Text.shown script ++ ")"
    | none => "None"
  [⟨.debug, dispatchTopic, "CLI args parsed: Cli \x7b script: " ++ script ++ ", args: "
    ++ Text.shownList options.arguments ++ " \x7d"⟩]

/-- The variable that has tints shown although there is no terminal. -/
def tintVariable : String := "CLICOLOR_FORCE"

/-- The variable that keeps tints out of help, complaints and the log. -/
def plainVariable : String := "NO_COLOR"

/-- Whether replies are tinted: the variable is set to something else than a zero. -/
def tintsReplies (host : Host) : Bool := (host.lookup? tintVariable).any (· != "0")

/-- Whether help, complaints and the log are set off: the variable is set to some text. -/
def setsOff (host : Host) : Bool :=
  (host.nonempty? tintVariable).isSome && (host.nonempty? plainVariable).isNone

/-- A theme where things are set off, and the plain theme elsewhere. -/
def themeOn (host : Host) (theme : Theme) : Theme := if setsOff host then theme else .plain

namespace Ending

/-- The ending of a run in which something is told in the stead of an action. -/
def ofAside (host : Host) : Aside → Ending
  | .help => ⟨0, Help.text (tintsReplies host && setsOff host), "", host⟩
  | .version => ⟨0, Help.versionLine, "", host⟩
  | .wrong complaint => ⟨2, "", complaint.text.render (themeOn host .ofProgram), host⟩

/-- The ending of a run that failed. -/
def ofTrouble (host : Host) : Trouble → Ending
  | .arguments (.detour (.help form)) =>
      ⟨0, form.help.render (themeOn host .ofActions), "", host⟩
  | trouble => ⟨trouble.code, "", trouble.text.render (Tint.opening (tintsReplies host)), host⟩

/-- The ending of a run with a reply. -/
def ofReply (host : Host) (reply : Reply) : Ending :=
  let opening := Tint.opening (tintsReplies host)
  let output := reply.output.render opening
  match reply.trouble? with
  | some trouble => ⟨trouble.code, output, trouble.text.render opening, host⟩
  | none => ⟨0, output, reply.remark.render opening, host⟩

/-- An ending with more before what is written to the errors. -/
def after (before : String) (ending : Ending) : Ending :=
  { ending with errors := before ++ ending.errors }

end Ending

/-- Does what arguments ask for, and hands out the journal. -/
def dispatch (sign : Host → Bool) (host : Host) (options : Options) : Ending × Journal :=
  match Bench.prepare host options.script options.notice with
  | (.error trouble, host, journal) => (.ofTrouble host trouble, journal)
  | (.ok bench, host, journal) =>
      match Action.ofArguments options.arguments with
      | .error error => (.ofTrouble host (.arguments error), journal)
      | .ok action =>
          let (result, scene) := bench.perform sign action
          let host := scene.world.host
          match result with
          | .ok reply => (.ofReply host reply, scene.world.journal)
          | .error trouble => (.ofTrouble host trouble, scene.world.journal)

/-- Runs the program. A sign on the host asks for a stop; the lines of the log are stamped with a
time. -/
def run (sign : Host → Bool) (stamp : String) (host : Host) (arguments : List String) : Ending :=
  let (filter, warnings) := Filter.ofHost host
  match Options.read arguments with
  | .error aside => (Ending.ofAside host aside).after warnings
  | .ok options =>
      let (ending, journal) := dispatch sign host options
      ending.after (warnings ++ log filter (setsOff host) stamp journal)

end ScriptRoster.CommandLine
