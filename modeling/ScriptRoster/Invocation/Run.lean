import ScriptRoster.Journal
import ScriptRoster.Settings.Basic
import ScriptRoster.Shell.Machine

/-!
# Runs

A run calls one function of a script: an interpreter is started in the script's directory, given
the command as its last argument, and watched until it is complete or stopped. Runs go forward in
short slices of time, so that several of them can go side by side over the same files.
-/

namespace ScriptRoster.Invocation

open Files Text Shell

/-- How functions are called. -/
structure Interpreter where
  program : String
  arguments : List String
  limit : Option Duration
  deriving DecidableEq, Repr

/-- The interpreter that settings name. -/
def Interpreter.ofSettings (settings : Settings) : Interpreter :=
  ⟨settings.interpreter, settings.interpreterArguments, settings.timeout.map Duration.ofSeconds⟩

/-- The topic of notices on runs. -/
def topic : String := "psfunc::system::invoker"

/-- The nanoseconds between polls. -/
def pollInterval : Nat := 100000000

/-- The nanoseconds of a slice. -/
def slice : Nat := 10000000

/-- The greatest number of steps that a process does in a slice. -/
def stepsInSlice : Nat := 100000

/-- A run that has been started. -/
structure Run where
  function : String
  limit : Option Duration
  machine : Machine
  progress : Progress
  time : Nat

/-- Where the interpreter works: in the script's directory, if there is one. -/
def workingDirectory (host : Host) (script : Path) : Place :=
  match script.parent? with
  | some parent =>
      match host.files.find host.cwd parent with
      | .ok (place, .directory) => place
      | _ => host.cwd
  | none => host.cwd

/-- Whether a text cannot be handed to a program. -/
def hasNul (text : String) : Bool := text.toList.contains (Char.ofNat 0)

/-- Starts an interpreter with a command. -/
def spawn (host : Host) (interpreter : Interpreter) (script : Path) (command : String) :
    Except FileError (Host × Machine) :=
  let arguments := interpreter.arguments ++ [command]
  if hasNul interpreter.program || arguments.any hasNul then .error .nulInArgument
  else
    let cwd := workingDirectory host script
    (host.program cwd interpreter.program).map fun found => Machine.start host cwd found arguments

/-- Begins a call, unless it fails at once. -/
def Run.begin (host : Host) (interpreter : Interpreter) (script : Path) (name : String)
    (cancelled : Bool) : Except Failure (Host × Run) :=
  match command script name with
  | .error error => .error (.command error)
  | .ok text =>
      if cancelled then .error .cancelled
      else
        match spawn host interpreter script text with
        | .error cause => .error (.spawn interpreter.program cause)
        | .ok (host, machine) =>
            .ok (host, ⟨name, interpreter.limit, machine, .watching .start, 0⟩)

/-- What is noted when a call begins. -/
def beginRemarks (interpreter : Interpreter) (script : Path) (name : String) (cancelled : Bool) :
    Journal :=
  match command script name with
  | .ok text =>
      if cancelled then []
      else
        [⟨.debug, topic, "Running '" ++ interpreter.program ++ "' with command: " ++ text⟩]
  | .error _ => []

namespace Run

/-- The events of a slice that ends at a time, in the order in which the watcher learns of them. -/
def events (run : Run) (stopAsked : Bool) (time : Nat) : List Event :=
  let stops := if stopAsked then [Event.stopAsked] else []
  let exits := run.machine.ending.toList.map fun exit => Event.exited (.seen exit)
  let outputs :=
    if run.machine.holds .output then [] else [Event.outputEnded (.seen run.machine.outputText)]
  let errors :=
    if run.machine.holds .errors then [] else [Event.errorsEnded (.seen run.machine.errorText)]
  let polls := if time % pollInterval == 0 then [Event.poll time] else []
  stops ++ exits ++ outputs ++ errors ++ polls

/-- The run one slice later, before its watcher has learned of anything. -/
def goOn (host : Host) (run : Run) : Host × Run :=
  let time := run.time + slice
  let (host, machine) := Machine.runWithin stepsInSlice time host run.machine
  (host, { run with machine, time })

/-- Whether the interpreter has to be killed, since the run was stopped before it exited. -/
def isKilled (run : Run) : Bool :=
  match run.progress with
  | .stopped _ => run.machine.ending.isNone
  | _ => false

/-- The run with its interpreter killed if it has to be. -/
def terminate (run : Run) : Run :=
  if run.isKilled then { run with machine := run.machine.killed } else run

/-- The run after its watcher has learned of events. -/
def follow (run : Run) (events : List Event) : Run :=
  { run with progress := run.progress.follow run.limit events }

/-- Lets a run go on for one slice, at the end of which a stop is asked for or not. -/
def advance (host : Host) (stopAsked : Bool) (run : Run) : Host × Run :=
  match run.progress with
  | .watching _ =>
      let (host, run) := run.goOn host
      (host, (run.follow (run.events stopAsked run.time)).terminate)
  | _ => (host, run)

/-- The outcome of a run, once it is over. -/
def outcome? (run : Run) : Option Outcome := run.progress.outcome? run.function

/-- Whether a stop, which is asked for at some time if ever, is asked for by the end of the next
slice. -/
def hearsStop (stopAt : Option Nat) (run : Run) : Bool := stopAt.any (· ≤ run.time + slice)

/-- The run one slice later, or its outcome if it is over. -/
def turn (stopAt : Option Nat) (there : Host × Run) : (Host × Run) ⊕ (Host × Outcome) :=
  let (host, run) := there
  match run.outcome? with
  | some outcome => .inr (host, outcome)
  | none => .inl (run.advance host (run.hearsStop stopAt))

/-- Lets a run go on until it is over. Without a stop and a limit it may go on forever, and then
there is no outcome to speak of. -/
def finish (stopAt : Option Nat) (host : Host) (run : Run) : Host × Outcome :=
  Id.run (repeatM (fun there => pure (turn stopAt there)) (host, run))

end Run

/-- Calls a function of a script and waits for the outcome. The call may have been cancelled before
it began, or a stop may be asked for some time after. -/
def invoke (host : Host) (interpreter : Interpreter) (script : Path) (name : String)
    (cancelled : Bool) (stopAt : Option Nat) : Host × Outcome :=
  match Run.begin host interpreter script name cancelled with
  | .ok (host, run) => run.finish stopAt host
  | .error failure => (host, .unfinished name failure)

/-- What is noted when a call has ended. -/
def endRemarks (outcome : Outcome) (took : Duration) : Journal :=
  let status :=
    match outcome.status with
    | .succeeded => "Succeeded"
    | .failed => "Failed"
  [⟨.debug, topic, "'" ++ outcome.function ++ "' finished in " ++ took.shown ++ " (" ++ status
    ++ ")"⟩]

end ScriptRoster.Invocation
