import ScriptRoster.Host
import ScriptRoster.Invocation.Watch
import ScriptRoster.Shell.Job
import ScriptRoster.Shell.Program

/-!
# Machines

A machine is a process with its background jobs. It runs in steps, each of which takes a moment,
so a machine that is let run up to some time does only a bounded number of them.
-/

namespace ScriptRoster.Shell

open Text Files Invocation

/-- What the jobs of a process share: the host, what was written to its streams and pipes, the
last first. -/
structure Board where
  host : Host
  output : List Bytes
  errors : List Bytes
  pipes : List (Nat × List Bytes)
  nextPipe : Nat

namespace Board

/-- Writes bytes to a sink. -/
def emit (board : Board) (sink : Sink) (bytes : Bytes) : Board :=
  if bytes.isEmpty then board
  else
    match sink with
    | .output => { board with output := bytes :: board.output }
    | .errors => { board with errors := bytes :: board.errors }
    | .pipe id =>
        { board with
          pipes := board.pipes.map fun entry =>
            if entry.1 == id then (id, bytes :: entry.2) else entry }
    | .file place =>
        match board.host.files.at? place with
        | some (.file content _) =>
            { board with
              host := { board.host with
                files := board.host.files.put place (.file (content ++ bytes) board.host.now) } }
        | _ => board

/-- Chunks, the last first, as one sequence. -/
def joined (chunks : List Bytes) : Bytes := chunks.reverse.flatten

/-- Opens a pipe. -/
def openPipe (board : Board) : Nat × Board :=
  let id := board.nextPipe
  (id, { board with pipes := (id, []) :: board.pipes, nextPipe := id + 1 })

/-- Takes all that a pipe holds. -/
def drain (board : Board) (id : Nat) : Bytes × Board :=
  (joined ((board.pipes.lookup id).getD []),
    { board with pipes := board.pipes.filter (·.1 != id) })

end Board

/-- What a step leaves behind: the board, the job unless it has ended, and a job that it sent to
the background. -/
structure Stepped where
  board : Board
  job : Job
  sent : Option Job
  ending : Option Exit

namespace Stepped

/-- The job goes on. -/
def goesOn (board : Board) (job : Job) : Stepped := ⟨board, job, none, none⟩

end Stepped

namespace Job

/-- The beginning of a shell's complaint about a line. -/
def complaint (job : Job) (line : Nat) (text : String) : Bytes :=
  encode (job.frame.zero ++ ": " ++ toString line ++ ": " ++ text ++ "\n")

/-- A command goes wrong, which the shell complains about. -/
def fails (board : Board) (job : Job) (line : Nat) (text : String) (status : Nat) : Stepped :=
  .goesOn (board.emit job.frame.streams.errors (job.complaint line text)) (job.answered status)

/-- Makes one redirection. -/
def redirect (board : Board) (job : Job) (streams : Streams) (found : Redirect) :
    Except String (Board × Streams) :=
  let name := job.wordText found.target
  let path := Path.ofString name
  let turned (sink : Sink) : Streams :=
    if found.stream == 2 then { streams with errors := sink } else { streams with output := sink }
  let openFile (content : Bytes) : Except String (Board × Streams) :=
    match board.host.files.write job.frame.cwd path content board.host.now with
    | .ok files =>
        let board := { board with host := { board.host with files } }
        match files.find job.frame.cwd path with
        | .ok (place, _) => .ok (board, turned (.file place))
        | .error _ => .ok (board, streams)
    | .error .isDirectory => .error ("cannot create " ++ name ++ ": Is a directory")
    | .error _ => .error ("cannot create " ++ name ++ ": Directory nonexistent")
  match found.kind with
  | .readFrom =>
      match board.host.files.read job.frame.cwd path with
      | .ok content => .ok (board, { streams with input := content })
      | .error _ => .error ("cannot open " ++ name ++ ": No such file")
  | .writeTo => openFile []
  | .appendTo =>
      openFile ((board.host.files.read job.frame.cwd path).toOption.getD [])
  | .sameAs =>
      match name with
      | "1" => .ok (board, turned streams.output)
      | "2" => .ok (board, turned streams.errors)
      | _ => .ok (board, streams)

/-- Makes redirections, one after the other. -/
def redirectAll (board : Board) (job : Job) (streams : Streams) :
    List Redirect → Except String (Board × Streams)
  | [] => .ok (board, streams)
  | found :: rest => do
      let (board, streams) ← redirect board job streams found
      redirectAll board job streams rest

/-- The job with other streams until the tasks at hand are done. Nothing is put back where no task
follows. -/
def lend (job : Job) (streams : Streams) (tasks : List Task) : Job :=
  let back := if job.tasks.isEmpty then [] else [Task.restore job.frame.streams]
  (job.before (tasks ++ back)).withStreams streams

/-- Runs something in a shell of its own. -/
def inside (job : Job) (frame : Frame) (tasks : List Task) : Job :=
  { job.before (tasks ++ [.leave job.frame]) with frame }

/-- Takes over what a program did. -/
def take (board : Board) (job : Job) (effect : Effect) : Stepped :=
  let board := board.emit job.frame.streams.output effect.output
  let board := board.emit job.frame.streams.errors effect.errors
  .goesOn board { job with status := effect.status, wake := job.wake + effect.delay }

/-- The number of a signal by its name. -/
def signal? (name : String) : Option Nat :=
  match name with
  | "HUP" => some 1
  | "INT" => some 2
  | "QUIT" => some 3
  | "ABRT" => some 6
  | "KILL" => some 9
  | "TERM" => some 15
  | _ => name.toNat?

/-- Sends a signal. One that the process gets ends it. -/
def kill (board : Board) (job : Job) (line : Nat) (arguments : List String) : Stepped :=
  let (name, targets) :=
    match arguments with
    | "-s" :: name :: targets => (name, targets)
    | first :: targets =>
        match first.toList with
        | '-' :: name => (String.ofList name, targets)
        | _ => ("TERM", arguments)
    | [] => ("TERM", [])
  match signal? name with
  | none => fails board job line ("kill: invalid signal number or name: " ++ name) 2
  | some number =>
      if targets.contains processNumber then
        if number == 0 then .goesOn board (job.answered 0)
        else ⟨board, job.answered (128 + number), none, some (.signal number)⟩
      else fails board job line "kill: No such process" 1

/-- Starts a shell for a script. -/
def runScript (board : Board) (job : Job) (script zero : String) (arguments : List String) :
    Stepped :=
  let frame := { job.frame with zero, arguments }
  match Command.ofText? script with
  | some command => .goesOn board (job.inside frame [.run command])
  | none =>
      let inner := { job with frame }
      .goesOn (board.emit job.frame.streams.errors (inner.complaint 1 "Syntax error"))
        (job.answered 2)

/-- Runs a program. -/
def runProgram (board : Board) (job : Job) (name : String) (arguments : List String) : Stepped :=
  if name == "sh" then
    match arguments with
    | "-c" :: script :: zero :: rest => runScript board job script zero rest
    | ["-c", script] => runScript board job script "sh" []
    | ["-c"] =>
        take board job (.complains "sh: 0: -c requires an argument\n" 2)
    | file :: rest =>
        match board.host.files.read job.frame.cwd (.ofString file) with
        | .ok content => runScript board job (decodeLossy content) file rest
        | .error _ =>
            take board job (.complains ("sh: 0: cannot open " ++ file ++ ": No such file\n") 2)
    | [] => runScript board job (decodeLossy job.frame.streams.input) "sh" []
  else
    let effect :=
      Program.run name arguments board.host.files job.frame.cwd job.frame.streams.input
    let job := if name == "cat" || name == "wc" || name == "tr" then
        job.withStreams { job.frame.streams with input := [] }
      else job
    take board job effect

/-- Looks for a program and runs it. -/
def runNamed (board : Board) (job : Job) (line : Nat) (label name : String)
    (arguments : List String) : Stepped :=
  match board.host.program job.frame.cwd name with
  | .ok found => runProgram board job found arguments
  | .error .denied => fails board job line (label ++ name ++ ": Permission denied") 126
  | .error _ => fails board job line (label ++ name ++ ": not found") 127

/-- Runs the script in a file, in the shell itself. -/
def source (board : Board) (job : Job) (line : Nat) (name : String) : Stepped :=
  match board.host.files.read job.frame.cwd (.ofString name) with
  | .ok content =>
      match Command.ofText? (decodeLossy content) with
      | some command => .goesOn board (job.before [.run command])
      | none => fails board (job.before [.quit]) line "Syntax error" 2
  | .error _ =>
      fails board (job.before [.quit]) line (".: cannot open " ++ name ++ ": No such file") 2

/-- Gives a variable the value that a text such as `name=value` says, if it says one. -/
def assignText (job : Job) (text : String) : Job :=
  let name := text.toList.takeWhile (· != '=')
  match text.toList.drop name.length with
  | '=' :: value => job.assign (String.ofList name) (String.ofList value)
  | _ => job

/-- Takes the value of a variable away. -/
def forget (job : Job) (name : String) : Job :=
  { job with
    frame := { job.frame with
      environment := job.frame.environment.filter (·.1 != name) } }

/-- Gives the words of a line to variables, and the last one all that is left. -/
def assignWords (job : Job) (text : List Char) : List String → Job
  | [] => job
  | [name] =>
      let value := ((text.dropWhile Arithmetic.isBlank).reverse.dropWhile Arithmetic.isBlank)
      job.assign name (String.ofList value.reverse)
  | name :: rest =>
      let text := text.dropWhile Arithmetic.isBlank
      let word := text.takeWhile fun c => !Arithmetic.isBlank c
      assignWords (job.assign name (String.ofList word)) (text.drop word.length) rest

/-- Reads a line of the input into variables. -/
def readLine (job : Job) (names : List String) : Job :=
  let input := job.frame.streams.input
  let line := input.takeWhile (· != 10)
  let rest := input.drop line.length
  let job := job.withStreams { job.frame.streams with input := rest.drop 1 }
  let job := job.assignWords (decodeLossy line).toList (names.filter (· != "-r"))
  job.answered (if rest.isEmpty then 1 else 0)

/-- Runs the command that a list of words names. -/
def runWords (board : Board) (job : Job) (line : Nat) : List String → Stepped
  | [] => .goesOn board job
  | name :: arguments =>
      if let some body := job.frame.functions.lookup name then
        let tasks := [Task.run body, .giveBack job.frame.arguments]
        .goesOn board ((job.withArguments arguments).before tasks)
      else match name with
      | ":" => .goesOn board (job.answered 0)
      | "true" => .goesOn board (job.answered 0)
      | "false" => .goesOn board (job.answered 1)
      | "exit" =>
          let status :=
            match arguments.head? with
            | some text => (text.toNat?.getD 2) % 256
            | none => job.status
          .goesOn board ((job.answered status).before [.quit])
      | "exec" =>
          match arguments with
          | [] => .goesOn board (job.answered 0)
          | name :: arguments =>
              runNamed board (job.before [.quit]) line "exec: " name arguments
      | "printf" =>
          match arguments with
          | [] => fails board job line "printf: usage: printf format [arg ...]" 2
          | format :: values => take board job (.writes (Printed.formatted format values))
      | "echo" => take board job (.writes (Printed.shellLine arguments))
      | "pwd" => take board job (.writes ((Path.ofPlace job.frame.cwd).bytes ++ [10]))
      | "cd" =>
          let target := arguments.head?.getD (job.parameter "HOME")
          match board.host.files.find job.frame.cwd (.ofString target) with
          | .ok (cwd, .directory) =>
              .goesOn board { job with frame := { job.frame with cwd }, status := 0 }
          | _ => fails board job line ("cd: can't cd to " ++ target) 2
      | "test" =>
          match Program.condition board.host.files job.frame.cwd arguments with
          | some holds => .goesOn board (job.answered (if holds then 0 else 1))
          | none => fails board job line "test: unexpected operator" 2
      | "[" =>
          match Program.condition board.host.files job.frame.cwd arguments.dropLast with
          | some holds => .goesOn board (job.answered (if holds then 0 else 1))
          | none => fails board job line "[: unexpected operator" 2
      | "kill" => kill board job line arguments
      | "shift" =>
          let n := (arguments.head?.bind String.toNat?).getD 1
          if job.frame.arguments.length < n then
            fails board (job.before [.quit]) line "shift: can't shift that many" 2
          else
            .goesOn board ((job.withArguments (job.frame.arguments.drop n)).answered 0)
      | "set" =>
          match arguments with
          | "--" :: values => .goesOn board ((job.withArguments values).answered 0)
          | _ => .goesOn board (job.answered 0)
      | "export" => .goesOn board ((arguments.foldl assignText job).answered 0)
      | "unset" => .goesOn board ((arguments.foldl forget job).answered 0)
      | "eval" =>
          match Command.ofText? (" ".intercalate arguments) with
          | some command => .goesOn board ((job.answered 0).before [.run command])
          | none => fails board (job.before [.quit]) line "Syntax error" 2
      | "read" => .goesOn board (readLine job arguments)
      | "break" => .goesOn board ((job.answered 0).endLoop false job.tasks)
      | "continue" => .goesOn board ((job.answered 0).endLoop true job.tasks)
      | "return" =>
          let status := (arguments.head?.bind String.toNat?).getD job.status
          .goesOn board ((job.answered (status % 256)).endCall job.tasks)
      | "." => source board job line (arguments.head?.getD "")
      | _ => runNamed board job line "" name arguments

/-- Runs a command without inner commands. -/
def runSimple (board : Board) (job : Job) (line : Nat) (assignments : List (String × Word))
    (words : List Word) (redirects : List Redirect) : Stepped :=
  let fields := words.flatMap job.fields
  match redirectAll board job job.frame.streams redirects with
  | .error text => fails board job line text 2
  | .ok (board, streams) =>
      let assigned := assignments.foldl
        (fun job found => job.assign found.1 (job.wordText found.2)) job
      match fields with
      | [] =>
          let status := (Command.simple line assignments words redirects).status?
          .goesOn board (assigned.answered (status.getD 0))
      | ["exec"] => .goesOn board ((job.withStreams streams).answered 0)
      | _ =>
          let job := if redirects.isEmpty then assigned else assigned.lend streams []
          runWords board job line fields

/-- Begins a command that waits for no output of a script. -/
def runFilled (board : Board) (job : Job) : Command → Stepped
  | .skip => .goesOn board job
  | .simple line assignments words redirects =>
      runSimple board job line assignments words redirects
  | .redirected line body redirects =>
      match redirectAll board job job.frame.streams redirects with
      | .error text => fails board job line text 2
      | .ok (board, streams) => .goesOn board (job.lend streams [.run body])
  | .seq first second => .goesOn board (job.before [.run first, .run second])
  | .both first second => .goesOn board (job.before [.run first, .onSuccess true second])
  | .either first second => .goesOn board (job.before [.run first, .onSuccess false second])
  | .negate body => .goesOn board (job.before [.run body, .negate])
  | .pipe first second =>
      let (id, board) := board.openPipe
      .goesOn board ((job.before [.feed id second]).inside (job.frame.writingTo id) [.run first])
  | .background body =>
      let frame := { job.frame with streams := { job.frame.streams with input := [] } }
      let sent := { job with frame, tasks := [.run body], isMain := false }
      ⟨board, job.answered 0, some sent, none⟩
  | .subshell body => .goesOn board (job.inside job.frame [.run body])
  | .choose test yes no => .goesOn board (job.before [.run test, .branch yes no])
  | .again negated test body =>
      .goesOn board (job.before [.run test, .tested negated test body])
  | .each name words body =>
      .goesOn board ((job.answered 0).before [.each name (words.flatMap job.fields) body])
  | .select subject branches =>
      let text := (job.wordText subject).toList
      let chosen := branches.find? fun branch =>
        branch.1.any fun pattern => (job.wordPattern pattern).covers text
      match chosen with
      | some (_, .skip) => .goesOn board (job.answered 0)
      | some (_, body) => .goesOn board (job.before [.run body])
      | none => .goesOn board (job.answered 0)
  | .define name body =>
      let functions := (name, body) :: job.frame.functions
      .goesOn board { job with frame := { job.frame with functions }, status := 0 }

/-- Begins a command, or the first script whose output it waits for. -/
def runCommand (board : Board) (job : Job) (command : Command) : Stepped :=
  match command.script? with
  | none => runFilled board job command
  | some script =>
      match Command.ofText? (String.ofList script) with
      | some inner =>
          let (id, board) := board.openPipe
          let filled := job.before [.fill id job.status command]
          .goesOn board (filled.inside (job.frame.writingTo id) [.run inner])
      | none => fails board (job.before [.quit]) 1 "Syntax error" 2

/-- Does the first thing there is to do. -/
def step (board : Board) (job : Job) : Stepped :=
  match job.tasks with
  | [] => ⟨board, job, none, some (.code job.status)⟩
  | task :: rest =>
      let job := { job with tasks := rest }
      match task with
      | .run command => runCommand board job command
      | .onSuccess expected command =>
          if (job.status == 0) == expected then .goesOn board (job.before [.run command])
          else .goesOn board job
      | .negate => .goesOn board (job.answered (if job.status == 0 then 1 else 0))
      | .branch yes no =>
          let chosen := if job.status == 0 then yes else no
          .goesOn board ((job.answered 0).before [.run chosen])
      | .tested negated test body =>
          if (job.status == 0) != negated then
            .goesOn board (job.before [.run body, .repeated negated test body])
          else .goesOn board (job.answered 0)
      | .repeated negated test body => runCommand board job (.again negated test body)
      | .giveBack arguments => .goesOn board (job.withArguments arguments)
      | .each name values body =>
          match values with
          | [] => .goesOn board job
          | value :: values =>
              .goesOn board
                ((job.assign name value).before [.run body, .each name values body])
      | .restore streams => .goesOn board (job.withStreams streams)
      | .leave frame => .goesOn board { job with frame }
      | .feed pipe command =>
          let (input, board) := board.drain pipe
          let frame := { job.frame with streams := { job.frame.streams with input } }
          .goesOn board (job.inside frame [.run command])
      | .fill pipe status command =>
          let (output, board) := board.drain pipe
          let output := (output.filter (· != 0)).reverse.dropWhile (· == 10)
          let command := command.fill (decodeLossy output.reverse).toList job.status
          .goesOn board ((job.answered status).before [.run command])
      | .quit => .goesOn board (job.unwind job.tasks)

end Job

/-- A process: its jobs, what they wrote, and how it ended. -/
structure Machine where
  jobs : List Job
  output : List Bytes
  errors : List Bytes
  pipes : List (Nat × List Bytes)
  nextPipe : Nat
  ending : Option Exit

namespace Machine

/-- The nanoseconds that a step takes. -/
def stepTime : Nat := 1000

/-- A process that runs a program. -/
def start (host : Host) (cwd : Place) (program : String) (arguments : List String) :
    Host × Machine :=
  let frame : Frame :=
    { cwd, zero := program, arguments := [], environment := host.environment, functions := []
      streams := ⟨[], .output, .errors⟩ }
  let job : Job := ⟨frame, 0, [], 0, true⟩
  let stepped := Job.runProgram ⟨host, [], [], [], 0⟩ job program arguments
  (stepped.board.host,
    ⟨[stepped.job], stepped.board.output, stepped.board.errors, stepped.board.pipes,
      stepped.board.nextPipe, none⟩)

/-- The job that is the next to go on, and the others. -/
def next? : List Job → Option (Job × List Job)
  | [] => none
  | job :: rest =>
      match next? rest with
      | some (other, others) =>
          if other.wake < job.wake then some (other, job :: others) else some (job, rest)
      | none => some (job, rest)

/-- Lets the next job go on. -/
def step (host : Host) (machine : Machine) (job : Job) (others : List Job) : Host × Machine :=
  let board : Board :=
    ⟨host, machine.output, machine.errors, machine.pipes, machine.nextPipe⟩
  let stepped := job.step board
  let job := { stepped.job with wake := stepped.job.wake + stepTime }
  let sent := stepped.sent.toList.map fun sent => { sent with wake := job.wake }
  let jobs := if stepped.ending.isSome then others else others ++ [job]
  let ending :=
    match stepped.ending with
    | some (.signal n) => some (.signal n)
    | some exit => if job.isMain then some exit else machine.ending
    | none => machine.ending
  let jobs :=
    match stepped.ending with
    | some (.signal _) => jobs.filter fun job => !job.isMain
    | _ => jobs
  (stepped.board.host,
    { jobs := jobs ++ sent, output := stepped.board.output, errors := stepped.board.errors,
      pipes := stepped.board.pipes, nextPipe := stepped.board.nextPipe, ending })

/-- Lets a machine run for at most `fuel` steps and as long as a job has to go on before a time. -/
def runWithin : Nat → Nat → Host → Machine → Host × Machine
  | 0, _, host, machine => (host, machine)
  | fuel + 1, time, host, machine =>
      match next? machine.jobs with
      | some (job, others) =>
          if job.wake < time then
            let (host, machine) := machine.step host job others
            runWithin fuel time host machine
          else (host, machine)
      | none => (host, machine)

/-- Whether a stream is still open. -/
def holds (machine : Machine) (sink : Sink) : Bool := machine.jobs.any fun job => job.holds sink

/-- All that was written to the output. -/
def outputText (machine : Machine) : Bytes := Board.joined machine.output

/-- All that was written to the error stream. -/
def errorText (machine : Machine) : Bytes := Board.joined machine.errors

/-- The machine without its main job, as after a signal that no process survives. -/
def killed (machine : Machine) : Machine :=
  { machine with jobs := machine.jobs.filter fun job => !job.isMain, ending := some (.signal 9) }

end Machine

end ScriptRoster.Shell
