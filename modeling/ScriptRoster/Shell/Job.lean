import ScriptRoster.Shell.Command
import ScriptRoster.Files.Tree

/-!
# Jobs

A job is a shell, or a copy of one in the background, with what it still has to do. Words are
expanded by the values that a job has for parameters.
-/

namespace ScriptRoster.Shell

open Text Files

/-- Where what a command writes goes: to a stream of the whole process, through a pipe, or to a
file. -/
inductive Sink where
  | output
  | errors
  | pipe (id : Nat)
  | file (place : Place)
  deriving DecidableEq, Repr

/-- The streams of a command; what it can read is there as a whole. -/
structure Streams where
  input : Bytes
  output : Sink
  errors : Sink
  deriving Repr

/-- What a shell inside another one does not hand back. -/
structure Frame where
  cwd : Place
  zero : String
  arguments : List String
  environment : List (String × String)
  /-- The commands that were given names. -/
  functions : List (String × Command)
  streams : Streams
  deriving Repr

/-- The frame where what is written goes through a pipe. -/
def Frame.writingTo (frame : Frame) (pipe : Nat) : Frame :=
  { frame with streams := { frame.streams with output := .pipe pipe } }

/-- One thing that a job still has to do. -/
inductive Task where
  | run (command : Command)
  /-- Runs the command if the status is that of success, or of failure. -/
  | onSuccess (expected : Bool) (command : Command)
  | negate
  | branch (yes no : Command)
  /-- Runs the body and the test again if the test allows it. -/
  | tested (negated : Bool) (test body : Command)
  /-- Goes on with a loop whose body has ended. -/
  | repeated (negated : Bool) (test body : Command)
  | each (name : String) (values : List String) (body : Command)
  | restore (streams : Streams)
  /-- Gives back the arguments from before a call. -/
  | giveBack (arguments : List String)
  | leave (frame : Frame)
  /-- Runs the command on what the pipe holds. -/
  | feed (pipe : Nat) (command : Command)
  /-- Runs the command with what the pipe holds as the output of a script that it waited for. The
  status before the script counts again. -/
  | fill (pipe : Nat) (status : Nat) (command : Command)
  /-- Ends the innermost shell. -/
  | quit
  deriving Repr

/-- A job; it goes on when its time has come. -/
structure Job where
  frame : Frame
  status : Nat
  tasks : List Task
  wake : Nat
  /-- Whether the process ends when this job does. -/
  isMain : Bool
  deriving Repr

namespace Job

/-- The number of the process. -/
def processNumber : String := "4711"

/-- The arguments as one text. -/
def allArguments (job : Job) : String := " ".intercalate job.frame.arguments

/-- The value of a parameter, if it has one. -/
def parameter? (job : Job) (name : String) : Option String :=
  match name with
  | "@" | "*" => if job.frame.arguments.isEmpty then none else some job.allArguments
  | "#" => some (toString job.frame.arguments.length)
  | "?" => some (toString job.status)
  | "$" => some processNumber
  | "0" => some job.frame.zero
  | _ =>
      match name.toNat? with
      | some n => job.frame.arguments[n - 1]?
      | none => job.frame.environment.lookup name

/-- The value of a parameter, empty if it has none. -/
def parameter (job : Job) (name : String) : String := (job.parameter? name).getD ""

/-- The value of an expression as text. -/
def computed (job : Job) (expression : String) : String :=
  match Arithmetic.ofChars? expression.toList with
  | some e => toString (e.eval fun name => ((job.parameter name).toInt?).getD 0)
  | none => ""

/-- The value of a parameter after an edit by a second word. -/
def edited (job : Job) (name : String) (edit : Edit) (operand : String) (pattern : Pattern) :
    String :=
  let found := job.parameter? name
  let value := found.getD ""
  match edit with
  | .keep => value
  | .length =>
      if name == "@" || name == "*" then toString job.frame.arguments.length
      else toString value.utf8ByteSize
  | .dropFront longest => String.ofList (pattern.dropFront longest value.toList)
  | .dropBack longest => String.ofList (pattern.dropBack longest value.toList)
  | .fallback orEmpty =>
      if found.isNone || (orEmpty && value.isEmpty) then operand else value
  | .instead orEmpty =>
      if found.isNone || (orEmpty && value.isEmpty) then "" else operand

mutual

/-- The text of a part. -/
def partText (job : Job) : Part → String
  | .text chars _ => String.ofList chars
  | .value name edit operand _ =>
      job.edited name edit (wordText job operand) (wordPattern job operand)
  | .result expression _ => job.computed (wordText job expression)
  | .output .. => ""
  | .written chars .. => String.ofList chars

/-- The text of a word that is not split. -/
def wordText (job : Job) : List Part → String
  | [] => ""
  | part :: rest => partText job part ++ wordText job rest

/-- The pattern of a word: what is quoted stands for itself. -/
def wordPattern (job : Job) : List Part → Pattern
  | [] => []
  | part :: rest =>
      let text := (partText job part).toList
      (if part.quoted then Pattern.literal text else Pattern.ofChars text)
        ++ wordPattern job rest

end

/-- Fields that are complete, the last first, and the one that is not, if there is one. -/
structure Fields where
  complete : List String
  current : Option String

namespace Fields

/-- Adds to the current field, or begins one. -/
def add (fields : Fields) (text : String) : Fields :=
  { fields with current := some (fields.current.getD "" ++ text) }

/-- Completes the current field. -/
def close (fields : Fields) : Fields :=
  match fields.current with
  | some text => ⟨text :: fields.complete, none⟩
  | none => fields

/-- Adds a text that is split at blanks. -/
def addSplit (fields : Fields) (text : List Char) : Fields :=
  text.foldl (fun fields c =>
    if Arithmetic.isBlank c then fields.close else fields.add (String.singleton c)) fields

/-- Adds several texts, each in a field of its own. -/
def addAll (fields : Fields) : List String → Fields
  | [] => fields
  | [last] => fields.add last
  | text :: rest => addAll (fields.add text).close rest

def toList (fields : Fields) : List String := fields.close.complete.reverse

end Fields

/-- The fields after one more part of a word. -/
def addPart (job : Job) (fields : Fields) : Part → Fields
  | .text chars _ => fields.add (String.ofList chars)
  | .value "@" .keep _ true => fields.addAll job.frame.arguments
  | .result expression _ => fields.add (job.computed (job.wordText expression))
  | part =>
      if part.quoted then fields.add (job.partText part)
      else fields.addSplit (job.partText part).toList

/-- The texts that a word expands to. -/
def fields (job : Job) (word : Word) : List String :=
  (word.foldl job.addPart ⟨[], none⟩).toList

/-- The job with a value for a variable. -/
def assign (job : Job) (name value : String) : Job :=
  { job with
    frame := { job.frame with
      environment := (name, value) :: job.frame.environment.filter (·.1 != name) } }

/-- The job with the status of its last command. -/
def answered (job : Job) (status : Nat) : Job := { job with status }

/-- The job with tasks that come before all others. -/
def before (job : Job) (tasks : List Task) : Job := { job with tasks := tasks ++ job.tasks }

/-- The job with other streams. -/
def withStreams (job : Job) (streams : Streams) : Job :=
  { job with frame := { job.frame with streams } }

/-- Ends the innermost shell: what is left to do there is dropped. -/
def unwind (job : Job) : List Task → Job
  | [] => { job with tasks := [] }
  | .leave frame :: rest => { job with frame, tasks := rest }
  | _ :: rest => unwind job rest

/-- The job with other arguments. -/
def withArguments (job : Job) (arguments : List String) : Job :=
  { job with frame := { job.frame with arguments } }

/-- Ends the innermost loop, or only the round that it is in. Outside of loops nothing ends. -/
def endLoop (onlyRound : Bool) (job : Job) : List Task → Job
  | [] => job
  | .leave frame :: rest => { job with tasks := .leave frame :: rest }
  | .giveBack arguments :: rest => { job with tasks := .giveBack arguments :: rest }
  | .repeated negated test body :: rest =>
      { job with tasks := if onlyRound then .repeated negated test body :: rest else rest }
  | .each name values body :: rest =>
      { job with tasks := if onlyRound then .each name values body :: rest else rest }
  | .restore streams :: rest => endLoop onlyRound (job.withStreams streams) rest
  | _ :: rest => endLoop onlyRound job rest

/-- Ends the innermost call, or else the innermost shell. -/
def endCall (job : Job) : List Task → Job
  | [] => { job with tasks := [] }
  | .leave frame :: rest => { job with frame, tasks := rest }
  | .giveBack arguments :: rest => { job.withArguments arguments with tasks := rest }
  | .restore streams :: rest => endCall (job.withStreams streams) rest
  | _ :: rest => endCall job rest

/-- Whether anything the job writes may still go to a sink. -/
def holds (job : Job) (sink : Sink) : Bool :=
  let uses (streams : Streams) : Bool := streams.output == sink || streams.errors == sink
  uses job.frame.streams || job.tasks.any fun task =>
    match task with
    | .restore streams => uses streams
    | .leave frame => uses frame.streams
    | _ => false

end Job

end ScriptRoster.Shell
