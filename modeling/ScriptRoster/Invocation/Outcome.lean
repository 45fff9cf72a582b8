import ScriptRoster.Invocation.Command
import ScriptRoster.Files.Tree
import ScriptRoster.Text.Blank
import ScriptRoster.Text.Duration

/-!
# Outcomes

What comes of calling a function: the text it wrote, the code its interpreter ended with, and, if
it failed, why. Whatever stands on the error stream makes a failure, also beside an exit code of
zero.
-/

namespace ScriptRoster.Invocation

open Text Files

/-- How a process ends. -/
inductive Exit where
  | code (n : Nat)
  | signal (n : Nat)
  deriving DecidableEq, Repr

/-- The code a process exited with; one that a signal ended has none. -/
def Exit.code? : Exit → Option Nat
  | .code n => some n
  | .signal _ => none

/-- What a process that ran to its end leaves behind. -/
structure Captured where
  exit : Exit
  output : Bytes
  errors : Bytes
  deriving DecidableEq, Repr

/-- Why a function did not succeed. -/
inductive Failure where
  | notConfigured
  | unknownFunction (name : String)
  | command (error : CommandError)
  | spawn (program : String) (cause : FileError)
  /-- The process could not be waited for, or one of its streams could not be read. -/
  | unobserved (reason : String)
  | errorStream (text : String)
  | exitCode (n : Nat)
  | terminated
  | timedOut (limit : Duration)
  | cancelled
  deriving DecidableEq, Repr

/-- What is said where no script is there to work on. -/
def notConfiguredText : String :=
  "No script is configured. Set 'script_path' or pass --script."

def Failure.message : Failure → String
  | .notConfigured => notConfiguredText
  | .unknownFunction name => "'" ++ name ++ "' is not a function of the current script."
  | .command error => error.message
  | .spawn program cause => "Could not start '" ++ program ++ "': " ++ cause.message
  | .unobserved reason => "I/O error while waiting for the interpreter: " ++ reason
  | .errorStream text => text
  | .exitCode n => "The interpreter exited with code " ++ toString n ++ "."
  | .terminated => "The interpreter was terminated before it could exit."
  | .timedOut limit => "Timed out after " ++ limit.shown ++ "."
  | .cancelled => "Operation was cancelled by the user."

/-- Whether a call succeeded. -/
inductive Status where
  | succeeded
  | failed
  deriving DecidableEq, Repr, Inhabited

/-- What comes of a call. -/
structure Outcome where
  function : String
  status : Status
  output : String
  failure : Option Failure
  exitCode : Option Nat
  deriving DecidableEq, Repr, Inhabited

namespace Outcome

/-- The outcome of a call that succeeded. -/
def succeeded (function output : String) (exitCode : Option Nat) : Outcome :=
  ⟨function, .succeeded, output, none, exitCode⟩

/-- The outcome of a call that failed. -/
def failed (function : String) (failure : Failure) (output : String) (exitCode : Option Nat) :
    Outcome :=
  ⟨function, .failed, output, some failure, exitCode⟩

/-- The outcome of a call whose interpreter did not run to its end. -/
def unfinished (function : String) (failure : Failure) : Outcome :=
  failed function failure "" none

/-- The outcome of a call whose interpreter ran to its end. -/
def ofCaptured (function : String) (captured : Captured) : Outcome :=
  let output := trimEnd (decodeLossy captured.output)
  let errors := trim (decodeLossy captured.errors)
  let code := captured.exit.code?
  if errors ≠ "" then failed function (.errorStream errors) output code
  else
    match captured.exit with
    | .code 0 => succeeded function output code
    | .code n => failed function (.exitCode n) output code
    | .signal _ => failed function .terminated output code

end Outcome

end ScriptRoster.Invocation
