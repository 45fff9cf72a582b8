import Mathlib.Data.List.Induction
import ScriptRoster.Proofs.Invocation.Beginning
import ScriptRoster.Proofs.Session.Promises

/-!
# Only listed functions are called

A call looks at the session once: it takes the script and the first name of the list that is the
same as what was asked for. Whatever happens between that look and the next step of the call, an
interpreter is started with what was seen then, or nothing is started and the call is answered as
failed.
-/

namespace ScriptRoster

open Cache Files Invocation

/-- A name is the first of a list that is the same as another. -/
def Name.IsFirst (names : List String) (asked name : String) : Prop :=
  ∃ sooner later, names = sooner ++ name :: later ∧ Name.same name asked = true ∧
    ∀ other ∈ sooner, Name.same other asked = false

/-- A lookup finds the first of the listed names that is the same but for case. -/
theorem Session.listed?_eq_some_iff {session : Session} {asked name : String} :
    session.listed? asked = some name ↔ Name.IsFirst session.names asked name := by
  simp only [listed?, List.find?_eq_some_iff_append, Name.IsFirst, Bool.not_eq_true']
  constructor
  · rintro ⟨same, sooner, later, split, others⟩
    exact ⟨sooner, later, split, same, others⟩
  · rintro ⟨sooner, later, split, same, others⟩
    exact ⟨same, sooner, later, split, others⟩

section Steps

variable {scene there : Scene} {request : Request} {stage next : Stage} {path : Path}
  {name : String} {run : Run}

/-! ## The steps of a call -/

end Steps

/-! ## The run of a call -/

namespace Traffic

/-- What a session that was started has come to. -/
def since (profile : Profile) (world : World) (events : List Event) : Traffic :=
  events.foldl next (quiet ⟨.start profile, world⟩)

/-- The answer of a task. -/
def answer? (traffic : Traffic) (index : Nat) : Option Answer :=
  traffic.tasks[index]?.bind Task.answer?

variable {profile : Profile} {world : World} {events later : List Event} {index : Nat} {task : Task}
  {path : Path} {name : String}

end Traffic

/-! ## Every call -/

/-- A host without a script, where one program can be started. -/
def Host.withProgram : Host where
  files := ⟨[([[0x69]], .program "sh")]⟩
  cwd := []
  environment := []
  now := 0

/-- A profile whose interpreter is that program. -/
def Profile.calling : Profile :=
  { Profile.ofSettings .defaults with interpreter := ⟨"/i", ["-c"], none⟩ }

theorem Invocation.Run.begin_withProgram :
    ∃ host run, Run.begin .withProgram Profile.calling.interpreter onlyScript "A" false =
      .ok (host, run) := by
  have composed : command onlyScript "A" = .ok ". '/s'; A" := by decide +kernel
  have inside : workingDirectory .withProgram onlyScript = [] := workingDirectory_of_root (by decide)
  have top : (Path.ofString "/i").IsTop [0x69] := by constructor <;> decide +kernel
  have found : Host.withProgram.program [] "/i" = .ok "sh" :=
    Host.program_of_isTop (by decide) top rfl
  exact ⟨_, _, begin_of_program composed (by decide +kernel) (inside ▸ found)⟩

end ScriptRoster
