import ScriptRoster.Invocation.Run
import ScriptRoster.Proofs.Files.Top

/-!
# How calls begin

A call begins when its command can be composed, it has not been cancelled, and a program can be
started with the command. That program works where the script stands, and the command is the last
of its arguments. A call that does not begin tells why.
-/

namespace ScriptRoster

open Files Invocation

variable {host : Host} {interpreter : Interpreter} {script : Path} {name text program : String}
  {cancelled : Bool}

/-! ## What is started -/

/-- A file below the root that is a program is the one that its path denotes. -/
theorem Host.program_of_isTop {cwd : Place} {own : Text.Bytes} (slashed : '/' ∈ name.toList)
    (top : (Path.ofString name).IsTop own) (there : host.files.at? [own] = some (.program program)) :
    host.program cwd name = .ok program := by
  have named : name.isEmpty ≠ true := by
    intro empty
    rw [String.isEmpty_iff.mp empty] at slashed
    cases slashed
  rw [Host.program, if_neg named, String.contains_char_eq, if_pos (decide_eq_true slashed),
    Host.programAt, top.find_of_item there fun _ => Item.noConfusion]

namespace Invocation

/-- A script that stands below the root is called there. -/
theorem workingDirectory_of_root (below : script.parent? = some (.ofString "/")) :
    workingDirectory host script = [] := by
  simp only [workingDirectory, below, Path.find_root]

/-- A program that is found is started with the command behind the arguments of the settings. -/
theorem Run.begin_of_program (composed : command script name = .ok text)
    (whole : (interpreter.program :: (interpreter.arguments ++ [text])).any hasNul = false)
    (found : host.program (workingDirectory host script) interpreter.program = .ok program) :
    Run.begin host interpreter script name false =
      let started := Shell.Machine.start host (workingDirectory host script) program
        (interpreter.arguments ++ [text])
      .ok (started.1, ⟨name, interpreter.limit, started.2, .watching .start, 0⟩) := by
  have usable : ¬ (hasNul interpreter.program || (interpreter.arguments ++ [text]).any hasNul) = true :=
    Bool.eq_false_iff.mp whole
  simp only [Run.begin, composed, Bool.false_eq_true, ↓reduceIte, spawn, if_neg usable, found]
  rfl

/-! ## What a call that begins has done -/

/-- A command is composed of a path that is text and a plain name, which stands behind the literal
as it is. -/
theorem of_command (composed : command script name = .ok text) :
    Name.isPlain name = true ∧
      ∃ path, script.text? = some path ∧ text = ". '" ++ quoted path ++ "'; " ++ name := by
  unfold command at composed
  split at composed
  · next plain =>
      split at composed
      · next path there =>
          cases composed
          exact ⟨plain, path, there, rfl⟩
      · cases composed
  · cases composed

/-- A program is started with the command as its last argument. -/
theorem of_spawn {after : Host} {machine : Shell.Machine}
    (started : spawn host interpreter script text = .ok (after, machine)) :
    ∃ program, Shell.Machine.start host (workingDirectory host script) program
      (interpreter.arguments ++ [text]) = (after, machine) := by
  unfold spawn at started
  dsimp only at started
  split at started
  · cases started
  · cases found : host.program (workingDirectory host script) interpreter.program with
    | ok program =>
        rw [found] at started
        exact ⟨program, Except.ok.inj started⟩
    | error cause =>
        rw [found] at started
        cases started

/-- All that a call has done when it has begun. -/
theorem Run.exists_spawn_of_begin {after : Host} {run : Run}
    (begun : Run.begin host interpreter script name cancelled = .ok (after, run)) :
    cancelled = false ∧ ∃ text machine, command script name = .ok text ∧
      spawn host interpreter script text = .ok (after, machine) ∧
      run = ⟨name, interpreter.limit, machine, .watching .start, 0⟩ := by
  unfold Run.begin at begun
  split at begun
  · cases begun
  · next text composed =>
      split at begun
      · cases begun
      · next wanted =>
          split at begun
          · cases begun
          · next started =>
              cases begun
              exact ⟨Bool.eq_false_iff.mpr wanted, text, _, composed, started, rfl⟩

/-- An interpreter is started for a plain name and a path in Unicode unless the call has been
cancelled, and its last argument is made of the two. -/
theorem Run.of_begin {after : Host} {run : Run}
    (begun : Run.begin host interpreter script name cancelled = .ok (after, run)) :
    cancelled = false ∧ Name.isPlain name = true ∧ ∃ path program, script.text? = some path ∧
      Shell.Machine.start host (workingDirectory host script) program
        (interpreter.arguments ++ [". '" ++ quoted path ++ "'; " ++ name]) =
          (after, run.machine) := by
  obtain ⟨wanted, text, machine, composed, started, rfl⟩ := Run.exists_spawn_of_begin begun
  obtain ⟨plain, path, there, rfl⟩ := of_command composed
  obtain ⟨program, starts⟩ := of_spawn started
  exact ⟨wanted, plain, path, program, there, starts⟩

/-- A run that has begun knows its function and its limit, and nothing has happened yet. -/
theorem Run.fresh_of_begin {after : Host} {run : Run}
    (begun : Run.begin host interpreter script name cancelled = .ok (after, run)) :
    run.function = name ∧ run.limit = interpreter.limit ∧ run.progress = .watching .start ∧
      run.time = 0 := by
  obtain ⟨-, text, machine, -, -, rfl⟩ := Run.exists_spawn_of_begin begun
  exact ⟨rfl, rfl, rfl, rfl⟩

/-! ## Calls that do not begin -/

end Invocation

end ScriptRoster
