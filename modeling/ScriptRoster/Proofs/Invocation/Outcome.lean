import ScriptRoster.Proofs.Invocation.Beginning
import ScriptRoster.Proofs.Invocation.Slices
import ScriptRoster.Proofs.Text.Blank

/-!
# How calls end

A process that ran to its end succeeded if it exited with zero and wrote nothing but white space to
its error stream. Otherwise the error is what it wrote there, or else the code or the signal that
ended it. A call whose process did not run to its end has neither output nor code. Main statement:
a call comes to the first kind of outcome if and only if its process exits and its streams end in
time, and in either case it has an error if and only if it failed.
-/

namespace ScriptRoster.Invocation

open Text

/-- The error that the exit of a process and the text of its error stream make, if any. -/
inductive Verdict : Exit → String → Option String → Prop
  | fine {errors} (blank : AreBlank errors.toList) : Verdict (.code 0) errors none
  | spoke {exit errors text} (trimmed : Trimmed errors text) (words : text ≠ "") :
      Verdict exit errors (some text)
  | code {n errors} (blank : AreBlank errors.toList) (nonzero : n ≠ 0) :
      Verdict (.code n) errors (some ("The interpreter exited with code " ++ toString n ++ "."))
  | signal {n errors} (blank : AreBlank errors.toList) :
      Verdict (.signal n) errors (some "The interpreter was terminated before it could exit.")

/-- There is no error just if the interpreter has exited with zero and has written only white space
to its error stream. -/
theorem Verdict.eq_none_iff {exit : Exit} {errors : String} {error : Option String}
    (verdict : Verdict exit errors error) :
    error = none ↔ exit = .code 0 ∧ AreBlank errors.toList := by
  cases verdict with
  | fine blank => exact iff_of_true rfl ⟨rfl, blank⟩
  | spoke trimmed words =>
      refine iff_of_false (Option.some_ne_none _) ?_
      rintro ⟨-, blank⟩
      exact words ((trim_eq_iff.mpr trimmed).symm.trans (trim_eq_empty_iff.mpr blank))
  | code blank nonzero =>
      refine iff_of_false (Option.some_ne_none _) ?_
      rintro ⟨zero, -⟩
      exact nonzero (Exit.code.inj zero)
  | signal =>
      refine iff_of_false (Option.some_ne_none _) ?_
      rintro ⟨zero, -⟩
      cases zero

namespace Outcome

variable {function : String} {captured : Captured} {outcome : Outcome} {failure : Failure}

/-- What is said of a failure, if the call failed. -/
def error? (outcome : Outcome) : Option String := outcome.failure.map Failure.message

/-- There is an error if and only if the call failed. -/
def Blames (outcome : Outcome) : Prop := outcome.error?.isSome = true ↔ outcome.status = .failed

theorem blames_failed (function : String) (failure : Failure) (output : String)
    (exitCode : Option Nat) : (failed function failure output exitCode).Blames :=
  iff_of_true rfl rfl

theorem blames_succeeded (function output : String) (exitCode : Option Nat) :
    (succeeded function output exitCode).Blames :=
  iff_of_false Bool.false_ne_true fun same => by cases same

/-- A call has succeeded just if it has no error. -/
theorem Blames.succeeded_iff (blames : outcome.Blames) :
    outcome.status = .succeeded ↔ outcome.error? = none := by
  unfold Blames at blames
  cases status : outcome.status with
  | succeeded =>
      rw [status] at blames
      refine iff_of_true rfl ?_
      exact Option.not_isSome_iff_eq_none.mp fun some => by cases blames.mp some
  | failed =>
      rw [status] at blames
      refine iff_of_false (fun same => by cases same) ?_
      exact Option.isSome_iff_ne_none.mp (blames.mpr rfl)

/-- An outcome is that of what a process left behind when it had run to its end. -/
structure Tells (function : String) (captured : Captured) (outcome : Outcome) : Prop where
  function : outcome.function = function
  verdict : Verdict captured.exit (decodeLossy captured.errors) outcome.error?
  blames : outcome.Blames
  output : TrimmedEnd (decodeLossy captured.output) outcome.output
  exitCode : outcome.exitCode = captured.exit.code?

section Captured

variable {output text : String} {exit : Exit} {written errors : Bytes}

/-- Words on the error stream fail a call, whatever the exit. -/
theorem tells_of_words (printed : TrimmedEnd (decodeLossy captured.output) output)
    (trimmed : Trimmed (decodeLossy captured.errors) text) (words : text ≠ "") :
    Tells function captured (failed function (.errorStream text) output captured.exit.code?) :=
  ⟨rfl, .spoke trimmed words, blames_failed .., printed, rfl⟩

/-- An exit with zero and a blank error stream make a call succeed. -/
theorem tells_of_fine (printed : TrimmedEnd (decodeLossy written) output)
    (blank : AreBlank (decodeLossy errors).toList) :
    Tells function ⟨.code 0, written, errors⟩ (succeeded function output (some 0)) :=
  ⟨rfl, .fine blank, blames_succeeded .., printed, rfl⟩

theorem tells_of_code {n : Nat} (printed : TrimmedEnd (decodeLossy written) output)
    (blank : AreBlank (decodeLossy errors).toList) (nonzero : n ≠ 0) :
    Tells function ⟨.code n, written, errors⟩ (failed function (.exitCode n) output (some n)) :=
  ⟨rfl, .code blank nonzero, blames_failed .., printed, rfl⟩

theorem tells_of_signal {n : Nat} (printed : TrimmedEnd (decodeLossy written) output)
    (blank : AreBlank (decodeLossy errors).toList) :
    Tells function ⟨.signal n, written, errors⟩ (failed function .terminated output none) :=
  ⟨rfl, .signal blank, blames_failed .., printed, rfl⟩

/-- The outcome tells of what was captured, whatever that is. -/
theorem tells_ofCaptured (function : String) (captured : Captured) :
    Tells function captured (ofCaptured function captured) := by
  obtain ⟨exit, written, errors⟩ := captured
  have output := trimEnd_eq_iff.mp (rfl : trimEnd (decodeLossy written) = _)
  have trimmed := trim_eq_iff.mp (rfl : trim (decodeLossy errors) = _)
  by_cases silent : trim (decodeLossy errors) = ""
  · have blank := trim_eq_empty_iff.mp silent
    simp only [ofCaptured, silent, ne_eq, not_true_eq_false, if_false]
    cases exit with
    | code n =>
        cases n with
        | zero => exact tells_of_fine output blank
        | succ n => exact tells_of_code output blank (Nat.succ_ne_zero n)
    | signal n => exact tells_of_signal output blank
  · simp only [ofCaptured, silent, ne_eq, not_false_eq_true, if_true]
    exact tells_of_words output trimmed silent

end Captured

/-- What has come to an end was completed, or it is unfinished. -/
theorem eq_ofCaptured_or_eq_unfinished {progress : Progress}
    (ended : progress.outcome? function = some outcome) :
    (∃ captured, progress = .completed captured ∧ outcome = ofCaptured function captured) ∨
      (∀ captured, progress ≠ .completed captured) ∧
        ∃ failure, outcome = unfinished function failure := by
  cases progress with
  | watching => cases ended
  | completed captured => exact .inl ⟨captured, rfl, (Option.some.inj ended).symm⟩
  | lost => exact .inr ⟨nofun, _, (Option.some.inj ended).symm⟩
  | stopped => exact .inr ⟨nofun, _, (Option.some.inj ended).symm⟩

end Outcome

/-! ## Calls -/

/-- A call comes to an outcome: it fails at once, or the run that it begins is over after some
slices. -/
inductive ComesTo (host : Host) (interpreter : Interpreter) (script : Files.Path) (name : String)
    (cancelled : Bool) (stopAt : Option Nat) : Outcome → Prop
  | refused {failure} (failed : Run.begin host interpreter script name cancelled = .error failure) :
      ComesTo host interpreter script name cancelled stopAt (.unfinished name failure)
  | ended {begun run n outcome}
      (began : Run.begin host interpreter script name cancelled = .ok (begun, run))
      (final : (run.after stopAt n begun).2.outcome? = some outcome) :
      ComesTo host interpreter script name cancelled stopAt outcome

/-- A call starts an interpreter that exits, and whose streams end, before any poll has a reason to
stop it. -/
def Completes (host : Host) (interpreter : Interpreter) (script : Files.Path) (name : String)
    (cancelled : Bool) (stopAt : Option Nat) : Prop :=
  ∃ begun run, Run.begin host interpreter script name cancelled = .ok (begun, run) ∧
    run.Completes stopAt begun

/-- A call starts an interpreter that leaves this behind. -/
def LeavesBehind (host : Host) (interpreter : Interpreter) (script : Files.Path) (name : String)
    (cancelled : Bool) (stopAt : Option Nat) (captured : Captured) : Prop :=
  ∃ begun run, Run.begin host interpreter script name cancelled = .ok (begun, run) ∧
    run.LeftBy stopAt begun captured

section Calls

variable {host : Host} {interpreter : Interpreter} {script : Files.Path} {name : String}
  {cancelled : Bool} {stopAt : Option Nat} {outcome other : Outcome}

/-- A call that comes to an outcome returns it. -/
theorem ComesTo.invoke_eq (comes : ComesTo host interpreter script name cancelled stopAt outcome) :
    (invoke host interpreter script name cancelled stopAt).2 = outcome := by
  cases comes with
  | refused failed => rw [invoke, failed]
  | ended began final =>
      simp only [invoke, began]
      exact congrArg Prod.snd (Run.finish_eq final)

/-- A call comes to the outcome of what its interpreter left behind, or it is unfinished. -/
theorem ComesTo.completes_or_unfinished
    (comes : ComesTo host interpreter script name cancelled stopAt outcome) :
    (∃ captured, Completes host interpreter script name cancelled stopAt ∧
        LeavesBehind host interpreter script name cancelled stopAt captured ∧
        outcome = .ofCaptured name captured) ∨
      ¬ Completes host interpreter script name cancelled stopAt ∧
        ∃ failure, outcome = .unfinished name failure := by
  cases comes with
  | @refused failure failed =>
      refine .inr ⟨?_, failure, rfl⟩
      rintro ⟨begun, run, began, -⟩
      cases failed.symm.trans began
  | @ended begun run n _ began final =>
      obtain ⟨function, -, fresh, -⟩ := Run.fresh_of_begin began
      have told := final
      rw [Run.outcome?, Run.function_after, function] at told
      rcases Outcome.eq_ofCaptured_or_eq_unfinished told with
        ⟨captured, completed, same⟩ | ⟨incomplete, unfinished⟩
      · refine .inl ⟨captured, ⟨begun, run, began, ?_⟩, ⟨begun, run, began, ?_⟩, same⟩
        · exact (Run.completes_iff fresh).mpr ⟨n, captured, completed⟩
        · exact Run.leftBy_of_completed fresh completed
      · refine .inr ⟨?_, unfinished⟩
        rintro ⟨_, _, again, completes⟩
        cases began.symm.trans again
        obtain ⟨m, captured, completed⟩ := (Run.completes_iff fresh).mp completes
        have also : (run.after stopAt m begun).2.outcome? = some (.ofCaptured run.function captured) :=
          by rw [Run.outcome?, completed, Run.function_after]; rfl
        apply incomplete captured
        rw [Run.after_unique final also, completed]

/-- A call whose interpreter exits and whose streams end in time comes to an outcome. -/
theorem Completes.exists_comesTo
    (completes : Completes host interpreter script name cancelled stopAt) :
    ∃ outcome, ComesTo host interpreter script name cancelled stopAt outcome := by
  obtain ⟨begun, run, began, completes⟩ := completes
  obtain ⟨-, -, fresh, -⟩ := Run.fresh_of_begin began
  obtain ⟨n, captured, completed⟩ := (Run.completes_iff fresh).mp completes
  exact ⟨_, .ended began (n := n) (by rw [Run.outcome?, completed]; rfl)⟩

/-- Under a limit, or when a stop is asked for, every call comes to an outcome. -/
theorem exists_comesTo (host : Host) (script : Files.Path) (name : String) (cancelled : Bool)
    (bounded : interpreter.limit.isSome = true ∨ stopAt.isSome = true) :
    ∃ outcome, ComesTo host interpreter script name cancelled stopAt outcome := by
  cases began : Run.begin host interpreter script name cancelled with
  | error failure => exact ⟨_, .refused began⟩
  | ok started =>
      obtain ⟨begun, run⟩ := started
      obtain ⟨-, limit, fresh, time⟩ := Run.fresh_of_begin began
      rw [← limit] at bounded
      obtain ⟨n, outcome, final⟩ := Run.exists_outcome fresh time bounded begun
      exact ⟨outcome, .ended began final⟩

end Calls

/-- A process that ran to its end succeeded if and only if it exited with zero and its error stream
is only white space once decoded, and then there is no error. Otherwise the error is the text of that
stream without white space at both ends, if there is any, or else tells the code, or that there was
none. The output is what was written without white space at its end, and the code is that of the
process. Whatever is observed of a process, and however a call ends, there is an error if and only if
it failed, and without a process that ran to its end there is neither output nor code. A process has
run to its end if its exit and the ends of its streams are observed before any poll has a reason to
stop it: then, and for no other call, the outcome is that of what it left behind. A call comes to an
outcome if its process runs to its end, under a limit, and when a stop is asked for. -/
theorem outcome_classified :
    (∀ function captured,
      ((Outcome.ofCaptured function captured).status = .succeeded ↔
          captured.exit = .code 0 ∧ AreBlank (decodeLossy captured.errors).toList) ∧
        ((Outcome.ofCaptured function captured).status = .succeeded →
          (Outcome.ofCaptured function captured).error? = none) ∧
        (Outcome.ofCaptured function captured).Tells function captured) ∧
    (∀ limit function events,
      (∀ outcome,
        (Progress.follow limit (.watching .start) events).outcome? function = some outcome →
          outcome.Blames ∧
            ((∃ captured, captured.LearnedFrom events ∧ outcome = .ofCaptured function captured) ∨
              outcome.status = .failed ∧ outcome.output = "" ∧ outcome.exitCode = none)) ∧
      ∀ earlier later captured, events = earlier ++ later → captured.ToldBy earlier →
        Undisturbed limit earlier →
          (Progress.follow limit (.watching .start) events).outcome? function =
            some (.ofCaptured function captured)) ∧
    ∀ host interpreter script name cancelled stopAt,
      (∀ outcome, ComesTo host interpreter script name cancelled stopAt outcome →
        (invoke host interpreter script name cancelled stopAt).2 = outcome ∧
        outcome.function = name ∧ outcome.Blames ∧
        (Completes host interpreter script name cancelled stopAt →
          ∃ captured, LeavesBehind host interpreter script name cancelled stopAt captured ∧
            outcome = .ofCaptured name captured) ∧
        (¬ Completes host interpreter script name cancelled stopAt →
          outcome.status = .failed ∧ outcome.output = "" ∧ outcome.exitCode = none)) ∧
      (Completes host interpreter script name cancelled stopAt →
        ∃ outcome, ComesTo host interpreter script name cancelled stopAt outcome) ∧
      (interpreter.limit.isSome = true ∨ stopAt.isSome = true →
        ∃ outcome, ComesTo host interpreter script name cancelled stopAt outcome) := by
  refine ⟨?_, ?_, ?_⟩
  · intro function captured
    have tells := Outcome.tells_ofCaptured function captured
    exact ⟨tells.blames.succeeded_iff.trans tells.verdict.eq_none_iff,
      tells.blames.succeeded_iff.mp, tells⟩
  · intro limit function events
    constructor
    · intro outcome ended
      rcases Outcome.eq_ofCaptured_or_eq_unfinished ended with
        ⟨captured, completed, same⟩ | ⟨-, failure, same⟩
      · obtain ⟨earlier, later, rfl, learned, -⟩ := exists_of_completed completed
        rw [same]
        exact ⟨(Outcome.tells_ofCaptured function captured).blames,
          .inl ⟨captured, learned.append later, rfl⟩⟩
      · rw [same]
        exact ⟨Outcome.blames_failed .., .inr ⟨rfl, rfl, rfl⟩⟩
    · rintro earlier later captured rfl told undisturbed
      rw [completed_of_told told undisturbed later]
      rfl
  · intro host interpreter script name cancelled stopAt
    refine ⟨?_, Completes.exists_comesTo, exists_comesTo host script name cancelled⟩
    intro outcome comes
    rcases comes.completes_or_unfinished with
      ⟨captured, completes, left, same⟩ | ⟨incomplete, failure, same⟩
    · have tells := Outcome.tells_ofCaptured name captured
      rw [← same] at tells
      exact ⟨comes.invoke_eq, tells.function, tells.blames, fun _ => ⟨captured, left, same⟩,
        fun incomplete => absurd completes incomplete⟩
    · refine ⟨comes.invoke_eq, ?_⟩
      rw [same]
      exact ⟨rfl, Outcome.blames_failed .., fun completes => absurd completes incomplete,
        fun _ => ⟨rfl, rfl, rfl⟩⟩

/-- A host where one program can be started, which writes out its arguments. -/
def hostWithEcho : Host where
  files := ⟨[([[0x65]], .program "echo")]⟩
  cwd := []
  environment := []
  now := 0

/-- That program as an interpreter. -/
def Interpreter.echo : Interpreter := ⟨"/e", [], none⟩

/-- The machine that has written the command and has nothing left to do. -/
def echoing : Shell.Machine :=
  ⟨[⟨⟨[], "echo", [], [], [], ⟨[], .output, .errors⟩⟩, 0, [], 0, true⟩],
    [encode ". '/s'; A\n"], [], [], 0, none⟩

theorem Run.begin_withEcho :
    Run.begin hostWithEcho .echo (.ofString "/s") "A" false =
      .ok (hostWithEcho, ⟨"A", none, echoing, .watching .start, 0⟩) := by
  have composed : command (.ofString "/s") "A" = .ok ". '/s'; A" := by decide +kernel
  have inside : workingDirectory hostWithEcho (.ofString "/s") = [] :=
    workingDirectory_of_root (by decide)
  have top : (Files.Path.ofString "/e").IsTop [0x65] := by constructor <;> decide +kernel
  have found : hostWithEcho.program [] "/e" = .ok "echo" :=
    Host.program_of_isTop (by decide) top rfl
  rw [begin_of_program composed (by decide +kernel) (inside ▸ found), inside]
  rfl

/-- An interpreter that writes out its command and exits in its first slice has run to its end, and
the command is the output of the call. -/
theorem outcome_classified_echo :
    Completes hostWithEcho .echo (.ofString "/s") "A" false none ∧
      (invoke hostWithEcho .echo (.ofString "/s") "A" false none).2 =
        .succeeded "A" ". '/s'; A" (some 0) := by
  have events : Run.learned none 1 hostWithEcho ⟨"A", none, echoing, .watching .start, 0⟩ =
      [.exited (.seen (.code 0)), .outputEnded (.seen (encode ". '/s'; A\n")),
        .errorsEnded (.seen [])] := rfl
  have whole : Outcome.ofCaptured "A" ⟨.code 0, encode ". '/s'; A\n", []⟩ =
      .succeeded "A" ". '/s'; A" (some 0) := by decide +kernel
  have undisturbed : Undisturbed none [.exited (.seen (.code 0)),
      .outputEnded (.seen (encode ". '/s'; A\n")), .errorsEnded (.seen [])] :=
    (((undisturbed_nil _).append_singleton (by simp)).append_singleton
      (by simp)).append_singleton (by simp)
  have completes : Completes hostWithEcho .echo (.ofString "/s") "A" false none := by
    refine ⟨_, _, Run.begin_withEcho, 1, _, [], (List.append_nil _).symm, ?_, ?_⟩
    · rw [events]
      exact ⟨⟨_, .head _⟩, ⟨_, .tail _ (.head _)⟩, ⟨_, .tail _ (.tail _ (.head _))⟩⟩
    · rw [events]
      exact undisturbed
  have final : (Run.after none 1 hostWithEcho ⟨"A", none, echoing, .watching .start, 0⟩).2.outcome? =
      some (.succeeded "A" ". '/s'; A" (some 0)) := by
    rw [Run.outcome?, Run.function_after, Run.progress_after, events, ← whole]
    rfl
  obtain ⟨classified, -⟩ := outcome_classified.2.2 hostWithEcho .echo (.ofString "/s") "A" false none
  exact ⟨completes, (classified _ (.ended Run.begin_withEcho final)).1⟩

end ScriptRoster.Invocation
