import ScriptRoster.Invocation.Run
import ScriptRoster.Proofs.Invocation.Watching

/-!
# Runs slice by slice

A run goes on in slices, and its watcher follows the events of each. Main statements: a run completes
if and only if its interpreter exits and its streams end before any poll has a reason to stop it, and
then with what the interpreter left behind; under a limit, or when a stop is asked for, every run
comes to an end.
-/

namespace ScriptRoster.Invocation

open Text Shell

/-! ## Killing an interpreter -/

/-- A machine that is killed takes hold of no stream that has ended. -/
theorem holds_killed {machine : Machine} {sink : Sink} (ended : machine.holds sink = false) :
    machine.killed.holds sink = false := by
  rw [Machine.holds, List.any_eq_false] at ended ⊢
  exact fun job member => ended job (List.mem_filter.mp member).1

namespace Run

variable {host begun : Host} {run : Run} {stopAt : Option Nat} {outcome : Outcome} {n : Nat}
  {event : Event} {stopAsked : Bool} {exit : Exit} {content : Bytes} {captured : Captured}
  {watch : Watch} {sink : Sink}

/-- Killing touches nothing but the machine, and takes no output away. -/
theorem terminate_cases (run : Run) :
    run.terminate = run ∨
      run.machine.ending = none ∧ run.terminate = { run with machine := run.machine.killed } := by
  unfold terminate
  split
  · next killed =>
      refine .inr ⟨?_, rfl⟩
      unfold isKilled at killed
      split at killed
      · exact Option.isNone_iff_eq_none.mp killed
      · cases killed
  · exact .inl rfl

theorem progress_terminate (run : Run) : run.terminate.progress = run.progress := by
  rcases run.terminate_cases with same | ⟨-, same⟩ <;> rw [same]

theorem function_terminate (run : Run) : run.terminate.function = run.function := by
  rcases run.terminate_cases with same | ⟨-, same⟩ <;> rw [same]

theorem limit_terminate (run : Run) : run.terminate.limit = run.limit := by
  rcases run.terminate_cases with same | ⟨-, same⟩ <;> rw [same]

theorem time_terminate (run : Run) : run.terminate.time = run.time := by
  rcases run.terminate_cases with same | ⟨-, same⟩ <;> rw [same]

theorem ending_terminate (exited : run.machine.ending = some exit) :
    run.terminate.machine.ending = some exit := by
  rcases run.terminate_cases with same | ⟨running, -⟩
  · rw [same, exited]
  · cases exited.symm.trans running

theorem holds_terminate (ended : run.machine.holds sink = false) :
    run.terminate.machine.holds sink = false := by
  rcases run.terminate_cases with same | ⟨-, same⟩
  · rw [same, ended]
  · rw [same, holds_killed ended]

theorem outputText_terminate (run : Run) :
    run.terminate.machine.outputText = run.machine.outputText := by
  rcases run.terminate_cases with same | ⟨-, same⟩ <;> rw [same]
  rfl

theorem errorText_terminate (run : Run) :
    run.terminate.machine.errorText = run.machine.errorText := by
  rcases run.terminate_cases with same | ⟨-, same⟩ <;> rw [same]
  rfl

/-- A run that was stopped has left no interpreter behind. -/
theorem isSome_ending_terminate {stop : Stop} (stopped : run.progress = .stopped stop) :
    run.terminate.machine.ending.isSome = true := by
  unfold terminate isKilled
  rw [stopped]
  cases exited : run.machine.ending with
  | none => rfl
  | some exit =>
      show run.machine.ending.isSome = true
      rw [exited]
      rfl

/-! ## One slice -/

/-- The events that the watcher of a run learns of in the next slice. -/
def news (stopAsked : Bool) (host : Host) (run : Run) : List Event :=
  match run.progress with
  | .watching _ => (run.goOn host).2.events stopAsked (run.goOn host).2.time
  | _ => []

theorem advance_of_ended (ended : run.outcome? = some outcome) (host : Host) (stopAsked : Bool) :
    run.advance host stopAsked = (host, run) := by
  obtain ⟨function, limit, machine, progress, time⟩ := run
  cases progress with
  | watching => cases ended
  | completed | lost | stopped => rfl

/-- In one slice the machine goes on, the run learns what is new, and kills the machine if that
stops it. -/
theorem advance_of_watching (watching : run.progress = .watching watch) (host : Host)
    (stopAsked : Bool) :
    run.advance host stopAsked =
      ((run.goOn host).1, ((run.goOn host).2.follow (run.news stopAsked host)).terminate) := by
  rw [advance, news, watching]

theorem function_advance (host : Host) (stopAsked : Bool) (run : Run) :
    (run.advance host stopAsked).2.function = run.function := by
  unfold advance
  split
  · exact function_terminate _
  · rfl

theorem limit_advance (host : Host) (stopAsked : Bool) (run : Run) :
    (run.advance host stopAsked).2.limit = run.limit := by
  unfold advance
  split
  · exact limit_terminate _
  · rfl

/-- In a slice a watcher follows the events of the machine that has gone on. -/
theorem progress_advance (host : Host) (stopAsked : Bool) (run : Run) :
    (run.advance host stopAsked).2.progress =
      run.progress.follow run.limit (run.news stopAsked host) := by
  cases came : run.progress with
  | watching watch =>
      rw [advance_of_watching came, progress_terminate, ← came]
      rfl
  | completed | lost | stopped =>
      rw [advance, news, came]
      exact came

theorem time_advance (watching : run.progress = .watching watch) (host : Host) (stopAsked : Bool) :
    (run.advance host stopAsked).2.time = run.time + slice := by
  rw [advance_of_watching watching]
  exact time_terminate _

theorem exited_mem_events {time : Nat} :
    .exited (.seen exit) ∈ run.events stopAsked time ↔ run.machine.ending = some exit := by
  simp [events]

/-- The end of the output is told with all that was written, once nobody holds it. -/
theorem outputEnded_mem_events {time : Nat} :
    .outputEnded (.seen content) ∈ run.events stopAsked time ↔
      run.machine.holds .output = false ∧ content = run.machine.outputText := by
  simp [events]

theorem errorsEnded_mem_events {time : Nat} :
    .errorsEnded (.seen content) ∈ run.events stopAsked time ↔
      run.machine.holds .errors = false ∧ content = run.machine.errorText := by
  simp [events]

/-- Nothing that a slice tells of was lost. -/
theorem observable_events (stopAsked : Bool) (time : Nat) (run : Run) :
    Observable (run.events stopAsked time) := by
  constructor <;> simp [events]

theorem mem_events_of_mem_news (told : event ∈ run.news stopAsked host) :
    (∃ watch, run.progress = .watching watch) ∧
      event ∈ (run.goOn host).2.events stopAsked (run.goOn host).2.time := by
  unfold news at told
  split at told
  · next watch watching => exact ⟨⟨watch, watching⟩, told⟩
  · cases told

/-- An exit that is told is how the machine has ended. -/
theorem ending_of_exited (told : .exited (.seen exit) ∈ run.news stopAsked host) :
    (run.advance host stopAsked).2.machine.ending = some exit := by
  obtain ⟨⟨watch, watching⟩, told⟩ := mem_events_of_mem_news told
  rw [advance_of_watching watching]
  exact ending_terminate (exited_mem_events.mp told)

/-- An end of the output that is told is that of the machine, with all that was written. -/
theorem output_of_outputEnded (told : .outputEnded (.seen content) ∈ run.news stopAsked host) :
    (run.advance host stopAsked).2.machine.holds .output = false ∧
      content = (run.advance host stopAsked).2.machine.outputText := by
  obtain ⟨⟨watch, watching⟩, told⟩ := mem_events_of_mem_news told
  obtain ⟨ended, same⟩ := outputEnded_mem_events.mp told
  rw [advance_of_watching watching, outputText_terminate]
  exact ⟨holds_terminate ended, same⟩

/-- An end of the error stream that is told is that of the machine, with all that was written. -/
theorem errors_of_errorsEnded (told : .errorsEnded (.seen content) ∈ run.news stopAsked host) :
    (run.advance host stopAsked).2.machine.holds .errors = false ∧
      content = (run.advance host stopAsked).2.machine.errorText := by
  obtain ⟨⟨watch, watching⟩, told⟩ := mem_events_of_mem_news told
  obtain ⟨ended, same⟩ := errorsEnded_mem_events.mp told
  rw [advance_of_watching watching, errorText_terminate]
  exact ⟨holds_terminate ended, same⟩

/-! ## All slices -/

/-- A run after so many slices. -/
def after (stopAt : Option Nat) : Nat → Host → Run → Host × Run
  | 0, host, run => (host, run)
  | n + 1, host, run =>
      let later := run.advance host (run.hearsStop stopAt)
      after stopAt n later.1 later.2

/-- The events of so many slices, up to the end of the run. -/
def learned (stopAt : Option Nat) : Nat → Host → Run → List Event
  | 0, _, _ => []
  | n + 1, host, run =>
      let later := run.advance host (run.hearsStop stopAt)
      run.news (run.hearsStop stopAt) host ++ learned stopAt n later.1 later.2

theorem after_zero (stopAt : Option Nat) (there : Host × Run) :
    there.2.after stopAt 0 there.1 = there := rfl

theorem after_succ (stopAt : Option Nat) (n : Nat) (host : Host) (run : Run) :
    run.after stopAt (n + 1) host =
      (run.advance host (run.hearsStop stopAt)).2.after stopAt n
        (run.advance host (run.hearsStop stopAt)).1 := rfl

/-- One slice more comes last. -/
theorem after_succ_last (stopAt : Option Nat) (n : Nat) (host : Host) (run : Run) :
    run.after stopAt (n + 1) host =
      (run.after stopAt n host).2.advance (run.after stopAt n host).1
        ((run.after stopAt n host).2.hearsStop stopAt) := by
  induction n generalizing host run with
  | zero => exact (after_succ stopAt 0 host run).trans (after_zero stopAt _)
  | succ n ih => rw [after_succ stopAt (n + 1), ih, after_succ stopAt n]

/-- The events of one slice more come last. -/
theorem learned_succ_last (stopAt : Option Nat) (n : Nat) (host : Host) (run : Run) :
    run.learned stopAt (n + 1) host =
      run.learned stopAt n host ++ (run.after stopAt n host).2.news
        ((run.after stopAt n host).2.hearsStop stopAt) (run.after stopAt n host).1 := by
  induction n generalizing host run with
  | zero => simp [learned, after]
  | succ n ih =>
      rw [learned, ih, learned, List.append_assoc]
      rfl

theorem after_of_ended (ended : run.outcome? = some outcome) (n : Nat) (host : Host) :
    run.after stopAt n host = (host, run) := by
  induction n with
  | zero => rfl
  | succ n ih => rw [after_succ, advance_of_ended ended, ih]

theorem after_add (stopAt : Option Nat) (n m : Nat) (host : Host) (run : Run) :
    run.after stopAt (n + m) host =
      (run.after stopAt n host).2.after stopAt m (run.after stopAt n host).1 := by
  induction m with
  | zero => rfl
  | succ m ih => rw [← Nat.add_assoc, after_succ_last, ih, ← after_succ_last]

/-- A run that is over after some slices has come to what it ever comes to. -/
theorem after_unique {outcome other : Outcome} {n m : Nat}
    (final : (run.after stopAt n host).2.outcome? = some outcome)
    (also : (run.after stopAt m host).2.outcome? = some other) :
    run.after stopAt n host = run.after stopAt m host := by
  rcases Nat.le_total n m with sooner | later
  · obtain ⟨k, rfl⟩ := Nat.exists_eq_add_of_le sooner
    rw [after_add, after_of_ended final]
  · obtain ⟨k, rfl⟩ := Nat.exists_eq_add_of_le later
    rw [after_add, after_of_ended also]

theorem function_after (stopAt : Option Nat) (n : Nat) (host : Host) (run : Run) :
    (run.after stopAt n host).2.function = run.function := by
  induction n generalizing host run with
  | zero => rfl
  | succ n ih => rw [after_succ, ih, function_advance]

/-- The progress of a run is that of its watcher over the events of all slices. -/
theorem progress_after (stopAt : Option Nat) (n : Nat) (host : Host) (run : Run) :
    (run.after stopAt n host).2.progress =
      run.progress.follow run.limit (run.learned stopAt n host) := by
  induction n generalizing host run with
  | zero => rfl
  | succ n ih =>
      rw [after_succ, ih, limit_advance, progress_advance]
      exact (List.foldl_append ..).symm

/-- A run that is over was watching in all slices before. -/
theorem time_after (began : run.time = 0)
    (watching : ∀ m < n, ∃ watch, (run.after stopAt m host).2.progress = .watching watch) :
    (run.after stopAt n host).2.time = n * slice := by
  induction n with
  | zero => rw [after, began, Nat.zero_mul]
  | succ n ih =>
      obtain ⟨watch, goesOn⟩ := watching n (Nat.lt_succ_self n)
      have before := ih fun m earlier => watching m (Nat.lt_succ_of_lt earlier)
      rw [after_succ_last, time_advance goesOn, before, Nat.succ_mul]

/-- What is told was told in some slice. -/
theorem exists_news_of_mem_learned (told : event ∈ run.learned stopAt n host) :
    ∃ m, event ∈ (run.after stopAt m host).2.news ((run.after stopAt m host).2.hearsStop stopAt)
      (run.after stopAt m host).1 := by
  induction n with
  | zero => cases told
  | succ n ih =>
      rw [learned_succ_last] at told
      rcases List.mem_append.mp told with sooner | last
      · exact ih sooner
      · exact ⟨n, last⟩

/-- Nothing that a run learns of was lost. -/
theorem observable_learned (stopAt : Option Nat) (n : Nat) (host : Host) (run : Run) :
    Observable (run.learned stopAt n host) := by
  constructor
  · intro reason told
    obtain ⟨m, told⟩ := exists_news_of_mem_learned told
    exact (observable_events ..).exit reason (mem_events_of_mem_news told).2
  · intro reason told
    obtain ⟨m, told⟩ := exists_news_of_mem_learned told
    exact (observable_events ..).output reason (mem_events_of_mem_news told).2
  · intro reason told
    obtain ⟨m, told⟩ := exists_news_of_mem_learned told
    exact (observable_events ..).errors reason (mem_events_of_mem_news told).2

/-! ## How a run ends -/

/-- What a run left behind is how its machine ended, and what stood on its streams once they had
ended. -/
structure LeftBy (stopAt : Option Nat) (host : Host) (run : Run) (captured : Captured) : Prop where
  exit : ∃ n, (run.after stopAt n host).2.machine.ending = some captured.exit
  output : ∃ n, (run.after stopAt n host).2.machine.holds .output = false ∧
    captured.output = (run.after stopAt n host).2.machine.outputText
  errors : ∃ n, (run.after stopAt n host).2.machine.holds .errors = false ∧
    captured.errors = (run.after stopAt n host).2.machine.errorText

/-- The interpreter of a run exits, and its streams end, before any poll has a reason to stop it. -/
def Completes (stopAt : Option Nat) (host : Host) (run : Run) : Prop :=
  ∃ n earlier later, run.learned stopAt n host = earlier ++ later ∧ Ended earlier ∧
    Undisturbed run.limit earlier

/-- What a run has learned was left by its machine. -/
theorem leftBy_of_learnedFrom (learned : captured.LearnedFrom (run.learned stopAt n host)) :
    run.LeftBy stopAt host captured := by
  obtain ⟨exit, output, errors⟩ := learned
  constructor
  · obtain ⟨m, told⟩ := exists_news_of_mem_learned exit
    refine ⟨m + 1, ?_⟩
    rw [after_succ_last]
    exact ending_of_exited told
  · obtain ⟨m, told⟩ := exists_news_of_mem_learned output
    refine ⟨m + 1, ?_⟩
    rw [after_succ_last]
    exact output_of_outputEnded told
  · obtain ⟨m, told⟩ := exists_news_of_mem_learned errors
    refine ⟨m + 1, ?_⟩
    rw [after_succ_last]
    exact errors_of_errorsEnded told

/-- A run is completed only with what its machine has left. -/
theorem leftBy_of_completed (fresh : run.progress = .watching .start)
    (completed : (run.after stopAt n host).2.progress = .completed captured) :
    run.LeftBy stopAt host captured := by
  rw [progress_after, fresh] at completed
  obtain ⟨earlier, later, split, learned, -⟩ := exists_of_completed completed
  apply leftBy_of_learnedFrom (n := n)
  rw [split]
  exact learned.append later

/-- A run completes if and only if its interpreter exits, and its streams end, before any poll has a
reason to stop it. -/
theorem completes_iff (fresh : run.progress = .watching .start) :
    run.Completes stopAt host ↔
      ∃ n captured, (run.after stopAt n host).2.progress = .completed captured := by
  constructor
  · rintro ⟨n, earlier, later, split, ended, undisturbed⟩
    have seen := run.observable_learned stopAt n host
    rw [split] at seen
    obtain ⟨captured, complete, -⟩ := exists_completed seen.of_append ended undisturbed
    refine ⟨n, captured, ?_⟩
    rw [progress_after, fresh, split, Progress.follow_append, complete]
    exact Progress.follow_of_ended "" rfl later
  · rintro ⟨n, captured, complete⟩
    rw [progress_after, fresh] at complete
    obtain ⟨earlier, later, split, learned, undisturbed⟩ := exists_of_completed complete
    exact ⟨n, earlier, later, split, learned.ended, undisturbed⟩

/-- Under a limit, or when a stop is asked for, a run comes to an end: there is a poll at which one
of them is a reason to stop it. -/
theorem exists_outcome (fresh : run.progress = .watching .start) (began : run.time = 0)
    (bounded : run.limit.isSome = true ∨ stopAt.isSome = true) (host : Host) :
    ∃ n outcome, (run.after stopAt n host).2.outcome? = some outcome := by
  by_contra never
  have watching : ∀ n, ∃ watch, (run.after stopAt n host).2.progress = .watching watch := by
    intro n
    cases came : (run.after stopAt n host).2.progress with
    | watching watch => exact ⟨watch, rfl⟩
    | completed | lost | stopped => exact absurd ⟨n, _, by rw [outcome?, came]; rfl⟩ never
  -- the slice before a poll that comes late enough
  obtain ⟨n, last⟩ : ∃ n, n = 10 * (run.limit.elim 0 Duration.nanoseconds + stopAt.getD 0) + 9 :=
    ⟨_, rfl⟩
  have time : (run.after stopAt n host).2.time + slice = (n + 1) * slice := by
    rw [time_after began fun m _ => watching m, Nat.succ_mul]
  have polled : ∃ front, (run.after stopAt n host).2.news
      ((run.after stopAt n host).2.hearsStop stopAt) (run.after stopAt n host).1 =
        front ++ [.poll ((n + 1) * slice)] ∧
      ((run.after stopAt n host).2.hearsStop stopAt = true → .stopAsked ∈ front) := by
    obtain ⟨watch, goesOn⟩ := watching n
    have due : ((n + 1) * slice) % pollInterval = 0 := by
      rw [last, slice, pollInterval]
      omega
    have now : ((run.after stopAt n host).2.goOn (run.after stopAt n host).1).2.time =
        (n + 1) * slice := time
    rw [news, goesOn, events, now]
    refine ⟨_, by simp only [due]; rfl, ?_⟩
    intro stops
    simp [stops]
  obtain ⟨front, news, stops⟩ := polled
  obtain ⟨watch, goesOn⟩ := watching (n + 1)
  rw [progress_after, fresh, learned_succ_last, news, ← List.append_assoc] at goesOn
  have undisturbed := (follows_of_watching goesOn).undisturbed
  by_cases asked : .stopAsked ∈ run.learned stopAt n host ++ front
  · exact undisturbed _ _ [] _ rfl (.cancelled asked)
  · have unheard : ¬ (run.after stopAt n host).2.hearsStop stopAt = true := fun hears =>
      asked (List.mem_append_right _ (stops hears))
    cases limit : run.limit with
    | some most =>
        refine undisturbed _ _ [] _ rfl (.timedOut limit ?_ asked)
        rw [limit, Option.elim_some] at last
        rw [slice]
        omega
    | none =>
        rw [limit] at bounded
        obtain ⟨moment, stop⟩ := Option.isSome_iff_exists.mp (bounded.resolve_left nofun)
        rw [stop, Option.getD_some] at last
        apply unheard
        rw [hearsStop, time, slice, stop, Option.any_some, decide_eq_true_eq]
        omega

/-- A run that is over is finished; another one is finished as it is one slice later. -/
theorem finish_eq_match (stopAt : Option Nat) (host : Host) (run : Run) :
    run.finish stopAt host =
      match run.outcome? with
      | some outcome => (host, outcome)
      | none =>
          let (host, run) := run.advance host (run.hearsStop stopAt)
          run.finish stopAt host := by
  have unfolded := repeatM_eq_of_monadTail (f := fun there => (pure (turn stopAt there) : Id _))
    (host, run)
  rw [finish, unfolded]
  cases told : run.outcome? <;> simp only [repeatM.body, turn, told] <;> rfl

/-- What a run has come to after some slices is what it is let go on for. -/
theorem finish_eq (ended : (run.after stopAt n host).2.outcome? = some outcome) :
    run.finish stopAt host = ((run.after stopAt n host).1, outcome) := by
  induction n generalizing host run with
  | zero =>
      rw [finish_eq_match, show run.outcome? = some outcome from ended]
      rfl
  | succ n ih =>
      rw [finish_eq_match]
      split
      · next other same =>
          rw [after_of_ended same] at ended ⊢
          rw [Option.some.inj (same.symm.trans ended)]
      · exact ih ended

/-- A run that was stopped has left no interpreter behind: it had exited, or it was killed. -/
theorem isSome_ending_after {stop : Stop} (fresh : run.progress = .watching watch)
    (stopped : (run.after stopAt n host).2.progress = .stopped stop) :
    (run.after stopAt n host).2.machine.ending.isSome = true := by
  induction n with
  | zero => cases fresh.symm.trans stopped
  | succ n ih =>
      rw [after_succ_last] at stopped ⊢
      cases came : (run.after stopAt n host).2.progress with
      | watching watch =>
          rw [advance_of_watching came] at stopped ⊢
          rw [progress_terminate] at stopped
          exact isSome_ending_terminate stopped
      | completed | lost | stopped =>
          obtain ⟨outcome, final⟩ : ∃ outcome, (run.after stopAt n host).2.outcome? = some outcome := by
            rw [outcome?, came]
            exact ⟨_, rfl⟩
          rw [advance_of_ended final] at stopped ⊢
          exact ih stopped

end Run

end ScriptRoster.Invocation
