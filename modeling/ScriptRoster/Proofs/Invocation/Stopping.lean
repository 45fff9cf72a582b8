import ScriptRoster.Proofs.Invocation.Slices
import ScriptRoster.Proofs.Session.Calling

/-!
# Stopping a run

The exit of a process, the ends of its streams, the request to stop and the polls come in any order:
that in which the watcher learns of them, where a poll that is taken although the last stream has
just ended comes before that end. Main statement: a run is complete only after all three ends, it is
stopped only at a poll and only for a reason that holds there, and the first poll at which there is
one stops it for as long as anything is missing.
-/

namespace ScriptRoster.Invocation

open Text

/-- What a run has come to is what its events and its limit allow. -/
structure Obeys (limit : Option Duration) (events : List Event) (progress : Progress) : Prop where
  /-- It is complete only after the exit and the ends of both streams. -/
  completed : ∀ captured, progress = .completed captured → captured.LearnedFrom events
  /-- It is cancelled only if a stop was asked for before some poll. -/
  cancelled : progress = .stopped .cancelled →
    ∃ earlier elapsed later, events = earlier ++ .poll elapsed :: later ∧ .stopAsked ∈ earlier
  /-- It times out only under a limit, at a poll at which that has passed and no stop was asked
  for. -/
  timedOut : ∀ most, progress = .stopped (.timedOut most) →
    limit = some most ∧ ∃ earlier elapsed later, events = earlier ++ .poll elapsed :: later ∧
      most.nanoseconds ≤ elapsed ∧ .stopAsked ∉ earlier
  /-- Without a limit and a request it is not stopped. -/
  unstopped : limit = none → .stopAsked ∉ events → ∀ stop, progress ≠ .stopped stop
  /-- The first poll with a reason stops a run that is not complete, for that reason. -/
  stopped : ∀ earlier elapsed later stop, events = earlier ++ .poll elapsed :: later →
    Waits earlier → Undisturbed limit earlier → Due limit earlier elapsed stop →
    progress = .stopped stop

/-- A watch obeys its limit and its stop, whatever it is told and in which order. -/
theorem obeys_follow (limit : Option Duration) (events : List Event) :
    Obeys limit events (Progress.follow limit (.watching .start) events) where
  completed captured complete := by
    obtain ⟨earlier, later, rfl, learned, -⟩ := exists_of_completed complete
    exact learned.append later
  cancelled ends := by
    obtain ⟨earlier, elapsed, later, split, due⟩ := exists_due_of_stopped ends
    cases due with
    | cancelled asked => exact ⟨earlier, elapsed, later, split, asked⟩
  timedOut most ends := by
    obtain ⟨earlier, elapsed, later, split, due⟩ := exists_due_of_stopped ends
    cases due with
    | timedOut limited passed unasked =>
        exact ⟨limited, earlier, elapsed, later, split, passed, unasked⟩
  unstopped unlimited unasked stop ends := by
    obtain ⟨earlier, elapsed, later, split, due⟩ := exists_due_of_stopped ends
    cases due with
    | cancelled asked =>
        apply unasked
        rw [split]
        exact List.mem_append_left _ asked
    | timedOut limited => cases unlimited.symm.trans limited
  stopped earlier elapsed later stop split waits undisturbed due := by
    rw [split]
    exact stopped_of_due waits undisturbed due later

/-- A run that was started obeys its events and its limit, in whatever order it learns of the exit,
the ends of the streams, the request to stop and the polls: it is complete only after the exit and
both ends, it is cancelled only at a poll after a request, it times out only at a poll after its
limit and before any request, and the first poll at which one of the two is so stops it while
anything is missing, be it only the end of a stream that others hold open. So does every run of an
interpreter, over the events of its slices. -/
theorem run_obeys :
    (∀ limit events, Obeys limit events (Progress.follow limit (.watching .start) events)) ∧
    ∀ host interpreter script name cancelled begun run,
      Run.begin host interpreter script name cancelled = .ok (begun, run) → ∀ stopAt n,
        Obeys interpreter.limit (run.learned stopAt n begun)
          (run.after stopAt n begun).2.progress := by
  refine ⟨obeys_follow, ?_⟩
  intro host interpreter script name cancelled begun run began stopAt n
  obtain ⟨-, limit, fresh, -⟩ := Run.fresh_of_begin began
  rw [Run.progress_after, fresh, limit]
  exact obeys_follow ..

/-- The exit of a process, the end of its output, a poll before the limit, and a request to stop,
while others hold the error stream open. -/
def heldOpen : List Event :=
  [.exited (.seen (.code 0)), .outputEnded (.seen []), .poll 100000000, .stopAsked]

/-- A run under a limit of a second that has exited is stopped by the next poll after a request,
since its error stream is held open; and what an interpreter does in its first slice obeys. -/
theorem run_obeys_held_open :
    Waits heldOpen ∧ Undisturbed (some ⟨1000000000⟩) heldOpen ∧
      Due (some ⟨1000000000⟩) heldOpen 200000000 .cancelled ∧
      Progress.follow (some ⟨1000000000⟩) (.watching .start)
        (heldOpen ++ [.poll 200000000, .errorsEnded (.seen [])]) = .stopped .cancelled ∧
      ∃ begun run,
        Run.begin .withProgram Profile.calling.interpreter onlyScript "A" false =
          .ok (begun, run) ∧
        Obeys none (run.learned none 1 begun) (run.after none 1 begun).2.progress := by
  have waits : Waits heldOpen :=
    .errors (by simp [heldOpen]) (by simp [heldOpen]) (by simp [heldOpen])
  have due : Due (some ⟨1000000000⟩) heldOpen 200000000 .cancelled :=
    .cancelled (by simp [heldOpen])
  have early : ∀ elapsed stop, Event.poll 100000000 = .poll elapsed →
      ¬ Due (some ⟨1000000000⟩) [.exited (.seen (.code 0)), .outputEnded (.seen [])] elapsed
        stop := by
    rintro elapsed stop ⟨⟩ (⟨asked⟩ | ⟨limited, passed, unasked⟩)
    · simp at asked
    · cases limited
      exact absurd passed (by decide)
  have undisturbed : Undisturbed (some ⟨1000000000⟩) heldOpen :=
    ((((undisturbed_nil _).append_singleton (by simp)).append_singleton
      (by simp)).append_singleton early).append_singleton (by simp)
  obtain ⟨begun, run, began⟩ := Run.begin_withProgram
  exact ⟨waits, undisturbed, due,
    (run_obeys.1 _ _).stopped heldOpen _ _ _ rfl waits undisturbed due,
    begun, run, began, run_obeys.2 _ _ _ _ _ _ _ began none 1⟩

end ScriptRoster.Invocation
