import ScriptRoster.Proofs.Session.Life

/-!
# Who ends a wait

A session that shows that something is under way has a task at work under the present generation,
which looks for the path or loads the names. Each way in which such a task comes to its end either
ends the wait or leaves it to another such task, so a session without open tasks never waits.
-/

namespace ScriptRoster

open Cache

/-- The generation under which a task looks for a path or loads names. -/
def Stage.works? (stage : Stage) : Option Nat :=
  stage.sought? <|> stage.errand?.map Errand.generation

section Steps

variable {request : Request} {before after : Session} {stage onward : Stage} {generation : Nat}
  {result : Except ExtractionError Report}

theorem Stage.works_eq_some (works : stage.works? = some generation) :
    stage.sought? = some generation ∨
      ∃ errand, stage.errand? = some errand ∧ errand.generation = generation := by
  rw [works?, Option.orElse_eq_orElse, Option.orElse_eq_or, Option.or_eq_some_iff] at works
  exact works.imp_right fun ⟨_, loads⟩ => Option.map_eq_some_iff.mp loads

theorem Session.isLoading_of_ready {session : Session} {location : Location}
    (ready : session.path = .ready location) :
    session.isLoading = decide (session.load = .loading) := by
  simp [isLoading, ready]

theorem Session.SameCourse.isLoading (same : before.SameCourse after) :
    after.isLoading = before.isLoading := by
  rw [Session.isLoading, Session.isLoading, same.path, same.load]

/-- A path that was looked for is no longer waited for once it is found, or not. -/
theorem Session.isLoading_located (idle : before.load = .idle) (raw : String)
    (found : Except ResolveError Location) :
    ({ before with path := .ofFound raw found } : Session).isLoading = false := by
  cases found <;> simp [isLoading, PathState.ofFound, idle]

/-- A load that records its result ends the wait. -/
theorem Session.isLoading_record {location : Location} (ready : before.path = .ready location) :
    (before.record result).isLoading = false := by
  rw [isLoading_of_ready ((path_record before result).trans ready)]
  cases result <;> rfl

/-- If something is under way after a turn, then the task that does it works under the present
generation, or something was under way before that this task had nothing to do with. -/
theorem Turn.works_of_isLoading (turn : Turn request before stage after onward)
    (placed : stage.Placed before) (coherent : before.Coherent)
    (loading : after.isLoading = true) :
    onward.works? = some after.generation ∨
      before.isLoading = true ∧ after.generation = before.generation ∧
        stage.works? ≠ some before.generation := by
  cases turn with
  | calm same sought errand =>
      rw [same.isLoading] at loading
      have works : onward.works? = stage.works? := by rw [Stage.works?, Stage.works?, sought, errand]
      by_cases mine : stage.works? = some before.generation
      · exact .inl (by rw [works, mine, same.generation])
      · exact .inr ⟨loading, same.generation, mine⟩
  | repointed => exact .inl rfl
  | @located raw generation next found current =>
      obtain ⟨sought, resolving⟩ := (placed.sought _ rfl).2 current.symm
      have idle := (coherent.unready (by simp [resolving])).2
      rw [Session.isLoading_located idle] at loading
      cases loading
  | overtaken other => exact .inr ⟨loading, rfl, fun same => other (Option.some.inj same).symm⟩
  | begun => exact .inl rfl
  | recorded current =>
      obtain ⟨location, ready, -⟩ := (placed.errand _ rfl).2 current.symm
      rw [Session.isLoading_record ready] at loading
      cases loading
  | discarded other => exact .inr ⟨loading, rfl, fun same => other (Option.some.inj same).symm⟩

end Steps

/-! ## Runs -/

namespace Traffic

variable {traffic : Traffic} {event : Event} {index : Nat} {task : Task}

/-- If something is under way, some task works on it. -/
def Attended (traffic : Traffic) : Prop :=
  traffic.scene.session.isLoading = true →
    ∃ (index : Nat) (task : Task), traffic.tasks[index]? = some task ∧
      task.stage.works? = some traffic.scene.session.generation

theorem attended_quiet (profile : Profile) (world : World) :
    (quiet ⟨.start profile, world⟩).Attended := by
  intro loading
  cases loading

theorem Attended.advance (attended : traffic.Attended) (orderly : traffic.Orderly)
    (there : traffic.tasks[index]? = some task) : (traffic.advance index task).Attended := by
  intro loading
  rw [scene_advance] at loading ⊢
  apply exists_advance (·.works? = some (task.next traffic.scene).1.session.generation) there
  apply ((task.turn_next traffic.scene).works_of_isLoading (orderly.placed index task there)
    orderly.coherent loading).imp_right
  rintro ⟨before, same, idle⟩
  rw [same]
  exact ⟨attended before, idle⟩

theorem Attended.rests (attended : traffic.Attended) (rests : traffic.Rests event) :
    (traffic.next event).Attended := by
  intro loading
  rw [rests.session] at loading ⊢
  exact rests.exists_kept (·.works? = some traffic.scene.session.generation) (attended loading)

theorem Attended.next (attended : traffic.Attended) (orderly : traffic.Orderly) (event : Event) :
    (traffic.next event).Attended := by
  rcases traffic.rests_or_advances event with rests | ⟨index, task, rfl, there, same⟩
  · exact attended.rests rests
  · rw [same]
    exact attended.advance orderly there

theorem Attended.run (attended : traffic.Attended) (orderly : traffic.Orderly)
    (events : List Event) : (events.foldl Traffic.next traffic).Attended := by
  induction events generalizing traffic with
  | nil => exact attended
  | cons event events ih => exact ih (attended.next orderly event) (orderly.next event)

end Traffic

/-- A task that works on something is not answered yet. -/
theorem Task.unanswered_of_works {task : Task} {generation : Nat}
    (works : task.stage.works? = some generation) : task.answer? = none := by
  obtain ⟨request, stage, cancelled⟩ := task
  cases stage <;> first | rfl | cases works

/-- In every order of steps, whatever is found where and whatever the store refuses: if a session
shows that something is under way, then a call is not answered yet that looks for the path of the
present generation or loads names under it. So nothing is under way once all calls are answered. -/
theorem loading_attended (profile : Profile) (world : World) (events : List Event) :
    let now := events.foldl Traffic.next (.quiet ⟨.start profile, world⟩)
    let generation := now.scene.session.generation
    (now.scene.session.isLoading = true →
      ∃ (index : Nat) (task : Task), now.tasks[index]? = some task ∧ task.answer? = none ∧
        (task.stage.sought? = some generation ∨
          ∃ errand, task.stage.errand? = some errand ∧ errand.generation = generation)) ∧
      ((∀ task ∈ now.tasks, task.answer?.isSome) → now.scene.session.isLoading = false) := by
  intro now generation
  have attended : now.Attended := (Traffic.attended_quiet profile world).run
    (Traffic.orderly_quiet (Session.coherent_start profile)) events
  constructor
  · intro loading
    obtain ⟨index, task, there, works⟩ := attended loading
    exact ⟨index, task, there, Task.unanswered_of_works works, Stage.works_eq_some works⟩
  · intro answered
    by_contra loading
    obtain ⟨index, task, there, works⟩ := attended (Bool.of_not_eq_false loading)
    have told := answered task (List.mem_of_getElem? there)
    rw [Task.unanswered_of_works works] at told
    cases told

end ScriptRoster
