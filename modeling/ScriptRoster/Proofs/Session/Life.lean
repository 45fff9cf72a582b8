import ScriptRoster.Proofs.Session.Generation

/-!
# The lives of a path and of a list

Each call that points a session at a script begins one generation, and nothing else does. Within a
generation the path is looked for once and then stays as it was found, or not found. Whatever the
order of steps, nothing is listed without a script, before a load or after one that failed, so a
session never shows names beside an error.
-/

namespace ScriptRoster

open Cache

/-- What can come of a path within one generation: it stays, or what was looked for is found or
not. -/
inductive PathState.Becomes : PathState → PathState → Prop
  | stayed (path : PathState) : Becomes path path
  | found (raw : String) (location : Location) : Becomes (.resolving raw) (.ready location)
  | missed (raw other message : String) : Becomes (.resolving raw) (.invalid other message)

theorem PathState.Becomes.trans {path later last : PathState} (first : path.Becomes later)
    (second : later.Becomes last) : path.Becomes last := by
  cases first with
  | stayed => exact second
  | found raw location =>
      cases second
      exact .found raw location
  | missed raw other message =>
      cases second
      exact .missed raw other message

/-- A path that was found stays. -/
theorem PathState.Becomes.eq_of_ready {location : Location} {later : PathState}
    (becomes : (PathState.ready location).Becomes later) : later = .ready location := by
  cases becomes
  rfl

theorem PathState.becomes_ofFound (raw sought : String) (found : Except ResolveError Location) :
    (PathState.resolving sought).Becomes (.ofFound raw found) := by
  cases found with
  | ok location => exact .found sought location
  | error error => exact .missed sought raw error.message

/-! ## Steps -/

/-- Whether a task has not done anything yet. -/
def Stage.isStart : Stage → Bool
  | .start => true
  | _ => false

/-- Whether the next step of a task points the session at a script. -/
def Task.repoints (task : Task) : Bool := task.stage.isStart && task.request.target?.isSome

/-- Whether a task has pointed the session at a script. -/
def Task.hasRepointed (task : Task) : Bool := !task.stage.isStart && task.request.target?.isSome

section Steps

variable {request : Request} {before after : Session} {scene there : Scene} {stage next : Stage}

theorem Stage.isStart_of_errand {errand : Errand} (loads : stage.errand? = some errand) :
    stage.isStart = false := by
  cases stage <;> first | rfl | cases loads

/-- A request to load does not point the session at a script. -/
theorem Stage.begins_not_repointing {kind : LoadKind} (begins : stage.begins? request = some kind) :
    (stage.isStart && request.target?.isSome) = false := by
  cases stage with
  | start =>
      cases request with
      | load | reload => rfl
      | setScript | configure | run => cases begins
  | startLoad => rfl
  | _ => cases begins

/-- A step begins a generation if and only if it points the session at a script. -/
theorem Act.generation_eq (act : Act request scene stage there next) :
    there.session.generation =
      scene.session.generation + if stage.isStart && request.target?.isSome then 1 else 0 := by
  cases act with
  | repointed asked => simp [Stage.isStart, asked, Session.repointed]
  | begun begins | refused begins => simp [Stage.begins_not_repointing begins]
  | recorded => simp [Stage.isStart, Session.generation_record]
  | listed asked | unlisted asked => simp [asked, Request.target?]
  | @ended stage _ _ _ calls =>
      cases stage with
      | spawn | watch => simp [Stage.isStart]
      | _ => cases calls
  | resolved | located | overtaken | discarded | spawned | watched | concluded | rested =>
      simp [Stage.isStart]

theorem Task.generation_next (scene : Scene) (task : Task) :
    (task.next scene).1.session.generation =
      scene.session.generation + if task.repoints then 1 else 0 := by
  rcases task.move_or_act scene with move | act
  · obtain ⟨errand, loads, -⟩ := move.exists_errand
    have begun := Stage.isStart_of_errand loads
    simp [Task.repoints, begun, move.sameCourse.generation]
  · exact act.generation_eq

/-- No step leads back to the start of a task. -/
theorem Turn.isStart_next (turn : Turn request before stage after next) : next.isStart = false := by
  have configured : ∀ (following : Option LoadKind) (result : Except SessionError Location),
      (Scene.configured following result).isStart = false := by
    intro following result
    cases following with
    | none => rfl
    | some kind => cases result <;> rfl
  cases turn with
  | calm _ _ _ _ onward =>
      cases next with
      | start => exact absurd rfl onward
      | _ => rfl
  | located | overtaken => exact configured _ _
  | repointed | begun | recorded | discarded => rfl

/-- A turn that begins no generation keeps the path, or tells what has come of it. -/
theorem Turn.path_becomes (turn : Turn request before stage after next)
    (placed : stage.Placed before) (same : after.generation = before.generation) :
    before.path.Becomes after.path := by
  cases turn with
  | calm course =>
      rw [course.path]
      exact .stayed _
  | repointed => exact absurd same (Nat.succ_ne_self _)
  | @located raw generation following found current =>
      obtain ⟨sought, resolving⟩ := (placed.sought _ rfl).2 current.symm
      rw [resolving]
      exact PathState.becomes_ofFound raw sought found
  | recorded =>
      rw [Session.path_record]
      exact .stayed _
  | overtaken | begun | discarded => exact .stayed _

/-- A turn that begins a generation begins to look for a path. -/
theorem Turn.path_resolving (turn : Turn request before stage after next)
    (grown : after.generation = before.generation + 1) : ∃ raw, after.path = .resolving raw := by
  cases turn with
  | repointed => exact ⟨_, rfl⟩
  | calm course => exact absurd (course.generation.symm.trans grown) (Nat.succ_ne_self _).symm
  | recorded =>
      rw [Session.generation_record] at grown
      exact absurd grown (Nat.succ_ne_self _).symm
  | located | overtaken | begun | discarded => exact absurd grown (Nat.succ_ne_self _).symm

end Steps

/-! ## Runs -/

namespace Traffic

variable {traffic : Traffic} {event : Event}

/-- Whether an event points the session at a script. -/
def repoints (traffic : Traffic) : Event → Bool
  | .go index => (traffic.tasks[index]?.map Task.repoints).getD false
  | _ => false

theorem Rests.repoints_eq (rests : traffic.Rests event) : traffic.repoints event = false := by
  cases event with
  | go index => simp [repoints, rests.idle index rfl]
  | ask | cancel | edit => rfl

/-- A generation begins with an event that points the session at a script, and with no other. -/
theorem generation_next (traffic : Traffic) (event : Event) :
    (traffic.next event).scene.session.generation =
      traffic.scene.session.generation + if traffic.repoints event then 1 else 0 := by
  rcases traffic.rests_or_advances event with rests | ⟨index, task, rfl, there, same⟩
  · simp [rests.session, rests.repoints_eq]
  · have repoints : traffic.repoints (.go index) = task.repoints := by
      simp [Traffic.repoints, there]
    rw [same, scene_advance, repoints]
    exact task.generation_next traffic.scene

theorem generation_le_foldl (traffic : Traffic) (events : List Event) :
    traffic.scene.session.generation ≤
      (events.foldl Traffic.next traffic).scene.session.generation := by
  induction events generalizing traffic with
  | nil => exact Nat.le_refl _
  | cons event events ih =>
      have step := traffic.generation_next event
      have rest := ih (traffic.next event)
      rw [List.foldl_cons]
      omega

theorem Orderly.path_becomes_next (orderly : traffic.Orderly)
    (same : (traffic.next event).scene.session.generation = traffic.scene.session.generation) :
    traffic.scene.session.path.Becomes (traffic.next event).scene.session.path := by
  rcases traffic.rests_or_advances event with rests | ⟨index, task, rfl, there, advances⟩
  · rw [rests.session]
    exact .stayed _
  · rw [advances] at same ⊢
    exact (task.turn_next traffic.scene).path_becomes (orderly.placed index task there) same

/-- As long as no generation begins, the path is looked for once at most. -/
theorem Orderly.path_becomes (orderly : traffic.Orderly) (events : List Event)
    (same : (events.foldl Traffic.next traffic).scene.session.generation =
      traffic.scene.session.generation) :
    traffic.scene.session.path.Becomes (events.foldl Traffic.next traffic).scene.session.path := by
  induction events generalizing traffic with
  | nil => exact .stayed _
  | cons event events ih =>
      have step := traffic.generation_next event
      have rest := generation_le_foldl (traffic.next event) events
      rw [List.foldl_cons] at same ⊢
      have first : (traffic.next event).scene.session.generation =
          traffic.scene.session.generation := by omega
      exact (orderly.path_becomes_next first).trans
        (ih (orderly.next event) (same.trans first.symm))

theorem path_resolving_next (repoints : traffic.repoints event = true) :
    ∃ raw, (traffic.next event).scene.session.path = .resolving raw := by
  have grown := traffic.generation_next event
  rw [if_pos repoints] at grown
  rcases traffic.rests_or_advances event with rests | ⟨index, task, rfl, -, advances⟩
  · rw [rests.repoints_eq] at repoints
    cases repoints
  · rw [advances] at grown ⊢
    exact (task.turn_next traffic.scene).path_resolving grown

/-! ## The number of generations -/

theorem countP_advance {index : Nat} {task : Task} (there : traffic.tasks[index]? = some task) :
    (traffic.advance index task).tasks.countP Task.hasRepointed =
      traffic.tasks.countP Task.hasRepointed + if task.repoints then 1 else 0 := by
  have counted := countP_advance_add Task.hasRepointed there
  have onward : (task.next traffic.scene).2.isStart = false :=
    (task.turn_next traffic.scene).isStart_next
  simp only [Task.step, Task.hasRepointed, Task.repoints, onward, Bool.not_false,
    Bool.true_and] at counted ⊢
  by_cases begun : task.stage.isStart = true
  · simpa [begun] using counted
  · simpa [begun] using counted

theorem countP_rests (rests : traffic.Rests event) :
    (traffic.next event).tasks.countP Task.hasRepointed =
      traffic.tasks.countP Task.hasRepointed :=
  rests.countP_eq (fun _ => rfl) fun _ => rfl

theorem countP_next (traffic : Traffic) (event : Event) :
    (traffic.next event).tasks.countP Task.hasRepointed =
      traffic.tasks.countP Task.hasRepointed + if traffic.repoints event then 1 else 0 := by
  rcases traffic.rests_or_advances event with rests | ⟨index, task, rfl, there, same⟩
  · simp [countP_rests rests, rests.repoints_eq]
  · rw [same, countP_advance there]
    simp [repoints, there]

/-- The generation tells how many calls have pointed the session at a script. -/
theorem generation_eq_countP (counted : traffic.scene.session.generation =
      traffic.tasks.countP Task.hasRepointed) (events : List Event) :
    (events.foldl Traffic.next traffic).scene.session.generation =
      (events.foldl Traffic.next traffic).tasks.countP Task.hasRepointed := by
  induction events generalizing traffic with
  | nil => exact counted
  | cons event events ih =>
      apply ih
      rw [generation_next, countP_next, counted]

end Traffic

/-- Nothing is shown beside an error, and a path that was not found is not shown beside a load that
failed. -/
theorem Session.Coherent.no_names_beside_error {session : Session} (coherent : session.Coherent)
    (wrong : session.lastError?.isSome = true) : session.names = [] := by
  unfold Session.lastError? at wrong
  split at wrong
  · next invalid => exact (coherent.unready (by simp [invalid])).1
  · next failed _ => exact coherent.failed _ failed
  · cases wrong

/-- In every order of steps: without a script nothing is listed and no load has begun; nothing is
listed before a load, or after one that failed; the generation tells how many calls have pointed the
session at a script, and grows by one with each of them; a generation begins with a path that is
looked for, and within it the path is found, or not, once at most. So no names are ever shown beside
an error, and no failed load beside a path that was not found. -/
theorem session_state_invariant (profile : Profile) (world : World) (first later : List Event) :
    let before := first.foldl Traffic.next (.quiet ⟨.start profile, world⟩)
    let after := later.foldl Traffic.next before
    let session := before.scene.session
    ((∀ location, session.path ≠ .ready location) → session.names = [] ∧ session.load = .idle) ∧
      ((session.load = .idle ∨ ∃ message, session.load = .failed message) →
        session.names = []) ∧
      (session.generation = before.tasks.countP Task.hasRepointed ∧
        session.generation ≤ after.scene.session.generation ∧
        ∀ event, (before.next event).scene.session.generation =
          session.generation + if before.repoints event then 1 else 0) ∧
      ((∀ event, before.repoints event = true →
          ∃ raw, (before.next event).scene.session.path = .resolving raw) ∧
        (after.scene.session.generation = session.generation →
          session.path.Becomes after.scene.session.path)) ∧
      (session.lastError?.isSome = true → session.names = []) ∧
      ∀ raw message reason,
        ¬ (session.path = .invalid raw message ∧ session.load = .failed reason) := by
  intro before after session
  have orderly : before.Orderly :=
    (Traffic.orderly_quiet (Session.coherent_start profile)).run first
  have coherent : session.Coherent := orderly.coherent
  refine ⟨coherent.unready, ?_, ⟨?_, ?_, ?_⟩, ⟨?_, ?_⟩, ?_, ?_⟩
  · rintro (idle | ⟨message, failed⟩)
    · exact coherent.idle idle
    · exact coherent.failed message failed
  · exact Traffic.generation_eq_countP rfl first
  · exact Traffic.generation_le_foldl before later
  · exact Traffic.generation_next before
  · exact fun event repoints => Traffic.path_resolving_next repoints
  · exact orderly.path_becomes later
  · exact coherent.no_names_beside_error
  · rintro raw message reason ⟨invalid, failed⟩
    have idle := (coherent.unready (by simp [invalid])).2
    rw [failed] at idle
    cases idle

end ScriptRoster
