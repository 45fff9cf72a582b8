import ScriptRoster.Proofs.Session.Traffic

/-!
# Generations

Whenever a session is pointed at a script, a generation begins, and what was begun under an older
one can no longer change its course. In every order of steps one task at most looks for the path of
a generation, each load of the present generation works on the script that the session has, and
nothing is listed without a script.
-/

namespace ScriptRoster

open Files

/-- Without a script nothing is listed or loaded, and what is listed was loaded. -/
structure Session.Coherent (session : Session) : Prop where
  unready : (∀ location, session.path ≠ .ready location) → session.names = [] ∧ session.load = .idle
  idle : session.load = .idle → session.names = []
  failed : ∀ message, session.load = .failed message → session.names = []

/-- A task that looks for a path or loads a script does so under a generation that has begun; if it
is the present one, the path is still looked for, or the script is the one that the session has. -/
structure Stage.Placed (stage : Stage) (session : Session) : Prop where
  sought : ∀ generation, stage.sought? = some generation →
    generation ≤ session.generation ∧
      (generation = session.generation → ∃ raw, session.path = .resolving raw)
  errand : ∀ errand, stage.errand? = some errand →
    errand.generation ≤ session.generation ∧
      (errand.generation = session.generation →
        ∃ location, session.path = .ready location ∧ errand.path = location.resolved)

section Steps

variable {request : Request} {before after : Session} {stage next other : Stage}

theorem Session.coherent_start (profile : Profile) : (Session.start profile).Coherent where
  unready _ := ⟨rfl, rfl⟩
  idle _ := rfl
  failed _ := nofun

theorem Session.SameCourse.coherent (same : before.SameCourse after)
    (coherent : before.Coherent) : after.Coherent := by
  constructor
  · rw [same.path, same.names, same.load]
    exact coherent.unready
  · rw [same.names, same.load]
    exact coherent.idle
  · rw [same.names, same.load]
    exact coherent.failed

theorem Stage.Placed.of_eq (placed : stage.Placed before) (sought : next.sought? = stage.sought?)
    (errand : next.errand? = stage.errand?) (path : after.path = before.path)
    (generation : after.generation = before.generation) : next.Placed after := by
  constructor
  · rw [sought, path, generation]
    exact placed.sought
  · rw [errand, path, generation]
    exact placed.errand

theorem Stage.placed_of_none (sought : stage.sought? = none) (errand : stage.errand? = none) :
    stage.Placed before := by
  constructor
  · intro generation seeks
    rw [sought] at seeks
    cases seeks
  · intro work loads
    rw [errand] at loads
    cases loads

theorem sought_configured (next : Option LoadKind) (result : Except SessionError Location) :
    (Scene.configured next result).sought? = none := by
  cases next with
  | none => rfl
  | some kind => cases result <;> rfl

theorem errand_configured (next : Option LoadKind) (result : Except SessionError Location) :
    (Scene.configured next result).errand? = none := by
  cases next with
  | none => rfl
  | some kind => cases result <;> rfl

/-- A turn keeps a session coherent. -/
theorem Turn.coherent (turn : Turn request before stage after next) (placed : stage.Placed before)
    (coherent : before.Coherent) : after.Coherent := by
  cases turn with
  | calm same => exact same.coherent coherent
  | repointed => exact ⟨fun _ => ⟨rfl, rfl⟩, fun _ => rfl, fun _ => nofun⟩
  | located current =>
      obtain ⟨raw, resolving⟩ := (placed.sought _ rfl).2 current.symm
      obtain ⟨unlisted, idle⟩ := coherent.unready (by simp [resolving])
      exact ⟨fun _ => ⟨unlisted, idle⟩, fun _ => unlisted, fun _ _ => unlisted⟩
  | overtaken => exact coherent
  | begun _ _ ready => exact ⟨fun unready => absurd ready (unready _), nofun, fun _ => nofun⟩
  | @recorded errand result current =>
      obtain ⟨location, ready, -⟩ := (placed.errand _ rfl).2 current.symm
      constructor
      · intro unready
        rw [Session.path_record] at unready
        exact absurd ready (unready location)
      · cases result with
        | ok report => exact nofun
        | error error => exact nofun
      · cases result with
        | ok report => exact fun _ => nofun
        | error error => exact fun _ _ => rfl
  | discarded => exact coherent

/-- A turn keeps the task that does it in its place. -/
theorem Turn.placed (turn : Turn request before stage after next) (placed : stage.Placed before) :
    next.Placed after := by
  cases turn with
  | calm same sought errand => exact placed.of_eq sought errand same.path same.generation
  | @repointed raw =>
      constructor
      · intro generation seeks
        cases seeks
        exact ⟨Nat.le_refl _, fun _ => ⟨raw, rfl⟩⟩
      · exact fun _ => nofun
  | located => exact Stage.placed_of_none (sought_configured _ _) (errand_configured _ _)
  | overtaken => exact Stage.placed_of_none (sought_configured _ _) (errand_configured _ _)
  | @begun _ kind location _ _ ready =>
      constructor
      · exact fun _ => nofun
      · intro errand loads
        cases loads
        exact ⟨Nat.le_refl _, fun _ => ⟨location, ready, rfl⟩⟩
  | recorded => exact Stage.placed_of_none rfl rfl
  | discarded => exact Stage.placed_of_none rfl rfl

/-- A turn leaves the other tasks in their places. -/
theorem Turn.placed_other (turn : Turn request before stage after next)
    (placed : stage.Placed before)
    (apart : ∀ generation, stage.sought? = some generation → other.sought? ≠ some generation)
    (standing : other.Placed before) : other.Placed after := by
  cases turn with
  | calm same => exact standing.of_eq rfl rfl same.path same.generation
  | repointed =>
      constructor
      · intro generation seeks
        have earlier := (standing.sought generation seeks).1
        refine ⟨Nat.le_succ_of_le earlier, ?_⟩
        intro same
        rw [same] at earlier
        exact absurd earlier (Nat.not_succ_le_self _)
      · intro errand loads
        have earlier := (standing.errand errand loads).1
        refine ⟨Nat.le_succ_of_le earlier, ?_⟩
        intro same
        rw [same] at earlier
        exact absurd earlier (Nat.not_succ_le_self _)
  | located current =>
      constructor
      · intro generation seeks
        refine ⟨(standing.sought generation seeks).1, ?_⟩
        rintro rfl
        exact absurd seeks (apart _ (congrArg some current.symm))
      · intro errand loads
        refine ⟨(standing.errand errand loads).1, ?_⟩
        intro same
        -- the path is still looked for, so no load of this generation has begun
        obtain ⟨raw, resolving⟩ := (placed.sought _ rfl).2 current.symm
        obtain ⟨location, ready, -⟩ := (standing.errand errand loads).2 same
        rw [resolving] at ready
        cases ready
  | overtaken => exact standing
  | begun => exact standing.of_eq rfl rfl rfl rfl
  | recorded =>
      exact standing.of_eq rfl rfl (Session.path_record _ _) (Session.generation_record _ _)
  | discarded => exact standing

/-- The path that is looked for after a turn was looked for before, or a generation begins. -/
theorem Turn.sought (turn : Turn request before stage after next) {generation : Nat}
    (seeks : next.sought? = some generation) :
    stage.sought? = some generation ∨ generation = before.generation + 1 := by
  cases turn with
  | calm _ sought =>
      rw [sought] at seeks
      exact .inl seeks
  | repointed => exact .inr (Option.some.inj seeks).symm
  | located | overtaken =>
      rw [sought_configured] at seeks
      cases seeks
  | begun | recorded | discarded => cases seeks

end Steps

/-- What holds of the session and its tasks in every order of steps. -/
structure Traffic.Orderly (traffic : Traffic) : Prop where
  coherent : traffic.scene.session.Coherent
  placed : ∀ (index : Nat) (task : Task), traffic.tasks[index]? = some task →
    task.stage.Placed traffic.scene.session
  alone : ∀ (index other : Nat) (task rival : Task), index ≠ other →
    traffic.tasks[index]? = some task → traffic.tasks[other]? = some rival →
      ∀ generation, task.stage.sought? = some generation →
        rival.stage.sought? ≠ some generation

namespace Traffic

variable {traffic : Traffic}

theorem orderly_quiet {scene : Scene} (coherent : scene.session.Coherent) :
    (quiet scene).Orderly where
  coherent := coherent
  placed index task there := by
    rw [quiet, List.getElem?_nil] at there
    cases there
  alone index other task rival _ there := by
    rw [quiet, List.getElem?_nil] at there
    cases there

theorem Orderly.advance (orderly : traffic.Orderly) {index : Nat} {task : Task}
    (there : traffic.tasks[index]? = some task) : (traffic.advance index task).Orderly := by
  have turn := task.turn_next traffic.scene
  have placed := orderly.placed index task there
  have unrivalled : ∀ (other : Nat) (rival : Task), other ≠ index →
      traffic.tasks[other]? = some rival →
      ∀ generation, (task.next traffic.scene).2.sought? = some generation →
        rival.stage.sought? ≠ some generation := by
    intro other rival different found generation seeks same
    rcases turn.sought seeks with before | rfl
    · exact orderly.alone index other task rival (Ne.symm different) there found _ before same
    · have begun := ((orderly.placed other rival found).sought _ same).1
      omega
  constructor
  · rw [scene_advance]
    exact turn.coherent placed orderly.coherent
  · intro other later found
    rw [scene_advance]
    rcases getElem?_advance found with ⟨rfl, rfl⟩ | ⟨different, before⟩
    · exact turn.placed placed
    · exact turn.placed_other placed
        (orderly.alone index other task later (Ne.symm different) there before)
        (orderly.placed other later before)
  · intro first second one two different foundOne foundTwo generation seeks same
    rcases getElem?_advance foundOne with ⟨rfl, rfl⟩ | ⟨otherOne, beforeOne⟩
    · rcases getElem?_advance foundTwo with ⟨rfl, -⟩ | ⟨otherTwo, beforeTwo⟩
      · exact different rfl
      · exact unrivalled second two otherTwo beforeTwo generation seeks same
    · rcases getElem?_advance foundTwo with ⟨rfl, rfl⟩ | ⟨otherTwo, beforeTwo⟩
      · exact unrivalled first one otherOne beforeOne generation same seeks
      · exact orderly.alone first second one two different beforeOne beforeTwo generation seeks same

theorem Orderly.rests (orderly : traffic.Orderly) {event : Event} (rests : traffic.Rests event) :
    (traffic.next event).Orderly := by
  constructor
  · rw [rests.session]
    exact orderly.coherent
  · intro index task there
    rw [rests.session]
    rcases rests.tasks index task there with ⟨old, before, -, same⟩ | ⟨request, -, rfl⟩
    · rw [← same]
      exact orderly.placed index old before
    · exact Stage.placed_of_none rfl rfl
  · intro index other task rival different there found generation seeks same
    rcases rests.tasks index task there with ⟨old, before, -, stage⟩ | ⟨request, -, rfl⟩
    · rcases rests.tasks other rival found with ⟨past, earlier, -, stageToo⟩ | ⟨request, -, rfl⟩
      · rw [← stage] at seeks
        rw [← stageToo] at same
        exact orderly.alone index other old past different before earlier generation seeks same
      · cases same
    · cases seeks

/-- Whatever happens, order is kept. -/
theorem Orderly.next (orderly : traffic.Orderly) (event : Event) :
    (traffic.next event).Orderly := by
  rcases traffic.rests_or_advances event with rests | ⟨index, task, -, there, same⟩
  · exact orderly.rests rests
  · rw [same]
    exact orderly.advance there

/-- There is order after every run. -/
theorem Orderly.run (orderly : traffic.Orderly) (events : List Event) :
    (events.foldl Traffic.next traffic).Orderly := by
  induction events generalizing traffic with
  | nil => exact orderly
  | cons event events ih => exact ih (orderly.next event)

end Traffic

end ScriptRoster
