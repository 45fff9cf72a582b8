import ScriptRoster.Proofs.Session.Answering

/-!
# Calls that are superseded

Of the calls that point a session at a script, the one that began last owns the path, in whatever
order the scripts are found: an older call that comes back is told that it was superseded and leaves
the session alone.
-/

namespace ScriptRoster

open Cache

/-- How far a call that has begun to look for a script has come: it looks for the script, it has
found it or not and comes to record that, or it is past that. -/
inductive Stage.Sought (raw : String) (generation : Nat) (next : Option LoadKind) : Stage → Prop
  | looks : Sought raw generation next (.resolve raw generation next)
  | settles {found} : Sought raw generation next (.settle raw generation next found)
  | past {stage} (sought : stage.sought? = none) (begun : stage ≠ .start) :
      Sought raw generation next stage

/-- What a call that configures a script is answered with if another such call began since. -/
def supersededAnswer : Option LoadKind → Answer
  | none => .located (.error .superseded)
  | some kind => kind.answer (.error .superseded)

theorem configured_superseded (next : Option LoadKind) :
    Scene.configured next (.error .superseded) = .done (supersededAnswer next) := by
  cases next <;> rfl

/-- A call that has been superseded still looks for its script, or it has been told so, after which
it has so many steps to go at most. -/
inductive Stage.Superseded (generation : Nat) (next : Option LoadKind) : Nat → Stage → Prop
  | looks {raw steps} : Superseded generation next (steps + 2) (.resolve raw generation next)
  | settles {raw found steps} :
      Superseded generation next (steps + 1) (.settle raw generation next found)
  | told {steps} : Superseded generation next steps (.done (supersededAnswer next))

theorem PathState.eq_of_ofFound {raw : String} {found : Except ResolveError Location}
    {later : PathState} (becomes : (PathState.ofFound raw found).Becomes later) :
    later = .ofFound raw found := by
  cases found with
  | ok location => exact becomes.eq_of_ready
  | error error =>
      cases becomes
      rfl

/-- A path that nobody looks for stays away. -/
theorem PathState.Becomes.eq_of_unconfigured {later : PathState}
    (becomes : PathState.unconfigured.Becomes later) : later = .unconfigured := by
  cases becomes
  rfl

section Steps

variable {request : Request} {before after : Session} {stage onward : Stage} {scene : Scene}
  {task : Task} {raw : String} {generation : Nat} {next : Option LoadKind}
  {found : Except ResolveError Location} {errand : Errand}
  {result : Except ExtractionError Report}

/-- While no generation begins, only the task that looks for the path of the session changes it. -/
theorem Turn.path_eq (turn : Turn request before stage after onward)
    (same : after.generation = before.generation)
    (unsought : stage.sought? ≠ some before.generation) : after.path = before.path := by
  cases turn with
  | calm course => exact course.path
  | repointed => exact absurd same (Nat.succ_ne_self _)
  | located current => exact absurd (congrArg some current.symm) unsought
  | overtaken | begun | discarded => rfl
  | recorded => exact Session.path_record _ _

theorem Stage.sought_past_configured (following : Option LoadKind)
    (told : Except SessionError Location) :
    (Scene.configured following told).Sought raw generation next := by
  refine .past (sought_configured following told) ?_
  cases following with
  | none => nofun
  | some kind => cases told <;> nofun

/-- A task that has begun and looks for no script never does. -/
theorem Turn.unsought_next (turn : Turn request before stage after onward)
    (unsought : stage.sought? = none) (begun : stage ≠ .start) :
    onward.sought? = none ∧ onward ≠ .start := by
  cases turn with
  | calm _ sought _ _ onward => exact ⟨sought.trans unsought, onward⟩
  | repointed => exact absurd rfl begun
  | located | overtaken => cases unsought
  | begun | recorded | discarded => exact ⟨rfl, nofun⟩

/-- A call looks for one script, under one generation, and does so once. -/
theorem Task.sought_next (scene : Scene) (sought : task.stage.Sought raw generation next) :
    (task.next scene).2.Sought raw generation next := by
  obtain ⟨request, stage, cancelled⟩ := task
  cases sought with
  | looks => exact .settles
  | @settles found =>
      show (scene.settle raw generation next found).2.Sought raw generation next
      by_cases current : scene.session.generation = generation
      · obtain ⟨world, -, settle⟩ := scene.settle_current raw next found current
        rw [settle]
        exact Stage.sought_past_configured _ _
      · rw [scene.settle_superseded raw next found current]
        exact Stage.sought_past_configured _ _
  | past unsought begun =>
      obtain ⟨sought, onward⟩ :=
        (Task.turn_next scene ⟨request, stage, cancelled⟩).unsought_next unsought begun
      exact .past sought onward

theorem Task.setScript_next (scene : Scene) (asked : request.target? = some (raw, next))
    (cancelled : Bool) :
    ∃ world, (Task.mk request .start cancelled).next scene =
      (⟨scene.session.repointed raw, world⟩, .resolve raw (scene.session.generation + 1) next) := by
  obtain ⟨world, -, setScript⟩ := scene.setScript_eq raw next
  exact ⟨world, (Scene.start_of_target scene asked).trans setScript⟩

theorem Task.resolve_next (scene : Scene) (stage : task.stage = .resolve raw generation next) :
    ∃ world, task.next scene =
      (⟨scene.session, world⟩,
        .settle raw generation next (Location.resolve scene.world.host raw)) := by
  obtain ⟨world, -, resolve⟩ := scene.resolve_eq raw generation next
  refine ⟨world, ?_⟩
  rw [Task.next, stage]
  exact resolve

theorem Task.settle_next (stage : task.stage = .settle raw generation next found)
    (current : scene.session.generation = generation) :
    ∃ world, task.next scene =
      (⟨{ scene.session with path := .ofFound raw found }, world⟩,
        Scene.configured next (found.mapError .path)) := by
  obtain ⟨world, -, settle⟩ := scene.settle_current raw next found current
  refine ⟨world, ?_⟩
  rw [Task.next, stage]
  exact settle

/-- A call that comes back under a newer generation leaves everything as it is, and is told that it
was superseded, whether it has found its script or not. -/
theorem Task.settle_superseded (stage : task.stage = .settle raw generation next found)
    (other : scene.session.generation ≠ generation) :
    task.next scene = (scene, .done (supersededAnswer next)) := by
  rw [Task.next, stage, ← configured_superseded]
  exact scene.settle_superseded raw next found other

theorem Stage.Superseded.succ {steps : Nat} (superseded : stage.Superseded generation next steps) :
    stage.Superseded generation next (steps + 1) := by
  cases superseded with
  | looks => exact .looks
  | settles => exact .settles
  | told => exact .told

/-- A call that has been superseded leaves the session alone, and has one step less to go. -/
theorem Task.superseded_next {steps : Nat} (older : generation < scene.session.generation)
    (superseded : task.stage.Superseded generation next (steps + 1)) :
    (task.next scene).1.session = scene.session ∧
      (task.next scene).2.Superseded generation next steps := by
  generalize stage : task.stage = far at superseded
  cases superseded with
  | looks =>
      obtain ⟨world, looks⟩ := Task.resolve_next scene stage
      rw [looks]
      exact ⟨rfl, .settles⟩
  | settles =>
      rw [Task.settle_superseded stage (Nat.ne_of_gt older)]
      exact ⟨rfl, .told⟩
  | told =>
      rw [Task.next, stage]
      exact ⟨rfl, .told⟩

end Steps

/-! ## Runs -/

namespace Traffic

/-- Whether one of some events points the session at a script. -/
def repointedBy (traffic : Traffic) : List Event → Bool
  | [] => false
  | event :: rest => traffic.repoints event || (traffic.next event).repointedBy rest

/-- A call looks for a script and has not recorded yet whether it is there. -/
def Looks (traffic : Traffic) (index : Nat) : Prop :=
  ∃ task, traffic.tasks[index]? = some task ∧ task.stage.sought?.isSome

/-- In the course of some events a call has looked for its script, has recorded what it has found,
and was told so or went on to load the script. -/
def Records (begun : Traffic) (events : List Event) (index : Nat) (raw : String)
    (next : Option LoadKind) (found : Except ResolveError Location) : Prop :=
  ∃ sooner between rest, events = sooner ++ .go index :: (between ++ .go index :: rest) ∧
    found = Location.resolve (sooner.foldl Traffic.next begun).scene.world.host raw ∧
    ∃ task, ((sooner ++ .go index :: (between ++ [Event.go index])).foldl Traffic.next begun).tasks[index]?
        = some task ∧
      task.stage = Scene.configured next (found.mapError .path)

variable {traffic : Traffic} {event : Event} {events : List Event} {index : Nat} {task : Task}
  {raw : String} {generation : Nat} {next : Option LoadKind} {found : Except ResolveError Location}

/-- A generation begins if and only if the session is pointed at a script. -/
theorem generation_lt_iff (traffic : Traffic) (events : List Event) :
    traffic.scene.session.generation <
        (events.foldl Traffic.next traffic).scene.session.generation ↔
      traffic.repointedBy events = true := by
  induction events generalizing traffic with
  | nil => simp [repointedBy]
  | cons event events ih =>
      have step := traffic.generation_next event
      have rest := generation_le_foldl (traffic.next event) events
      rw [List.foldl_cons, repointedBy, Bool.or_eq_true, ← ih]
      cases points : traffic.repoints event with
      | true =>
          simp only [points, if_true] at step
          simp only [true_or, iff_true]
          omega
      | false =>
          simp only [points, Bool.false_eq_true, if_false, Nat.add_zero] at step
          simp [step]

theorem generation_eq_of_unrepointed (still : traffic.repointedBy events = false) :
    (events.foldl Traffic.next traffic).scene.session.generation =
      traffic.scene.session.generation := by
  have least := generation_le_foldl traffic events
  have most := (generation_lt_iff traffic events).not.mpr (by simp [still])
  omega

/-- An event lets a task do its next step, or it leaves the task where it is. -/
theorem goes_or_stays (event : Event) (there : traffic.tasks[index]? = some task) :
    (event = .go index ∧ traffic.next event = traffic.advance index task) ∨
      (event ≠ .go index ∧ ∃ later, (traffic.next event).tasks[index]? = some later ∧
        later.stage = task.stage) := by
  by_cases goes : event = .go index
  · subst goes
    exact .inl ⟨rfl, next_go there⟩
  · obtain ⟨later, found, stays | ⟨same, -⟩⟩ := exists_next event there
    · exact .inr ⟨goes, later, found, stays⟩
    · exact absurd same goes

/-- A call keeps to the script and the generation that it has begun with. -/
theorem sought_run (there : traffic.tasks[index]? = some task)
    (sought : task.stage.Sought raw generation next) (events : List Event) {later : Task}
    (last : (events.foldl Traffic.next traffic).tasks[index]? = some later) :
    later.stage.Sought raw generation next := by
  induction events generalizing traffic task with
  | nil =>
      cases there.symm.trans last
      exact sought
  | cons event events ih =>
      obtain ⟨after, found, stays | ⟨-, -, stage⟩⟩ := exists_next event there
      · exact ih found (stays ▸ sought) last
      · refine ih found ?_ last
        rw [stage]
        exact Task.sought_next traffic.scene sought

/-- While a call looks for the path of the session, nobody else changes it. -/
theorem Orderly.path_eq_next (orderly : traffic.Orderly)
    (there : traffic.tasks[index]? = some task)
    (seeks : task.stage.sought? = some traffic.scene.session.generation)
    (elsewhere : event ≠ .go index) (still : traffic.repoints event = false) :
    (traffic.next event).scene.session.path = traffic.scene.session.path := by
  have same : (traffic.next event).scene.session.generation =
      traffic.scene.session.generation := by
    simp [traffic.generation_next event, still]
  rcases traffic.rests_or_advances event with rests | ⟨mover, moving, rfl, found, advances⟩
  · rw [rests.session]
  · rw [advances] at same ⊢
    have different : index ≠ mover := fun eq => elsewhere (eq ▸ rfl)
    exact (moving.turn_next traffic.scene).path_eq same
      (orderly.alone index mover task moving different there found _ seeks)

/-- A call that looks for the path of the session finds it untouched when it goes on, unless another
call begins before. -/
theorem Orderly.waits_or_goes (orderly : traffic.Orderly)
    (there : traffic.tasks[index]? = some task)
    (seeks : task.stage.sought? = some traffic.scene.session.generation)
    (still : traffic.repointedBy events = false) :
    let now := events.foldl Traffic.next traffic
    (now.scene.session.path = traffic.scene.session.path ∧
      ∃ later, now.tasks[index]? = some later ∧ later.stage = task.stage) ∨
      ∃ between rest mover, events = between ++ .go index :: rest ∧
        let goes := between.foldl Traffic.next traffic
        goes.Orderly ∧ goes.scene.session.path = traffic.scene.session.path ∧
          goes.scene.session.generation = traffic.scene.session.generation ∧
          goes.tasks[index]? = some mover ∧ mover.stage = task.stage ∧
          (goes.next (.go index)).repointedBy rest = false := by
  induction events generalizing traffic task with
  | nil => exact .inl ⟨rfl, task, there, rfl⟩
  | cons event events ih =>
      obtain ⟨first, onward⟩ := Bool.or_eq_false_iff.mp still
      have same : (traffic.next event).scene.session.generation =
          traffic.scene.session.generation := by
        simp [traffic.generation_next event, first]
      rcases goes_or_stays event there with ⟨rfl, -⟩ | ⟨elsewhere, later, kept, stays⟩
      · exact .inr ⟨[], events, task, rfl, orderly, rfl, rfl, there, rfl, onward⟩
      · have unchanged := orderly.path_eq_next there seeks elsewhere first
        rcases ih (orderly.next event) kept (by rw [stays, seeks, same]) onward with
          ⟨path, final, found, stage⟩ |
            ⟨between, rest, mover, rfl, ordered, path, generation, moving, stage, quiet⟩
        · exact .inl ⟨path.trans unchanged, final, found, stage.trans stays⟩
        · exact .inr ⟨event :: between, rest, mover, rfl, ordered, path.trans unchanged,
            generation.trans same, moving, stage.trans stays, quiet⟩

/-- A call that has found its script, or not, records that as soon as it goes on, unless another
call begins before. -/
theorem Orderly.settling_run (orderly : traffic.Orderly)
    (there : traffic.tasks[index]? = some task)
    (stage : task.stage = .settle raw traffic.scene.session.generation next found)
    (path : traffic.scene.session.path = .resolving raw)
    (still : traffic.repointedBy events = false) :
    let now := events.foldl Traffic.next traffic
    (now.scene.session.path = .resolving raw ∧ now.Looks index) ∨
      ∃ between rest, events = between ++ .go index :: rest ∧
        now.scene.session.path = .ofFound raw found ∧
        ∃ later, ((between ++ [.go index]).foldl Traffic.next traffic).tasks[index]? = some later ∧
          later.stage = Scene.configured next (found.mapError .path) := by
  rcases orderly.waits_or_goes there (by rw [stage]; rfl) still with
    ⟨same, later, kept, stays⟩ |
      ⟨between, rest, mover, rfl, ordered, -, generation, moving, stays, onward⟩
  · exact .inl ⟨same.trans path, later, kept, by rw [stays, stage]; rfl⟩
  · obtain ⟨world, records⟩ := Task.settle_next (stays.trans stage) generation
    refine .inr ⟨between, rest, rfl, ?_,
      ⟨mover.request, Scene.configured next (found.mapError .path), mover.cancelled⟩, ?_, rfl⟩
    · have becomes := (ordered.next (.go index)).path_becomes rest
        (generation_eq_of_unrepointed onward)
      rw [next_go moving, scene_advance, records] at becomes
      rw [List.foldl_append, List.foldl_cons, next_go moving]
      exact PathState.eq_of_ofFound becomes
    · rw [List.foldl_append, List.foldl_cons, List.foldl_nil, next_go moving,
        getElem?_advance_self moving, records]

/-- A call that looks for its script records later what it has found, unless another call begins. -/
theorem Orderly.resolving_run (orderly : traffic.Orderly)
    (there : traffic.tasks[index]? = some task)
    (stage : task.stage = .resolve raw traffic.scene.session.generation next)
    (path : traffic.scene.session.path = .resolving raw)
    (still : (traffic.next (.go index)).repointedBy events = false) :
    let now := events.foldl Traffic.next (traffic.next (.go index))
    let found := Location.resolve traffic.scene.world.host raw
    (now.scene.session.path = .resolving raw ∧ now.Looks index) ∨
      ∃ between rest, events = between ++ .go index :: rest ∧
        now.scene.session.path = .ofFound raw found ∧
        ∃ later, ((between ++ [.go index]).foldl Traffic.next
            (traffic.next (.go index))).tasks[index]? = some later ∧
          later.stage = Scene.configured next (found.mapError .path) := by
  obtain ⟨world, looks⟩ := Task.resolve_next traffic.scene stage
  have moved : (traffic.next (.go index)).tasks[index]? =
      some ⟨task.request, (task.next traffic.scene).2, task.cancelled⟩ := by
    rw [next_go there]
    exact getElem?_advance_self there
  have session : (traffic.next (.go index)).scene.session = traffic.scene.session := by
    rw [next_go there, scene_advance, looks]
  exact (orderly.next (.go index)).settling_run moved (by rw [looks, session])
    (by rw [session, path]) still

/-- A call that has begun to look for its script owns the path, unless another call begins. -/
theorem Orderly.looking_run (orderly : traffic.Orderly)
    (there : traffic.tasks[index]? = some task)
    (stage : task.stage = .resolve raw traffic.scene.session.generation next)
    (path : traffic.scene.session.path = .resolving raw)
    (still : traffic.repointedBy events = false) :
    let now := events.foldl Traffic.next traffic
    (now.scene.session.path = .resolving raw ∧ now.Looks index) ∨
      ∃ found, traffic.Records events index raw next found ∧
        now.scene.session.path = .ofFound raw found := by
  rcases orderly.waits_or_goes there (by rw [stage]; rfl) still with
    ⟨same, later, kept, stays⟩ |
      ⟨sooner, events, mover, rfl, ordered, untouched, generation, moving, stays, onward⟩
  · exact .inl ⟨same.trans path, later, kept, by rw [stays, stage]; rfl⟩
  · rw [List.foldl_append, List.foldl_cons]
    rcases ordered.resolving_run moving (by rw [stays, stage, generation]) (untouched.trans path)
      onward with seeks | ⟨between, rest, rfl, recorded, told⟩
    · exact .inl seeks
    · refine .inr ⟨_, ⟨sooner, between, rest, rfl, rfl, ?_⟩, recorded⟩
      rw [List.foldl_append, List.foldl_cons]
      exact told

/-- Of the events that point the session at a script there is a last one. -/
theorem exists_last_repointing (points : traffic.repointedBy events = true) :
    ∃ first index later, events = first ++ .go index :: later ∧
      (first.foldl Traffic.next traffic).repoints (.go index) = true ∧
      ((first.foldl Traffic.next traffic).next (.go index)).repointedBy later = false := by
  induction events generalizing traffic with
  | nil => cases points
  | cons event events ih =>
      cases onward : (traffic.next event).repointedBy events with
      | true =>
          obtain ⟨first, index, later, rfl, rest⟩ := ih onward
          exact ⟨event :: first, index, later, rfl, rest⟩
      | false =>
          rw [repointedBy, onward, Bool.or_false] at points
          cases event with
          | go index => exact ⟨[], index, events, rfl, points, onward⟩
          | ask | cancel | edit => cases points

/-- A call has not done anything yet that is to point the session at a script. -/
def Begins (traffic : Traffic) (index : Nat) (raw : String) (next : Option LoadKind) : Prop :=
  ∃ task, traffic.tasks[index]? = some task ∧ task.stage = .start ∧
    task.request.target? = some (raw, next)

theorem begins_of_repoints (points : traffic.repoints (.go index) = true) :
    ∃ raw next, traffic.Begins index raw next := by
  cases there : traffic.tasks[index]? with
  | none => simp [repoints, there] at points
  | some task =>
      obtain ⟨request, stage, cancelled⟩ := task
      simp only [repoints, there, Option.map_some, Option.getD_some, Task.repoints,
        Bool.and_eq_true] at points
      obtain ⟨starts, targets⟩ := points
      obtain ⟨⟨raw, next⟩, asked⟩ := Option.isSome_iff_exists.mp targets
      cases stage with
      | start => exact ⟨raw, next, _, there, rfl, asked⟩
      | _ => cases starts

/-- A call that begins to point the session at a script looks for it under a new generation. -/
theorem Begins.looks (begins : traffic.Begins index raw next) :
    (traffic.next (.go index)).scene.session = traffic.scene.session.repointed raw ∧
      ∃ task, (traffic.next (.go index)).tasks[index]? = some task ∧
        task.stage = .resolve raw (traffic.scene.session.generation + 1) next ∧
        task.request.target? = some (raw, next) := by
  obtain ⟨⟨request, stage, cancelled⟩, there, starts, asked⟩ := begins
  obtain rfl : stage = .start := starts
  obtain ⟨world, setScript⟩ := Task.setScript_next traffic.scene asked cancelled
  rw [next_go there, scene_advance, setScript]
  refine ⟨rfl, _, getElem?_advance_self there, ?_, asked⟩
  show ((Task.mk request .start cancelled).next traffic.scene).2 = _
  rw [setScript]

/-- Of the calls that point the session at a script, the one that began last owns the path. -/
theorem Orderly.last_owns (orderly : traffic.Orderly) (begins : traffic.Begins index raw next)
    (still : (traffic.next (.go index)).repointedBy events = false) :
    let begun := traffic.next (.go index)
    let now := events.foldl Traffic.next begun
    (now.scene.session.path = .resolving raw ∧ now.Looks index) ∨
      ∃ found, begun.Records events index raw next found ∧
        now.scene.session.path = .ofFound raw found := by
  obtain ⟨session, task, there, stage, -⟩ := begins.looks
  exact (orderly.next (.go index)).looking_run there (by rw [stage, session]; rfl)
    (by rw [session]; rfl) still

/-- A call under an older generation that still looks for its script has been superseded. -/
theorem Begins.superseded (begins : traffic.Begins index raw next)
    (points : (traffic.next (.go index)).repointedBy events = true)
    (looks : (events.foldl Traffic.next (traffic.next (.go index))).Looks index) :
    ∃ generation task,
      (events.foldl Traffic.next (traffic.next (.go index))).tasks[index]? = some task ∧
      task.stage.Superseded generation next 2 ∧
      generation < (events.foldl Traffic.next (traffic.next (.go index))).scene.session.generation := by
  obtain ⟨session, begun, there, stage, -⟩ := begins.looks
  obtain ⟨task, last, seeks⟩ := looks
  have older := (generation_lt_iff _ _).mpr points
  rw [session] at older
  have sought : begun.stage.Sought raw (traffic.scene.session.generation + 1) next := by
    rw [stage]
    exact .looks
  refine ⟨_, task, last, ?_, older⟩
  have kept := sought_run there sought events last
  generalize task.stage = now at kept seeks
  cases kept with
  | looks => exact .looks
  | settles => exact .settles
  | past none =>
      rw [none] at seeks
      cases seeks

/-- Nothing that happens calls a superseded call back. -/
theorem superseded_next {steps : Nat} (older : generation < traffic.scene.session.generation)
    (there : traffic.tasks[index]? = some task)
    (superseded : task.stage.Superseded generation next steps) (event : Event) :
    ∃ later, (traffic.next event).tasks[index]? = some later ∧
      later.stage.Superseded generation next steps := by
  obtain ⟨later, found, stays | ⟨-, -, stage⟩⟩ := exists_next event there
  · exact ⟨later, found, stays ▸ superseded⟩
  · refine ⟨later, found, ?_⟩
    rw [stage]
    exact (Task.superseded_next older superseded.succ).2

theorem superseded_run {steps : Nat} (older : generation < traffic.scene.session.generation)
    (there : traffic.tasks[index]? = some task)
    (superseded : task.stage.Superseded generation next steps) (events : List Event) :
    ∃ later, (events.foldl Traffic.next traffic).tasks[index]? = some later ∧
      later.stage.Superseded generation next steps := by
  induction events generalizing traffic task with
  | nil => exact ⟨task, there, superseded⟩
  | cons event events ih =>
      obtain ⟨later, found, onward⟩ := superseded_next older there superseded event
      have since := generation_le_foldl traffic [event]
      exact ih (Nat.lt_of_lt_of_le older since) found onward

/-- Each step of its own brings a superseded call nearer to its answer, whatever happens before. -/
theorem superseded_go {steps : Nat} (older : generation < traffic.scene.session.generation)
    (there : traffic.tasks[index]? = some task)
    (superseded : task.stage.Superseded generation next (steps + 1)) (events : List Event) :
    let now := (events.foldl Traffic.next traffic).next (.go index)
    generation < now.scene.session.generation ∧
      ∃ later, now.tasks[index]? = some later ∧ later.stage.Superseded generation next steps := by
  intro now
  obtain ⟨mover, found, onward⟩ := superseded_run older there superseded events
  have since := Nat.lt_of_lt_of_le older (generation_le_foldl traffic events)
  have goes : now = _ := next_go found
  obtain ⟨kept, fewer⟩ := Task.superseded_next since onward
  rw [goes, scene_advance, kept]
  exact ⟨since, _, getElem?_advance_self found, fewer⟩

/-- A superseded call is not answered but as such, and is so once it has done two steps. -/
theorem superseded_answers (older : generation < traffic.scene.session.generation)
    (there : traffic.tasks[index]? = some task)
    (superseded : task.stage.Superseded generation next 2) :
    (∀ (rest : List Event) (later : Task) (answer : Answer),
      (rest.foldl Traffic.next traffic).tasks[index]? = some later →
        later.answer? = some answer → answer = supersededAnswer next) ∧
      ∀ sooner between rest : List Event, ∃ later : Task,
        ((sooner ++ .go index :: (between ++ .go index :: rest)).foldl Traffic.next
          traffic).tasks[index]? = some later ∧
        later.answer? = some (supersededAnswer next) := by
  constructor
  · intro rest later answer last answered
    obtain ⟨same, found, onward⟩ := superseded_run older there superseded rest
    cases found.symm.trans last
    rw [Task.stage_of_answered answered] at onward
    cases onward
    rfl
  · intro sooner between rest
    obtain ⟨olderStill, once, first, onward⟩ := superseded_go older there superseded sooner
    obtain ⟨olderYet, twice, second, told⟩ := superseded_go olderStill first onward between
    obtain ⟨later, last, answered⟩ := superseded_run olderYet second told rest
    refine ⟨later, ?_, ?_⟩
    · rw [List.foldl_append, List.foldl_cons, List.foldl_append, List.foldl_cons]
      exact last
    · obtain ⟨request, stage, cancelled⟩ := later
      cases answered
      rfl

/-- Two calls point a session at a script, and the one that began first comes back last. -/
def overlapping : List Event :=
  .ask (.setScript "/t") :: (List.replicate 2 (.go 0) ++
    .ask (.setScript "/s") :: List.replicate 3 (.go 1))

theorem foldl_overlapping (session : Session) (world : World) {location : Location}
    (located : Location.resolve world.host "/s" = .ok location) :
    ∃ later, overlapping.foldl Traffic.next (.quiet ⟨session, world⟩) =
      ⟨⟨(session.repointed "/t").pointed "/s" (.ok location), later⟩,
        [⟨.setScript "/t", .settle "/t" (session.generation + 1) none
            (Location.resolve world.host "/t"), false⟩,
          ⟨.setScript "/s", .done (.located (.ok location)), false⟩], []⟩ := by
  have asks : [Task.ofRequest (.setScript "/t") false][0]? = some _ := rfl
  obtain ⟨between, aside, sought⟩ := seeks session world _ [] rfl asks
  have asksToo : [Task.mk (.setScript "/t") (.settle "/t" (session.generation + 1) none
      (Location.resolve world.host "/t")) false, .ofRequest (.setScript "/s") false][1]? =
        some _ := rfl
  obtain ⟨later, -, pointed⟩ := points (session.repointed "/t") between _ [] rfl asksToo
  rw [aside.host, located] at pointed
  refine ⟨later, ?_⟩
  rw [overlapping, List.foldl_cons, List.foldl_append, next_ask_quiet, sought, List.foldl_cons]
  exact pointed

end Traffic

/-! ## The call that began last -/

/-- In every order of steps, whatever is found where: a session has no path until a call points it at
a script, and then its path is that of the call that began last, which either still looks for its
script or has recorded what it has found, a location or a message. Any other call that still looks
for its script then leaves the session alone, is not answered but as superseded, and is answered so
once it has done two more steps. -/
theorem last_configure_wins (profile : Profile) (world : World) (events : List Event) :
    let start := Traffic.quiet ⟨.start profile, world⟩
    let now := events.foldl Traffic.next start
    (start.repointedBy events = false → now.scene.session.path = .unconfigured) ∧
      (start.repointedBy events = true → ∃ first index later raw next,
        events = first ++ .go index :: later ∧
        (first.foldl Traffic.next start).Begins index raw next ∧
        ((first.foldl Traffic.next start).next (.go index)).repointedBy later = false) ∧
      ∀ first index later raw next, events = first ++ .go index :: later →
        (first.foldl Traffic.next start).Begins index raw next →
        let begun := (first.foldl Traffic.next start).next (.go index)
        (begun.repointedBy later = false →
          (now.scene.session.path = .resolving raw ∧ now.Looks index) ∨
            ∃ found, begun.Records later index raw next found ∧
              now.scene.session.path = .ofFound raw found) ∧
        (begun.repointedBy later = true → now.Looks index →
          (now.next (.go index)).scene.session = now.scene.session ∧
            (∀ (rest : List Event) (task : Task) (answer : Answer),
              (rest.foldl Traffic.next now).tasks[index]? = some task →
                task.answer? = some answer → answer = supersededAnswer next) ∧
            ∀ sooner between rest : List Event, ∃ task : Task,
              ((sooner ++ .go index :: (between ++ .go index :: rest)).foldl Traffic.next
                now).tasks[index]? = some task ∧
              task.answer? = some (supersededAnswer next)) := by
  intro start now
  have orderly : start.Orderly := Traffic.orderly_quiet (Session.coherent_start profile)
  refine ⟨?_, ?_, ?_⟩
  · intro still
    have becomes := orderly.path_becomes events (Traffic.generation_eq_of_unrepointed still)
    exact becomes.eq_of_unconfigured
  · intro points
    obtain ⟨first, index, later, split, repoints, still⟩ := Traffic.exists_last_repointing points
    obtain ⟨raw, next, begins⟩ := Traffic.begins_of_repoints repoints
    exact ⟨first, index, later, raw, next, split, begins, still⟩
  · intro first index later raw next split begins begun
    have ended : now = later.foldl Traffic.next begun := by
      rw [show now = events.foldl Traffic.next start from rfl, split, List.foldl_append]
      rfl
    rw [ended]
    constructor
    · exact (orderly.run first).last_owns begins
    · intro points looks
      obtain ⟨generation, task, there, superseded, older⟩ := begins.superseded points looks
      refine ⟨?_, Traffic.superseded_answers older there superseded⟩
      rw [Traffic.next_go there, Traffic.scene_advance]
      exact (Task.superseded_next older superseded).1

/-- Two calls overlap, and the one that began first comes back last: the session keeps the script of
the other one. -/
theorem last_configure_wins_overlapping :
    ∃ now, Traffic.overlapping.foldl Traffic.next (.quiet ⟨.start (.ofSettings .defaults),
        .bare (.withScript "function A \x7b\x7d" 5)⟩) = now ∧
      now.scene.session.path = .ready ⟨"/s", onlyScript⟩ ∧
      (now.next (.go 0)).scene.session = now.scene.session ∧
      ∃ task, ((now.next (.go 0)).next (.go 0)).tasks[0]? = some task ∧
        task.answer? = some (.located (.error .superseded)) := by
  obtain ⟨later, ended⟩ := Traffic.foldl_overlapping (.start (.ofSettings .defaults))
    (.bare (.withScript "function A \x7b\x7d" 5)) (Host.resolve_withScript _ _)
  obtain ⟨-, -, wins⟩ := last_configure_wins (.ofSettings .defaults)
    (.bare (.withScript "function A \x7b\x7d" 5)) Traffic.overlapping
  obtain ⟨-, superseded⟩ := wins [.ask (.setScript "/t")] 0
    (.go 0 :: .ask (.setScript "/s") :: List.replicate 3 (.go 1)) "/t" none rfl ⟨_, rfl, rfl, rfl⟩
  have overtaken := superseded rfl
  rw [ended] at overtaken ⊢
  obtain ⟨same, -, answers⟩ := overtaken ⟨_, rfl, rfl⟩
  exact ⟨_, rfl, rfl, same, answers [] [] []⟩

end ScriptRoster
