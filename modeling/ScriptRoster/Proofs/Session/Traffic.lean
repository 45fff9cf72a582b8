import ScriptRoster.Proofs.Run
import ScriptRoster.Proofs.Session.Turn

/-!
# Tasks side by side

A session may be asked for more while it is still at work. The steps of its tasks alternate in any
order, and anything outside may change between two of them. An event either lets one task do one
step, or it lets all tasks rest.
-/

namespace ScriptRoster

open Cache Files

/-- What was read, and where. -/
abbrev Reads := List (Path × String)

/-- A session, what it has been asked to do, and what its loads have read where. -/
structure Traffic where
  scene : Scene
  tasks : List Task
  reads : Reads

/-- Something that happens while a session is at work. -/
inductive Event where
  | ask (request : Request)
  /-- A task does its next step. -/
  | go (task : Nat)
  | cancel (task : Nat)
  /-- Files and anything else of the host are changed from outside. -/
  | edit (host : Host)

/-- What a task reads in its next step, if it can. -/
def Task.readings (scene : Scene) (task : Task) : Reads :=
  match task.stage with
  | .read errand _ =>
      match readScript scene.world.host.files scene.world.host.cwd errand.path with
      | .ok content => [(errand.path, content)]
      | .error _ => []
  | _ => []

namespace Traffic

/-- A session that has not been asked for anything. -/
def quiet (scene : Scene) : Traffic := ⟨scene, [], []⟩

/-- What is left after a task has done its next step. -/
def advance (traffic : Traffic) (index : Nat) (task : Task) : Traffic where
  scene := (task.step traffic.scene).1
  tasks := traffic.tasks.set index (task.step traffic.scene).2
  reads := traffic.reads ++ task.readings traffic.scene

/-- What is left after something has happened. -/
def next (traffic : Traffic) : Event → Traffic
  | .ask request => { traffic with tasks := traffic.tasks ++ [.ofRequest request false] }
  | .go index =>
      match traffic.tasks[index]? with
      | some task => traffic.advance index task
      | none => traffic
  | .cancel index =>
      { traffic with tasks := traffic.tasks.modify index ({ · with cancelled := true }) }
  | .edit host =>
      { traffic with scene := traffic.scene.withWorld { traffic.scene.world with host } }

/-- What holds of an event that lets all tasks rest: the tasks are those there were, as far as they
had come, and maybe a new one. -/
structure Rests (traffic : Traffic) (event : Event) : Prop where
  idle : ∀ index, event = .go index → traffic.tasks[index]? = none
  session : (traffic.next event).scene.session = traffic.scene.session
  store : (traffic.next event).scene.world.store = traffic.scene.world.store
  reads : (traffic.next event).reads = traffic.reads
  tasks : ∀ (index : Nat) (task : Task), (traffic.next event).tasks[index]? = some task →
    (∃ old, traffic.tasks[index]? = some old ∧ old.request = task.request ∧
        old.stage = task.stage) ∨
      ∃ request, event = .ask request ∧ task = .ofRequest request false
  kept : ∀ (index : Nat) (old : Task), traffic.tasks[index]? = some old →
    ∃ task, (traffic.next event).tasks[index]? = some task ∧ task.stage = old.stage

variable {traffic : Traffic} {index other : Nat} {task : Task}

theorem next_ask_quiet (scene : Scene) (request : Request) :
    (quiet scene).next (.ask request) = ⟨scene, [.ofRequest request false], []⟩ := rfl

theorem next_go (there : traffic.tasks[index]? = some task) :
    traffic.next (.go index) = traffic.advance index task := by
  simp only [next, there]

theorem scene_advance : (traffic.advance index task).scene = (task.next traffic.scene).1 := rfl

theorem next_go_none (missing : traffic.tasks[index]? = none) :
    traffic.next (.go index) = traffic := by
  simp only [next, missing]

/-- A step is done by one task, and the others rest. -/
theorem getElem?_advance {later : Task}
    (there : (traffic.advance index task).tasks[other]? = some later) :
    other = index ∧ later = { task with stage := (task.next traffic.scene).2 } ∨
      other ≠ index ∧ traffic.tasks[other]? = some later := by
  rw [advance, List.getElem?_set] at there
  split at there
  · next same =>
      split at there
      · exact .inl ⟨same.symm, (Option.some.inj there).symm⟩
      · cases there
  · next different => exact .inr ⟨Ne.symm different, there⟩

theorem getElem?_advance_self (there : traffic.tasks[index]? = some task) :
    (traffic.advance index task).tasks[index]? =
      some { task with stage := (task.next traffic.scene).2 } :=
  List.getElem?_set_self (List.getElem?_eq_some_iff.mp there).1

theorem getElem?_advance_of_ne (different : index ≠ other) :
    (traffic.advance index task).tasks[other]? = traffic.tasks[other]? :=
  List.getElem?_set_ne different

theorem rests_ask (traffic : Traffic) (request : Request) : traffic.Rests (.ask request) where
  idle := nofun
  session := rfl
  store := rfl
  reads := rfl
  tasks index task there := by
    rw [next, List.getElem?_append] at there
    split at there
    · exact .inl ⟨task, there, rfl, rfl⟩
    · rw [List.getElem?_singleton] at there
      split at there
      · exact .inr ⟨request, rfl, (Option.some.inj there).symm⟩
      · cases there
  kept index old there := by
    have inside := (List.getElem?_eq_some_iff.mp there).1
    exact ⟨old, by rw [next, List.getElem?_append_left inside, there], rfl⟩

theorem rests_cancel (traffic : Traffic) (index : Nat) : traffic.Rests (.cancel index) where
  idle := nofun
  session := rfl
  store := rfl
  reads := rfl
  tasks other task there := by
    rw [next, List.getElem?_modify] at there
    obtain ⟨old, before, rfl⟩ := Option.map_eq_some_iff.mp there
    refine .inl ⟨old, before, ?_⟩
    split <;> exact ⟨rfl, rfl⟩
  kept other old there := by
    refine ⟨_, by rw [next, List.getElem?_modify, there]; rfl, ?_⟩
    split <;> rfl

theorem rests_edit (traffic : Traffic) (host : Host) : traffic.Rests (.edit host) :=
  ⟨nofun, rfl, rfl, rfl, fun _ task there => .inl ⟨task, there, rfl, rfl⟩,
    fun _ old there => ⟨old, there, rfl⟩⟩

theorem rests_go (missing : traffic.tasks[index]? = none) : traffic.Rests (.go index) := by
  have stays := next_go_none missing
  constructor
  · rintro other same
    cases same
    exact missing
  · rw [stays]
  · rw [stays]
  · rw [stays]
  · intro other task there
    rw [stays] at there
    exact .inl ⟨task, there, rfl, rfl⟩
  · intro other old there
    rw [stays]
    exact ⟨old, there, rfl⟩

/-- An event lets all tasks rest unless one of them does a step. -/
theorem rests_or_advances (traffic : Traffic) (event : Event) :
    traffic.Rests event ∨
      ∃ index task, event = .go index ∧ traffic.tasks[index]? = some task ∧
        traffic.next event = traffic.advance index task := by
  cases event with
  | ask request => exact .inl (traffic.rests_ask request)
  | cancel index => exact .inl (traffic.rests_cancel index)
  | edit host => exact .inl (traffic.rests_edit host)
  | go index =>
      cases there : traffic.tasks[index]? with
      | some task => exact .inr ⟨index, task, rfl, there, next_go there⟩
      | none => exact .inl (rests_go there)

/-- Somebody is at a stage after a task has done a step, if that task is, or if somebody else was
before. -/
theorem exists_advance (good : Stage → Prop) (there : traffic.tasks[index]? = some task)
    (stands : good (task.next traffic.scene).2 ∨
      (∃ (other : Nat) (old : Task), traffic.tasks[other]? = some old ∧ good old.stage) ∧
        ¬ good task.stage) :
    ∃ (other : Nat) (later : Task), (traffic.advance index task).tasks[other]? = some later ∧
      good later.stage := by
  rcases stands with mine | ⟨⟨other, old, before, stood⟩, elsewhere⟩
  · exact ⟨index, _, getElem?_advance_self there, mine⟩
  · have different : index ≠ other := by
      rintro rfl
      cases there.symm.trans before
      exact elsewhere stood
    exact ⟨other, old, (getElem?_advance_of_ne different).trans before, stood⟩

/-- Whoever is at a stage while all tasks rest stays there. -/
theorem Rests.exists_kept {event : Event} (rests : traffic.Rests event) (good : Stage → Prop)
    (stands : ∃ (other : Nat) (old : Task), traffic.tasks[other]? = some old ∧ good old.stage) :
    ∃ (other : Nat) (later : Task), (traffic.next event).tasks[other]? = some later ∧
      good later.stage := by
  obtain ⟨other, old, before, stood⟩ := stands
  obtain ⟨later, there, stage⟩ := rests.kept other old before
  exact ⟨other, later, there, stage ▸ stood⟩

/-! ## Counting tasks -/

/-- Putting one element in the place of another changes a count by what the two count. -/
theorem countP_set_add {α : Type*} {p : α → Bool} {items : List α} {old : α}
    (there : items[index]? = some old) (new : α) :
    (items.set index new).countP p + (if p old then 1 else 0) =
      items.countP p + if p new then 1 else 0 := by
  obtain ⟨inside, rfl⟩ := List.getElem?_eq_some_iff.mp there
  have counted : (if p items[index] then 1 else 0) ≤ items.countP p := by
    split
    · next holds => exact List.countP_pos_iff.mpr ⟨_, List.getElem_mem inside, holds⟩
    · exact Nat.zero_le _
  rw [List.countP_set inside]
  omega

/-- A step changes the number of tasks with some property by its own task only. -/
theorem countP_advance_add (p : Task → Bool) (there : traffic.tasks[index]? = some task) :
    (traffic.advance index task).tasks.countP p + (if p task then 1 else 0) =
      traffic.tasks.countP p + if p (task.step traffic.scene).2 then 1 else 0 :=
  countP_set_add there _

/-- An event that lets all tasks rest changes no count in which new and cancelled tasks make no
difference. -/
theorem Rests.countP_eq {event : Event} (rests : traffic.Rests event) {p : Task → Bool}
    (fresh : ∀ request, p (.ofRequest request false) = false)
    (heedless : ∀ task : Task, p { task with cancelled := true } = p task) :
    (traffic.next event).tasks.countP p = traffic.tasks.countP p := by
  cases event with
  | ask request => simp [next, fresh]
  | edit host => rfl
  | go index => rw [next_go_none (rests.idle index rfl)]
  | cancel index =>
      rw [next, List.modify_eq_set_getElem?]
      cases there : traffic.tasks[index]? with
      | none => rfl
      | some task =>
          have replaced := countP_set_add (p := p) there { task with cancelled := true }
          rw [heedless] at replaced
          exact Nat.add_right_cancel replaced

end Traffic

end ScriptRoster
