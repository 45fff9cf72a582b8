import ScriptRoster.Proofs.Session.Answering
import ScriptRoster.Proofs.Session.Order
import ScriptRoster.Proofs.Session.Sharing

/-!
# Callers that wait get their answer

A promise that nobody has kept is owed by the task that has taken it on, or a caller still waits to
take it on. So once all calls are answered a session is at rest again. A task that has taken a promise
on waits for nobody until it has kept it. So as long as no task is left out for ever, every caller
that waits for a promise is answered.
-/

namespace ScriptRoster

open Cache

/-! ## Who keeps a promise -/

section Steps

variable {before after session : Session} {scene : Scene} {stage next : Stage} {task : Task}
  {slot : Slot} {id : Nat} {ticket : Ticket}

theorem Stage.eq_await (awaits : stage.awaits? = some ticket) :
    ∃ errand, stage = .await errand ticket := by
  cases stage with
  | await errand held =>
      cases awaits
      exact ⟨errand, rfl⟩
  | _ => cases awaits

/-- A promise that is taken on and not kept after a step is owed by the task that does it, or it was
so before, and this task did not owe it. -/
theorem Handling.owed_or_before (handling : Handling before stage after next)
    (minds : stage.Minds before) (taken : after.promises[id]? = some ⟨slot, true, none⟩) :
    next.owes? = some ⟨slot, id⟩ ∨
      before.promises[id]? = some ⟨slot, true, none⟩ ∧ stage.owes? ≠ some ⟨slot, id⟩ := by
  cases handling with
  | aside promises inFlight leads owes =>
      rw [promises] at taken
      rw [owes]
      exact (em _).imp_right fun other => ⟨taken, other⟩
  | joined => exact .inr ⟨taken, (Option.some_ne_none _).symm⟩
  | promised =>
      rcases Session.exists_before_promising taken with earlier | ⟨-, new⟩
      · exact .inr ⟨earlier, (Option.some_ne_none _).symm⟩
      · cases new
  | @led errand ticket other free =>
      by_cases same : id = ticket.promise
      · subst same
        rw [getElem?_withPromise_self free] at taken
        cases taken
        obtain rfl : slot = ticket.slot := (minds.awaits ticket rfl).slot_eq free
        exact .inl (Stage.owes_led errand ticket)
      · rw [getElem?_withPromise_of_ne same] at taken
        exact .inr ⟨taken, (Option.some_ne_none _).symm⟩
  | @left errand ticket =>
      by_cases same : ticket = ⟨slot, id⟩
      · subst same
        exact .inl rfl
      · exact .inr ⟨taken, fun owes => same (Option.some.inj owes)⟩
  | @published errand ticket result =>
      by_cases same : id = ticket.promise
      · subst same
        rw [getElem?_withPromise_self (minds.owes ticket rfl)] at taken
        cases taken
      · rw [getElem?_withPromise_of_ne same] at taken
        exact .inr ⟨taken, fun owes => same (congrArg Ticket.promise (Option.some.inj owes)).symm⟩

/-- A promise that nobody has taken on after a step was so before, or the step has made it. -/
theorem Handling.free_before (handling : Handling before stage after next)
    (free : after.promises[id]? = some ⟨slot, false, none⟩) :
    before.promises[id]? = some ⟨slot, false, none⟩ ∨ next.awaits? = some ⟨slot, id⟩ := by
  cases handling with
  | aside promises =>
      rw [promises] at free
      exact .inl free
  | joined | left => exact .inl free
  | promised =>
      rcases Session.exists_before_promising free with earlier | ⟨rfl, new⟩
      · exact .inl earlier
      · cases new
        exact .inr rfl
  | @led errand ticket other unled =>
      by_cases same : id = ticket.promise
      · subst same
        rw [getElem?_withPromise_self unled] at free
        cases free
      · rw [getElem?_withPromise_of_ne same] at free
        exact .inl free
  | @published errand ticket result =>
      rw [Session.withPromise, List.getElem?_set] at free
      split at free
      · split at free <;> cases free
      · exact .inl free

/-- A caller that waits for a promise takes what it was kept with, takes it on, or goes on waiting
while somebody else has it in hand. -/
theorem Task.await_cases {errand : Errand} (scene : Scene)
    (stage : task.stage = .await errand ticket)
    (promised : scene.session.Promised ticket.promise ticket.slot) :
    (∃ led result, scene.session.promises[ticket.promise]? = some ⟨ticket.slot, led, some result⟩ ∧
        task.next scene = (scene, .finish errand result)) ∨
      (scene.session.promises[ticket.promise]? = some ⟨ticket.slot, false, none⟩ ∧
        task.next scene =
          (⟨scene.session.withPromise ticket ⟨ticket.slot, true, none⟩, scene.world⟩,
            if errand.reuse then .lookAgain errand ticket else .read errand (some ticket))) ∨
      (scene.session.promises[ticket.promise]? = some ⟨ticket.slot, true, none⟩ ∧
        task.next scene = (scene, .await errand ticket)) := by
  obtain ⟨⟨slot, led, result?⟩, there, rfl⟩ := promised
  have goes : task.next scene = scene.await errand ticket := by rw [Task.next, stage]
  rw [goes]
  cases result? with
  | some result => exact .inl ⟨led, result, there, scene.await_kept errand ticket there⟩
  | none =>
      cases led with
      | false => exact .inr (.inl ⟨there, scene.await_free errand ticket there⟩)
      | true =>
          refine .inr (.inr ⟨there, ?_⟩)
          simp only [Scene.await, there]

/-- A promise that nobody has taken on after a step is one that the task that does it waits for, or
it was so before, and this task did not wait for it. -/
theorem Task.awaited_or_before (minds : task.stage.Minds scene.session)
    (free : (task.next scene).1.session.promises[id]? = some ⟨slot, false, none⟩) :
    (task.next scene).2.awaits? = some ⟨slot, id⟩ ∨
      scene.session.promises[id]? = some ⟨slot, false, none⟩ ∧
        task.stage.awaits? ≠ some ⟨slot, id⟩ := by
  by_cases mine : task.stage.awaits? = some ⟨slot, id⟩
  · obtain ⟨errand, stage⟩ := Stage.eq_await mine
    rcases Task.await_cases scene stage (minds.awaits _ mine) with
      ⟨led, result, kept, goes⟩ | ⟨unled, goes⟩ | ⟨taken, goes⟩
    · rw [goes, kept] at free
      cases free
    · rw [goes, getElem?_withPromise_self unled] at free
      cases free
    · rw [goes, taken] at free
      cases free
  · rcases (Task.handling_next scene task).free_before free with before | awaits
    · exact .inr ⟨before, mine⟩
    · exact .inl awaits

end Steps

/-- A promise that was not kept is owed by the task that has taken it on, or a caller still waits for
it who may take it on. -/
structure Traffic.Tended (traffic : Traffic) : Prop where
  owed : ∀ (id : Nat) slot, traffic.scene.session.promises[id]? = some ⟨slot, true, none⟩ →
    ∃ (index : Nat) (task : Task), traffic.tasks[index]? = some task ∧
      task.stage.owes? = some ⟨slot, id⟩
  awaited : ∀ (id : Nat) slot, traffic.scene.session.promises[id]? = some ⟨slot, false, none⟩ →
    ∃ (index : Nat) (task : Task), traffic.tasks[index]? = some task ∧
      task.stage.awaits? = some ⟨slot, id⟩

namespace Traffic

variable {scene : Scene} {traffic : Traffic} {index : Nat} {task : Task} {event : Event}

theorem tended_quiet (rest : scene.session.AtRest) : (quiet scene).Tended where
  owed id slot taken := by
    have kept := rest.kept _ (List.mem_of_getElem? taken)
    cases kept
  awaited id slot free := by
    have kept := rest.kept _ (List.mem_of_getElem? free)
    cases kept

/-- No step of a task leaves a promise behind that nobody tends to. -/
theorem Tended.advance (tended : traffic.Tended) (shared : traffic.Shared)
    (there : traffic.tasks[index]? = some task) : (traffic.advance index task).Tended := by
  have minds := shared.minds index task there
  constructor
  · intro id slot taken
    rw [scene_advance] at taken
    apply exists_advance (·.owes? = some ⟨slot, id⟩) there
    exact ((Task.handling_next traffic.scene task).owed_or_before minds taken).imp_right
      fun ⟨before, other⟩ => ⟨tended.owed id slot before, other⟩
  · intro id slot free
    rw [scene_advance] at free
    apply exists_advance (·.awaits? = some ⟨slot, id⟩) there
    exact (Task.awaited_or_before minds free).imp_right
      fun ⟨before, other⟩ => ⟨tended.awaited id slot before, other⟩

theorem Tended.rests (tended : traffic.Tended) (rests : traffic.Rests event) :
    (traffic.next event).Tended := by
  constructor
  · intro id slot taken
    rw [rests.session] at taken
    exact rests.exists_kept (·.owes? = some ⟨slot, id⟩) (tended.owed id slot taken)
  · intro id slot free
    rw [rests.session] at free
    exact rests.exists_kept (·.awaits? = some ⟨slot, id⟩) (tended.awaited id slot free)

theorem Tended.next (tended : traffic.Tended) (shared : traffic.Shared) (event : Event) :
    (traffic.next event).Tended := by
  rcases traffic.rests_or_advances event with rests | ⟨index, task, rfl, there, same⟩
  · exact tended.rests rests
  · rw [same]
    exact tended.advance shared there

/-- Every promise is tended to after every run of events. -/
theorem Tended.run (tended : traffic.Tended) (shared : traffic.Shared) (events : List Event) :
    (events.foldl Traffic.next traffic).Tended := by
  induction events generalizing traffic with
  | nil => exact tended
  | cons event events ih => exact ih (tended.next shared event) (shared.next event)

end Traffic

/-- A task that has been answered owes nothing and waits for nothing. -/
theorem Task.unshared_of_answered {task : Task} (answered : task.answer?.isSome) :
    task.stage.owes? = none ∧ task.stage.awaits? = none :=
  (Stage.unshared_of_errand (Task.errand_of_answered answered)).2

/-- Once all calls are answered, a session is at rest again. -/
theorem Traffic.Tended.atRest {traffic : Traffic} (tended : traffic.Tended)
    (shared : traffic.Shared) (answered : ∀ task ∈ traffic.tasks, task.answer?.isSome) :
    traffic.scene.session.AtRest := by
  have kept : ∀ (id : Nat) slot led,
      traffic.scene.session.promises[id]? ≠ some ⟨slot, led, none⟩ := by
    intro id slot led there
    cases led with
    | true =>
        obtain ⟨index, task, found, owes⟩ := tended.owed id slot there
        rw [(Task.unshared_of_answered (answered task (List.mem_of_getElem? found))).1] at owes
        cases owes
    | false =>
        obtain ⟨index, task, found, awaits⟩ := tended.awaited id slot there
        rw [(Task.unshared_of_answered (answered task (List.mem_of_getElem? found))).2] at awaits
        cases awaits
  constructor
  · refine List.eq_nil_iff_forall_not_mem.mpr fun ⟨slot, id⟩ flying => ?_
    obtain ⟨led, there⟩ := shared.aloft.flying slot id flying
    exact kept id slot led there
  · rintro ⟨slot, led, result?⟩ member
    obtain ⟨id, there⟩ := List.mem_iff_getElem?.mp member
    cases result? with
    | some result => rfl
    | none => exact absurd there (kept id slot led)

/-! ## Nobody waits for ever -/

/-- How many steps a task has to go at most, once it waits for nobody. -/
def Stage.toGo? : Stage → Option Nat
  | .lookAgain .. => some 8
  | .read .. => some 7
  | .callSource .. => some 6
  | .extract .. => some 5
  | .keep .. => some 4
  | .leave .. => some 3
  | .publish .. => some 2
  | .finish .. => some 1
  | .done _ => some 0
  | _ => none

section Steps

variable {request : Request} {scene there : Scene} {stage next : Stage} {task : Task} {steps : Nat}
  {ticket : Ticket}

/-- An extraction that is over has at most four steps to go. -/
theorem Stage.toGo_extracted (errand : Errand) (held : Option Ticket)
    (result : Except ExtractionError Report) :
    ∃ fewer ≤ 4, (Scene.extracted errand held result).toGo? = some fewer := by
  cases held with
  | none => exact ⟨1, by decide, rfl⟩
  | some ticket =>
      cases result with
      | ok report => exact ⟨4, by decide, rfl⟩
      | error error => exact ⟨3, by decide, rfl⟩

theorem Stage.toGo_led (errand : Errand) (ticket : Ticket) :
    ∃ steps, (if errand.reuse then Stage.lookAgain errand ticket
      else .read errand (some ticket)).toGo? = some steps := by
  cases errand.reuse with
  | true => exact ⟨8, rfl⟩
  | false => exact ⟨7, rfl⟩

theorem Stage.toGo_of_begins {kind : LoadKind} (begins : stage.begins? request = some kind) :
    stage.toGo? = none := by
  cases stage <;> first | rfl | cases begins

/-- Whoever owes a promise waits for nobody. -/
theorem Stage.toGo_of_owes (owes : stage.owes? = some ticket) :
    ∃ steps, stage.toGo? = some steps := by
  cases stage <;> first | exact ⟨_, rfl⟩ | cases owes

/-- A step of a load that waits for nobody brings it nearer to its answer. -/
theorem Move.toGo (move : Move scene stage there next) (left : stage.toGo? = some (steps + 1)) :
    ∃ fewer ≤ steps, next.toGo? = some fewer := by
  cases move with
  | keyed | keyless | hit | missed | dropped | joined | promised | handed | led | waited => cases left
  | lateHit | missedAgain | opened | called | stored | left | published =>
      cases left
      exact ⟨_, by decide, rfl⟩
  | unreadable | drawn =>
      cases left
      obtain ⟨fewer, bound, same⟩ := Stage.toGo_extracted _ _ _
      exact ⟨fewer, by omega, same⟩

theorem Act.toGo (act : Act request scene stage there next) (left : stage.toGo? = some (steps + 1)) :
    ∃ fewer ≤ steps, next.toGo? = some fewer := by
  cases act with
  | recorded | discarded =>
      cases left
      exact ⟨0, Nat.le_refl 0, rfl⟩
  | begun begins | refused begins =>
      rw [Stage.toGo_of_begins begins] at left
      cases left
  | @ended stage _ _ _ calls =>
      cases stage with
      | spawn | watch => cases left
      | _ => cases calls
  | repointed | resolved | located | overtaken | listed | unlisted | spawned | watched | concluded
  | rested => cases left

/-- A task that waits for nobody is nearer to its answer after each of its steps. -/
theorem Task.toGo_next (scene : Scene) (left : task.stage.toGo? = some (steps + 1)) :
    ∃ fewer ≤ steps, (task.next scene).2.toGo? = some fewer := by
  rcases task.move_or_act scene with move | act
  · exact move.toGo left
  · exact act.toGo left

/-- A task goes on to owe a promise until it keeps it. -/
theorem Handling.owes_or_keeps {before after : Session}
    (handling : Handling before stage after next) (minds : stage.Minds before)
    (owes : stage.owes? = some ticket) :
    next.owes? = some ticket ∨
      ∃ errand result, stage = .publish errand ticket result ∧ next = .finish errand result ∧
        after.promises[ticket.promise]? = some ⟨ticket.slot, true, some result⟩ := by
  cases handling with
  | aside _ _ _ same => exact .inl (same.trans owes)
  | joined | promised | led => cases owes
  | left => exact .inl owes
  | @published errand held result =>
      cases owes
      exact .inr ⟨errand, result, rfl, rfl, getElem?_withPromise_self (minds.owes ticket rfl)⟩

/-- A task with no step to go is answered. -/
theorem Stage.eq_done (left : stage.toGo? = some 0) : ∃ answer, stage = .done answer := by
  cases stage with
  | done answer => exact ⟨answer, rfl⟩
  | _ => cases left

end Steps

namespace Traffic

variable {traffic : Traffic} {run : Nat → Event} {moment first last index caller : Nat}
  {task : Task} {errand : Errand} {ticket : Ticket} {steps : Nat}

/-- What has come of a traffic after so many events of an endless run. -/
def along (traffic : Traffic) (run : Nat → Event) : Nat → Traffic
  | 0 => traffic
  | moment + 1 => (traffic.along run moment).next (run moment)

/-- Whether a run lets every task go on again and again. -/
def Fair (traffic : Traffic) (run : Nat → Event) : Prop :=
  ∀ (moment index : Nat) (task : Task), (traffic.along run moment).tasks[index]? = some task →
    ∃ later ≥ moment, run later = .go index

/-- A run in which the tasks that there are take turns. -/
def turns (traffic : Traffic) (moment : Nat) : Event := .go (moment % traffic.tasks.length)

theorem length_tasks_go (traffic : Traffic) (index : Nat) :
    (traffic.next (.go index)).tasks.length = traffic.tasks.length := by
  cases there : traffic.tasks[index]? with
  | none => rw [next_go_none there]
  | some task => rw [next_go there, advance, List.length_set]

/-- Taking turns adds no tasks. -/
theorem length_tasks_turns (traffic : Traffic) (moment : Nat) :
    (traffic.along traffic.turns moment).tasks.length = traffic.tasks.length := by
  induction moment with
  | zero => rfl
  | succ moment ih => exact (length_tasks_go _ _).trans ih

/-- Whoever lets all tasks take turns leaves none out. -/
theorem fair_turns (traffic : Traffic) : traffic.Fair traffic.turns := by
  intro moment index task there
  have inside : index < traffic.tasks.length := by
    rw [← traffic.length_tasks_turns moment]
    exact (List.getElem?_eq_some_iff.mp there).1
  refine ⟨moment * traffic.tasks.length + index, ?_, ?_⟩
  · exact Nat.le_add_right_of_le (Nat.le_mul_of_pos_right moment (Nat.zero_lt_of_lt inside))
  · rw [turns, Nat.mul_add_mod_self_right, Nat.mod_eq_of_lt inside]

theorem Shared.along (shared : traffic.Shared) (run : Nat → Event) (moment : Nat) :
    (traffic.along run moment).Shared := by
  induction moment with
  | zero => exact shared
  | succ moment ih => exact ih.next (run moment)

theorem Tended.along (tended : traffic.Tended) (shared : traffic.Shared) (run : Nat → Event)
    (moment : Nat) : (traffic.along run moment).Tended := by
  induction moment with
  | zero => exact tended
  | succ moment ih => exact ih.next (shared.along run moment) (run moment)

/-- Sooner or later a task does its next step, and until then it stays where it is. -/
theorem Fair.exists_go (fair : traffic.Fair run)
    (there : (traffic.along run moment).tasks[index]? = some task) :
    ∃ step mover after, moment ≤ step ∧ (traffic.along run step).tasks[index]? = some mover ∧
      mover.stage = task.stage ∧
      (traffic.along run (step + 1)).scene = (mover.next (traffic.along run step).scene).1 ∧
      (traffic.along run (step + 1)).tasks[index]? = some after ∧
      after.stage = (mover.next (traffic.along run step).scene).2 := by
  obtain ⟨goal, since, goes⟩ := fair moment index task there
  obtain ⟨distance, rfl⟩ := Nat.exists_eq_add_of_le since
  clear since
  induction distance generalizing moment task with
  | zero =>
      have advances : traffic.along run (moment + 1) =
          (traffic.along run moment).advance index task := by
        rw [Nat.add_zero] at goes
        rw [Traffic.along, goes, next_go there]
      refine ⟨moment, task, { task with stage := (task.next (traffic.along run moment).scene).2 },
        Nat.le_refl moment, there, rfl, ?_, ?_, rfl⟩
      · rw [advances, scene_advance]
      · rw [advances]
        exact getElem?_advance_self there
  | succ distance ih =>
      obtain ⟨after, found, stays | ⟨-, scene, moved⟩⟩ := exists_next (run moment) there
      · have later : (traffic.along run (moment + 1)).tasks[index]? = some after := found
        obtain ⟨step, mover, moved, since, standing, stage, rest⟩ :=
          ih later (by rw [← goes]; congr 1; omega)
        exact ⟨step, mover, moved, by omega, standing, stage.trans stays, rest⟩
      · exact ⟨moment, task, after, Nat.le_refl moment, there, rfl, scene, found, moved⟩

/-- A task that waits for nobody goes on, sooner or later, from any stages that are not its end. -/
theorem Fair.exists_leaving (fair : traffic.Fair run) (inside : Stage → Prop)
    (passing : ∀ answer, ¬ inside (.done answer))
    (there : (traffic.along run moment).tasks[index]? = some task)
    (left : task.stage.toGo? = some steps) (within : inside task.stage) :
    ∃ step mover after, moment ≤ step ∧ (traffic.along run step).tasks[index]? = some mover ∧
      inside mover.stage ∧
      (traffic.along run (step + 1)).scene = (mover.next (traffic.along run step).scene).1 ∧
      (traffic.along run (step + 1)).tasks[index]? = some after ∧
      after.stage = (mover.next (traffic.along run step).scene).2 ∧ ¬ inside after.stage := by
  induction steps using Nat.strongRecOn generalizing moment task with
  | ind steps ih =>
      obtain ⟨step, mover, after, since, standing, same, scene, moved, stage⟩ := fair.exists_go there
      by_cases still : inside after.stage
      · cases steps with
        | zero =>
            obtain ⟨answer, done⟩ := Stage.eq_done left
            exact absurd (done ▸ within) (passing answer)
        | succ steps =>
            obtain ⟨fewer, bound, nearer⟩ :=
              Task.toGo_next (traffic.along run step).scene (same ▸ left)
            obtain ⟨later, mover, after, onward, leaves⟩ :=
              ih fewer (Nat.lt_succ_of_le bound) moved (stage ▸ nearer) still
            exact ⟨later, mover, after, by omega, leaves⟩
      · exact ⟨step, mover, after, since, standing, same ▸ within, scene, moved, stage, still⟩

/-- A task that waits for nobody is answered sooner or later. -/
theorem Fair.exists_answer (fair : traffic.Fair run)
    (there : (traffic.along run moment).tasks[index]? = some task)
    (left : task.stage.toGo? = some steps) :
    ∃ later final answer, moment ≤ later ∧
      (traffic.along run later).tasks[index]? = some final ∧ final.answer? = some answer := by
  by_cases ended : ∃ answer, task.stage = .done answer
  · obtain ⟨answer, done⟩ := ended
    exact ⟨moment, task, answer, Nat.le_refl moment, there, by rw [Task.answer?, done]⟩
  · obtain ⟨step, mover, after, since, -, -, -, moved, -, leaves⟩ :=
      fair.exists_leaving (fun stage => ¬ ∃ answer, stage = .done answer)
        (fun answer unended => unended ⟨answer, rfl⟩) there left ended
    obtain ⟨answer, done⟩ := not_not.mp leaves
    exact ⟨step + 1, after, answer, by omega, moved, by rw [Task.answer?, done]⟩

/-- A promise that somebody has taken on is kept sooner or later. -/
theorem Fair.exists_kept (fair : traffic.Fair run) (shared : traffic.Shared)
    (there : (traffic.along run moment).tasks[index]? = some task)
    (owes : task.stage.owes? = some ticket) :
    ∃ later result, moment ≤ later ∧
      (traffic.along run later).scene.session.promises[ticket.promise]? =
        some ⟨ticket.slot, true, some result⟩ := by
  obtain ⟨steps, left⟩ := Stage.toGo_of_owes owes
  obtain ⟨step, mover, after, since, standing, owing, scene, -, stage, free⟩ :=
    fair.exists_leaving (fun stage => stage.owes? = some ticket) (fun _ => nofun) there
      left owes
  rcases (Task.handling_next (traffic.along run step).scene mover).owes_or_keeps
    ((shared.along run step).minds index mover standing) owing with still | ⟨_, result, -, -, kept⟩
  · exact absurd (stage ▸ still) free
  · refine ⟨step + 1, result, by omega, ?_⟩
    rw [scene]
    exact kept

/-- What a promise was kept with stays the same. -/
theorem Shared.kept_next (shared : traffic.Shared) (event : Event) {id : Nat} {slot : Slot}
    {result : Except ExtractionError Report}
    (kept : traffic.scene.session.promises[id]? = some ⟨slot, true, some result⟩) :
    (traffic.next event).scene.session.promises[id]? = some ⟨slot, true, some result⟩ := by
  rcases traffic.rests_or_advances event with rests | ⟨index, task, rfl, there, advances⟩
  · rw [rests.session, kept]
  · obtain ⟨later?, found, grows⟩ := (Task.handling_next traffic.scene task).stays_led
      (shared.minds index task there) kept
    rw [advances, scene_advance, found, grows result rfl]

/-- A promise that was kept stays so, with the same result, in every run of events. -/
theorem Shared.kept_run (shared : traffic.Shared) (events : List Event) {id : Nat} {slot : Slot}
    {result : Except ExtractionError Report}
    (kept : traffic.scene.session.promises[id]? = some ⟨slot, true, some result⟩) :
    (events.foldl Traffic.next traffic).scene.session.promises[id]? =
      some ⟨slot, true, some result⟩ := by
  induction events generalizing traffic with
  | nil => exact kept
  | cons event events ih => exact ih (shared.next event) (shared.kept_next event kept)

theorem Shared.kept_along (shared : traffic.Shared) {id : Nat} {slot : Slot}
    {result : Except ExtractionError Report} (order : first ≤ last)
    (kept : (traffic.along run first).scene.session.promises[id]? =
      some ⟨slot, true, some result⟩) :
    (traffic.along run last).scene.session.promises[id]? = some ⟨slot, true, some result⟩ := by
  induction order with
  | refl => exact kept
  | @step last order ih => exact (shared.along run last).kept_next (run last) ih

theorem Follows.along (shared : traffic.Shared) (order : first ≤ last)
    (follows : (traffic.along run first).Follows caller errand ticket) :
    (traffic.along run last).Follows caller errand ticket := by
  induction order with
  | refl => exact follows
  | @step last order ih => exact ih.next (shared.along run last) (run last)

/-- A caller whose promise was kept is answered sooner or later. -/
theorem Fair.exists_answer_of_kept (fair : traffic.Fair run) (shared : traffic.Shared)
    {result : Except ExtractionError Report}
    (follows : (traffic.along run moment).Follows caller errand ticket)
    (kept : (traffic.along run moment).scene.session.promises[ticket.promise]? =
      some ⟨ticket.slot, true, some result⟩) :
    ∃ later final answer, moment ≤ later ∧
      (traffic.along run later).tasks[caller]? = some final ∧ final.answer? = some answer := by
  obtain ⟨task, result?, there, -, far⟩ := follows
  generalize stage : task.stage = stands at far
  cases far with
  | waits =>
      obtain ⟨step, mover, after, since, -, same, -, moved, goesOn⟩ := fair.exists_go there
      have told := shared.kept_along since kept
      have goes : mover.next (traffic.along run step).scene =
          ((traffic.along run step).scene, .finish errand result) := by
        rw [Task.next, same, stage]
        exact Scene.await_kept _ errand ticket told
      have left : after.stage.toGo? = some 1 := by
        rw [goesOn, goes]
        rfl
      obtain ⟨later, final, answer, onward, found, answered⟩ := fair.exists_answer moved left
      exact ⟨later, final, answer, by omega, found, answered⟩
  | finishes => exact fair.exists_answer there (by rw [stage]; rfl)
  | recorded | discarded => exact fair.exists_answer there (by rw [stage]; rfl)

/-- In a run that leaves no task out for ever, every caller that waits for a promise is answered. -/
theorem Fair.exists_answer_of_await (fair : traffic.Fair run) (shared : traffic.Shared)
    (tended : traffic.Tended) (there : traffic.tasks[caller]? = some task)
    (stage : task.stage = .await errand ticket) :
    ∃ later final answer, (traffic.along run later).tasks[caller]? = some final ∧
      final.answer? = some answer := by
  have start : (traffic.along run 0).tasks[caller]? = some task := there
  obtain ⟨step, mover, after, -, standing, same, -, moved, goesOn⟩ := fair.exists_go start
  have now := shared.along run step
  have promised := (now.minds caller mover standing).awaits ticket (by rw [same, stage]; rfl)
  rcases Task.await_cases (traffic.along run step).scene (same.trans stage) promised with
    ⟨led, result, -, goes⟩ | ⟨-, goes⟩ | ⟨taken, -⟩
  · have left : after.stage.toGo? = some 1 := by
      rw [goesOn, goes]
      rfl
    obtain ⟨later, final, answer, -, found, answered⟩ := fair.exists_answer moved left
    exact ⟨later, final, answer, found, answered⟩
  · obtain ⟨steps, left⟩ := Stage.toGo_led errand ticket
    obtain ⟨later, final, answer, -, found, answered⟩ :=
      fair.exists_answer moved (by rw [goesOn, goes]; exact left)
    exact ⟨later, final, answer, found, answered⟩
  · -- somebody else has the promise in hand, and keeps it while this caller waits
    obtain ⟨leader, leading, held, owes⟩ :=
      (tended.along shared run step).owed ticket.promise ticket.slot taken
    obtain ⟨later, result, since, kept⟩ := fair.exists_kept shared held owes
    have follows : (traffic.along run step).Follows caller errand ticket :=
      ⟨mover, none, standing, taken, by rw [same, stage]; exact .waits⟩
    obtain ⟨last, final, answer, -, found, answered⟩ :=
      fair.exists_answer_of_kept shared (follows.along shared since) kept
    exact ⟨last, final, answer, found, answered⟩

end Traffic

end ScriptRoster
