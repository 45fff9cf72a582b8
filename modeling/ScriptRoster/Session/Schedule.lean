import ScriptRoster.Session.Task

/-!
# Schedules

How tasks are carried on: one task until it is answered or has to wait, or several in turns.
-/

namespace ScriptRoster

namespace Task

/-- The number of steps after which a task is left alone. Only functions that are being called go
on for long: with a step for each slice, this is about a day. -/
def stepLimit : Nat := 8640064

/-- Carries a task on for at most `fuel` steps, until it is answered, has to wait, or comes to a
stage where it is held. -/
def goOnWithin (hold : Stage → Bool) : Nat → Scene → Task → Scene × Task
  | 0, scene, task => (scene, task)
  | fuel + 1, scene, task =>
      if task.answer?.isSome || hold task.stage || task.isBlocked scene.session then (scene, task)
      else
        let (scene, task) := task.step scene
        goOnWithin hold fuel scene task

/-- Carries a task on until it is answered, has to wait, or comes to a stage where it is held. -/
def goOnUntil (hold : Stage → Bool) (scene : Scene) (task : Task) : Scene × Task :=
  task.goOnWithin hold stepLimit scene

/-- Carries a task on until it is answered or has to wait. -/
def goOn (scene : Scene) (task : Task) : Scene × Task := task.goOnUntil (fun _ => false) scene

/-- Carries tasks on, one after the other, as far as each can go. -/
def goOnEach (scene : Scene) : List Task → Scene × List Task
  | [] => (scene, [])
  | task :: rest =>
      let (scene, task) := task.goOn scene
      let (scene, rest) := goOnEach scene rest
      (scene, task :: rest)

/-- Lets each task do one step, if it can. -/
def round (scene : Scene) : List Task → Scene × List Task
  | [] => (scene, [])
  | task :: rest =>
      let (scene, task) :=
        if task.answer?.isSome || task.isBlocked scene.session then (scene, task)
        else task.step scene
      let (scene, rest) := round scene rest
      (scene, task :: rest)

/-- Lets tasks take turns for at most `fuel` rounds, until all are answered or it is enough. -/
def roundsWithin (enough : Scene → Bool) : Nat → Scene → List Task → Scene × List Task
  | 0, scene, tasks => (scene, tasks)
  | fuel + 1, scene, tasks =>
      if enough scene || tasks.all (·.answer?.isSome) then (scene, tasks)
      else
        let (scene, tasks) := round scene tasks
        roundsWithin enough fuel scene tasks

/-- Lets tasks take turns until all are answered or it is enough. -/
def rounds (enough : Scene → Bool) (scene : Scene) (tasks : List Task) : Scene × List Task :=
  roundsWithin enough stepLimit scene tasks

/-- Cancels a call that is under way if its host shows a sign. -/
def heed (sign : Host → Bool) (scene : Scene) (task : Task) : Task :=
  match task.stage with
  | .watch _ => { task with cancelled := task.cancelled || sign scene.world.host }
  | _ => task

/-- Carries a task on for at most `fuel` steps, and heeds a sign to cancel it. -/
def goOnHeeding (sign : Host → Bool) : Nat → Scene → Task → Scene × Task
  | 0, scene, task => (scene, task)
  | fuel + 1, scene, task =>
      if task.answer?.isSome || task.isBlocked scene.session then (scene, task)
      else
        let (scene, task) := (task.heed sign scene).step scene
        goOnHeeding sign fuel scene task

/-- Whether a source has been called and the task waits for it. -/
def awaitsSource (session : Session) : Stage → Bool
  | .extract .. => !(Scene.allowedSources session).isEmpty
  | _ => false

end Task

namespace Scene

/-- Does what a session is asked to, and nothing else meanwhile. -/
def perform (scene : Scene) (request : Request) (cancelled : Bool) : Scene × Option Answer :=
  let (scene, task) := (Task.ofRequest request cancelled).goOn scene
  (scene, task.answer?)

end Scene

end ScriptRoster
