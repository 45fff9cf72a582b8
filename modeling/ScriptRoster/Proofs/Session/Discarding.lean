import ScriptRoster.Proofs.Session.Freshness
import ScriptRoster.Proofs.Session.Superseding

/-!
# Loads that end under a newer generation

Once another script has been configured, a load leaves the course of the session alone, in whatever
way it comes to its end. If it has found names, in the cache or in the script, it is answered that it
was superseded; if it has found none, it is answered why.
-/

namespace ScriptRoster

open Cache Files Text

/-- What a load does in its last step: under its own generation it records its result, and under a
newer one it leaves the session alone. -/
inductive Errand.Ends (errand : Errand) (result : Except ExtractionError Report)
    (session : Session) : Session → Answer → Prop
  | recorded (current : session.generation = errand.generation) :
      Ends errand result session (session.record result)
        (errand.kind.answer (result.mapError .extraction))
  | discarded (other : session.generation ≠ errand.generation) :
      Ends errand result session session (errand.kind.answer (stale result))

section Ending

variable {errand : Errand} {result : Except ExtractionError Report} {before after : Session}
  {answer : Answer}

theorem Errand.Ends.of_current (ends : errand.Ends result before after answer)
    (current : before.generation = errand.generation) :
    after = before.record result ∧ answer = errand.kind.answer (result.mapError .extraction) := by
  cases ends with
  | recorded => exact ⟨rfl, rfl⟩
  | discarded other => exact absurd current other

theorem Errand.Ends.of_newer (ends : errand.Ends result before after answer)
    (older : errand.generation < before.generation) : answer = errand.kind.answer (stale result) := by
  cases ends with
  | recorded current => exact absurd current (Nat.ne_of_gt older)
  | discarded => rfl

end Ending

section Loads

variable {request : Request} {before after : Session} {stage onward : Stage} {errand : Errand}
  {kind : LoadKind} {location : Location} {scene : Scene} {task : Task}

/-- A load keeps to its errand and leaves the course of the session alone until it ends. -/
theorem Turn.load_cases (turn : Turn request before stage after onward)
    (loads : stage.errand? = some errand) :
    (Session.SameCourse before after ∧ onward.errand? = some errand) ∨
      ∃ result answer, stage = .finish errand result ∧ onward = .done answer ∧
        errand.Ends result before after answer := by
  cases turn with
  | calm same _ kept => exact .inl ⟨same, kept.trans loads⟩
  | repointed | located | overtaken => cases loads
  | begun _ idle =>
      rw [idle] at loads
      cases loads
  | recorded current =>
      cases loads
      exact .inr ⟨_, _, rfl, rfl, .recorded current⟩
  | discarded other =>
      cases loads
      exact .inr ⟨_, _, rfl, rfl, .discarded other⟩

/-- Under a newer generation a load leaves the course of the session alone also when it ends. -/
theorem Turn.sameCourse_of_older (turn : Turn request before stage after onward)
    (loads : stage.errand? = some errand) (older : errand.generation < before.generation) :
    Session.SameCourse before after := by
  rcases turn.load_cases loads with ⟨same, -⟩ | ⟨result, answer, -, -, ends⟩
  · exact same
  · cases ends with
    | recorded current => exact absurd current (Nat.ne_of_gt older)
    | discarded => exact .refl before

/-- A load that begins works on the script of the session, under its generation. -/
theorem Task.begun_next (begins : task.stage.begins? task.request = some kind)
    (ready : scene.session.path = .ready location) :
    (task.next scene).1.session = { scene.session with load := .loading } ∧
      (task.next scene).2 = .makeKey ⟨kind, location.resolved, scene.session.generation⟩ := by
  have starts : task.next scene = scene.startLoad kind := by
    obtain ⟨request, stage, cancelled⟩ := task
    cases stage with
    | start =>
        cases request with
        | load | reload =>
            cases begins
            rfl
        | setScript | configure | run => cases begins
    | startLoad =>
        cases begins
        rfl
    | _ => cases begins
  rw [starts, scene.startLoad_ready ready]
  exact ⟨rfl, rfl⟩

end Loads

namespace Traffic

variable {traffic : Traffic} {index : Nat} {task : Task} {errand : Errand}

/-- A load that has begun is under way until it is answered. -/
theorem loading_run (there : traffic.tasks[index]? = some task)
    (loads : task.stage.errand? = some errand) (events : List Event) :
    ∃ later, (events.foldl Traffic.next traffic).tasks[index]? = some later ∧
      (later.stage.errand? = some errand ∨ ∃ answer, later.stage = .done answer) := by
  induction events generalizing traffic task with
  | nil => exact ⟨task, there, .inl loads⟩
  | cons event events ih =>
      obtain ⟨later, found, stays | ⟨-, -, stage⟩⟩ := exists_next event there
      · exact ih found (stays ▸ loads)
      · rcases (task.turn_next traffic.scene).load_cases loads with ⟨-, kept⟩ | ⟨_, answer, -, done, -⟩
        · exact ih found (stage.symm ▸ kept)
        · obtain ⟨last, same, stays⟩ := foldl_done found (stage.trans done) events
          exact ⟨last, same, .inr ⟨answer, stays⟩⟩

/-- A load that has been answered was answered at some moment, in its last step. -/
theorem ends_run (there : traffic.tasks[index]? = some task)
    (loads : task.stage.errand? = some errand) {events : List Event} {later : Task}
    {answer : Answer} (last : (events.foldl Traffic.next traffic).tasks[index]? = some later)
    (answered : later.stage = .done answer) :
    ∃ sooner rest ending result, events = sooner ++ .go index :: rest ∧
      (sooner.foldl Traffic.next traffic).tasks[index]? = some ending ∧
      ending.stage = .finish errand result ∧
      errand.Ends result (sooner.foldl Traffic.next traffic).scene.session
        ((sooner.foldl Traffic.next traffic).next (.go index)).scene.session answer := by
  induction events generalizing traffic task with
  | nil =>
      cases there.symm.trans last
      rw [answered] at loads
      cases loads
  | cons event events ih =>
      obtain ⟨after, found, stays | ⟨rfl, scene, stage⟩⟩ := exists_next event there
      · obtain ⟨sooner, rest, ending, result, rfl, course⟩ := ih found (stays ▸ loads) last
        exact ⟨event :: sooner, rest, ending, result, rfl, course⟩
      · rcases (task.turn_next traffic.scene).load_cases loads
          with ⟨-, kept⟩ | ⟨result, told, finishes, done, ends⟩
        · obtain ⟨sooner, rest, ending, result, rfl, course⟩ := ih found (stage.symm ▸ kept) last
          exact ⟨.go index :: sooner, rest, ending, result, rfl, course⟩
        · obtain ⟨final, same, stays⟩ := foldl_done found (stage.trans done) events
          cases same.symm.trans last
          cases stays.symm.trans answered
          refine ⟨[], events, task, result, rfl, there, finishes, ?_⟩
          rw [List.foldl_nil, scene]
          exact ends

end Traffic

/-- In every order of steps, a load that has begun leaves the course of the session alone, path, load
state, list and generation, once a call has pointed the session at a script since. It is answered
in the step in which it ends. If such a call has come before that step, it is answered that it was
superseded if it has found names, in the cache or in the script, and why it has found none if it
has found none; otherwise the session records what it has found. -/
theorem superseded_load_discarded {before : Traffic} {index : Nat} {task : Task} {kind : LoadKind}
    {location : Location} (there : before.tasks[index]? = some task)
    (begins : task.stage.begins? task.request = some kind)
    (ready : before.scene.session.path = .ready location) (later : List Event) :
    let begun := before.next (.go index)
    let now := later.foldl Traffic.next begun
    (begun.repointedBy later = true →
      Session.SameCourse now.scene.session (now.next (.go index)).scene.session) ∧
    ∀ last answer, now.tasks[index]? = some last → last.answer? = some answer →
      ∃ sooner rest ending result, later = sooner ++ .go index :: rest ∧
        (sooner.foldl Traffic.next begun).tasks[index]? = some ending ∧
        ending.stage = .finish ⟨kind, location.resolved, before.scene.session.generation⟩ result ∧
        (begun.repointedBy sooner = true →
          (∀ report, result = .ok report → answer = kind.answer (.error .superseded)) ∧
            ∀ error, result = .error error → answer = kind.answer (.error (.extraction error))) ∧
        (begun.repointedBy sooner = false →
          ((sooner.foldl Traffic.next begun).next (.go index)).scene.session =
              (sooner.foldl Traffic.next begun).scene.session.record result ∧
            answer = kind.answer (result.mapError .extraction)) := by
  intro begun now
  obtain ⟨session, stage⟩ := Task.begun_next begins ready
  have goes : begun = before.advance index task := Traffic.next_go there
  have moved : begun.tasks[index]? = some ⟨task.request, (task.next before.scene).2, task.cancelled⟩ := by
    rw [goes]
    exact Traffic.getElem?_advance_self there
  have loads : (task.next before.scene).2.errand? =
      some ⟨kind, location.resolved, before.scene.session.generation⟩ := by
    rw [stage]
    rfl
  have generation : begun.scene.session.generation = before.scene.session.generation := by
    rw [goes, Traffic.scene_advance, session]
  constructor
  · intro points
    have older := (Traffic.generation_lt_iff begun later).mpr points
    obtain ⟨current, found, loading | ⟨answer, done⟩⟩ := Traffic.loading_run moved loads later
    · rw [Traffic.next_go found, Traffic.scene_advance]
      exact (current.turn_next now.scene).sameCourse_of_older loading (generation ▸ older)
    · rw [Traffic.next_go found, Traffic.scene_advance, Task.next, done]
      exact .refl _
  · intro last answer found answered
    obtain ⟨sooner, rest, ending, result, split, standing, finishes, ends⟩ :=
      Traffic.ends_run moved loads found (Task.stage_of_answered answered)
    refine ⟨sooner, rest, ending, result, split, standing, finishes, ?_, ?_⟩
    · intro points
      have older := (Traffic.generation_lt_iff begun sooner).mpr points
      rw [generation] at older
      have told := ends.of_newer older
      constructor
      · rintro report rfl
        exact told
      · rintro error rfl
        exact told
    · intro still
      exact ends.of_current ((Traffic.generation_eq_of_unrepointed still).trans generation)

/-! ## A load that ends late -/

/-- What an answer tells to have gone wrong. -/
def Answer.error? : Answer → Option SessionError
  | .located (.error error) | .loaded (.error error) | .reloaded (.error error) => some error
  | _ => none

/-- A session that parses its only script by its structure. -/
def Scene.structural (content : String) : Scene where
  session := (Session.start { Profile.ofSettings .defaults with
    keyMode := .fixed, preference := .structural }).pointed "/s" (.ok ⟨"/s", onlyScript⟩)
  world := .bare (.withScript content 5)

namespace Traffic

/-- A load has been asked for. -/
def asking (content : String) : Traffic := (quiet (.structural content)).next (.ask (.load true))

/-- A load has read its script. -/
def reading (content : String) : Traffic :=
  ⟨⟨Session.leading { (Scene.structural content).session with load := .loading }
        ⟨"psfunc-functions-/s", false⟩, (Scene.structural content).world⟩,
    [⟨.load true, .callSource ⟨.fresh, onlyScript, 1⟩
      (some ⟨⟨"psfunc-functions-/s", false⟩, 0⟩) (dropMark content), false⟩],
    [(onlyScript, dropMark content)]⟩

/-- A load reads its script and does so many steps more, and then another script is configured. -/
def changing (steps : Nat) : List Event :=
  List.replicate 4 (.go 0) ++ (List.replicate steps (.go 0) ++ [.ask (.setScript "/t"), .go 1])

theorem foldl_reading (content : String) :
    (List.replicate 4 (Event.go 0)).foldl next ((asking content).next (.go 0)) =
      reading content := by
  have letters : "psfunc-functions" ++ "-" ++ onlyScript.display = "psfunc-functions-/s" := by
    decide +kernel
  have made : (Scene.structural content).session.keyOf (Scene.structural content).world.host
      onlyScript = .ok "psfunc-functions-/s" := congrArg Except.ok letters
  exact @leader_reads (Scene.structural content).session (Scene.structural content).world
    ⟨"/s", onlyScript⟩ _ _ rfl made rfl (Host.readScript_withScript _ _)

theorem foldl_changing (content : String) (steps : Nat) (rest : List Event) :
    (changing steps ++ rest).foldl next ((asking content).next (.go 0)) =
      (List.replicate steps (Event.go 0) ++ [Event.ask (.setScript "/t"), .go 1] ++ rest).foldl next
        (reading content) := by
  rw [changing, List.append_assoc, List.foldl_append, foldl_reading]

theorem exists_answer {traffic : Traffic} {index : Nat} {error : SessionError}
    (told : (traffic.tasks[index]?.bind (·.answer?)).bind Answer.error? = some error) :
    ∃ task answer, traffic.tasks[index]? = some task ∧ task.answer? = some answer ∧
      answer.error? = some error := by
  obtain ⟨answer, found, wrong⟩ := Option.bind_eq_some_iff.mp told
  obtain ⟨task, there, answered⟩ := Option.bind_eq_some_iff.mp found
  exact ⟨task, answer, there, answered, wrong⟩

end Traffic

/-- A load that has found names ends when another script has been configured. -/
theorem superseded_load_discarded_late :
    let begun := (Traffic.asking "function A \x7b\x7d").next (.go 0)
    ∃ sooner rest ending report, Traffic.changing 5 ++ [Event.go 0] = sooner ++ .go 0 :: rest ∧
      begun.repointedBy sooner = true ∧
      (sooner.foldl Traffic.next begun).tasks[0]? = some ending ∧
      ending.stage = .finish ⟨.fresh, onlyScript, 1⟩ (.ok report) ∧
      ∃ last, ((Traffic.changing 5 ++ [Event.go 0]).foldl Traffic.next begun).tasks[0]? = some last ∧
        last.answer? = some (.loaded (.error .superseded)) := by
  have told : ((((Traffic.changing 5 ++ [Event.go 0]).foldl Traffic.next
      ((Traffic.asking "function A \x7b\x7d").next (.go 0))).tasks[0]?.bind (·.answer?)).bind
        Answer.error?) = some .superseded := by
    rw [Traffic.foldl_changing]
    decide +kernel
  obtain ⟨last, answer, found, answered, wrong⟩ := Traffic.exists_answer told
  have there : (Traffic.asking "function A \x7b\x7d").tasks[0]? =
      some (.ofRequest (.load true) false) := rfl
  obtain ⟨-, ends⟩ :=
    superseded_load_discarded there rfl rfl (Traffic.changing 5 ++ [Event.go 0])
  obtain ⟨sooner, rest, ending, result, split, standing, finishes, newer, same⟩ :=
    ends last answer found answered
  -- which traffic it is does not matter any more, and it is too large to be computed here
  generalize (Traffic.asking "function A \x7b\x7d").next (.go 0) = begun at found standing newer same ⊢
  cases points : begun.repointedBy sooner with
  | true =>
      obtain ⟨listed, failed⟩ := newer points
      cases result with
      | ok report =>
          rw [listed report rfl] at answered
          exact ⟨sooner, rest, ending, report, split, points, standing, finishes, last, found,
            answered⟩
      | error error =>
          rw [failed error rfl] at wrong
          cases wrong
  | false =>
      obtain ⟨-, same⟩ := same points
      rw [same] at wrong
      cases result <;> cases wrong

/-- A load that has found no names is answered why, where it should tell that it was superseded. -/
theorem superseded_load_tells_failure :
    ¬ ∀ (scene : Scene) (first sooner : List Event) (index : Nat) (task ending last : Task)
        (kind : LoadKind) (location : Location) (answer : Answer) (before begun late : Traffic),
      first.foldl Traffic.next (.quiet scene) = before →
      before.tasks[index]? = some task → task.stage.begins? task.request = some kind →
      before.scene.session.path = .ready location →
      before.next (.go index) = begun → begun.repointedBy sooner = true →
      sooner.foldl Traffic.next begun = late → late.tasks[index]? = some ending →
      ending.answer? = none → (late.next (.go index)).tasks[index]? = some last →
      last.answer? = some answer →
        answer = kind.answer (.error .superseded) := by
  intro claim
  have overtaken : ((Traffic.asking "function A \x7b").next (.go 0)).repointedBy
      (Traffic.changing 4) = true := by
    rw [← Traffic.generation_lt_iff, ← List.append_nil (Traffic.changing 4),
      Traffic.foldl_changing]
    decide +kernel
  have late := Traffic.foldl_changing "function A \x7b" 4 []
  rw [List.append_nil, List.append_nil] at late
  generalize ended : (List.replicate 4 (Event.go 0) ++ [Event.ask (.setScript "/t"), .go 1]).foldl
    Traffic.next (.reading "function A \x7b") = now at late
  have waits : now.tasks[0]?.map (·.answer?.isNone) = some true := by
    rw [← ended]
    decide +kernel
  have fails : (((now.next (.go 0)).tasks[0]?.bind (·.answer?)).bind Answer.error?).any
      (· ≠ .superseded) = true := by
    rw [← ended]
    decide +kernel
  obtain ⟨ending, standing, unanswered⟩ := Option.map_eq_some_iff.mp waits
  obtain ⟨error, told, other⟩ := (Option.any_eq_true _ _).mp fails
  obtain ⟨last, answer, found, answered, wrong⟩ := Traffic.exists_answer told
  have superseded := claim (.structural "function A \x7b") [.ask (.load true)] (Traffic.changing 4) 0
    (.ofRequest (.load true) false) ending last .fresh ⟨"/s", onlyScript⟩ answer _ _ now rfl rfl rfl
    rfl rfl overtaken late standing (Option.isNone_iff_eq_none.mp unanswered) found answered
  rw [superseded] at wrong
  cases wrong
  simp at other

end ScriptRoster
