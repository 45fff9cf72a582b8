import ScriptRoster.Proofs.Session.Belonging
import ScriptRoster.Proofs.Session.Life

/-!
# What a call answers that configures a script

Such a call goes in two halves: it finds a script, and then it loads whichever script the session
has by then. If nobody points the session at another script between the halves, the call answers for
the script that it found, whatever happens before and after. If somebody does, it answers for the
other script, or as if none was configured.
-/

namespace ScriptRoster

open Cache Files Text

/-- A call that has found the script it configures. -/
structure Configuring where
  raw : String
  generation : Nat
  kind : LoadKind
  location : Location

namespace Configuring

/-- The stage of the call when it has found its script. -/
def settling (call : Configuring) : Stage :=
  .settle call.raw call.generation (some call.kind) (.ok call.location)

/-- What the call loads, if it comes to that. -/
def errand (call : Configuring) : Errand := ⟨call.kind, call.location.resolved, call.generation⟩

/-- How far a call may have come that answers for its own script. -/
inductive Holds (call : Configuring) (session : Session) : Stage → Prop
  | settling : Holds call session call.settling
  | between (current : session.generation = call.generation)
      (ready : session.path = .ready call.location) : Holds call session (.startLoad call.kind)
  | loading {stage} (loads : stage.errand? = some call.errand) : Holds call session stage

/-- The stage at which a call does its last step, and what it answers then. -/
inductive Concludes (call : Configuring) (session : Session) :
    Stage → Except SessionError Report → Prop
  | overtaken (other : session.generation ≠ call.generation) :
      Concludes call session call.settling (.error .superseded)
  | recorded {result} (current : session.generation = call.generation) :
      Concludes call session (.finish call.errand result) (result.mapError .extraction)
  | discarded {result} (other : session.generation ≠ call.generation) :
      Concludes call session (.finish call.errand result) (stale result)

end Configuring

section Steps

variable {call : Configuring} {request : Request} {scene there : Scene} {before after : Session}
  {stage next : Stage} {result : Except SessionError Report}

/-- A load ends by recording its result, or by discarding it under a newer generation. -/
theorem Act.concludes (act : Act request scene stage there next)
    (loads : stage.errand? = some call.errand) :
    ∃ result, next = .done (call.kind.answer result) ∧
      call.Concludes scene.session stage result := by
  cases act with
  | recorded current =>
      cases loads
      exact ⟨_, rfl, .recorded current⟩
  | discarded other =>
      cases loads
      exact ⟨_, rfl, .discarded other⟩
  | begun begins | refused begins =>
      rw [(Stage.errand_of_begins begins).1] at loads
      cases loads
  | @ended stage _ _ _ calls =>
      cases stage with
      | spawn | watch => cases loads
      | _ => cases calls
  | repointed | resolved | located | overtaken | listed | unlisted | spawned | watched | concluded
  | rested => cases loads

/-- A call that holds on to its script goes on to do so, or is answered. -/
theorem Task.holds_next (task : Task) (holds : call.Holds scene.session task.stage) :
    call.Holds (task.next scene).1.session (task.next scene).2 ∨
      ∃ result, (task.next scene).2 = .done (call.kind.answer result) ∧
        call.Concludes scene.session task.stage result := by
  obtain ⟨request, stage, cancelled⟩ := task
  cases holds with
  | settling =>
      by_cases current : scene.session.generation = call.generation
      · obtain ⟨world, -, settle⟩ :=
          scene.settle_current call.raw (some call.kind) (.ok call.location) current
        rw [show (Task.mk request (.settle call.raw call.generation (some call.kind)
          (.ok call.location)) cancelled).next scene = _ from settle]
        exact .inl (.between current rfl)
      · rw [show (Task.mk request (.settle call.raw call.generation (some call.kind)
          (.ok call.location)) cancelled).next scene = _ from
            scene.settle_superseded call.raw (some call.kind) (.ok call.location) current]
        exact .inr ⟨.error .superseded, rfl, .overtaken current⟩
  | between current ready =>
      rw [show (Task.mk request (.startLoad call.kind) cancelled).next scene = _ from
        scene.startLoad_ready ready]
      refine .inl (.loading ?_)
      rw [current]
      rfl
  | loading loads =>
      rcases Task.move_or_act scene ⟨request, stage, cancelled⟩ with move | act
      · obtain ⟨errand, kept, keeps⟩ := move.exists_errand
        exact .inl (.loading (keeps.trans (kept.symm.trans loads)))
      · exact .inr (act.concludes loads)

/-- A call holds on to its script while others do steps, if the session keeps the script between the
halves of the call. -/
theorem Configuring.Holds.rest (holds : call.Holds before stage)
    (keeps : ∀ kind, stage = .startLoad kind →
      after.generation = before.generation ∧ before.path.Becomes after.path) :
    call.Holds after stage := by
  cases holds with
  | settling => exact .settling
  | between current ready =>
      obtain ⟨same, becomes⟩ := keeps _ rfl
      rw [ready] at becomes
      exact .between (same.trans current) becomes.eq_of_ready
  | loading loads => exact .loading loads

theorem Configuring.Holds.not_done {answer : Answer} (holds : call.Holds before stage) :
    stage ≠ .done answer := by
  rintro rfl
  cases holds with
  | loading loads => cases loads

/-! ## Answers -/

theorem Configuring.Concludes.ne_notConfigured (concludes : call.Concludes before stage result) :
    result ≠ .error .notConfigured := by
  cases concludes with
  | overtaken => nofun
  | @recorded found => cases found <;> nofun
  | @discarded found => cases found <;> nofun

/-- A call is not answered with names once another script has been configured. -/
theorem Configuring.Concludes.of_other (concludes : call.Concludes before stage result)
    (other : before.generation ≠ call.generation) :
    result = .error .superseded ∨ ∃ error, result = .error (.extraction error) := by
  cases concludes with
  | overtaken => exact .inl rfl
  | recorded current => exact absurd current other
  | @discarded found =>
      cases found with
      | ok => exact .inl rfl
      | error error => exact .inr ⟨error, rfl⟩

/-- A call is answered with the names that were found by a load of its script. -/
theorem Configuring.Concludes.finish_of_ok {report : Report}
    (concludes : call.Concludes before stage (.ok report)) :
    before.generation = call.generation ∧ stage = .finish call.errand (.ok report) := by
  generalize same : Except.ok report = answered at concludes
  cases concludes with
  | overtaken => cases same
  | @recorded found current =>
      cases found with
      | ok =>
          cases same
          exact ⟨current, rfl⟩
      | error => cases same
  | @discarded found =>
      cases found <;> cases same

end Steps

/-! ## Runs -/

namespace Traffic

variable {traffic : Traffic} {event : Event} {index : Nat} {task : Task} {call : Configuring}

/-- Nobody points the session at a script while a call has found its own and has not begun to load
it. -/
def Undisturbed (index : Nat) (traffic : Traffic) (event : Event) : Prop :=
  ∀ task kind, traffic.tasks[index]? = some task → task.stage = .startLoad kind →
    traffic.repoints event = false

/-- A call does not disturb itself. -/
theorem undisturbed_go (index : Nat) (traffic : Traffic) :
    traffic.Undisturbed index (.go index) := by
  intro task kind there starts
  simp [repoints, there, Task.repoints, starts, Stage.isStart]

/-- Whatever happens, a task stays where it is or does one step. -/
theorem exists_next (event : Event) (there : traffic.tasks[index]? = some task) :
    ∃ later, (traffic.next event).tasks[index]? = some later ∧
      (later.stage = task.stage ∨
        event = .go index ∧ (traffic.next event).scene = (task.next traffic.scene).1 ∧
          later.stage = (task.next traffic.scene).2) := by
  rcases traffic.rests_or_advances event with rests | ⟨other, mover, rfl, found, same⟩
  · obtain ⟨later, kept, stays⟩ := rests.kept index task there
    exact ⟨later, kept, .inl stays⟩
  · rw [same, advance]
    by_cases here : other = index
    · subst here
      obtain rfl : mover = task := Option.some.inj (found.symm.trans there)
      have inside := (List.getElem?_eq_some_iff.mp there).1
      exact ⟨_, List.getElem?_set_self inside, .inr ⟨rfl, rfl, rfl⟩⟩
    · exact ⟨task, by rw [List.getElem?_set_ne here, there], .inl rfl⟩

/-- An undisturbed call holds on to its script through every event, or is answered. -/
theorem holds_next (orderly : traffic.Orderly) (there : traffic.tasks[index]? = some task)
    (holds : call.Holds traffic.scene.session task.stage)
    (undisturbed : traffic.Undisturbed index event) :
    ∃ later, (traffic.next event).tasks[index]? = some later ∧
      (call.Holds (traffic.next event).scene.session later.stage ∨
        ∃ result, event = .go index ∧ later.stage = .done (call.kind.answer result) ∧
          call.Concludes traffic.scene.session task.stage result) := by
  obtain ⟨later, found, stays | ⟨rfl, scene, stage⟩⟩ := exists_next event there
  · refine ⟨later, found, .inl ?_⟩
    rw [stays]
    refine holds.rest fun kind starts => ?_
    have same : (traffic.next event).scene.session.generation =
        traffic.scene.session.generation := by
      simp [traffic.generation_next event, undisturbed task kind there starts]
    exact ⟨same, orderly.path_becomes_next same⟩
  · refine ⟨later, found, ?_⟩
    rw [scene, stage]
    rcases task.holds_next holds with holds | ⟨result, done, concludes⟩
    · exact .inl holds
    · exact .inr ⟨result, rfl, done, concludes⟩

/-- A task that is answered stays so. -/
theorem foldl_done {answer : Answer} (there : traffic.tasks[index]? = some task)
    (done : task.stage = .done answer) (events : List Event) :
    ∃ later, (events.foldl next traffic).tasks[index]? = some later ∧
      later.stage = .done answer := by
  induction events generalizing traffic task with
  | nil => exact ⟨task, there, done⟩
  | cons event events ih =>
      obtain ⟨later, found, stays | ⟨-, -, stage⟩⟩ := exists_next event there
      · exact ih found (stays.trans done)
      · refine ih found (stage.trans ?_)
        simp only [Task.next, done]

/-- An undisturbed call that has been answered was answered at some moment for its own script. -/
theorem concludes_run (orderly : traffic.Orderly) (there : traffic.tasks[index]? = some task)
    (holds : call.Holds traffic.scene.session task.stage) {events : List Event}
    (undisturbed : Along next (Undisturbed index) traffic events) {later : Task} {answer : Answer}
    (last : (events.foldl next traffic).tasks[index]? = some later)
    (answered : later.stage = .done answer) :
    ∃ sooner rest concluding result, events = sooner ++ .go index :: rest ∧
      (sooner.foldl next traffic).tasks[index]? = some concluding ∧
      call.Concludes (sooner.foldl next traffic).scene.session concluding.stage result ∧
      answer = call.kind.answer result := by
  induction events generalizing traffic task with
  | nil =>
      cases there.symm.trans last
      exact absurd answered holds.not_done
  | cons event events ih =>
      obtain ⟨first, onward⟩ := undisturbed
      obtain ⟨after, found, goesOn | ⟨result, rfl, done, concludes⟩⟩ :=
        holds_next orderly there holds first
      · obtain ⟨sooner, rest, concluding, result, rfl, course⟩ :=
          ih (orderly.next event) found goesOn onward last
        exact ⟨event :: sooner, rest, concluding, result, rfl, course⟩
      · obtain ⟨final, same, stage⟩ := foldl_done found done events
        cases same.symm.trans last
        refine ⟨[], events, task, result, rfl, there, concludes, ?_⟩
        exact Stage.done.inj (answered.symm.trans stage)

end Traffic

/-! ## A call that is overtaken between its halves -/

namespace Traffic

/-- What happens until a call has found its script. -/
def finding (raw : String) : List Event :=
  .ask (.configure raw true) :: List.replicate 2 (.go 0)

/-- What happens until another call has found its script, after the first one has recorded where its
own was found. -/
def overtaking (other : String) : List Event :=
  .go 0 :: .ask (.setScript other) :: List.replicate 3 (.go 1)

variable (session : Session) (world : World) {raw other : String} {location elsewhere : Location}

/-- A call finds its script alone. -/
theorem foldl_finding (located : Location.resolve world.host raw = .ok location) :
    ∃ later, World.Unasked world later ∧
      (finding raw).foldl next (.quiet ⟨session, world⟩) =
        ⟨⟨session.repointed raw, later⟩,
          [⟨.configure raw true,
            .settle raw (session.generation + 1) (some .fresh) (.ok location), false⟩], []⟩ := by
  have asks : [Task.ofRequest (.configure raw true) false][0]? = some _ := rfl
  obtain ⟨later, aside, sought⟩ := seeks session world _ [] rfl asks
  rw [located] at sought
  exact ⟨later, aside, sought⟩

/-- A call that has found its script answers, alone, with what is in it. -/
theorem finding_answers (quiet : session.inFlight = [])
    (located : Location.resolve world.host raw = .ok location) :
    ∃ task, ((finding raw ++ List.replicate 14 (Event.go 0)).foldl next
        (.quiet ⟨session, world⟩)).tasks[0]? = some task ∧
      task.answer? = some (.loaded
        ((session.profile.drawAt world.host location.resolved).mapError .extraction)) := by
  have asks : [Task.ofRequest (.configure raw true) false][0]? = some _ := rfl
  obtain ⟨later, promises, more, ended⟩ :=
    fresh_configure session world _ [] quiet located (Nat.le_refl 16) asks
  have whole : finding raw ++ List.replicate 14 (Event.go 0) =
      .ask (.configure raw true) :: List.replicate 16 (.go 0) := rfl
  rw [whole, List.foldl_cons, next_ask_quiet, ended]
  exact ⟨_, rfl, rfl⟩

/-- Another call finds its script between the halves of the first. -/
theorem foldl_overtaking (located : Location.resolve world.host raw = .ok location)
    (found : Location.resolve world.host other = .ok elsewhere) :
    ∃ later, World.Unasked world later ∧
      (finding raw ++ overtaking other).foldl next (.quiet ⟨session, world⟩) =
        ⟨⟨(session.pointed raw (.ok location)).pointed other (.ok elsewhere), later⟩,
          [⟨.configure raw true, .startLoad .fresh, false⟩,
            ⟨.setScript other, .done (.located (.ok elsewhere)), false⟩], []⟩ := by
  obtain ⟨between, aside, sought⟩ := foldl_finding session world located
  obtain ⟨middle, noted, settle⟩ := Scene.settle_current ⟨session.repointed raw, between⟩ raw
    (some .fresh) (.ok location) rfl
  have settled : (Task.mk (.configure raw true)
      (.settle raw (session.generation + 1) (some .fresh) (.ok location)) false).next
        ⟨session.repointed raw, between⟩ =
      (⟨session.pointed raw (.ok location), middle⟩, .startLoad .fresh) := settle
  have asks : [Task.mk (.configure raw true) (.startLoad .fresh) false,
      .ofRequest (.setScript other) false][1]? = some _ := rfl
  obtain ⟨later, told, pointed⟩ := points (session.pointed raw (.ok location)) middle _ [] rfl asks
  have host : middle.host = world.host := (aside.trans noted).host
  rw [host, found] at pointed
  refine ⟨later, (aside.trans noted).trans told, ?_⟩
  rw [List.foldl_append, sought, overtaking, List.foldl_cons, go_first settled rfl, List.foldl_cons]
  exact pointed

/-- A call that is overtaken between its halves answers with what is in the script of the other
call. -/
theorem overtaken_configure (quiet : session.inFlight = [])
    (located : Location.resolve world.host raw = .ok location)
    (found : Location.resolve world.host other = .ok elsewhere) :
    ∃ settling disturbed waiting task,
      (finding raw).foldl next (.quiet ⟨session, world⟩) = settling ∧
      settling.tasks[0]? = some ⟨.configure raw true,
        .settle raw (session.generation + 1) (some .fresh) (.ok location), false⟩ ∧
      (overtaking other).foldl next settling = disturbed ∧
      disturbed.tasks[0]? = some waiting ∧ waiting.answer? = none ∧
      disturbed.scene.session.generation = session.generation + 2 ∧
      ((List.replicate 13 (Event.go 0)).foldl next disturbed).tasks[0]? = some task ∧
      task.answer? = some (.loaded
        ((session.profile.drawAt world.host elsewhere.resolved).mapError .extraction)) := by
  obtain ⟨_, -, settling⟩ := foldl_finding session world located
  obtain ⟨later, aside, disturbed⟩ := foldl_overtaking session world located found
  have waits : [Task.mk (.configure raw true) (.startLoad .fresh) false,
      ⟨.setScript other, .done (.located (.ok elsewhere)), false⟩][0]? = some _ := rfl
  obtain ⟨_, _, _, ended⟩ := fresh_answer
    ((session.pointed raw (.ok location)).pointed other (.ok elsewhere)) later _ [] quiet rfl
    (Nat.le_refl 13) waits rfl rfl
  rw [List.foldl_append, settling] at disturbed
  refine ⟨_, _, _, _, settling, rfl, disturbed, waits, rfl, rfl, by rw [ended]; rfl, ?_⟩
  rw [← aside.host]
  rfl

end Traffic

/-- The path of another script. -/
def otherScript : Path := .ofString "/t"

/-- A host with two scripts, and the time of their last change. -/
def Host.withScripts (content other : String) (modified : Int) : Host where
  files := ⟨[([[0x73]], .file (encode content) modified),
    ([[0x74]], .file (encode other) modified)]⟩
  cwd := []
  environment := []
  now := modified

namespace Host

variable (content other : String) (modified : Int)

theorem isTop_otherScript : otherScript.IsTop [0x74] := by
  constructor <;> decide +kernel

theorem resolve_withScripts :
    Location.resolve (withScripts content other modified) "/s" = .ok ⟨"/s", onlyScript⟩ :=
  isTop_onlyScript.resolve (by decide +kernel) (by decide +kernel)
    (show (withScripts content other modified).files.at? [[0x73]] =
      some (.file (encode content) modified) from rfl)

theorem at?_withScripts :
    (withScripts content other modified).files.at? [[0x74]] =
      some (.file (encode other) modified) := rfl

theorem resolve_other_withScripts :
    Location.resolve (withScripts content other modified) "/t" = .ok ⟨"/t", otherScript⟩ :=
  isTop_otherScript.resolve (by decide +kernel) (by decide +kernel)
    (at?_withScripts content other modified)

theorem drawAt_other_withScripts (profile : Profile) :
    profile.drawAt (withScripts content other modified) otherScript =
      profile.draw (dropMark other) := by
  have read : readScript (withScripts content other modified).files
      (withScripts content other modified).cwd otherScript = .ok (dropMark other) := by
    simp only [readScript, FileTree.read, decode_encode,
      isTop_otherScript.find_of_file (at?_withScripts content other modified)]
  rw [Profile.drawAt, read]
  rfl

end Host

/-! ## Whose script a call answers for -/

/-- In every order of steps, if a call that configures a script has found it, and nobody points the
session at a script between the two halves of the call, then the call is answered for the script
that it found: as superseded if the generation is over before the script is recorded, and by what
became of a load of that very script otherwise. Once another script has been configured the answer
tells no names, it never tells that no script was configured, and over a store that was empty at
first any names that it tells were found in something read at the path of the script. -/
theorem configure_answers_for_its_script (profile : Profile) (world : World)
    (first later : List Event) {index : Nat} {raw : String} {fresh cancelled : Bool}
    {generation : Nat} {location : Location} {settling : Traffic}
    (found : first.foldl Traffic.next (.quiet ⟨.start profile, world⟩) = settling)
    (there : settling.tasks[index]? = some ⟨.configure raw fresh,
      .settle raw generation (some (if fresh then .fresh else .cached)) (.ok location), cancelled⟩)
    (undisturbed : Along Traffic.next (Traffic.Undisturbed index) settling later)
    {task : Task} {answer : Answer}
    (last : (later.foldl Traffic.next settling).tasks[index]? = some task)
    (answered : task.answer? = some answer) :
    ∃ sooner rest concluding result ending,
      later = sooner ++ .go index :: rest ∧ sooner.foldl Traffic.next settling = ending ∧
      ending.tasks[index]? = some concluding ∧
      Configuring.Concludes ⟨raw, generation, if fresh then .fresh else .cached, location⟩
        ending.scene.session concluding.stage result ∧
      answer = .loaded result ∧ result ≠ .error .notConfigured ∧
      (ending.scene.session.generation ≠ generation →
        result = .error .superseded ∨ ∃ error, result = .error (.extraction error)) ∧
      ∀ report, result = .ok report → (∀ key names, ¬ world.HoldsNames key names) →
        Along Traffic.next Traffic.May (.quiet ⟨.start profile, world⟩) (first ++ later) →
          ∃ content, (location.resolved, content) ∈ ending.reads ∧
            (profile.draw content).map Report.names = .ok report.names := by
  have orderly : settling.Orderly := by
    rw [← found]
    exact (Traffic.orderly_quiet (Session.coherent_start profile)).run first
  have holds : Configuring.Holds ⟨raw, generation, if fresh then .fresh else .cached, location⟩
      settling.scene.session
      (.settle raw generation (some (if fresh then .fresh else .cached)) (.ok location)) :=
    .settling
  obtain ⟨sooner, rest, concluding, result, rfl, standing, concludes, told⟩ :=
    Traffic.concludes_run orderly there holds undisturbed last (Task.stage_of_answered answered)
  refine ⟨sooner, rest, concluding, result, _, rfl, rfl, standing, concludes, ?_,
    concludes.ne_notConfigured, concludes.of_other, ?_⟩
  · rw [told]
    cases fresh <;> rfl
  · rintro report rfl empty run
    rw [← List.append_assoc] at run
    have sound : (sooner.foldl Traffic.next settling).Sound profile := by
      rw [← found, ← List.foldl_append]
      apply invariant_run (fun _ _ sound may => sound.next may) _ (along_append.mp run).1
      exact Traffic.sound_quiet profile empty
    have finds := sound.stages index concluding standing
    rw [concludes.finish_of_ok.2] at finds
    exact finds report rfl

/-- Alone, a call answers for the only script. -/
theorem configure_answers_for_its_script_alone :
    ∃ (settling : Traffic) (task : Task) (report : Report) (sooner rest : List Event)
        (content : String),
      (Traffic.finding "/s").foldl Traffic.next
          (.quiet ⟨.start (.ofSettings .defaults), .bare (.withScript "function A \x7b\x7d" 5)⟩) =
        settling ∧
      ((List.replicate 14 (Event.go 0)).foldl Traffic.next settling).tasks[0]? = some task ∧
      task.answer? = some (.loaded (.ok report)) ∧ report.names = ["A"] ∧
      List.replicate 14 (Event.go 0) = sooner ++ .go 0 :: rest ∧
      (onlyScript, content) ∈ (sooner.foldl Traffic.next settling).reads ∧
      ((Profile.ofSettings .defaults).draw content).map Report.names = .ok ["A"] := by
  have drawn : (Profile.ofSettings .defaults).draw (dropMark "function A \x7b\x7d") =
      .ok ⟨["A"], .extracted .structural⟩ := by decide +kernel
  have located := Host.resolve_withScript "function A \x7b\x7d" 5
  obtain ⟨_, -, settling⟩ := Traffic.foldl_finding (.start (.ofSettings .defaults))
    (.bare (.withScript "function A \x7b\x7d" 5)) located
  have there : ((Traffic.finding "/s").foldl Traffic.next (.quiet ⟨.start (.ofSettings .defaults),
      .bare (.withScript "function A \x7b\x7d" 5)⟩)).tasks[0]? = some ⟨.configure "/s" true,
        .settle "/s" 1 (some (if true then .fresh else .cached)) (.ok ⟨"/s", onlyScript⟩),
          false⟩ := by
    rw [settling]
    rfl
  obtain ⟨task, last, answered⟩ := Traffic.finding_answers (.start (.ofSettings .defaults))
    (.bare (.withScript "function A \x7b\x7d" 5)) rfl located
  obtain ⟨allowed, -⟩ := Traffic.configure_withScript (.ofSettings .defaults)
    (World.host_bare (.withScript "function A \x7b\x7d" 5))
  rw [World.host_bare, Host.drawAt_withScript, show (Session.start (.ofSettings .defaults)).profile =
    .ofSettings .defaults from rfl, drawn] at answered
  rw [List.foldl_append] at last
  obtain ⟨sooner, rest, _, _, _, split, rfl, -, -, told, -, -, belongs⟩ :=
    configure_answers_for_its_script (.ofSettings .defaults)
      (.bare (.withScript "function A \x7b\x7d" 5)) (Traffic.finding "/s")
      (List.replicate 14 (.go 0)) rfl there (along_replicate (Traffic.undisturbed_go 0) _ 14) last
      answered
  cases told
  obtain ⟨content, read, names⟩ :=
    belongs _ rfl (fun _ _ => World.not_holdsNames_bare) allowed
  exact ⟨_, task, _, sooner, rest, content, rfl, last, answered, rfl, split, read, names⟩

/-- A call that is overtaken between its halves answers with the functions of another script, where
it should tell that it was superseded. -/
theorem configure_answers_for_another :
    ¬ ∀ (profile : Profile) (world : World) (first sooner rest : List Event) (index : Nat)
        (raw : String) (fresh cancelled : Bool) (generation : Nat) (location : Location)
        (settling disturbed : Traffic) (waiting task : Task) (answer : Answer),
      first.foldl Traffic.next (.quiet ⟨.start profile, world⟩) = settling →
      settling.tasks[index]? = some ⟨.configure raw fresh, .settle raw generation
        (some (if fresh then .fresh else .cached)) (.ok location), cancelled⟩ →
      sooner.foldl Traffic.next settling = disturbed →
      disturbed.tasks[index]? = some waiting → waiting.answer? = none →
      disturbed.scene.session.generation ≠ generation →
      (rest.foldl Traffic.next disturbed).tasks[index]? = some task →
      task.answer? = some answer →
        answer = .loaded (.error .superseded) := by
  intro claim
  have drawn : (Profile.ofSettings .defaults).draw (dropMark "function B \x7b\x7d") =
      .ok ⟨["B"], .extracted .structural⟩ := by decide +kernel
  obtain ⟨settling, disturbed, waiting, task, found, there, overtaken, waits, unanswered, newer, last,
      answered⟩ := Traffic.overtaken_configure (.start (.ofSettings .defaults))
    (.bare (.withScripts "function A \x7b\x7d" "function B \x7b\x7d" 5)) rfl
    (Host.resolve_withScripts _ _ _) (Host.resolve_other_withScripts _ _ _)
  rw [World.host_bare, Host.drawAt_other_withScripts,
    show (Session.start (.ofSettings .defaults)).profile = .ofSettings .defaults from rfl,
    drawn] at answered
  have superseded := claim _ _ _ _ _ 0 "/s" true false _ _ settling disturbed waiting task _ found
    there overtaken waits unanswered (by rw [newer]; exact Nat.succ_ne_self _) last answered
  cases superseded

end ScriptRoster
