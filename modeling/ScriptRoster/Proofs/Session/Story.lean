import ScriptRoster.Proofs.Session.Order
import ScriptRoster.Proofs.Session.Sharing
import ScriptRoster.Proofs.Session.Transparency

/-!
# Stories

A story is a session at rest and what happens while it is asked for much but keeps its script. At
each moment it is known what its loads have in hand: the key of each promise was the script's, and
what is found for a promise that the cache may not answer was read after its key was made. Over a
store in memory, loads leave the host to those who change it from outside.
-/

namespace ScriptRoster

open Cache Files

/-- A task that rests is still asked for the same. -/
theorem Traffic.Rests.request {traffic : Traffic} {event : Event} {index : Nat} {task later : Task}
    (rests : traffic.Rests event) (there : traffic.tasks[index]? = some task)
    (found : (traffic.next event).tasks[index]? = some later) : later.request = task.request := by
  cases event with
  | ask request =>
      rw [next, List.getElem?_append_left (List.getElem?_eq_some_iff.mp there).1, there] at found
      cases found
      rfl
  | cancel other =>
      rw [next, List.getElem?_modify, there] at found
      cases found
      split <;> rfl
  | edit host =>
      cases there.symm.trans found
      rfl
  | go other =>
      rw [next_go_none (rests.idle other rfl), there] at found
      cases found
      rfl

/-- A task that is found after an event has just been asked for, or stands where it stood, or has done
its next step. -/
theorem Traffic.stage_next {traffic : Traffic} {event : Event} {index : Nat} {task : Task}
    (there : (traffic.next event).tasks[index]? = some task) :
    task.stage = .start ∨ ∃ old, traffic.tasks[index]? = some old ∧
      (task.stage = old.stage ∨
        Move traffic.scene old.stage (traffic.next event).scene task.stage ∨
          Act old.request traffic.scene old.stage (traffic.next event).scene task.stage) := by
  rcases traffic.rests_or_advances event with rests | ⟨mover, moving, -, moves, advances⟩
  · rcases rests.tasks index task there with ⟨old, before, -, stage⟩ | ⟨request, -, rfl⟩
    · exact .inr ⟨old, before, .inl stage.symm⟩
    · exact .inl rfl
  · rw [advances] at there ⊢
    rcases getElem?_advance there with ⟨rfl, rfl⟩ | ⟨-, before⟩
    · exact .inr ⟨moving, moves, .inr (moving.move_or_act traffic.scene)⟩
    · exact .inr ⟨task, before, .inl rfl⟩

/-! ## Stories -/

/-- A session, the path of its script, and what happens while it is at work. -/
structure Story where
  scene : Scene
  path : Path
  events : List Event

namespace Story

variable (story : Story)

/-- What a story has come to after so many events. -/
def after (moment : Nat) : Traffic :=
  (story.events.take moment).foldl Traffic.next (.quiet story.scene)

/-- The host at a moment. -/
def host (moment : Nat) : Host := (story.after moment).scene.world.host

/-- What is found in a script. -/
def draw (content : String) : Except ExtractionError Report :=
  story.scene.session.profile.draw content

/-- What the script holds at a moment. -/
def Reads (moment : Nat) (content : String) : Prop :=
  readScript (story.host moment).files (story.host moment).cwd story.path = .ok content

/-- The key of the script at a moment. -/
def Keys (moment : Nat) (key : String) : Prop :=
  story.scene.session.keyOf (story.host moment) story.path = .ok key

/-- Whether the script had a key at some moment from one to another. -/
def KeyIn (first last : Nat) (key : String) : Prop :=
  ∃ moment, first ≤ moment ∧ moment ≤ last ∧ story.Keys moment key

/-- A story in which a session at rest is asked for much, but keeps its script. -/
structure Steady : Prop where
  rest : story.scene.session.AtRest
  works : ∀ location, story.scene.session.path = .ready location →
    location.resolved = story.path
  stays : ∀ event ∈ story.events, event.Stays

end Story

/-- What a load that has taken a promise on has found in the script, with its promise. -/
def Profile.carried? (profile : Profile) : Stage → Option (Ticket × Except ExtractionError Report)
  | .callSource _ (some ticket) content | .extract _ (some ticket) content =>
      some (ticket, profile.draw content)
  | .keep _ ticket report => some (ticket, .ok report)
  | .leave _ ticket result | .publish _ ticket result => some (ticket, result)
  | _ => none

section Carrying

variable {profile : Profile} {scene there : Scene} {before after : Session} {stage next : Stage}
  {ticket : Ticket} {slot : Slot} {id : Nat} {led : Bool} {result : Except ExtractionError Report}

/-- What a load carries is for a promise that it owes. -/
theorem Profile.owes_of_carried (carries : profile.carried? stage = some (ticket, result)) :
    stage.owes? = some ticket := by
  cases stage with
  | callSource errand held | extract errand held =>
      cases held with
      | none => cases carries
      | some held =>
          cases carries
          rfl
  | keep | leave | publish =>
      cases carries
      rfl
  | _ => cases carries

theorem Profile.carried_extracted {errand : Errand} {held : Option Ticket} :
    profile.carried? (Scene.extracted errand held result) = held.map (·, result) := by
  cases held with
  | none => rfl
  | some held => cases result <;> rfl

/-- Outside of loads nobody has taken a promise on. -/
theorem Act.owes {request : Request} (act : Act request scene stage there next) :
    next.owes? = none := by
  cases act with
  | located | overtaken => exact (Stage.unshared_of_errand (errand_configured _ _)).2.1
  | repointed | resolved | begun | refused | recorded | discarded | listed | unlisted | spawned
  | watched | ended | concluded | rested => rfl

/-- What a load has in hand after a step it had in hand before, or it has just read the script, or
the cache told it. -/
theorem Move.carried (move : Move scene stage there next)
    (same : scene.session.profile = profile)
    (carries : profile.carried? next = some (ticket, result)) :
    profile.carried? stage = some (ticket, result) ∨
      (∃ errand, stage = .read errand (some ticket) ∧
        result = profile.drawAt scene.world.host errand.path) ∨
      ∃ errand, stage = .lookAgain errand ticket := by
  cases move with
  | @keyed errand key =>
      have owes := Profile.owes_of_carried carries
      rw [Stage.owes_keyed] at owes
      cases owes
  | @led errand =>
      split at carries <;> cases carries
  | keyless | hit | missed | dropped | joined | promised | handed | waited | missedAgain
  | published => cases carries
  | lateHit =>
      cases carries
      exact .inr (.inr ⟨_, rfl⟩)
  | @opened errand held content read =>
      cases held with
      | none => cases carries
      | some held =>
          cases carries
          exact .inr (.inl ⟨errand, rfl, by rw [Profile.drawAt, read]; rfl⟩)
  | @unreadable errand held error failed =>
      rw [Profile.carried_extracted] at carries
      obtain ⟨_, rfl, eq⟩ := Option.map_eq_some_iff.mp carries
      cases eq
      exact .inr (.inl ⟨errand, rfl, by rw [Profile.drawAt, failed]; rfl⟩)
  | @called errand held content =>
      cases held with
      | none => cases carries
      | some held => exact .inl carries
  | @drawn errand held content =>
      rw [Profile.carried_extracted, same] at carries
      obtain ⟨_, rfl, eq⟩ := Option.map_eq_some_iff.mp carries
      cases eq
      exact .inl rfl
  | stored | left => exact .inl carries

/-- A promise that is found kept after a step was kept before, or that step has kept it. -/
theorem Handling.kept (handling : Handling before stage after next)
    (kept : after.promises[id]? = some ⟨slot, led, some result⟩) :
    before.promises[id]? = some ⟨slot, led, some result⟩ ∨
      ∃ errand, stage = .publish errand ⟨slot, id⟩ result := by
  cases handling with
  | aside promises =>
      rw [promises] at kept
      exact .inl kept
  | joined | left => exact .inl kept
  | promised =>
      rcases Session.exists_before_promising kept with earlier | ⟨-, new⟩
      · exact .inl earlier
      · cases new
  | @led errand ticket other free =>
      by_cases same : id = ticket.promise
      · subst same
        rw [getElem?_withPromise_self free] at kept
        cases kept
      · rw [getElem?_withPromise_of_ne same] at kept
        exact .inl kept
  | @published errand ticket result =>
      rw [Session.withPromise, List.getElem?_set] at kept
      split at kept
      · next same =>
          split at kept
          · cases kept
            exact .inr ⟨errand, by rw [← same]⟩
          · cases kept
      · exact .inl kept

end Carrying

namespace Story

variable (story : Story)

/-- Whether what was found for a slot without the cache was read after its key was made. -/
def Backs (now : Nat) (slot : Slot) (result : Except ExtractionError Report) : Prop :=
  slot.reuse = false → ∀ report, result = .ok report →
    ∃ moment content, moment ≤ now ∧ story.KeyIn 0 moment slot.key ∧ story.Reads moment content ∧
      story.draw content = .ok report

/-- What is known of a load at a stage: its key was made, and its promise is one for that key. -/
def Informs (now : Nat) : Stage → Prop
  | .lookUp _ key | .join _ key => story.KeyIn 0 now key
  | .drop errand key => errand.reuse = false ∧ story.KeyIn 0 now key
  | .await errand ticket => ticket.slot.reuse = errand.reuse ∧ story.KeyIn 0 now ticket.slot.key
  | .lookAgain _ ticket => ticket.slot.reuse = true ∧ story.KeyIn 0 now ticket.slot.key
  | .read _ (some ticket) => story.KeyIn 0 now ticket.slot.key
  | .callSource _ (some ticket) content | .extract _ (some ticket) content =>
      ∃ moment ≤ now, story.KeyIn 0 moment ticket.slot.key ∧ story.Reads moment content
  | .keep _ ticket report =>
      story.KeyIn 0 now ticket.slot.key ∧ story.Backs now ticket.slot (.ok report)
  | .leave _ ticket result | .publish _ ticket result =>
      story.KeyIn 0 now ticket.slot.key ∧ story.Backs now ticket.slot result
  | _ => True

/-- What is known at a moment: all loads work on the script that the session keeps. -/
structure Known (now : Nat) : Prop where
  shared : (story.after now).Shared
  profile : (story.after now).scene.session.profile = story.scene.session.profile
  path : (story.after now).scene.session.path = story.scene.session.path
  works : ∀ (index : Nat) (task : Task), (story.after now).tasks[index]? = some task →
    ∀ errand, task.stage.errand? = some errand → errand.path = story.path
  informs : ∀ (index : Nat) (task : Task), (story.after now).tasks[index]? = some task →
    story.Informs now task.stage

variable {story} {now later first last : Nat} {key : String} {content : String} {slot : Slot}
  {result : Except ExtractionError Report} {stage next : Stage}

theorem KeyIn.mono (keyIn : story.KeyIn first now key) (order : now ≤ later) :
    story.KeyIn first later key := by
  obtain ⟨moment, since, before, keys⟩ := keyIn
  exact ⟨moment, since, Nat.le_trans before order, keys⟩

theorem Backs.mono (backs : story.Backs now slot result) (order : now ≤ later) :
    story.Backs later slot result := by
  intro forced report ok
  obtain ⟨moment, content, before, rest⟩ := backs forced report ok
  exact ⟨moment, content, Nat.le_trans before order, rest⟩

theorem Informs.mono (informs : story.Informs now stage) (order : now ≤ later) :
    story.Informs later stage := by
  cases stage with
  | lookUp | join => exact KeyIn.mono informs order
  | drop | await | lookAgain => exact ⟨informs.1, informs.2.mono order⟩
  | read errand ticket =>
      cases ticket with
      | some ticket => exact KeyIn.mono informs order
      | none => trivial
  | callSource errand ticket | extract errand ticket =>
      cases ticket with
      | some ticket =>
          obtain ⟨moment, before, rest⟩ := informs
          exact ⟨moment, Nat.le_trans before order, rest⟩
      | none => trivial
  | keep | leave | publish => exact ⟨informs.1.mono order, informs.2.mono order⟩
  | start | resolve | settle | startLoad | makeKey | finish | spawn | watch | conclude | done =>
      trivial

/-- The next moment of a story comes of the next event. -/
theorem after_succ (inside : now < story.events.length) :
    story.after (now + 1) = (story.after now).next story.events[now] := by
  rw [after, after, List.take_succ_eq_append_getElem inside, List.foldl_append]
  rfl

/-! ## What one step tells -/

/-- A failure needs no reading behind it. -/
theorem backs_error (slot : Slot) {error : ExtractionError} :
    story.Backs now slot (.error error) := by
  intro forced report ok
  cases ok

/-- What was extracted for a promise informs of its slot as the promise does. -/
theorem informs_extracted {errand : Errand} {ticket : Option Ticket}
    (keyIn : ∀ held, ticket = some held → story.KeyIn 0 now held.slot.key)
    (backs : ∀ held, ticket = some held → story.Backs now held.slot result) :
    story.Informs now (Scene.extracted errand ticket result) := by
  cases ticket with
  | none => trivial
  | some held => cases result <;> exact ⟨keyIn held rfl, backs held rfl⟩

theorem informs_configured (kind : Option LoadKind) (found : Except SessionError Location) :
    story.Informs now (Scene.configured kind found) := by
  cases kind with
  | none => trivial
  | some kind => cases found <;> trivial

/-- A load that moves on still has a promise for its key. -/
theorem Known.informs_move (known : story.Known now) {there : Scene}
    (move : Move (story.after now).scene stage there next) (informs : story.Informs now stage)
    (works : ∀ errand, stage.errand? = some errand → errand.path = story.path) :
    story.Informs now next := by
  cases move with
  | @keyed errand key made =>
      have keyIn : story.KeyIn 0 now key := by
        refine ⟨now, Nat.zero_le now, Nat.le_refl now, ?_⟩
        rw [Keys, Session.keyOf, ← known.profile, ← works errand rfl]
        exact made
      unfold Errand.keyed
      cases kind : errand.kind with
      | cached | fresh => exact keyIn
      | reload => exact ⟨by rw [Errand.reuse, kind]; rfl, keyIn⟩
  | keyless | hit | handed | published => trivial
  | missed | waited | left => exact informs
  | dropped => exact informs.2
  | joined | promised => exact ⟨rfl, informs⟩
  | @led errand ticket =>
      obtain ⟨same, keyIn⟩ := informs
      cases reuse : errand.reuse with
      | true => exact ⟨same.trans reuse, keyIn⟩
      | false => exact keyIn
  | lateHit =>
      refine ⟨informs.2, ?_⟩
      intro forced
      rw [informs.1] at forced
      cases forced
  | missedAgain => exact informs.2
  | @opened errand ticket content read =>
      rw [works errand rfl] at read
      cases ticket with
      | none => trivial
      | some ticket => exact ⟨now, Nat.le_refl now, informs, read⟩
  | unreadable =>
      refine informs_extracted ?_ fun held _ => backs_error held.slot
      rintro held rfl
      exact informs
  | @called errand ticket content =>
      cases ticket with
      | none => trivial
      | some ticket => exact informs
  | @drawn errand ticket content =>
      apply informs_extracted
      · rintro held rfl
        obtain ⟨moment, before, keyIn, -⟩ := informs
        exact keyIn.mono before
      · rintro held rfl - report ok
        obtain ⟨moment, before, keyIn, reads⟩ := informs
        rw [known.profile] at ok
        exact ⟨moment, content, before, keyIn, reads, ok⟩
  | stored => exact informs

theorem informs_act {request : Request} {scene there : Scene}
    (act : Act request scene stage there next) : story.Informs now next := by
  cases act with
  | located | overtaken => exact informs_configured _ _
  | repointed | resolved | begun | refused | recorded | discarded | listed | unlisted | spawned
  | watched | ended | concluded | rested => trivial

/-- All loads work on the script that the session keeps. -/
theorem works_act (steady : story.Steady) {request : Request} {scene there : Scene}
    (path : scene.session.path = story.scene.session.path)
    (act : Act request scene stage there next) :
    ∀ errand, next.errand? = some errand → errand.path = story.path := by
  intro errand loads
  cases act with
  | begun _ ready =>
      cases loads
      exact steady.works _ (path ▸ ready)
  | located | overtaken =>
      rw [errand_configured] at loads
      cases loads
  | repointed | resolved | refused | recorded | discarded | listed | unlisted | spawned
  | watched | ended | concluded | rested => cases loads

theorem stays_task (steady : story.Steady) (now : Nat) {index : Nat} {task : Task}
    (there : (story.after now).tasks[index]? = some task) :
    task.Stays (story.after now).scene.session :=
  ((Traffic.shows_quiet story.scene).run (story.events.take now)
    fun event member => steady.stays event (List.mem_of_mem_take member)).stays index task there

/-- A step leaves a session with the script that it has, and with its profile. -/
theorem kept_of_stays {before after : Session} {task : Task}
    (turn : Turn task.request before task.stage after next) (stays : task.Stays before) :
    after.profile = before.profile ∧ after.path = before.path := by
  rcases turn.cases_of_stays stays with ⟨same, -⟩ | ⟨_, _, -, rfl, -⟩ | ⟨_, _, _, -, rfl, -⟩
  · exact ⟨same.profile, same.path⟩
  · exact ⟨rfl, rfl⟩
  · exact ⟨Session.profile_record _ _, Session.path_record _ _⟩

/-! ## What is known at every moment -/

theorem known_zero (steady : story.Steady) : story.Known 0 where
  shared := Traffic.shared_quiet steady.rest
  profile := rfl
  path := rfl
  works := by
    intro index task there
    rw [after, List.take_zero, List.foldl_nil, Traffic.quiet, List.getElem?_nil] at there
    cases there
  informs := by
    intro index task there
    rw [after, List.take_zero, List.foldl_nil, Traffic.quiet, List.getElem?_nil] at there
    cases there

theorem Known.succ (steady : story.Steady) (known : story.Known now)
    (inside : now < story.events.length) : story.Known (now + 1) := by
  have step := story.after_succ inside
  obtain ⟨profile, path⟩ : (story.after (now + 1)).scene.session.profile =
        (story.after now).scene.session.profile ∧
      (story.after (now + 1)).scene.session.path = (story.after now).scene.session.path := by
    rw [step]
    rcases (story.after now).rests_or_advances story.events[now] with
      rests | ⟨index, task, -, there, advances⟩
    · rw [rests.session]
      exact ⟨rfl, rfl⟩
    · rw [advances]
      exact kept_of_stays (task.turn_next (story.after now).scene) (stays_task steady now there)
  constructor
  · rw [step]
    exact known.shared.next _
  · exact profile.trans known.profile
  · exact path.trans known.path
  · intro index task there errand loads
    rw [step] at there
    rcases Traffic.stage_next there with start | ⟨old, before, same | move | act⟩
    · rw [start] at loads
      cases loads
    · rw [same] at loads
      exact known.works index old before errand loads
    · obtain ⟨kept, first, after⟩ := move.exists_errand
      cases after.symm.trans loads
      exact known.works index old before errand first
    · exact works_act steady known.path act errand loads
  · intro index task there
    rw [step] at there
    rcases Traffic.stage_next there with start | ⟨old, before, same | move | act⟩
    · rw [start]
      trivial
    · rw [same]
      exact (known.informs index old before).mono (Nat.le_succ now)
    · exact (known.informs_move move (known.informs index old before)
        (known.works index old before)).mono (Nat.le_succ now)
    · exact informs_act act

/-- What is known at first is known at every moment of a steady story. -/
theorem known (steady : story.Steady) (inside : now ≤ story.events.length) : story.Known now := by
  induction now with
  | zero => exact known_zero steady
  | succ now ih => exact (ih (Nat.le_of_succ_le inside)).succ steady inside

end Story

/-! ## Loads over a store in memory -/

/-- Whether an event asks for nothing but a load. -/
def Event.Loads : Event → Prop
  | .ask request => request.kind?.isSome
  | _ => True

/-- Who asks for a load points the session at nothing. -/
theorem Request.target_of_kind {request : Request} (loads : request.kind?.isSome) :
    request.target? = none := by
  cases request <;> first | rfl | cases loads

theorem Event.Loads.stays {event : Event} (loads : event.Loads) : event.Stays := by
  cases event with
  | ask request => exact Request.target_of_kind loads
  | go | cancel | edit => trivial

/-- What the calls of loads to a store in memory leave as it was. -/
structure Cache.World.Serves (before after : World) : Prop extends World.Remembers before after where
  refuses : after.refuses = before.refuses

/-- Whether a stage is one before, in or after a load. -/
def Stage.loads : Stage → Bool
  | .start | .done _ => true
  | stage => stage.errand?.isSome

/-- A task that was asked for a load, and has done no more than that. -/
structure Task.Loads (task : Task) : Prop where
  asked : task.request.kind?.isSome
  stage : task.stage.loads

section Serving

variable {before middle after : World} {request : Request} {scene there : Scene}
  {stage onward : Stage}

theorem Cache.World.Serves.refl (memory : before.InMemory) : before.Serves before :=
  ⟨⟨rfl, memory⟩, rfl⟩

theorem Cache.World.Serves.trans (first : before.Serves middle) (second : middle.Serves after) :
    before.Serves after :=
  ⟨first.toRemembers.trans second.toRemembers, second.refuses.trans first.refuses⟩

theorem Cache.World.Unasked.serves (aside : before.Unasked after) (memory : before.InMemory) :
    before.Serves after := ⟨aside.remembers memory, aside.refuses⟩

theorem Cache.World.serves_names? {key : String} {found : Option (List String)}
    (memory : before.InMemory) (asked : before.names? key = (found, after)) :
    before.Serves after := ⟨(sameStock_of_names? asked).remembers memory, refuses_names? asked⟩

theorem Cache.World.serves_keep (memory : before.InMemory) (key : String) (names : List String) :
    before.Serves (before.keep key names).2 :=
  ⟨remembers_keep memory key names, refuses_keep before key names⟩

theorem Cache.World.serves_forget (memory : before.InMemory) (key : String) :
    before.Serves (before.forget key).2 :=
  ⟨remembers_forget memory key, refuses_forget before key⟩

/-- A step of a load leaves the host of a store in memory as it was. -/
theorem Move.serves (move : Move scene stage there onward) (memory : scene.world.InMemory) :
    scene.world.Serves there.world := by
  cases move with
  | keyed | joined | promised | handed | led | waited | opened | unreadable | left | published =>
      exact .refl memory
  | keyless _ aside | called aside | drawn aside => exact aside.serves memory
  | hit found | missed found | missedAgain found => exact World.serves_names? memory found
  | @dropped errand key world aside =>
      have first := World.serves_forget memory key
      exact first.trans (aside.serves first.inMemory)
  | lateHit found aside =>
      have first := World.serves_names? memory found
      exact first.trans (aside.serves first.inMemory)
  | @stored errand ticket report world aside =>
      have first := World.serves_keep memory ticket.slot.key report.names
      exact first.trans (aside.serves first.inMemory)

/-- What is asked for nothing but a load does nothing else. -/
theorem Act.serves (act : Act request scene stage there onward) (memory : scene.world.InMemory)
    (asked : request.kind?.isSome) (loads : stage.loads) :
    scene.world.Serves there.world ∧ onward.loads := by
  cases act with
  | repointed points =>
      rw [Request.target_of_kind asked] at points
      cases points
  | listed runs | unlisted runs =>
      rw [runs] at asked
      cases asked
  | begun | refused | rested => exact ⟨.refl memory, rfl⟩
  | recorded _ aside | discarded _ aside => exact ⟨aside.serves memory, rfl⟩
  | @ended stage _ _ _ calls =>
      cases stage with
      | spawn | watch => cases loads
      | _ => cases calls
  | resolved | located | overtaken | spawned | watched | concluded => cases loads

/-- A step of a task that was asked for a load leaves the host alone. -/
theorem Task.Loads.next {task : Task} (loads : task.Loads) (memory : scene.world.InMemory) :
    scene.world.Serves (task.next scene).1.world ∧
      Task.Loads { task with stage := (task.next scene).2 } := by
  rcases task.move_or_act scene with move | act
  · obtain ⟨errand, -, after⟩ := move.exists_errand
    refine ⟨move.serves memory, loads.asked, ?_⟩
    cases stage : (task.next scene).2 <;> rw [stage] at after <;> first | rfl | cases after
  · obtain ⟨serves, stage⟩ := act.serves memory loads.asked loads.stage
    exact ⟨serves, loads.asked, stage⟩

end Serving

/-- A session over a store in memory that is asked for nothing but loads. -/
structure Traffic.Serving (traffic : Traffic) : Prop where
  memory : traffic.scene.world.InMemory
  loads : ∀ (index : Nat) (task : Task), traffic.tasks[index]? = some task → task.Loads

namespace Traffic

variable {traffic : Traffic} {event : Event}

/-- Only an edit changes the host of loads. -/
theorem Serving.next (serving : traffic.Serving) (loads : event.Loads) :
    (traffic.next event).Serving ∧
      (traffic.next event).scene.world.refuses = traffic.scene.world.refuses ∧
        ((∀ host, event ≠ .edit host) →
          (traffic.next event).scene.world.host = traffic.scene.world.host) := by
  obtain ⟨memory, tasks⟩ := serving
  cases event with
  | ask request =>
      refine ⟨⟨memory, ?_⟩, rfl, fun _ => rfl⟩
      intro index task there
      rw [Traffic.next, List.getElem?_append] at there
      split at there
      · exact tasks index task there
      · rw [List.getElem?_singleton] at there
        split at there
        · cases there
          exact ⟨loads, rfl⟩
        · cases there
  | cancel other =>
      refine ⟨⟨memory, ?_⟩, rfl, fun _ => rfl⟩
      intro index task there
      rw [Traffic.next, List.getElem?_modify] at there
      obtain ⟨old, before, rfl⟩ := Option.map_eq_some_iff.mp there
      obtain ⟨asked, stage⟩ := tasks index old before
      split <;> exact ⟨asked, stage⟩
  | edit host => exact ⟨⟨memory, tasks⟩, rfl, fun unedited => absurd rfl (unedited host)⟩
  | go index =>
      cases there : traffic.tasks[index]? with
      | none =>
          rw [next_go_none there]
          exact ⟨⟨memory, tasks⟩, rfl, fun _ => rfl⟩
      | some task =>
          obtain ⟨serves, onward⟩ := (tasks index task there).next memory
          rw [next_go there]
          refine ⟨⟨serves.inMemory, ?_⟩, serves.refuses, fun _ => serves.host⟩
          intro other later found
          rcases getElem?_advance found with ⟨rfl, rfl⟩ | ⟨-, before⟩
          · exact onward
          · exact tasks other later before

end Traffic

namespace Story

variable {story : Story} {first now : Nat}

/-- A story over a store in memory in which a session is asked for nothing but loads. -/
structure Serves (story : Story) : Prop where
  memory : story.scene.world.InMemory
  loads : ∀ event ∈ story.events, event.Loads

/-- Whether nothing outside is changed from one moment to another. -/
def Unedited (story : Story) (first last : Nat) : Prop :=
  ∀ now host, first ≤ now → now < last → story.events[now]? ≠ some (.edit host)

/-- Nothing but loads has gone on up to every moment, and the store refuses what it refused at
first. -/
theorem Serves.serving (serves : story.Serves) (inside : now ≤ story.events.length) :
    (story.after now).Serving ∧
      (story.after now).scene.world.refuses = story.scene.world.refuses := by
  induction now with
  | zero =>
      refine ⟨⟨serves.memory, ?_⟩, rfl⟩
      intro index task there
      rw [after, List.take_zero, List.foldl_nil, Traffic.quiet, List.getElem?_nil] at there
      cases there
  | succ now ih =>
      obtain ⟨serving, refuses⟩ := ih (Nat.le_of_succ_le inside)
      obtain ⟨onward, same, -⟩ := serving.next (serves.loads _ (List.getElem_mem inside))
      rw [after_succ inside]
      exact ⟨onward, same.trans refuses⟩

/-- As long as nothing is changed from outside, the host stays as it is. -/
theorem Serves.host_eq (serves : story.Serves) (inside : now ≤ story.events.length)
    (order : first ≤ now) (unedited : story.Unedited first now) :
    story.host now = story.host first := by
  induction order with
  | refl => rfl
  | @step now order ih =>
      have earlier : story.Unedited first now :=
        fun moment host since before => unedited moment host since (Nat.lt_succ_of_lt before)
      rw [← ih (Nat.le_of_succ_le inside) earlier, host, after_succ inside]
      obtain ⟨-, -, still⟩ := (serves.serving (Nat.le_of_succ_le inside)).1.next
        (serves.loads _ (List.getElem_mem inside))
      refine still fun host same => unedited now host order (Nat.lt_succ_self now) ?_
      rw [List.getElem?_eq_getElem inside, same]

end Story

end ScriptRoster
