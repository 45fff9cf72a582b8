import ScriptRoster.Proofs.Session.Discarding
import ScriptRoster.Proofs.Session.Progress

/-!
# The life of a promise

Whoever joins the promise of a slot gets what its one leader has found. As long as every load has a
key, leaders alone call sources and keep names in the store. A leader takes no promise but its own
out of flight, and what has failed for one promise is tried anew for the next.
-/

namespace ScriptRoster

open Cache Files

/-! ## What loads cost -/

namespace Cache

/-- Whether a call is to keep something in the store. -/
def Call.keeps : Call → Bool
  | .set .. => true
  | _ => false

namespace World

/-- The number of sources called so far, and all calls that were to keep something in the store. -/
def spent (world : World) : Nat × List (Call × Bool) :=
  (world.sourcesCalled, world.calls.filter fun (call, _) => call.keeps)

theorem spent_record (world : World) {call : Call} (idle : call.keeps = false) :
    (world.record call).2.spent = world.spent := by
  simp [record, spent, List.filter_append, idle]

theorem spent_settle (world : World) (done : Except StoreError (Store × Host)) :
    (world.settle done).2.spent = world.spent := by
  cases done <;> rfl

theorem spent_fetch (world : World) (key : String) :
    (world.fetch key).2.spent = world.spent := by
  have asked : (world.record (.get key)).2.spent = world.spent := world.spent_record rfl
  rw [← asked, fetch_eq]
  split <;> rfl

theorem spent_names? (world : World) (key : String) :
    (world.names? key).2.spent = world.spent := by
  obtain ⟨notices, told⟩ := world.exists_names?_eq key
  rw [told, ← world.spent_fetch key]
  rfl

theorem spent_forget (world : World) (key : String) :
    (world.forget key).2.spent = world.spent := by
  have asked : (world.record (.remove key)).2.spent = world.spent := world.spent_record rfl
  rw [← asked, forget_eq]
  split
  · rfl
  · exact spent_settle _ _

end World

end Cache

namespace Stage

/-- Whether a task may call sources, or keep names in the store, in its next step. -/
def spends : Stage → Bool
  | .callSource .. | .extract .. | .keep .. => true
  | _ => false

/-- Whether a load extracts a script without a promise. -/
def unshared : Stage → Bool
  | .read _ none | .callSource _ none _ | .extract _ none _ => true
  | _ => false

variable {stage : Stage}

/-- Whoever calls sources for a promise, or keeps names in the store, has taken the promise on. -/
theorem exists_ticket_of_spends (spends : stage.spends = true) (shared : stage.unshared = false) :
    ∃ ticket, stage.leads? = some ticket := by
  cases stage with
  | keep errand ticket => exact ⟨ticket, rfl⟩
  | callSource errand held | extract errand held =>
      cases held with
      | some ticket => exact ⟨ticket, rfl⟩
      | none => cases shared
  | _ => cases spends

theorem unshared_extracted (errand : Errand) (held : Option Ticket)
    (result : Except ExtractionError Report) :
    (Scene.extracted errand held result).unshared = false := by
  cases held with
  | none => rfl
  | some ticket => cases result <;> rfl

theorem unshared_of_errand_none (idle : stage.errand? = none) : stage.unshared = false := by
  cases stage <;> first | rfl | cases idle

end Stage

namespace Scene

variable (scene : Scene) (errand : Errand)

theorem spent_startLoad (kind : LoadKind) :
    (scene.startLoad kind).1.world.spent = scene.world.spent := by
  unfold startLoad
  dsimp only
  split <;> rfl

theorem spent_startRun (name : String) :
    (scene.startRun name).1.world.spent = scene.world.spent := by
  unfold startRun
  dsimp only
  split
  · split <;> rfl
  · rfl

theorem spent_start (request : Request) :
    (scene.start request).1.world.spent = scene.world.spent := by
  cases request with
  | setScript | configure => rfl
  | load | reload => exact scene.spent_startLoad _
  | run name => exact scene.spent_startRun name

theorem spent_settle (raw : String) (generation : Nat) (next : Option LoadKind)
    (found : Except ResolveError Location) :
    (scene.settle raw generation next found).1.world.spent = scene.world.spent := by
  unfold settle
  dsimp only
  split
  · cases found <;> rfl
  · rfl

theorem spent_makeKey : (scene.makeKey errand).1.world.spent = scene.world.spent := by
  unfold makeKey
  split
  · split <;> rfl
  · rfl

theorem spent_lookUp (key : String) :
    (scene.lookUp errand key).1.world.spent = scene.world.spent := by
  rw [← scene.world.spent_names? key]
  unfold lookUp
  split <;> next asked => rw [asked]; rfl

theorem spent_lookAgain (ticket : Ticket) :
    (scene.lookAgain errand ticket).1.world.spent = scene.world.spent := by
  rw [← scene.world.spent_names? ticket.slot.key]
  unfold lookAgain
  split <;> next asked => rw [asked]; rfl

theorem spent_drop (key : String) :
    (scene.drop errand key).1.world.spent = scene.world.spent := by
  rw [← scene.world.spent_forget key]
  unfold drop
  split <;> next forgotten => rw [forgotten]; rfl

theorem spent_join (key : String) :
    (scene.join errand key).1.world.spent = scene.world.spent := by
  unfold join
  dsimp only
  split <;> rfl

theorem spent_await (ticket : Ticket) :
    (scene.await errand ticket).1.world.spent = scene.world.spent := by
  unfold await
  dsimp only
  split <;> rfl

theorem spent_read (ticket : Option Ticket) :
    (scene.read errand ticket).1.world.spent = scene.world.spent := by
  unfold read
  split <;> rfl

theorem spent_finish (result : Except ExtractionError Report) :
    (scene.finish errand result).1.world.spent = scene.world.spent := by
  unfold finish
  dsimp only
  split <;> split <;> rfl

theorem spent_spawn (cancelled : Bool) (path : Path) (name : String) :
    (scene.spawn cancelled path name).1.world.spent = scene.world.spent := by
  unfold spawn
  dsimp only
  split <;> rfl

theorem spent_watch (cancelled : Bool) (run : Invocation.Run) :
    (scene.watch cancelled run).1.world.spent = scene.world.spent := by
  unfold watch
  split <;> rfl

end Scene

section Steps

variable {request : Request} {scene there : Scene} {stage next : Stage} {task : Task}
  {before after : Session} {slot : Slot} {id : Nat}

/-- Sources are called, and names are kept in the store, in three kinds of steps only. -/
theorem Task.spent_next (scene : Scene) (idle : task.stage.spends = false) :
    (task.next scene).1.world.spent = scene.world.spent := by
  obtain ⟨request, stage, cancelled⟩ := task
  cases stage with
  | start => exact scene.spent_start request
  | settle raw generation next found => exact scene.spent_settle raw generation next found
  | startLoad kind => exact scene.spent_startLoad kind
  | makeKey errand => exact scene.spent_makeKey errand
  | lookUp errand key => exact scene.spent_lookUp errand key
  | drop errand key => exact scene.spent_drop errand key
  | join errand key => exact scene.spent_join errand key
  | await errand ticket => exact scene.spent_await errand ticket
  | lookAgain errand ticket => exact scene.spent_lookAgain errand ticket
  | read errand ticket => exact scene.spent_read errand ticket
  | finish errand result => exact scene.spent_finish errand result
  | spawn path name => exact scene.spent_spawn cancelled path name
  | watch run => exact scene.spent_watch cancelled run
  | callSource | extract | keep => cases idle
  | resolve | leave | publish | conclude | done => rfl

/-- A load extracts without a promise only if no key could be made for it. -/
theorem Move.unshared (move : Move scene stage there next) (alone : next.unshared = true) :
    stage.unshared = true ∨ ∃ errand error, stage = .makeKey errand ∧
      scene.session.keyOf scene.world.host errand.path = .error error := by
  cases move with
  | keyless failed => exact .inr ⟨_, _, rfl, failed⟩
  | @keyed errand key =>
      unfold Errand.keyed at alone
      split at alone <;> cases alone
  | @led errand =>
      split at alone <;> cases alone
  | unreadable | drawn =>
      rw [Stage.unshared_extracted] at alone
      cases alone
  | @opened errand held => 
      cases held <;> first | exact .inl rfl | cases alone
  | @called errand held => 
      cases held <;> first | exact .inl rfl | cases alone
  | hit | missed | dropped | joined | promised | handed | waited | lateHit | missedAgain | stored
  | left | published => cases alone

theorem Act.unshared (act : Act request scene stage there next) : next.unshared = false := by
  cases act with
  | located | overtaken => exact Stage.unshared_of_errand_none (errand_configured _ _)
  | repointed | resolved | begun | refused | recorded | discarded | listed | unlisted | spawned
  | watched | ended | concluded | rested => rfl

/-- A task takes no promise out of flight but the one that it has taken on. -/
theorem Handling.landed (handling : Handling before stage after next)
    (flew : (slot, id) ∈ before.inFlight) (gone : (slot, id) ∉ after.inFlight) :
    ∃ errand result, stage = .leave errand ⟨slot, id⟩ result := by
  cases handling with
  | aside _ inFlight =>
      rw [inFlight] at gone
      exact absurd flew gone
  | joined | led | published => exact absurd flew gone
  | promised => exact absurd (List.mem_cons_of_mem _ flew) gone
  | @left errand ticket result =>
      by_cases same : slot = ticket.slot ∧ id = ticket.promise
      · obtain ⟨rfl, rfl⟩ := same
        exact ⟨errand, result, rfl⟩
      · exact absurd (mem_landing.mpr ⟨flew, same⟩) gone

end Steps

/-! ## Leaders -/

namespace Traffic

variable {scene : Scene} {traffic : Traffic} {event : Event} {events : List Event}
  {index caller : Nat} {task : Task} {slot : Slot} {id : Nat} {ticket : Ticket} {errand : Errand}
  {result : Except ExtractionError Report}

/-- A load that comes to make the key of its script can make one. -/
def Keyed (traffic : Traffic) (event : Event) : Prop :=
  ∀ (index : Nat) (task : Task) (errand : Errand), event = .go index →
    traffic.tasks[index]? = some task → task.stage = .makeKey errand →
      ∃ key, traffic.scene.session.keyOf traffic.scene.world.host errand.path = .ok key

/-- Every load that extracts a script does so for a promise. -/
def Pooled (traffic : Traffic) : Prop :=
  ∀ (index : Nat) (task : Task), traffic.tasks[index]? = some task → task.stage.unshared = false

theorem pooled_quiet (scene : Scene) : (quiet scene).Pooled := by
  intro index task there
  rw [quiet, List.getElem?_nil] at there
  cases there

/-- As long as every load can make its key, none extracts a script without a promise. -/
theorem Pooled.next (pooled : traffic.Pooled) (keyed : traffic.Keyed event) :
    (traffic.next event).Pooled := by
  intro index task there
  rcases traffic.rests_or_advances event with rests | ⟨mover, moving, same, found, advances⟩
  · rcases rests.tasks index task there with ⟨old, before, -, stage⟩ | ⟨request, -, rfl⟩
    · rw [← stage]
      exact pooled index old before
    · rfl
  · rw [advances] at there
    rcases getElem?_advance there with ⟨rfl, rfl⟩ | ⟨-, before⟩
    · rcases moving.move_or_act traffic.scene with move | act
      · by_contra alone
        rcases move.unshared (Bool.of_not_eq_false alone) with before | ⟨errand, error, stage, failed⟩
        · rw [pooled index moving found] at before
          cases before
        · obtain ⟨key, made⟩ := keyed index moving errand same found stage
          rw [failed] at made
          cases made
      · exact act.unshared
    · exact pooled index task before

/-- Sources are called, and names are kept in the store, by leaders only. -/
theorem Pooled.leads_of_spent (pooled : traffic.Pooled)
    (spent : (traffic.next event).scene.world.spent ≠ traffic.scene.world.spent) :
    ∃ leader ticket, event = .go leader ∧ traffic.Leads leader ticket := by
  rcases traffic.rests_or_advances event with rests | ⟨index, task, rfl, there, advances⟩
  · refine absurd ?_ spent
    cases event with
    | ask | cancel | edit => rfl
    | go index => rw [next_go_none (rests.idle index rfl)]
  · rw [advances, scene_advance] at spent
    have spends : task.stage.spends = true := by
      by_contra idle
      exact spent (Task.spent_next traffic.scene (Bool.of_not_eq_true idle))
    obtain ⟨ticket, leads⟩ :=
      Stage.exists_ticket_of_spends spends (pooled index task there)
    exact ⟨index, ticket, rfl, task, there, leads⟩

/-- A promise is taken out of flight by its own leader. -/
theorem exists_leader_of_landed (flew : (slot, id) ∈ traffic.scene.session.inFlight)
    (gone : (slot, id) ∉ (traffic.next event).scene.session.inFlight) :
    ∃ leader, event = .go leader ∧ traffic.Leads leader ⟨slot, id⟩ := by
  rcases traffic.rests_or_advances event with rests | ⟨index, task, rfl, there, advances⟩
  · rw [rests.session] at gone
    exact absurd flew gone
  · rw [advances, scene_advance] at gone
    obtain ⟨errand, result, stage⟩ := (Task.handling_next traffic.scene task).landed flew gone
    exact ⟨index, rfl, task, there, by rw [stage]; rfl⟩

/-- A task has taken a promise on and has not kept it yet. -/
def Owes (traffic : Traffic) (index : Nat) (ticket : Ticket) : Prop :=
  ∃ task, traffic.tasks[index]? = some task ∧ task.stage.owes? = some ticket

/-- Whoever owes a promise goes on to owe it until it is kept. -/
theorem Owes.next (owes : traffic.Owes index ticket) (shared : traffic.Shared) (event : Event) :
    (traffic.next event).Owes index ticket ∨
      ∃ result, (traffic.next event).scene.session.promises[ticket.promise]? =
        some ⟨ticket.slot, true, some result⟩ := by
  obtain ⟨task, there, owed⟩ := owes
  obtain ⟨later, found, stays | ⟨-, scene, moved⟩⟩ := exists_next event there
  · exact .inl ⟨later, found, by rw [stays, owed]⟩
  · rcases (Task.handling_next traffic.scene task).owes_or_keeps (shared.minds index task there) owed
      with still | ⟨_, result, -, -, kept⟩
    · exact .inl ⟨later, found, by rw [moved, still]⟩
    · exact .inr ⟨result, by rw [scene, kept]⟩

/-- A promise that has been taken on is still owed after some events, or has been kept. -/
theorem Owes.run (owes : traffic.Owes index ticket) (shared : traffic.Shared)
    (events : List Event) :
    (events.foldl Traffic.next traffic).Owes index ticket ∨
      ∃ result, (events.foldl Traffic.next traffic).scene.session.promises[ticket.promise]? =
        some ⟨ticket.slot, true, some result⟩ := by
  induction events generalizing traffic with
  | nil => exact .inl owes
  | cons event events ih =>
      rcases owes.next shared event with still | ⟨result, kept⟩
      · exact ih still (shared.next event)
      · exact .inr ⟨result, (shared.next event).kept_run events kept⟩

/-- A promise has one leader, whenever one looks. -/
theorem Owes.unique {other : Nat} {held : Ticket} (owes : traffic.Owes index ticket)
    (shared : traffic.Shared) (events : List Event)
    (rival : (events.foldl Traffic.next traffic).Owes other held)
    (same : ticket.promise = held.promise) : index = other := by
  have sharedNow := shared.run events
  obtain ⟨late, found, holds⟩ := rival
  have taken := (sharedNow.minds other late found).owes held holds
  rcases owes.run shared events with ⟨task, there, owed⟩ | ⟨result, kept⟩
  · by_contra different
    exact sharedNow.apart index other task late ticket held different there found owed holds same
  · rw [same, taken] at kept
    have unkept := congrArg Promise.result? (Option.some.inj kept)
    cases unkept

/-! ## Callers that have joined -/

/-- In the course of some events a leader hands out what a promise is kept with. -/
def Publishes (begun : Traffic) (events : List Event) (leader : Nat) (ticket : Ticket)
    (result : Except ExtractionError Report) : Prop :=
  ∃ sooner rest task errand, events = sooner ++ .go leader :: rest ∧
    (sooner.foldl Traffic.next begun).tasks[leader]? = some task ∧
    task.stage = .publish errand ticket result

/-- In the course of some events a leader reads its script, and fails to extract it. -/
def Fails (begun : Traffic) (events : List Event) (leader : Nat) (ticket : Ticket)
    (error : ExtractionError) : Prop :=
  ∃ sooner rest task errand, events = sooner ++ .go leader :: rest ∧
    (sooner.foldl Traffic.next begun).tasks[leader]? = some task ∧
    task.stage = .read errand (some ticket) ∧
    begun.scene.session.profile.drawAt (sooner.foldl Traffic.next begun).scene.world.host
      errand.path = .error error

/-- What a promise is found kept with after some events it was kept with before, or a leader has
handed it out. -/
theorem kept_or_publishes (events : List Event) {led : Bool}
    (kept : (events.foldl Traffic.next traffic).scene.session.promises[id]? =
      some ⟨slot, led, some result⟩) :
    traffic.scene.session.promises[id]? = some ⟨slot, led, some result⟩ ∨
      ∃ leader, traffic.Publishes events leader ⟨slot, id⟩ result := by
  induction events generalizing traffic with
  | nil => exact .inl kept
  | cons event events ih =>
      rcases ih kept with before | ⟨leader, sooner, rest, task, errand, rfl, standing⟩
      · rcases traffic.rests_or_advances event with rests | ⟨index, task, rfl, there, advances⟩
        · rw [rests.session] at before
          exact .inl before
        · rw [advances, scene_advance] at before
          rcases (Task.handling_next traffic.scene task).kept before with sooner | ⟨errand, stage⟩
          · exact .inl sooner
          · exact .inr ⟨index, [], events, task, errand, rfl, there, stage⟩
      · exact .inr ⟨leader, event :: sooner, rest, task, errand, rfl, standing⟩

end Traffic

/-- How far a caller has come with a promise: it waits until somebody takes the promise on, has taken
it on itself, or follows it. -/
inductive Stage.Partakes (errand : Errand) (ticket : Ticket) : Promise → Stage → Prop
  | free : Partakes errand ticket ⟨ticket.slot, false, none⟩ (.await errand ticket)
  | leads {stage} (loads : stage.errand? = some errand) (owes : stage.owes? = some ticket) :
      Partakes errand ticket ⟨ticket.slot, true, none⟩ stage
  | follows {result? stage} (follows : stage.Follows errand ticket result?) :
      Partakes errand ticket ⟨ticket.slot, true, result?⟩ stage

section Partaking

variable {scene : Scene} {task : Task} {errand : Errand} {ticket : Ticket} {promise : Promise}
  {result : Except ExtractionError Report}

theorem Stage.errand_led (errand : Errand) (ticket : Ticket) :
    (if errand.reuse then Stage.lookAgain errand ticket
      else .read errand (some ticket)).errand? = some errand := by
  split <;> rfl

/-- A caller that is about to end has got what its promise was kept with. -/
theorem Stage.Partakes.kept (partakes : (Stage.finish errand result).Partakes errand ticket promise) :
    promise = ⟨ticket.slot, true, some result⟩ := by
  cases partakes with
  | leads _ owes => cases owes
  | follows follows =>
      cases follows with
      | finishes kept => rw [kept]

/-- A load that owes a promise keeps to its errand until it has kept the promise. -/
theorem Task.errand_next (loads : task.stage.errand? = some errand)
    (owes : (task.next scene).2.owes? = some ticket) :
    (task.next scene).2.errand? = some errand := by
  rcases task.move_or_act scene with move | act
  · obtain ⟨kept, before, after⟩ := move.exists_errand
    exact after.trans (before.symm.trans loads)
  · rw [act.owes] at owes
    cases owes

/-- A step of its own keeps a caller with its promise. -/
theorem Task.partakes_next (minds : task.stage.Minds scene.session)
    (there : scene.session.promises[ticket.promise]? = some promise)
    (partakes : task.stage.Partakes errand ticket promise)
    (after : (task.next scene).2.Minds (task.next scene).1.session) :
    ∃ later, (task.next scene).1.session.promises[ticket.promise]? = some later ∧
      (task.next scene).2.Partakes errand ticket later := by
  generalize stage : task.stage = stands at partakes
  cases partakes with
  | free =>
      have goes : task.next scene = scene.await errand ticket := by rw [Task.next, stage]
      rw [goes, scene.await_free errand ticket there]
      exact ⟨_, getElem?_withPromise_self there,
        .leads (Stage.errand_led errand ticket) (Stage.owes_led errand ticket)⟩
  | leads loads owes =>
      rw [← stage] at loads owes
      rcases (Task.handling_next scene task).owes_or_keeps minds owes with
        still | ⟨last, result, publishes, finishes, kept⟩
      · exact ⟨_, after.owes ticket still, .leads (Task.errand_next loads still) still⟩
      · rw [publishes] at loads
        cases loads
        rw [finishes]
        exact ⟨_, kept, .follows (.finishes rfl)⟩
  | follows follows =>
      rw [← stage] at follows
      obtain ⟨later?, kept, grows⟩ := (Task.handling_next scene task).stays_led minds there
      exact ⟨_, kept, .follows ((Task.follows_next there follows).mono grows)⟩

end Partaking

namespace Traffic

/-- A caller partakes in a promise. -/
def Partakes (traffic : Traffic) (caller : Nat) (errand : Errand) (ticket : Ticket) : Prop :=
  ∃ task promise, traffic.tasks[caller]? = some task ∧
    traffic.scene.session.promises[ticket.promise]? = some promise ∧
      task.stage.Partakes errand ticket promise

variable {traffic : Traffic} {event : Event} {index caller : Nat} {task : Task} {slot : Slot}
  {id : Nat} {ticket : Ticket} {errand : Errand} {key : String} {promise : Promise}
  {result : Except ExtractionError Report} {error : ExtractionError}

/-- A step of somebody else keeps a caller with its promise. -/
theorem Shared.partakes_other (shared : traffic.Shared) (there : traffic.tasks[index]? = some task)
    {waiting : Task} (before : traffic.tasks[caller]? = some waiting) (other : index ≠ caller)
    (found : traffic.scene.session.promises[ticket.promise]? = some promise)
    (partakes : waiting.stage.Partakes errand ticket promise) :
    ∃ later, (traffic.advance index task).scene.session.promises[ticket.promise]? = some later ∧
      waiting.stage.Partakes errand ticket later := by
  have handling := Task.handling_next traffic.scene task
  have minds := shared.minds index task there
  have after := shared.advance there
  have stands : (traffic.advance index task).tasks[caller]? = some waiting :=
    (getElem?_advance_of_ne other).trans before
  rw [scene_advance]
  generalize stage : waiting.stage = standing at partakes
  cases partakes with
  | free =>
      rcases handling.free_or_led minds found with free | ⟨_, -, leads⟩
      · exact ⟨_, free, .free⟩
      · have taken := after.minds index _ (getElem?_advance_self there)
        exact ⟨_, taken.owes ticket (Stage.owes_of_leads leads), .follows .waits⟩
  | leads loads owes =>
      exact ⟨_, (after.minds caller waiting stands).owes ticket (stage ▸ owes), .leads loads owes⟩
  | follows follows =>
      obtain ⟨later?, kept, grows⟩ := handling.stays_led minds found
      exact ⟨_, kept, .follows (follows.mono grows)⟩

theorem Partakes.next (partakes : traffic.Partakes caller errand ticket) (shared : traffic.Shared)
    (event : Event) : (traffic.next event).Partakes caller errand ticket := by
  obtain ⟨old, promise, before, found, far⟩ := partakes
  rcases traffic.rests_or_advances event with rests | ⟨index, task, rfl, there, advances⟩
  · obtain ⟨task, there, stage⟩ := rests.kept caller old before
    rw [← rests.session] at found
    exact ⟨task, promise, there, found, stage ▸ far⟩
  · rw [advances]
    by_cases same : index = caller
    · subst same
      obtain rfl : task = old := Option.some.inj (there.symm.trans before)
      have moved := getElem?_advance_self there
      obtain ⟨later, kept, onward⟩ := Task.partakes_next (shared.minds index task there) found far
        ((shared.advance there).minds index _ moved)
      exact ⟨_, later, moved, kept, onward⟩
    · obtain ⟨later, kept, onward⟩ := shared.partakes_other there before same found far
      exact ⟨old, later, (getElem?_advance_of_ne same).trans before, kept, onward⟩

/-- A caller that partakes in a promise goes on to do so, whatever happens. -/
theorem Partakes.run (partakes : traffic.Partakes caller errand ticket) (shared : traffic.Shared)
    (events : List Event) : (events.foldl Traffic.next traffic).Partakes caller errand ticket := by
  induction events generalizing traffic with
  | nil => exact partakes
  | cons event events ih => exact ih (partakes.next shared event) (shared.next event)

end Traffic

/-! ## Failures -/

/-- A failure that a load has in hand after a step it had in hand before, or it has just read the
script. -/
theorem Move.carried_error {profile : Profile} {scene there : Scene} {stage next : Stage}
    {ticket : Ticket} {error : ExtractionError} (move : Move scene stage there next)
    (same : scene.session.profile = profile)
    (carries : profile.carried? next = some (ticket, .error error)) :
    profile.carried? stage = some (ticket, .error error) ∨
      ∃ errand, stage = .read errand (some ticket) ∧
        profile.drawAt scene.world.host errand.path = .error error := by
  rcases move.carried same carries with before | ⟨errand, reads, drawn⟩ | ⟨errand, rfl⟩
  · exact .inl before
  · exact .inr ⟨errand, reads, drawn.symm⟩
  · -- what the cache tells is no failure
    cases move <;> cases carries

namespace Traffic

variable {traffic : Traffic} {event : Event} {index caller : Nat} {task : Task} {slot : Slot}
  {id : Nat} {ticket : Ticket} {errand : Errand} {key : String}
  {result : Except ExtractionError Report} {error : ExtractionError}

theorem profile_next (traffic : Traffic) (event : Event) :
    (traffic.next event).scene.session.profile = traffic.scene.session.profile := by
  rcases traffic.rests_or_advances event with rests | ⟨index, task, rfl, there, advances⟩
  · rw [rests.session]
  · rw [advances, scene_advance, (task.turn_next traffic.scene).profile_eq]

/-- Who has a failure in hand after some events had it in hand before, or has met it since. -/
theorem carries_or_fails (events : List Event)
    (there : (events.foldl Traffic.next traffic).tasks[index]? = some task)
    (carries : traffic.scene.session.profile.carried? task.stage = some (ticket, .error error)) :
    (∃ old, traffic.tasks[index]? = some old ∧
        traffic.scene.session.profile.carried? old.stage = some (ticket, .error error)) ∨
      traffic.Fails events index ticket error := by
  induction events generalizing traffic with
  | nil => exact .inl ⟨task, there, carries⟩
  | cons event events ih =>
      have same := traffic.profile_next event
      rcases ih there (same.symm ▸ carries) with
        ⟨middle, found, carried⟩ | ⟨sooner, rest, reader, errand, rfl, standing, reads, fails⟩
      · rw [same] at carried
        rcases traffic.rests_or_advances event with rests | ⟨mover, moving, rfl, before, advances⟩
        · rcases rests.tasks index middle found with ⟨old, before, -, stage⟩ | ⟨request, -, rfl⟩
          · exact .inl ⟨old, before, stage ▸ carried⟩
          · cases carried
        · rw [advances] at found
          rcases getElem?_advance found with ⟨rfl, rfl⟩ | ⟨-, earlier⟩
          · rcases moving.move_or_act traffic.scene with move | act
            · rcases move.carried_error rfl carried with had | ⟨errand, reads, failed⟩
              · exact .inl ⟨moving, before, had⟩
              · exact .inr ⟨[], events, moving, errand, rfl, before, reads, failed⟩
            · have owes := Profile.owes_of_carried carried
              rw [act.owes] at owes
              cases owes
          · exact .inl ⟨middle, earlier, carried⟩
      · exact .inr ⟨event :: sooner, rest, reader, errand, rfl, standing, reads, same ▸ fails⟩

/-- A leader that hands out a failure for a promise that nobody had taken on has met it since. -/
theorem Publishes.fails {events : List Event} (shared : traffic.Shared)
    (free : traffic.scene.session.promises[ticket.promise]? = some ⟨slot, false, none⟩)
    (publishes : traffic.Publishes events index ticket (.error error)) :
    traffic.Fails events index ticket error := by
  obtain ⟨sooner, rest, leader, errand, rfl, there, stage⟩ := publishes
  rcases carries_or_fails sooner there (by rw [stage]; rfl) with
    ⟨old, before, carried⟩ | ⟨earlier, between, reader, work, rfl, standing, reads, fails⟩
  · have taken := (shared.minds index old before).owes ticket (Profile.owes_of_carried carried)
    rw [free] at taken
    cases taken
  · refine ⟨earlier, between ++ .go index :: rest, reader, work, ?_, standing, reads, fails⟩
    rw [List.append_assoc, List.cons_append]

/-! ## What joining comes to -/

/-- A caller has joined a promise in flight and waits for it. -/
structure Joined (traffic : Traffic) (caller : Nat) (errand : Errand) (ticket : Ticket) : Prop where
  flies : (ticket.slot, ticket.promise) ∈ traffic.scene.session.inFlight
  waits : ∃ task, traffic.tasks[caller]? = some task ∧ task.stage = .await errand ticket

/-- Whoever comes to join gets a promise in flight for its slot, a new one if there was none. -/
theorem exists_joined (there : traffic.tasks[caller]? = some task)
    (stage : task.stage = .join errand key) :
    ∃ ticket, ticket.slot = ⟨key, errand.reuse⟩ ∧
      (traffic.next (.go caller)).Joined caller errand ticket ∧
      (traffic.scene.session.inFlight.lookup ticket.slot = none →
        (traffic.next (.go caller)).scene.session.promises[ticket.promise]? =
          some ⟨ticket.slot, false, none⟩) := by
  have goes : task.next traffic.scene = traffic.scene.join errand key := by rw [Task.next, stage]
  rw [next_go there]
  cases found : traffic.scene.session.inFlight.lookup ⟨key, errand.reuse⟩ with
  | some id =>
      rw [traffic.scene.join_of_some errand found] at goes
      refine ⟨⟨⟨key, errand.reuse⟩, id⟩, rfl, ⟨?_, _, getElem?_advance_self there, ?_⟩, ?_⟩
      · rw [scene_advance, goes]
        exact mem_of_lookup_eq_some found
      · exact congrArg Prod.snd goes
      · intro missing
        cases found.symm.trans missing
  | none =>
      rw [traffic.scene.join_of_none errand found] at goes
      refine ⟨⟨⟨key, errand.reuse⟩, traffic.scene.session.promises.length⟩, rfl,
        ⟨?_, _, getElem?_advance_self there, ?_⟩, ?_⟩
      · rw [scene_advance, goes]
        exact List.mem_cons_self
      · exact congrArg Prod.snd goes
      · intro _
        rw [scene_advance, goes]
        exact List.getElem?_concat_length

/-- The promise that a caller has joined is still to be kept. -/
theorem Joined.exists_unkept (joined : traffic.Joined caller errand ticket) (shared : traffic.Shared) :
    ∃ led, traffic.scene.session.promises[ticket.promise]? = some ⟨ticket.slot, led, none⟩ :=
  shared.aloft.flying ticket.slot ticket.promise joined.flies

/-- Who has joined a promise partakes in it. -/
theorem Joined.partakes (joined : traffic.Joined caller errand ticket) (shared : traffic.Shared) :
    traffic.Partakes caller errand ticket := by
  obtain ⟨task, there, stage⟩ := joined.waits
  obtain ⟨led, unkept⟩ := joined.exists_unkept shared
  refine ⟨task, _, there, unkept, ?_⟩
  rw [stage]
  cases led with
  | false => exact .free
  | true => exact .follows .waits

/-- As long as the session keeps its script, a caller that has joined a promise is answered what the
promise is kept with, and a leader has handed that out since. -/
theorem Joined.told (joined : traffic.Joined caller errand ticket) (shared : traffic.Shared)
    {start : Session} {results : List (Except ExtractionError Report)}
    (shown : traffic.Shows start results) {events : List Event}
    (stays : ∀ event ∈ events, event.Stays) {last : Task} {answer : Answer}
    (found : (events.foldl Traffic.next traffic).tasks[caller]? = some last)
    (answered : last.answer? = some answer) :
    ∃ result leader, answer = errand.kind.answer (result.mapError .extraction) ∧
      (events.foldl Traffic.next traffic).scene.session.promises[ticket.promise]? =
        some ⟨ticket.slot, true, some result⟩ ∧
      traffic.Publishes events leader ticket result := by
  obtain ⟨task, there, stage⟩ := joined.waits
  obtain ⟨sooner, rest, ending, result, split, standing, finishes, ends⟩ :=
    ends_run there (by rw [stage]; rfl) found (Task.stage_of_answered answered)
  have early : ∀ event ∈ sooner, event.Stays :=
    fun event member => stays event (split ▸ List.mem_append_left _ member)
  have current := ((shown.run sooner early).stays caller ending standing).errand errand
    (by rw [finishes]; rfl)
  obtain ⟨-, told⟩ := ends.of_current current.symm
  obtain ⟨old, promise, before, kept, far⟩ := (joined.partakes shared).run shared sooner
  cases standing.symm.trans before
  rw [finishes] at far
  rw [far.kept] at kept
  have still : (events.foldl Traffic.next traffic).scene.session.promises[ticket.promise]? =
      some ⟨ticket.slot, true, some result⟩ := by
    rw [split, List.foldl_append]
    exact (shared.run sooner).kept_run _ kept
  obtain ⟨led, unkept⟩ := joined.exists_unkept shared
  rcases kept_or_publishes events still with already | ⟨leader, publishes⟩
  · cases unkept.symm.trans already
  · exact ⟨result, leader, told, still, publishes⟩

/-- What joining a promise comes to. -/
structure Settles (before : Traffic) (caller : Nat) (errand : Errand) (ticket : Ticket)
    (later : List Event) : Prop where
  joined : (before.next (.go caller)).Joined caller errand ticket
  /-- Unless some task is left out for ever, the caller is answered. -/
  answered : ∀ run, (before.next (.go caller)).Fair run → ∃ moment last answer,
    ((before.next (.go caller)).along run moment).tasks[caller]? = some last ∧
      last.answer? = some answer
  /-- Its answer is what the promise is kept with, and a leader has handed that out since. If there was
  nothing to join, a failure is one that this leader has met since. -/
  told : ∀ last answer, (later.foldl Traffic.next (before.next (.go caller))).tasks[caller]? =
    some last → last.answer? = some answer →
      ∃ result leader, answer = errand.kind.answer (result.mapError .extraction) ∧
        (later.foldl Traffic.next (before.next (.go caller))).scene.session.promises[ticket.promise]? =
          some ⟨ticket.slot, true, some result⟩ ∧
        (before.next (.go caller)).Publishes later leader ticket result ∧
        (before.scene.session.inFlight.lookup ticket.slot = none →
          ∀ error, result = .error error →
            (before.next (.go caller)).Fails later leader ticket error)

/-- A caller that comes to join finds a promise for its key, or makes one, and what comes of it is
told by what happens later. -/
theorem exists_settles {scene : Scene} (rest : scene.session.AtRest) {first later : List Event}
    (stays : ∀ event ∈ first ++ .go caller :: later, event.Stays)
    (there : (first.foldl Traffic.next (.quiet scene)).tasks[caller]? = some task)
    (stage : task.stage = .join errand key) :
    ∃ ticket, ticket.slot = ⟨key, errand.reuse⟩ ∧
      (first.foldl Traffic.next (.quiet scene)).Settles caller errand ticket later := by
  have onward : first ++ .go caller :: later = (first ++ [Event.go caller]) ++ later := by
    rw [List.append_assoc, List.singleton_append]
  rw [onward] at stays
  have shared := (shared_quiet rest).run (first ++ [.go caller])
  have tended := (tended_quiet rest).run (shared_quiet rest) (first ++ [.go caller])
  have shown := (shows_quiet scene).run (first ++ [.go caller])
    fun event member => stays event (List.mem_append_left later member)
  rw [List.foldl_append, List.foldl_cons, List.foldl_nil] at shared tended shown
  obtain ⟨ticket, slot, joined, free⟩ := exists_joined there stage
  refine ⟨ticket, slot, joined, ?_, ?_⟩
  · intro run fair
    obtain ⟨waiting, found, waits⟩ := joined.waits
    exact fair.exists_answer_of_await shared tended found waits
  · intro last answer found answered
    obtain ⟨result, leader, told, kept, publishes⟩ := joined.told shared shown
      (fun event member => stays event (List.mem_append_right _ member)) found answered
    refine ⟨result, leader, told, kept, publishes, ?_⟩
    rintro missing error rfl
    exact publishes.fails shared (free missing)

end Traffic

/-- In every order of steps of loads that have keys, with whatever changes outside, whoever comes to
join a promise takes one in flight for its slot, is answered unless a task is left out for ever, and
is answered what the promise was kept with, which its leader handed out; a failure that is answered
where no promise was in flight has been met since. A promise has one leader, only leaders call sources
and keep names in the store, and a promise is taken out of flight by its own leader alone. Once all
calls are answered, the session is at rest, with nothing in flight. -/
theorem promise_lifecycle {scene : Scene} (rest : scene.session.AtRest) {events : List Event}
    (stays : ∀ event ∈ events, event.Stays)
    (keyed : Along Traffic.next Traffic.Keyed (.quiet scene) events) :
    (∀ first caller later task errand key, events = first ++ .go caller :: later →
      (first.foldl Traffic.next (.quiet scene)).tasks[caller]? = some task →
        task.stage = .join errand key → ∃ ticket, ticket.slot = ⟨key, errand.reuse⟩ ∧
          (first.foldl Traffic.next (.quiet scene)).Settles caller errand ticket later) ∧
    (∀ first later one two ticket held, events = first ++ later →
      (first.foldl Traffic.next (.quiet scene)).Owes one ticket →
        (events.foldl Traffic.next (.quiet scene)).Owes two held →
          ticket.promise = held.promise → one = two) ∧
    (∀ first event later, events = first ++ event :: later →
      let before := first.foldl Traffic.next (.quiet scene)
      let after := before.next event
      (after.scene.world.spent ≠ before.scene.world.spent →
        ∃ leader ticket, event = .go leader ∧ before.Leads leader ticket) ∧
      ∀ slot id, (slot, id) ∈ before.scene.session.inFlight →
        (slot, id) ∉ after.scene.session.inFlight →
          ∃ leader, event = .go leader ∧ before.Leads leader ⟨slot, id⟩) ∧
    ((∀ task ∈ (events.foldl Traffic.next (.quiet scene)).tasks, task.answer?.isSome) →
      (events.foldl Traffic.next (.quiet scene)).scene.session.AtRest) := by
  have shared := Traffic.shared_quiet rest
  refine ⟨?_, ?_, ?_, ?_⟩
  · rintro first caller later task errand key rfl there stage
    exact Traffic.exists_settles rest stays there stage
  · rintro first later one two ticket held rfl owes rival same
    rw [List.foldl_append] at rival
    exact owes.unique (shared.run first) later rival same
  · rintro first event later rfl before after
    have pooled : before.Pooled :=
      invariant_run (fun _ _ pooled keyed => pooled.next keyed) (Traffic.pooled_quiet scene)
        (along_append.mp keyed).1
    exact ⟨pooled.leads_of_spent, fun _ _ => Traffic.exists_leader_of_landed⟩
  · exact ((Traffic.tended_quiet rest).run shared events).atRest (shared.run events)

/-! ## A caller that joins late -/

namespace Traffic

/-- Fixed keys can always be made. -/
theorem keyed_of_fixed {traffic : Traffic} (fixed : traffic.scene.session.profile.keyMode = .fixed)
    (event : Event) : traffic.Keyed event := by
  intro index task errand same there stage
  rw [Session.keyOf, fixed]
  exact ⟨_, rfl⟩

/-- Where keys hold no time every load can make one. -/
theorem along_keyed {traffic : Traffic} (fixed : traffic.scene.session.profile.keyMode = .fixed)
    (events : List Event) : Along Traffic.next Keyed traffic events := by
  induction events generalizing traffic with
  | nil => trivial
  | cons event events ih =>
      exact ⟨keyed_of_fixed fixed event, ih (by rw [profile_next, fixed])⟩

/-- A load has read its script, and another one comes to join. -/
def meeting : List Event :=
  .ask (.load true) :: List.replicate 5 (.go 0) ++ [.ask (.load true), .go 1, .go 1]

/-- The first load goes on to its end, and then the second one does. -/
def parting : List Event := List.replicate 6 (.go 0) ++ List.replicate 2 (.go 1)

theorem foldl_meeting (content : String) :
    meeting.foldl next (quiet (.structural content)) =
      [Event.ask (.load true), .go 1, .go 1].foldl next (reading content) := by
  have first : (Event.ask (.load true) :: List.replicate 5 (.go 0)).foldl next
      (quiet (.structural content)) = reading content := foldl_reading content
  rw [meeting, List.foldl_append, first]

theorem joins_meeting :
    (meeting.foldl next (quiet (.structural "function A \x7b\x7d"))).tasks.map (·.stage.joins?) =
      [none, some (⟨.fresh, onlyScript, 1⟩, "psfunc-functions-/s")] := by
  rw [foldl_meeting]
  decide +kernel

theorem answered_parting :
    (parting.foldl next ((meeting.foldl next (quiet (.structural "function A \x7b\x7d"))).next
      (.go 1))).tasks.map (·.answer?.isSome) = [true, true] := by
  rw [foldl_meeting]
  decide +kernel

end Traffic

/-- Two loads overlap, and the second one is told what its leader has handed out. -/
theorem promise_lifecycle_late :
    ∃ before last, Traffic.meeting.foldl Traffic.next (.quiet (.structural "function A \x7b\x7d")) =
        before ∧
      Traffic.parting.foldl Traffic.next (before.next (.go 1)) = last ∧
      ∃ ticket leader result task, before.Settles 1 ⟨.fresh, onlyScript, 1⟩ ticket Traffic.parting ∧
        (before.next (.go 1)).Publishes Traffic.parting leader ticket result ∧
        last.tasks[1]? = some task ∧
        task.answer? = some (.loaded (result.mapError .extraction)) ∧
        (∃ moment final answer, ((before.next (.go 1)).along (before.next (.go 1)).turns
          moment).tasks[1]? = some final ∧ final.answer? = some answer) ∧
        last.scene.session.AtRest := by
  have rest : (Scene.structural "function A \x7b\x7d").session.AtRest := ⟨rfl, nofun⟩
  have stays : ∀ event ∈ Traffic.meeting ++ .go 1 :: Traffic.parting, event.Stays := by
    simp [Traffic.meeting, Traffic.parting, Event.Stays, Request.target?]
  have keyed : Along Traffic.next Traffic.Keyed (.quiet (.structural "function A \x7b\x7d"))
      (Traffic.meeting ++ .go 1 :: Traffic.parting) := Traffic.along_keyed rfl _
  obtain ⟨settles, -, -, ends⟩ := promise_lifecycle rest stays keyed
  have come := Traffic.joins_meeting
  have finished := Traffic.answered_parting
  rw [List.foldl_append, List.foldl_cons] at ends
  have meets := settles Traffic.meeting 1 Traffic.parting
  refine ⟨_, _, rfl, rfl, ?_⟩
  -- which traffic it is does not matter any more, and it is too large to be computed here
  generalize Traffic.meeting.foldl Traffic.next (.quiet (.structural "function A \x7b\x7d")) =
    before at come finished ends meets ⊢
  obtain ⟨caller, there, joining⟩ : ∃ task, before.tasks[1]? = some task ∧
      task.stage.joins? = some (⟨.fresh, onlyScript, 1⟩, "psfunc-functions-/s") :=
    Traffic.exists_of_map come rfl
  obtain ⟨ticket, -, settled⟩ := meets caller _ _ rfl there (Stage.eq_join joining)
  have ended := congrArg (·[1]?) finished
  rw [List.getElem?_map] at ended
  obtain ⟨task, found, answers⟩ := Option.map_eq_some_iff.mp ended
  obtain ⟨answer, answered⟩ := Option.isSome_iff_exists.mp answers
  obtain ⟨result, leader, same, -, publishes, -⟩ := settled.told task answer found answered
  refine ⟨ticket, leader, result, task, settled, publishes, found, answered.trans (congrArg some same),
    settled.answered _ (Traffic.fair_turns _), ends ?_⟩
  intro other member
  have told : other.answer?.isSome ∈ [true, true] := finished ▸ List.mem_map_of_mem member
  simpa using told

end ScriptRoster
