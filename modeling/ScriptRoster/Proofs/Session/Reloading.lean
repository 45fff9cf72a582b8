import ScriptRoster.Proofs.Session.Freshness

/-!
# What a reload leaves in the store

Under a key that never changes, a reload drops what the store holds, and then somebody stores what
is in the script: the reload itself, or whoever keeps the promise that it joins. This is what the
store holds in the end, unless a load that read the script before it was changed stores it later, or
another reload drops the list after a load has stored it and before the load's promise is out of
flight.
-/

namespace ScriptRoster

open Cache Files

/-! ## What loads are about to do -/

namespace Stage

/-- Whether the next step of a task drops what the store holds. -/
def drops : Stage → Bool
  | .drop .. => true
  | _ => false

/-- Whether a load that the cache may not answer has done all that it does to the store and can
still be joined. -/
def lingers : Stage → Bool
  | .leave _ ticket _ => !ticket.slot.reuse
  | _ => false

/-- The list that is put into the store in the next step of a task, and for which promise. -/
def keeps? : Stage → Option (Ticket × Report)
  | .keep _ ticket report => some (ticket, report)
  | _ => none

/-- Whether a reload has not dropped anything yet. -/
def undropped : Stage → Bool
  | .start | .makeKey _ | .drop .. => true
  | _ => false

/-- A load that the cache may not answer is on its way to store what it finds in the script, or to
join somebody who is. -/
def Bound (session : Session) : Stage → Prop
  | .join errand _ => errand.reuse = false
  | .await _ ticket => ticket.slot.reuse = false ∧
      session.promises[ticket.promise]? = some ⟨ticket.slot, false, none⟩
  | .read _ (some ticket) | .callSource _ (some ticket) _ | .extract _ (some ticket) _
  | .keep _ ticket _ => ticket.slot.reuse = false
  | _ => False

theorem keeps_of_drops {stage : Stage} (drops : stage.drops) : stage.keeps? = none := by
  cases stage <;> first | rfl | cases drops

end Stage

/-- What a load is about to store, or to hand to loads that the cache may not answer. -/
def Profile.brings? (profile : Profile) : Stage → Option (Except ExtractionError Report)
  | .callSource _ (some _) content | .extract _ (some _) content => some (profile.draw content)
  | .keep _ _ report => some (.ok report)
  | .leave _ ticket result => if ticket.slot.reuse then none else some result
  | _ => none

/-- Whether a store in memory holds a payload under a key. -/
def Cache.World.Stores (world : World) (key payload : String) : Prop :=
  ∃ entries, world.store = .memory entries ∧ entries.lookup key = some payload

section Steps

variable {profile : Profile} {request : Request} {scene there : Scene} {before after : Session}
  {world : World} {stage next : Stage} {key payload : String} {ticket : Ticket} {slot : Slot}
  {id : Nat} {result : Except ExtractionError Report}

/-- Who leads a promise for loads that the cache may not answer brings what it has in hand. -/
theorem Profile.brings_of_carried (carries : profile.carried? stage = some (ticket, result))
    (leads : stage.leads? = some ticket) (forced : ticket.slot.reuse = false) :
    profile.brings? stage = some result := by
  cases stage with
  | callSource errand held | extract errand held =>
      cases held with
      | none => cases carries
      | some held =>
          cases carries
          rfl
  | keep =>
      cases carries
      rfl
  | leave =>
      cases carries
      rw [brings?, forced]
      rfl
  | publish => cases leads
  | _ => cases carries

theorem Profile.eq_of_brings_extracted {errand : Errand} {held : Option Ticket}
    {found : Except ExtractionError Report}
    (brings : profile.brings? (Scene.extracted errand held result) = some found) :
    held.isSome ∧ found = result := by
  cases held with
  | none => cases brings
  | some held =>
      refine ⟨rfl, ?_⟩
      cases result with
      | ok report =>
          cases brings
          rfl
      | error error =>
          rw [Scene.extracted, brings?] at brings
          split at brings <;> cases brings
          rfl

/-- After an extraction only a load that has found nothing lingers. -/
theorem Profile.brings_of_lingers_extracted {errand : Errand} {held : Option Ticket}
    (lingers : (Scene.extracted errand held result).lingers) :
    ∃ error, profile.brings? (Scene.extracted errand held result) = some (.error error) := by
  cases held with
  | none => cases lingers
  | some held =>
      cases result with
      | ok report => cases lingers
      | error error =>
          have forced : held.slot.reuse = false := by
            simpa [Scene.extracted, Stage.lingers] using lingers
          exact ⟨error, by simp [Scene.extracted, brings?, forced]⟩

/-- What a load brings after a step it brought before, or it has just read the script, or the cache
told it. -/
theorem Move.brings (move : Move scene stage there next)
    (same : scene.session.profile = profile) (brings : profile.brings? next = some result) :
    profile.brings? stage = some result ∨
      (∃ errand held, stage = .read errand held ∧
        result = profile.drawAt scene.world.host errand.path) ∨
      ∃ errand ticket, stage = .lookAgain errand ticket ∧ ticket.slot.reuse = false := by
  cases move with
  | @keyed errand =>
      unfold Errand.keyed at brings
      cases kind : errand.kind <;> rw [kind] at brings <;> cases brings
  | @led errand => split at brings <;> cases brings
  | keyless | hit | missed | dropped | joined | promised | handed | waited | missedAgain | left
  | published => cases brings
  | @lateHit errand ticket =>
      refine .inr (.inr ⟨errand, ticket, rfl, ?_⟩)
      cases reuse : ticket.slot.reuse with
      | false => rfl
      | true => simp [Profile.brings?, reuse] at brings
  | @opened errand held content read =>
      cases held with
      | none => cases brings
      | some held =>
          cases brings
          exact .inr (.inl ⟨errand, some held, rfl, by rw [Profile.drawAt, read]; rfl⟩)
  | @unreadable errand held error failed =>
      obtain ⟨-, rfl⟩ := Profile.eq_of_brings_extracted brings
      exact .inr (.inl ⟨errand, held, rfl, by rw [Profile.drawAt, failed]; rfl⟩)
  | @called errand held content =>
      cases held with
      | none => cases brings
      | some held => exact .inl brings
  | @drawn errand held content =>
      obtain ⟨some, rfl⟩ := Profile.eq_of_brings_extracted brings
      obtain ⟨held, rfl⟩ := Option.isSome_iff_exists.mp some
      rw [same]
      exact .inl rfl
  | @stored errand ticket report =>
      rw [Profile.brings?] at brings
      split at brings <;> cases brings
      exact .inl rfl

theorem Act.brings (act : Act request scene stage there next) : profile.brings? next = none := by
  have owes := act.owes
  cases next with
  | callSource errand held | extract errand held =>
      cases held with
      | none => rfl
      | some held => cases owes
  | keep | leave => cases owes
  | _ => rfl

theorem Act.store (act : Act request scene stage there next) :
    there.world.store = scene.world.store := by
  cases act with
  | repointed _ aside | resolved aside | located _ aside | recorded _ aside | discarded _ aside
  | listed _ _ _ aside | concluded aside => exact aside.store
  | spawned store | watched store | ended _ store => exact store
  | overtaken | begun | refused | unlisted | rested => rfl

/-- The names that are kept in a store in memory that refuses nothing are stored as a list. -/
theorem Cache.World.stores_keep (obliging : world.Obliging) (memory : world.InMemory)
    (key : String) (names : List String) :
    (world.keep key names).2.Stores key (Json.listText names) := by
  obtain ⟨entries, store⟩ := memory
  rw [keep_eq, obliging, store]
  exact ⟨entries.set key (Json.listText names), rfl, Memory.lookup_set_self entries key _⟩

/-- A load leaves the store as it is, unless it drops something from it or keeps a list in it. -/
theorem Move.store (move : Move scene stage there next) (memory : scene.world.InMemory)
    (obliging : scene.world.Obliging) :
    stage.drops ∨ (stage.keeps? = none ∧ there.world.store = scene.world.store) ∨
      ∃ ticket report, stage.keeps? = some (ticket, report) ∧
        there.world.Stores ticket.slot.key (Json.listText report.names) := by
  cases move with
  | keyed | joined | promised | handed | led | waited | opened | unreadable | left | published =>
      exact .inr (.inl ⟨rfl, rfl⟩)
  | keyless _ aside | called aside | drawn aside => exact .inr (.inl ⟨rfl, aside.store⟩)
  | hit found | missed found | missedAgain found =>
      exact .inr (.inl ⟨rfl, (World.sameStock_of_names? found).store⟩)
  | lateHit found aside =>
      exact .inr (.inl ⟨rfl, aside.store.trans (World.sameStock_of_names? found).store⟩)
  | dropped => exact .inl rfl
  | @stored errand ticket report world aside =>
      obtain ⟨entries, store, held⟩ :=
        World.stores_keep obliging memory ticket.slot.key report.names
      exact .inr (.inr ⟨ticket, report, rfl, entries, aside.store.trans store, held⟩)

/-- Who lingers after a step has stored what it found, or found nothing, or was told by the cache. -/
theorem Move.lingers (move : Move scene stage there next) (lingers : next.lingers) :
    stage.keeps?.isSome ∨
      (∃ error, profile.brings? next = some (.error error)) ∨
      ∃ errand ticket, stage = .lookAgain errand ticket ∧ ticket.slot.reuse = false := by
  cases move with
  | @keyed errand =>
      unfold Errand.keyed at lingers
      cases kind : errand.kind <;> rw [kind] at lingers <;> cases lingers
  | @led errand => split at lingers <;> cases lingers
  | keyless | hit | missed | dropped | joined | promised | handed | waited | missedAgain | opened
  | called | left | published => cases lingers
  | @lateHit errand ticket =>
      exact .inr (.inr ⟨errand, ticket, rfl, by simpa [Stage.lingers] using lingers⟩)
  | unreadable | drawn => exact .inr (.inl (Profile.brings_of_lingers_extracted lingers))
  | stored => exact .inl rfl

/-- Whoever is still on the way to the store does not linger. -/
theorem Stage.not_lingers_of_bound (bound : stage.Bound before) : stage.lingers = false := by
  cases stage <;> first | rfl | cases bound

theorem Act.lingers (act : Act request scene stage there next) : next.lingers = false := by
  have owes := act.owes
  cases next with
  | leave => cases owes
  | _ => rfl

theorem Act.keeps (act : Act request scene stage there next) : stage.keeps? = none := by
  cases act with
  | @begun stage _ _ begins | @refused stage _ begins =>
      cases stage <;> first | rfl | cases begins
  | @ended stage _ _ _ calls => cases stage <;> first | rfl | cases calls
  | repointed | resolved | located | overtaken | recorded | discarded | listed | unlisted | spawned
  | watched | concluded | rested => rfl

theorem Act.not_bound (act : Act request scene stage there next) : ¬ stage.Bound before := by
  intro bound
  cases act with
  | @begun stage _ _ begins | @refused stage _ begins =>
      cases stage <;> first | exact bound | cases begins
  | @ended stage _ _ _ calls => cases stage <;> first | exact bound | cases calls
  | repointed | resolved | located | overtaken | recorded | discarded | listed | unlisted | spawned
  | watched | concluded | rested => exact bound

/-- A load that is on its way stays so while another task does a step, unless that task takes on the
promise that the load waits for. -/
theorem Stage.Bound.handling {other : Stage} (bound : other.Bound before)
    (handling : Handling before stage after next) (minds : stage.Minds before) :
    other.Bound after ∨ ∃ ticket, next.leads? = some ticket ∧ ticket.slot.reuse = false := by
  cases other with
  | await errand ticket =>
      rcases handling.free_or_led minds bound.2 with free | ⟨_, -, leads⟩
      · exact .inl ⟨bound.1, free⟩
      · exact .inr ⟨_, leads, bound.1⟩
  | read errand held | callSource errand held | extract errand held =>
      cases held with
      | none => cases bound
      | some held => exact .inl bound
  | join | keep => exact .inl bound
  | _ => cases bound

/-- Who leads a promise that the cache may not answer is on its way, or lingers. -/
theorem Stage.bound_or_lingers (leads : stage.leads? = some ticket)
    (forced : ticket.slot.reuse = false)
    (looks : ∀ errand held, stage = .lookAgain errand held → held.slot.reuse = true) :
    stage.Bound before ∨ stage.lingers := by
  cases stage with
  | lookAgain errand held =>
      cases leads
      rw [looks errand ticket rfl] at forced
      cases forced
  | read errand held | callSource errand held | extract errand held =>
      cases held with
      | none => cases leads
      | some held =>
          cases leads
          exact .inl forced
  | keep =>
      cases leads
      exact .inl forced
  | leave =>
      cases leads
      exact .inr (by rw [lingers, forced]; rfl)
  | _ => cases leads

end Steps

namespace Story

variable {story : Story} {first now last : Nat} {drawn : Except ExtractionError Report}
  {report : Report} {index : Nat} {task : Task}

/-- A story of a session that loads its script and does nothing else, under a key that never changes,
over a store in memory that refuses nothing. -/
structure Plain (story : Story) : Prop where
  steady : story.Steady
  serves : story.Serves
  obliging : story.scene.world.Obliging
  fixed : story.scene.session.profile.keyMode = .fixed

/-- The key of the script, if it never changes. -/
def key (story : Story) : String :=
  keyAt story.scene.session.profile.keyPrefix .fixed story.path 0

/-- What is in the script at a moment. -/
def found (story : Story) (now : Nat) : Except ExtractionError Report :=
  story.scene.session.profile.drawAt (story.host now) story.path

/-- What loads are about to store, or to hand to others, is the same for all of them. -/
def Current (story : Story) (now : Nat) (drawn : Except ExtractionError Report) : Prop :=
  ∀ (index : Nat) (task : Task) result, (story.after now).tasks[index]? = some task →
    story.scene.session.profile.brings? task.stage = some result → result = drawn

/-- Nothing is dropped from the store, from one moment to another, while anybody lingers. -/
def Undisturbed (story : Story) (first last : Nat) : Prop :=
  ∀ (now index : Nat) (task : Task), first ≤ now → now < last →
    story.events[now]? = some (.go index) → (story.after now).tasks[index]? = some task →
      task.stage.drops → ∀ rival ∈ (story.after now).tasks, rival.stage.lingers = false

/-- The store holds a list under the key of the script. -/
def Holds (story : Story) (now : Nat) (names : List String) : Prop :=
  (story.after now).scene.world.Stores story.key (Json.listText names)

/-- A list is in the store, or somebody is on the way to put one there. -/
def Coming (story : Story) (now : Nat) (names : List String) : Prop :=
  story.Holds now names ∨ ∃ (index : Nat) (task : Task),
    (story.after now).tasks[index]? = some task ∧ task.stage.Bound (story.after now).scene.session

/-- A list is in the store or on its way to it, and nobody can be joined who has stored it unless it
is there. -/
structure Settled (story : Story) (now : Nat) (names : List String) : Prop where
  coming : story.Coming now names
  lingering : ∀ (index : Nat) (task : Task), (story.after now).tasks[index]? = some task →
    task.stage.lingers → story.Holds now names

theorem key_eq_of_keyIn (fixed : story.scene.session.profile.keyMode = .fixed) {key : String}
    (keyIn : story.KeyIn first last key) : key = story.key := by
  obtain ⟨now, -, -, keys⟩ := keyIn
  rw [Keys, Session.keyOf, fixed, scriptKey_fixed _ _ _ 0] at keys
  exact (Except.ok.inj keys).symm

/-- What a step brings is what all others bring: what the script holds. -/
theorem Known.brings (known : story.Known now) (current : story.Current now (story.found now))
    (there : (story.after now).tasks[index]? = some task) {scene : Scene} {next : Stage}
    {result : Except ExtractionError Report}
    (move : Move (story.after now).scene task.stage scene next)
    (brings : story.scene.session.profile.brings? next = some result) :
    result = story.found now := by
  rcases move.brings known.profile brings with
    before | ⟨errand, held, reading, rfl⟩ | ⟨errand, ticket, looking, forced⟩
  · exact current index task result there before
  · rw [known.works index task there errand (by rw [reading]; rfl)]
    rfl
  · have cached := known.informs index task there
    rw [looking] at cached
    rw [cached.1] at forced
    cases forced

/-- While the script stays as it is, what loads bring does. -/
theorem Current.succ (known : story.Known now) (inside : now < story.events.length)
    (current : story.Current now drawn) (still : story.found now = drawn) :
    story.Current (now + 1) drawn := by
  subst still
  have step := story.after_succ inside
  intro index task result there brings
  rw [step] at there
  rcases Traffic.stage_next there with start | ⟨old, before, same | move | act⟩
  · rw [start] at brings
    cases brings
  · rw [same] at brings
    exact current index old result before brings
  · exact known.brings current before move brings
  · rw [act.brings] at brings
    cases brings

theorem Plain.known (plain : story.Plain) (inside : now ≤ story.events.length) :
    story.Known now := Story.known plain.steady inside

theorem Plain.memory (plain : story.Plain) (inside : now ≤ story.events.length) :
    (story.after now).scene.world.InMemory := (plain.serves.serving inside).1.memory

theorem Plain.refuses (plain : story.Plain) (inside : now ≤ story.events.length) :
    (story.after now).scene.world.Obliging :=
  plain.obliging.of_refuses (plain.serves.serving inside).2

/-- A task does a step while everybody brings what is in the script. -/
structure Steps (story : Story) (now index : Nat) (task : Task) (report : Report) : Prop where
  plain : story.Plain
  inside : now < story.events.length
  current : story.Current now (.ok report)
  still : story.found now = .ok report
  there : (story.after now).tasks[index]? = some task
  advances : story.after (now + 1) = (story.after now).advance index task

theorem Steps.known (steps : story.Steps now index task report) : story.Known now :=
  steps.plain.known (Nat.le_of_lt steps.inside)

theorem Steps.moved (steps : story.Steps now index task report) :
    (story.after (now + 1)).tasks[index]? =
      some { task with stage := (task.next (story.after now).scene).2 } := by
  rw [steps.advances]
  exact Traffic.getElem?_advance_self steps.there

/-- A step drops what is in the store, or leaves it there, or puts the list there that everybody
brings. -/
theorem Steps.store (steps : story.Steps now index task report) :
    task.stage.drops ∨
      (task.stage.keeps? = none ∧
        (story.after (now + 1)).scene.world.store = (story.after now).scene.world.store) ∨
      story.Holds (now + 1) report.names := by
  obtain ⟨plain, inside, current, -, there, advances⟩ := steps
  have earlier := Nat.le_of_lt inside
  rw [Holds, advances, Traffic.scene_advance]
  rcases task.move_or_act (story.after now).scene with move | act
  · rcases move.store (plain.memory earlier) (plain.refuses earlier) with
      drops | same | ⟨ticket, kept, keeps, stores⟩
    · exact .inl drops
    · exact .inr (.inl same)
    · obtain ⟨errand, standing⟩ : ∃ errand, task.stage = .keep errand ticket kept := by
        cases stage : task.stage <;> rw [stage] at keeps <;> cases keeps
        exact ⟨_, rfl⟩
      have informs := (plain.known earlier).informs index task there
      have brings := current index task (.ok kept) there (by rw [standing]; rfl)
      rw [standing] at informs
      cases brings
      rw [key_eq_of_keyIn plain.fixed informs.1] at stores
      exact .inr (.inr stores)
  · exact .inr (.inl ⟨act.keeps, act.store⟩)

/-- Who keeps a list puts it into the store. -/
theorem Steps.holds_of_keeps (steps : story.Steps now index task report)
    (keeps : task.stage.keeps?.isSome) : story.Holds (now + 1) report.names := by
  rcases steps.store with drops | ⟨nothing, -⟩ | holds
  · rw [Stage.keeps_of_drops drops] at keeps
    cases keeps
  · rw [nothing] at keeps
    cases keeps
  · exact holds

theorem Holds.of_store {names : List String} (holds : story.Holds first names)
    (same : (story.after now).scene.world.store = (story.after first).scene.world.store) :
    story.Holds now names := by
  obtain ⟨entries, store, held⟩ := holds
  exact ⟨entries, same.trans store, held⟩

/-- Whoever can be joined after a step and has stored its list has left it in the store. -/
theorem Settled.lingering_next (settled : story.Settled now report.names)
    (steps : story.Steps now index task report)
    (undisturbed : task.stage.drops →
      ∀ rival ∈ (story.after now).tasks, rival.stage.lingers = false) {other : Nat} {rival : Task}
    (later : (story.after (now + 1)).tasks[other]? = some rival) (lingers : rival.stage.lingers) :
    story.Holds (now + 1) report.names := by
  rw [steps.advances] at later
  rcases Traffic.getElem?_advance later with ⟨rfl, rfl⟩ | ⟨-, before⟩
  · -- the task that lingers has just come to do so
    rcases task.move_or_act (story.after now).scene with move | act
    · rcases move.lingers lingers with keeps | ⟨error, brings⟩ | ⟨errand, ticket, looking, forced⟩
      · exact steps.holds_of_keeps keeps
      · have found := steps.known.brings (steps.still ▸ steps.current) steps.there move brings
        rw [steps.still] at found
        cases found
      · have cached := steps.known.informs other task steps.there
        rw [looking] at cached
        rw [cached.1] at forced
        cases forced
    · rw [act.lingers] at lingers
      cases lingers
  · have held := settled.lingering other rival before lingers
    rcases steps.store with drops | ⟨-, same⟩ | holds
    · rw [undisturbed drops rival (List.mem_of_getElem? before)] at lingers
      cases lingers
    · exact held.of_store same
    · exact holds

/-- Who drops what is in the store is on its way to put a list there. -/
theorem Known.bound_of_drops (known : story.Known now)
    (there : (story.after now).tasks[index]? = some task) (drops : task.stage.drops)
    {session : Session} :
    (task.next (story.after now).scene).2.Bound session := by
  have informs := known.informs index task there
  have step := task.move_or_act (story.after now).scene
  generalize task.next (story.after now).scene = result at step ⊢
  obtain ⟨scene, next⟩ := result
  cases stage : task.stage <;> rw [stage] at drops <;> cases drops
  rw [stage] at step informs
  rcases step with move | act
  · cases move
    exact informs.1
  · cases act with
    | begun begins | refused begins => cases begins
    | ended calls => cases calls

/-- Who joins a promise that the cache may not keep is on the way to the store, unless another task
has taken the promise on. -/
theorem Known.bound_joined (known : story.Known now)
    (there : (story.after now).tasks[index]? = some task) {errand : Errand} {key : String} {id : Nat}
    (joins : task.stage = .join errand key) (forced : errand.reuse = false)
    (flying : (story.after now).scene.session.inFlight.lookup ⟨key, errand.reuse⟩ = some id) :
    (Stage.await errand ⟨⟨key, errand.reuse⟩, id⟩).Bound (story.after now).scene.session ∨
      ∃ (other : Nat) (rival : Task), other ≠ index ∧ (story.after now).tasks[other]? = some rival ∧
        (rival.stage.Bound (story.after now).scene.session ∨ rival.stage.lingers) := by
  have mem := mem_of_lookup_eq_some flying
  obtain ⟨led, promise⟩ := known.shared.aloft.flying _ _ mem
  cases led with
  | false => exact .inl ⟨forced, promise⟩
  | true =>
      obtain ⟨other, rival, found, leads⟩ := known.shared.led _ _ mem promise
      have different : other ≠ index := by
        rintro rfl
        cases there.symm.trans found
        rw [joins] at leads
        cases leads
      refine .inr ⟨other, rival, different, found, ?_⟩
      refine Stage.bound_or_lingers leads forced fun errand held looking => ?_
      have cached := known.informs other rival found
      rw [looking] at cached
      exact cached.1

/-- A task that is on its way to the store stays so, or gets there, or joins somebody who is on the
way, or who has been there. -/
theorem Known.bound_move (known : story.Known now) (current : story.Current now (.ok report))
    (still : story.found now = .ok report)
    (there : (story.after now).tasks[index]? = some task) {scene : Scene} {next : Stage}
    (move : Move (story.after now).scene task.stage scene next)
    (bound : task.stage.Bound (story.after now).scene.session) :
    next.Bound scene.session ∨ task.stage.keeps?.isSome ∨
      ∃ (other : Nat) (rival : Task), other ≠ index ∧ (story.after now).tasks[other]? = some rival ∧
        (rival.stage.Bound (story.after now).scene.session ∨ rival.stage.lingers) := by
  have informs := known.informs index task there
  have works := known.works index task there
  have brings := fun result => current index task result there
  generalize before : task.stage = stage at move bound informs works brings
  cases move with
  | @joined errand key id flying =>
      rcases known.bound_joined there before bound flying with bound | joins
      · exact .inl bound
      · exact .inr (.inr joins)
  | @promised errand key => exact .inl ⟨bound, List.getElem?_concat_length⟩
  | handed kept =>
      rw [bound.2] at kept
      cases kept
  | waited _ taken => exact absurd bound.2 (taken _)
  | @led errand ticket =>
      have forced : errand.reuse = false := informs.1.symm.trans bound.1
      rw [forced]
      exact .inl bound.1
  | @opened errand held =>
      cases held with
      | none => cases bound
      | some held => exact .inl bound
  | @unreadable errand held error failed =>
      rw [found, Profile.drawAt, ← works errand rfl] at still
      rw [host, failed] at still
      cases still
  | @called errand held =>
      cases held with
      | none => cases bound
      | some held => exact .inl bound
  | @drawn errand held content =>
      cases held with
      | none => cases bound
      | some held =>
          have found : story.scene.session.profile.draw content = .ok report := brings _ rfl
          rw [known.profile, found]
          exact .inl bound
  | stored => exact .inr (.inl rfl)
  | keyed | keyless | hit | missed | dropped | lateHit | missedAgain | left | published => cases bound

/-- What is in the store stays there, or whoever drops it is on the way to put it there again. -/
theorem Steps.coming_of_holds (steps : story.Steps now index task report)
    (holds : story.Holds now report.names) : story.Coming (now + 1) report.names := by
  rcases steps.store with drops | ⟨-, same⟩ | holds
  · exact .inr ⟨index, _, steps.moved, steps.known.bound_of_drops steps.there drops⟩
  · exact .inl (holds.of_store same)
  · exact .inl holds

/-- Who is on the way stays so while another task does a step, or that task leads the promise that it
waits for. -/
theorem Steps.coming_of_bound (steps : story.Steps now index task report)
    (lingering : ∀ (other : Nat) (rival : Task), (story.after (now + 1)).tasks[other]? = some rival →
      rival.stage.lingers → story.Holds (now + 1) report.names) {other : Nat} {rival : Task}
    (different : other ≠ index) (before : (story.after now).tasks[other]? = some rival)
    (bound : rival.stage.Bound (story.after now).scene.session) :
    story.Coming (now + 1) report.names := by
  have session : (story.after (now + 1)).scene.session =
      (task.next (story.after now).scene).1.session := by
    rw [steps.advances]
    rfl
  rcases bound.handling (task.handling_next (story.after now).scene)
    (steps.known.shared.minds index task steps.there) with kept | ⟨ticket, leads, forced⟩
  · refine .inr ⟨other, rival, ?_, session ▸ kept⟩
    rw [steps.advances]
    exact (Traffic.getElem?_advance_of_ne different.symm).trans before
  · have informs := (steps.plain.known steps.inside).informs index _ steps.moved
    have stands : (task.next (story.after now).scene).2.Bound
          (story.after (now + 1)).scene.session ∨
        (task.next (story.after now).scene).2.lingers := by
      refine Stage.bound_or_lingers leads forced fun errand held looking => ?_
      rw [looking] at informs
      exact informs.1
    rcases stands with bound | lingers
    · exact .inr ⟨index, _, steps.moved, bound⟩
    · exact .inl (lingering index _ steps.moved lingers)

/-- What is settled stays so while a task does a step. -/
theorem Settled.advance (settled : story.Settled now report.names)
    (steps : story.Steps now index task report)
    (undisturbed : task.stage.drops →
      ∀ rival ∈ (story.after now).tasks, rival.stage.lingers = false) :
    story.Settled (now + 1) report.names := by
  have lingering : ∀ (other : Nat) (rival : Task),
      (story.after (now + 1)).tasks[other]? = some rival → rival.stage.lingers →
        story.Holds (now + 1) report.names :=
    fun _ _ later lingers => settled.lingering_next steps undisturbed later lingers
  refine ⟨?_, lingering⟩
  rcases settled.coming with holds | ⟨other, rival, before, bound⟩
  · exact steps.coming_of_holds holds
  by_cases same : other = index
  · subst same
    obtain rfl : rival = task := Option.some.inj (before.symm.trans steps.there)
    rcases rival.move_or_act (story.after now).scene with move | act
    · rcases steps.known.bound_move steps.current steps.still before move bound with
        bound | keeps | ⟨another, leader, different, found, bound | lingers⟩
      · refine .inr ⟨other, _, steps.moved, ?_⟩
        rw [steps.advances]
        exact bound
      · exact .inl (steps.holds_of_keeps keeps)
      · exact steps.coming_of_bound lingering different found bound
      · exact steps.coming_of_holds (settled.lingering another leader found lingers)
    · exact absurd bound act.not_bound
  · exact steps.coming_of_bound lingering same before bound

theorem Settled.rests {names : List String} (settled : story.Settled now names)
    (inside : now < story.events.length) (rests : (story.after now).Rests story.events[now]) :
    story.Settled (now + 1) names := by
  have step := story.after_succ inside
  have same : (story.after (now + 1)).scene.world.store = (story.after now).scene.world.store := by
    rw [step, rests.store]
  constructor
  · rcases settled.coming with holds | ⟨index, task, before, bound⟩
    · exact .inl (holds.of_store same)
    · obtain ⟨later, there, stage⟩ := rests.kept index task before
      refine .inr ⟨index, later, step ▸ there, ?_⟩
      rw [step, rests.session, stage]
      exact bound
  · intro index task there lingers
    rw [step] at there
    rcases rests.tasks index task there with ⟨old, before, -, stage⟩ | ⟨request, -, rfl⟩
    · rw [← stage] at lingers
      exact (settled.lingering index old before lingers).of_store same
    · cases lingers

/-- Once a reload has dropped what the store held, a list is on its way there. -/
theorem Known.settled_of_drops (known : story.Known now)
    (there : (story.after now).tasks[index]? = some task)
    (advances : story.after (now + 1) = (story.after now).advance index task)
    (drops : task.stage.drops)
    (undisturbed : ∀ rival ∈ (story.after now).tasks, rival.stage.lingers = false)
    {names : List String} : story.Settled (now + 1) names := by
  have bound : (task.next (story.after now).scene).2.Bound (story.after (now + 1)).scene.session :=
    known.bound_of_drops there drops
  constructor
  · refine .inr ⟨index, { task with stage := (task.next (story.after now).scene).2 }, ?_, bound⟩
    rw [advances]
    exact Traffic.getElem?_advance_self there
  · intro other rival later lingers
    rw [advances] at later
    rcases Traffic.getElem?_advance later with ⟨rfl, rfl⟩ | ⟨-, before⟩
    · rw [Stage.not_lingers_of_bound bound] at lingers
      cases lingers
    · rw [undisturbed rival (List.mem_of_getElem? before)] at lingers
      cases lingers

/-! ## The course of a reload -/

/-- A reload has not dropped anything yet, or was refused, or what it leaves in the store is
settled. -/
def Pending (story : Story) (now caller : Nat) (names : List String) : Prop :=
  (∃ task, (story.after now).tasks[caller]? = some task ∧
    (task.stage.undropped ∨ task.stage = .done (.reloaded (.error .notConfigured)))) ∨
      story.Settled now names

theorem Plain.keyOf_eq (plain : story.Plain) (inside : now ≤ story.events.length) :
    (story.after now).scene.session.keyOf (story.after now).scene.world.host story.path =
      .ok story.key := by
  rw [Session.keyOf, (plain.known inside).profile, plain.fixed]
  exact scriptKey_fixed _ _ _ 0

/-- A reload that has not dropped anything yet comes to do so, unless it is refused. -/
theorem Plain.undropped_next (plain : story.Plain) (inside : now ≤ story.events.length)
    (there : (story.after now).tasks[index]? = some task)
    (asked : task.request.kind? = some .reload)
    (loads : ∀ errand, task.stage.errand? = some errand → errand.kind = .reload)
    (undropped : task.stage.undropped) :
    task.stage.drops ∨ (task.next (story.after now).scene).2.undropped ∨
      (task.next (story.after now).scene).2 = .done (.reloaded (.error .notConfigured)) := by
  have works := (plain.known inside).works index task there
  have step := task.move_or_act (story.after now).scene
  generalize task.next (story.after now).scene = result at step ⊢
  obtain ⟨scene, next⟩ := result
  cases stage : task.stage <;> rw [stage] at undropped <;> cases undropped
  · rw [stage] at step
    rcases step with move | act
    · cases move
    · cases act with
      | begun => exact .inr (.inl rfl)
      | refused begins =>
          cases asked.symm.trans begins
          exact .inr (.inr rfl)
      | repointed points =>
          rw [Request.target_of_kind (by rw [asked]; rfl)] at points
          cases points
      | listed runs | unlisted runs =>
          rw [runs] at asked
          cases asked
      | ended calls => cases calls
  · next errand =>
      rw [stage] at step works loads
      rcases step with move | act
      · cases move with
        | keyed =>
            refine .inr (.inl ?_)
            rw [loads errand rfl]
            rfl
        | keyless failed =>
            rw [works errand rfl, plain.keyOf_eq inside] at failed
            cases failed
      · cases act with
        | begun begins | refused begins => cases begins
        | ended calls => cases calls
  · exact .inl rfl

/-- A reload stays on course through every event, if nobody who lingers is robbed of what it has
stored. -/
theorem Pending.succ {caller : Nat} (pending : story.Pending now caller report.names)
    (plain : story.Plain) (inside : now < story.events.length)
    (current : story.Current now (.ok report)) (still : story.found now = .ok report)
    (heeding : story.Heeding .reload first now caller task)
    (undisturbed : ∀ (index : Nat) (task : Task), story.events[now]? = some (.go index) →
      (story.after now).tasks[index]? = some task → task.stage.drops →
        ∀ rival ∈ (story.after now).tasks, rival.stage.lingers = false) :
    story.Pending (now + 1) caller report.names := by
  have step := story.after_succ inside
  have known := plain.known (Nat.le_of_lt inside)
  rcases (story.after now).rests_or_advances story.events[now] with
    rests | ⟨index, mover, goes, there, advances⟩
  · rcases pending with ⟨task, before, early⟩ | settled
    · obtain ⟨later, there, stage⟩ := rests.kept caller task before
      exact .inl ⟨later, step ▸ there, stage ▸ early⟩
    · exact .inr (settled.rests inside rests)
  · have advances := step.trans advances
    have quiet := undisturbed index mover (by rw [List.getElem?_eq_getElem inside, goes]) there
    rcases pending with ⟨old, before, early⟩ | settled
    · by_cases same : index = caller
      · subst same
        obtain rfl : mover = old := Option.some.inj (there.symm.trans before)
        obtain rfl : mover = task := Option.some.inj (there.symm.trans heeding.there)
        have moved : (story.after (now + 1)).tasks[index]? =
            some { mover with stage := (mover.next (story.after now).scene).2 } := by
          rw [advances]
          exact Traffic.getElem?_advance_self there
        rcases early with undropped | refused
        · rcases plain.undropped_next (Nat.le_of_lt inside) there heeding.asked heeding.loads
            undropped with drops | undropped | refused
          · exact .inr (known.settled_of_drops there advances drops (quiet drops))
          · exact .inl ⟨_, moved, .inl undropped⟩
          · exact .inl ⟨_, moved, .inr refused⟩
        · refine .inl ⟨_, moved, .inr ?_⟩
          show (mover.next (story.after now).scene).2 = _
          rw [Task.next, refused]
      · refine .inl ⟨old, ?_, early⟩
        rw [advances]
        exact (Traffic.getElem?_advance_of_ne same).trans before
    · exact .inr (settled.advance ⟨plain, inside, current, still, there, advances⟩ quiet)

theorem Plain.found_eq (plain : story.Plain) (inside : now ≤ story.events.length)
    (order : first ≤ now) (unedited : story.Unedited first now) :
    story.found now = story.found first := by
  rw [found, plain.serves.host_eq inside order unedited, found]

theorem Unedited.mono (unedited : story.Unedited first last) (order : now ≤ last) :
    story.Unedited first now :=
  fun moment host since before => unedited moment host since (Nat.lt_of_lt_of_le before order)

/-- As long as the script is left alone, what loads bring stays what is in it. -/
theorem Current.run (current : story.Current first (story.found first)) (plain : story.Plain)
    (order : first ≤ now) (inside : now ≤ story.events.length)
    (unedited : story.Unedited first now) : story.Current now (story.found first) := by
  induction order with
  | refl => exact current
  | @step now order ih =>
      have earlier := Nat.le_of_succ_le inside
      have before := unedited.mono (Nat.le_succ now)
      exact (ih earlier before).succ (plain.known earlier) inside
        (plain.found_eq earlier order before)

/-- A reload that begins when all others bring what the script holds stays on course, until
something outside is changed or something is dropped while somebody lingers. -/
theorem Plain.pending {caller : Nat} (plain : story.Plain)
    (heeding : story.Heeding .reload first first caller task) (begins : task.stage = .start)
    (drawn : story.found first = .ok report) (current : story.Current first (story.found first))
    (order : first ≤ now) (inside : now ≤ story.events.length) (unedited : story.Unedited first now)
    (undisturbed : story.Undisturbed first now) : story.Pending now caller report.names := by
  induction order with
  | refl => exact .inl ⟨task, heeding.there, .inl (by rw [begins]; rfl)⟩
  | @step now order ih =>
      have earlier := Nat.le_of_succ_le inside
      have before := unedited.mono (Nat.le_succ now)
      have quiet : story.Undisturbed first now := fun moment index task since past =>
        undisturbed moment index task since (Nat.lt_succ_of_lt past)
      obtain ⟨later, heeds⟩ := heeding.run (by decide) plain.steady order earlier
      refine (ih earlier before quiet).succ plain inside ?_ ?_ heeds ?_
      · rw [← drawn]
        exact current.run plain order earlier before
      · rw [plain.found_eq earlier order before, drawn]
      · exact fun index task => undisturbed now index task order (Nat.lt_succ_self now)

end Story

/-- A reload is not lost. Under a key that never changes, over a store in memory that refuses nothing,
a session is asked for loads and nothing else, and the script is left alone from the moment a reload
begins. If every load that has read the script by then, and has yet to store what it found or can be
joined, has found what is in the script now, and if no reload drops the list between the moment a
load that the cache may not answer has stored it and the moment that load can no longer be joined,
then the store holds, once all calls are answered, the names that the reload told of, for the cache
to answer with. -/
theorem reload_stays_in_the_store {story : Story} (plain : story.Plain) {began ended caller : Nat}
    {task finished : Task} {told : Report} (order : began ≤ ended)
    (inside : ended ≤ story.events.length)
    (there : (story.after began).tasks[caller]? = some task) (begins : task.stage = .start)
    (asked : task.request.kind? = some .reload)
    (ends : (story.after ended).tasks[caller]? = some finished)
    (answered : finished.stage = .done (LoadKind.reload.answer (.ok told)))
    (all : ∀ task ∈ (story.after ended).tasks, task.answer?.isSome)
    (unedited : story.Unedited began ended) (current : story.Current began (story.found began))
    (undisturbed : story.Undisturbed began ended) :
    ∃ report, story.found began = .ok report ∧
      LoadKind.reload.answer (.ok report) = LoadKind.reload.answer (.ok told) ∧
      story.scene.session.keyOf (story.host ended) story.path = .ok story.key ∧
      (story.after ended).scene.world.store.get (story.host ended) story.key =
        .ok (some (Json.listText report.names)) ∧
      ((story.after ended).scene.world.names? story.key).1 = some report.names := by
  obtain ⟨report, same, content, drawn, source⟩ :=
    Story.fresh_of_told plain.steady order inside there begins asked (by decide) ends answered
  have found : story.found began = .ok report := by
    rcases source with ⟨moment, since, before, reads⟩ | ⟨now, key, since, before, -,
      ⟨index, lender, ticket, lends, leads, slot, carries⟩, -⟩
    · rw [← plain.found_eq (Nat.le_trans before inside) since (unedited.mono before), Story.found,
        Profile.drawAt, reads]
      exact drawn
    · have brought := current.run plain since (Nat.le_trans before inside) (unedited.mono before)
        index lender _ lends (Profile.brings_of_carried carries leads (by rw [slot]))
      rw [← brought, drawn]
  have heeding : story.Heeding .reload began began caller task := by
    refine ⟨there, asked, ?_, ?_⟩
    · rw [begins]
      intro errand named
      cases named
    · rw [begins]
      trivial
  have holds : story.Holds ended report.names := by
    rcases plain.pending heeding begins found current order inside unedited undisturbed with
      ⟨old, before, early⟩ | settled
    · obtain rfl : old = finished := Option.some.inj (before.symm.trans ends)
      rw [answered] at early
      rcases early with undropped | refused
      · cases undropped
      · cases refused
    · rcases settled.coming with holds | ⟨index, rival, standing, bound⟩
      · exact holds
      · obtain ⟨answer, done⟩ :=
          Option.isSome_iff_exists.mp (all rival (List.mem_of_getElem? standing))
        rw [Task.stage_of_answered done] at bound
        cases bound
  obtain ⟨entries, store, held⟩ := holds
  have got : (story.after ended).scene.world.store.get (story.host ended) story.key =
      .ok (some (Json.listText report.names)) := by
    rw [store]
    exact congrArg Except.ok held
  obtain ⟨world, told⟩ := World.names?_of_holdsNames (plain.refuses inside)
    ⟨Json.listText report.names, got, Json.strings_listText report.names⟩
  refine ⟨report, found, same, ?_, got, congrArg Prod.fst told⟩
  rw [Session.keyOf, plain.fixed]
  exact scriptKey_fixed _ _ _ 0

/-- A reload begins while another load has the script in hand, drops what is stored, and waits for
that load. -/
def Story.joining : List Event :=
  .ask .reload :: (List.replicate 4 (.go 1) ++ List.replicate 6 (.go 0) ++ List.replicate 2 (.go 1))

/-- A reload begins when another load has stored what it has found, drops that, and is handed it by
the other load, which could still be joined. -/
def Story.dropping : List Event :=
  List.replicate 3 (.go 0) ++ .ask .reload :: (List.replicate 4 (.go 1) ++
    List.replicate 3 (.go 0) ++ List.replicate 2 (.go 1))

/-- What is told of a reload that has ended well. -/
def Stage.summary? : Stage → Option Summary
  | .done (.reloaded (.ok summary)) => some summary
  | _ => none

theorem Stage.eq_of_summary {stage : Stage} {summary : Summary} {report : Report}
    (told : stage.summary? = some summary) (same : report.summary = summary) :
    stage = .done (LoadKind.reload.answer (.ok report)) := by
  subst same
  cases stage with
  | done answer =>
      cases answer with
      | reloaded result =>
          cases result with
          | ok found =>
              cases told
              rfl
          | error error => cases told
      | _ => cases told
  | _ => cases told

namespace Story

variable {story : Story} {first now last : Nat} {content : String} {rest : List Event}

theorem plain_afterReading (loads : ∀ event ∈ rest, event.Loads) :
    (afterReading content rest).Plain where
  steady := steady_afterReading loads
  serves := serves_afterReading loads
  obliging _ _ := rfl
  fixed := rfl

theorem loads_joining : ∀ event ∈ joining, event.Loads := by
  simp [joining, Event.Loads, Request.kind?, or_imp, forall_and]

theorem loads_dropping : ∀ event ∈ dropping, event.Loads := by
  simp [dropping, Event.Loads, Request.kind?, or_imp, forall_and]

theorem unedited_afterReading (loads : ∀ event ∈ rest, ∀ host, event ≠ .edit host) :
    (afterReading content rest).Unedited first last := by
  intro now host _ _ edits
  rcases List.mem_append.mp (List.mem_of_getElem? edits) with taken | later
  · rcases List.mem_cons.mp taken with same | again
    · cases same
    · cases List.eq_of_mem_replicate again
  · exact loads _ later host rfl

theorem found_afterReading (loads : ∀ event ∈ rest, event.Loads)
    (still : ∀ event ∈ rest, ∀ host, event ≠ .edit host)
    (inside : now ≤ (afterReading "function A \x7b\x7d" rest).events.length) :
    (afterReading "function A \x7b\x7d" rest).found now = .ok ⟨["A"], .extracted .structural⟩ := by
  have drawn : (afterReading "function A \x7b\x7d" []).draw (dropMark "function A \x7b\x7d") =
      .ok ⟨["A"], .extracted .structural⟩ := by decide +kernel
  rw [(plain_afterReading loads).found_eq inside (Nat.zero_le now) (unedited_afterReading still)]
  exact (Host.drawAt_withScript _ 5 _).trans drawn

/-- Whether all tasks bring the same can be checked task by task. -/
theorem current_of_all {drawn : Except ExtractionError Report}
    (all : (story.after now).tasks.all fun task =>
      (story.scene.session.profile.brings? task.stage).all fun result => decide (result = drawn)) :
    story.Current now drawn := by
  intro index task result there brings
  have same := List.all_eq_true.mp all task (List.mem_of_getElem? there)
  rw [brings] at same
  exact of_decide_eq_true same

theorem undisturbed_joining :
    (afterReading "function A \x7b\x7d" joining).Undisturbed 7 19 := by
  have apart : ∀ n < 13,
      ((joining.take n).foldl Traffic.next (.reader "function A \x7b\x7d")).tasks.all
          (!·.stage.drops) = true ∨
        ((joining.take n).foldl Traffic.next (.reader "function A \x7b\x7d")).tasks.all
          (!·.stage.lingers) = true := by
    decide +kernel
  intro now index task since before _ there drops rival member
  obtain ⟨n, rfl⟩ := Nat.exists_eq_add_of_le (Nat.le_of_succ_le since)
  rw [after_afterReading] at there member
  rcases apart n (by omega) with nobody | nobody
  · have still := List.all_eq_true.mp nobody task (List.mem_of_getElem? there)
    rw [drops] at still
    cases still
  · simpa using List.all_eq_true.mp nobody rival member

end Story

/-- A reload that joins a load which has the script in hand finds its names in the store. -/
theorem reload_stays_in_the_store_joined :
    ((Story.afterReading "function A \x7b\x7d" Story.joining).after 19).scene.world.store.get
        ((Story.afterReading "function A \x7b\x7d" Story.joining).host 19)
        (Story.afterReading "function A \x7b\x7d" Story.joining).key =
      .ok (some (Json.listText ["A"])) := by
  have still : ∀ event ∈ Story.joining, ∀ host, event ≠ .edit host := by
    simp [Story.joining, or_imp, forall_and]
  have found : (Story.afterReading "function A \x7b\x7d" Story.joining).found 7 =
      .ok ⟨["A"], .extracted .structural⟩ :=
    Story.found_afterReading Story.loads_joining still (by decide)
  have there : ((Story.afterReading "function A \x7b\x7d" Story.joining).after 7).tasks[1]? =
      some (.ofRequest .reload false) := by
    rw [Story.after_afterReading _ _ 1]
    rfl
  have current : (Story.afterReading "function A \x7b\x7d" Story.joining).Current 7
      (.ok ⟨["A"], .extracted .structural⟩) := by
    apply Story.current_of_all
    rw [Story.after_afterReading _ _ 1]
    decide +kernel
  obtain ⟨told, all⟩ : ((Story.joining.take 13).foldl Traffic.next
      (.reader "function A \x7b\x7d")).tasks.map (·.stage.summary?) =
        [none, some (Report.summary ⟨["A"], .extracted .structural⟩)] ∧
      ((Story.joining.take 13).foldl Traffic.next
        (.reader "function A \x7b\x7d")).tasks.all (·.answer?.isSome) := by decide +kernel
  rw [← Story.after_afterReading] at told all
  obtain ⟨finished, ends, summary⟩ := @Traffic.exists_of_map _ _ _ _ told 1 _ rfl
  obtain ⟨report, listed, -, -, got, -⟩ :=
    @reload_stays_in_the_store _ (Story.plain_afterReading Story.loads_joining) 7 19 1
      (.ofRequest .reload false) finished ⟨["A"], .extracted .structural⟩ (by decide) (by decide)
      there rfl rfl ends (Stage.eq_of_summary summary rfl) (List.all_eq_true.mp all)
      (Story.unedited_afterReading still) (found.symm ▸ current) Story.undisturbed_joining
  rw [found] at listed
  cases listed
  exact got

/-- A reload that drops what another load has just stored, and is then handed the same by that load,
leaves nothing in the store. -/
theorem reload_dropped_from_the_store :
    ¬ ∀ (story : Story) (began ended caller : Nat) (task finished : Task) (told : Report),
      story.Plain → began ≤ ended → ended ≤ story.events.length →
        (story.after began).tasks[caller]? = some task → task.stage = .start →
          task.request.kind? = some .reload →
            (story.after ended).tasks[caller]? = some finished →
              finished.stage = .done (LoadKind.reload.answer (.ok told)) →
                (∀ task ∈ (story.after ended).tasks, task.answer?.isSome) →
                  story.Unedited began ended → story.Current began (story.found began) →
                    ∃ report, story.found began = .ok report ∧
                      (story.after ended).scene.world.store.get (story.host ended) story.key =
                        .ok (some (Json.listText report.names)) := by
  intro claim
  have still : ∀ event ∈ Story.dropping, ∀ host, event ≠ .edit host := by
    simp [Story.dropping, or_imp, forall_and]
  have found : (Story.afterReading "function A \x7b\x7d" Story.dropping).found 10 =
      .ok ⟨["A"], .extracted .structural⟩ :=
    Story.found_afterReading Story.loads_dropping still (by decide)
  have there : ((Story.afterReading "function A \x7b\x7d" Story.dropping).after 10).tasks[1]? =
      some (.ofRequest .reload false) := by
    rw [Story.after_afterReading _ _ 4]
    rfl
  have current : (Story.afterReading "function A \x7b\x7d" Story.dropping).Current 10
      (.ok ⟨["A"], .extracted .structural⟩) := by
    apply Story.current_of_all
    rw [Story.after_afterReading _ _ 4]
    decide +kernel
  obtain ⟨told, all⟩ : ((Story.dropping.take 13).foldl Traffic.next
      (.reader "function A \x7b\x7d")).tasks.map (·.stage.summary?) =
        [none, some (Report.summary ⟨["A"], .extracted .structural⟩)] ∧
      ((Story.dropping.take 13).foldl Traffic.next
        (.reader "function A \x7b\x7d")).tasks.all (·.answer?.isSome) := by decide +kernel
  have empty : ((Story.dropping.take 13).foldl Traffic.next
      (.reader "function A \x7b\x7d")).scene.world.store.get
        ((Story.dropping.take 13).foldl Traffic.next
          (.reader "function A \x7b\x7d")).scene.world.host
        (Story.afterReading "function A \x7b\x7d" Story.dropping).key = .ok none := by
    decide +kernel
  rw [← Story.after_afterReading] at told all empty
  obtain ⟨finished, ends, summary⟩ := @Traffic.exists_of_map _ _ _ _ told 1 _ rfl
  obtain ⟨report, -, got⟩ := claim _ 10 19 1 (.ofRequest .reload false) finished
    ⟨["A"], .extracted .structural⟩ (Story.plain_afterReading Story.loads_dropping) (by decide)
    (by decide) there rfl rfl ends (Stage.eq_of_summary summary rfl) (List.all_eq_true.mp all)
    (Story.unedited_afterReading still) (found.symm ▸ current)
  cases empty.symm.trans got

end ScriptRoster
