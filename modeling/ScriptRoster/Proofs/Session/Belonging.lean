import ScriptRoster.Proofs.Cache.Key
import ScriptRoster.Proofs.Session.Generation
import ScriptRoster.Proofs.Session.Solo

/-!
# Lists belong to their scripts

A list reaches the session in three ways: from the script, from another load of it, or from the
store. On all of them it stays with the path that it was found at: a key tells the path, a promise
is shared under its key, and a load of the present generation works on the script that the session
has. So no order of steps can make a session list, or call, functions of another script.
-/

namespace ScriptRoster

open Cache Files

/-- A list that was found in something read at a path. -/
def Drawn (profile : Profile) (reads : Reads) (path : Path) (names : List String) : Prop :=
  ∃ content, (path, content) ∈ reads ∧ (profile.draw content).map Report.names = .ok names

/-- A load that found nothing but what is in the script at a path. -/
def Finds (profile : Profile) (reads : Reads) (path : Path)
    (result : Except ExtractionError Report) : Prop :=
  ∀ report, result = .ok report → Drawn profile reads path report.names

/-- A key of the script at a path. -/
def Profile.Marks (profile : Profile) (path : Path) (key : String) : Prop :=
  path.IsText ∧ ∃ time, key = keyAt profile.keyPrefix profile.keyMode path time

/-- A list that may be handed out under a key: it was found in the script whose key this is. -/
def Backed (profile : Profile) (reads : Reads) (key : String) (names : List String) : Prop :=
  ∀ path, profile.Marks path key → Drawn profile reads path names

/-- A promise that was made for a slot. -/
def Session.Promised (session : Session) (id : Nat) (slot : Slot) : Prop :=
  ∃ promise, session.promises[id]? = some promise ∧ promise.slot = slot

/-- A ticket for the script at a path. -/
structure Ticket.Valid (profile : Profile) (session : Session) (path : Path) (ticket : Ticket) :
    Prop where
  marks : profile.Marks path ticket.slot.key
  promised : session.Promised ticket.promise ticket.slot

/-- What the store and the promises hand out under a key was found in the script whose key it is. -/
structure Scene.Sound (profile : Profile) (reads : Reads) (scene : Scene) : Prop where
  works : scene.session.profile = profile
  stock : ∀ key names, scene.world.HoldsNames key names → Backed profile reads key names
  kept : ∀ (id : Nat) promise report, scene.session.promises[id]? = some promise →
    promise.result? = some (.ok report) → Backed profile reads promise.slot.key report.names
  flying : ∀ slot id, (slot, id) ∈ scene.session.inFlight → scene.session.Promised id slot

/-- What a task has in hand at a stage was found at the path that it works on. -/
def Stage.Sound (profile : Profile) (reads : Reads) (session : Session) : Stage → Prop
  | .settle _ _ _ found => ∀ location, found = .ok location → location.resolved.IsText
  | .makeKey errand => errand.path.IsText
  | .lookUp errand key | .drop errand key | .join errand key => profile.Marks errand.path key
  | .await errand ticket | .lookAgain errand ticket => ticket.Valid profile session errand.path
  | .read errand ticket => ∀ held, ticket = some held → held.Valid profile session errand.path
  | .callSource errand ticket content | .extract errand ticket content =>
      (errand.path, content) ∈ reads ∧
        ∀ held, ticket = some held → held.Valid profile session errand.path
  | .keep errand ticket report =>
      ticket.Valid profile session errand.path ∧ Drawn profile reads errand.path report.names
  | .leave errand ticket result | .publish errand ticket result =>
      ticket.Valid profile session errand.path ∧ Finds profile reads errand.path result
  | .finish errand result => Finds profile reads errand.path result
  | .spawn path name => ∃ names, name ∈ names ∧ Drawn profile reads path names
  | _ => True

/-- What a session lists was found at the path of its script. -/
structure Session.Belongs (profile : Profile) (reads : Reads) (session : Session) : Prop where
  text : ∀ location, session.path = .ready location → location.resolved.IsText
  listed : session.names = [] ∨
    ∃ location, session.path = .ready location ∧
      Drawn profile reads location.resolved session.names

section Steps

variable {profile : Profile} {reads later : Reads} {path : Path} {key : String}
  {names : List String} {session after : Session} {scene there : Scene} {stage next : Stage}
  {ticket : Ticket} {errand : Errand} {result : Except ExtractionError Report}

/-! ## What is read stays read -/

theorem Drawn.mono (drawn : Drawn profile reads path names) (h : reads ⊆ later) :
    Drawn profile later path names := by
  obtain ⟨content, read, found⟩ := drawn
  exact ⟨content, h read, found⟩

theorem Finds.mono (finds : Finds profile reads path result) (h : reads ⊆ later) :
    Finds profile later path result := fun report ok => (finds report ok).mono h

theorem Backed.mono (backed : Backed profile reads key names) (h : reads ⊆ later) :
    Backed profile later key names := fun path marks => (backed path marks).mono h

theorem Scene.Sound.mono (sound : scene.Sound profile reads) (h : reads ⊆ later) :
    scene.Sound profile later where
  works := sound.works
  stock key names held := (sound.stock key names held).mono h
  kept id promise report found ok := (sound.kept id promise report found ok).mono h
  flying := sound.flying

theorem Session.Belongs.mono (belongs : session.Belongs profile reads) (h : reads ⊆ later) :
    session.Belongs profile later where
  text := belongs.text
  listed := by
    rcases belongs.listed with none | ⟨location, ready, drawn⟩
    · exact .inl none
    · exact .inr ⟨location, ready, drawn.mono h⟩

/-- What a task has in hand stays sound while more is read and promised. -/
theorem Stage.Sound.mono (sound : stage.Sound profile reads session) (h : reads ⊆ later)
    (promised : ∀ id slot, session.Promised id slot → after.Promised id slot) :
    stage.Sound profile later after := by
  have valid : ∀ {path} {ticket : Ticket}, ticket.Valid profile session path →
      ticket.Valid profile after path :=
    fun valid => ⟨valid.marks, promised _ _ valid.promised⟩
  cases stage with
  | start | resolve | startLoad | watch | conclude | done => trivial
  | settle | makeKey | lookUp | drop | join => exact sound
  | await | lookAgain => exact valid sound
  | read => exact fun held same => valid (sound held same)
  | callSource | extract => exact ⟨h sound.1, fun held same => valid (sound.2 held same)⟩
  | keep => exact ⟨valid sound.1, sound.2.mono h⟩
  | leave | publish => exact ⟨valid sound.1, sound.2.mono h⟩
  | finish => exact Finds.mono sound h
  | spawn =>
      obtain ⟨names, listed, drawn⟩ := sound
      exact ⟨names, listed, drawn.mono h⟩

/-! ## Keys and promises -/

/-- The key that a session makes for a path is one of the script there. -/
theorem marks_of_keyOf {host : Host} (same : session.profile = profile) (text : path.IsText)
    (made : session.keyOf host path = .ok key) : profile.Marks path key := by
  rw [Session.keyOf, same] at made
  exact ⟨text, exists_keyAt_of_scriptKey made⟩

/-- A list that was found in a script may be handed out under any key of the script. -/
theorem Drawn.backed (drawn : Drawn profile reads path names) (marks : profile.Marks path key) :
    Backed profile reads key names := by
  rintro other ⟨otherText, moment, same⟩
  obtain ⟨text, time, rfl⟩ := marks
  obtain rfl : other = path := (keyAt_inj text otherText same).symm
  exact drawn

/-- As long as session and promises stay as they are, only what comes into the store counts. -/
theorem Scene.Sound.of_stock (sound : scene.Sound profile reads)
    (works : there.session.profile = scene.session.profile)
    (promises : there.session.promises = scene.session.promises)
    (inFlight : there.session.inFlight = scene.session.inFlight)
    (stock : ∀ key names, there.world.HoldsNames key names → Backed profile reads key names) :
    there.Sound profile reads where
  works := works.trans sound.works
  stock := stock
  kept := by
    rw [promises]
    exact sound.kept
  flying := by
    intro slot id flying
    rw [inFlight] at flying
    rw [Session.Promised, promises]
    exact sound.flying slot id flying

theorem Scene.Sound.of_sameStock (sound : scene.Sound profile reads) {world : World}
    (same : World.SameStock scene.world world) :
    Scene.Sound profile reads ⟨scene.session, world⟩ :=
  sound.of_stock rfl rfl rfl fun key names held =>
    sound.stock key names (same.holdsNames_iff.mp held)

theorem Session.Promised.promising {id : Nat} {slot : Slot} (promised : session.Promised id slot)
    (other : Slot) : (session.promising other).Promised id slot := by
  obtain ⟨promise, found, same⟩ := promised
  refine ⟨promise, ?_, same⟩
  have inside := (List.getElem?_eq_some_iff.mp found).1
  rw [Session.promising, List.getElem?_append_left inside, found]

theorem Session.promised_promising (session : Session) (slot : Slot) :
    (session.promising slot).Promised session.promises.length slot :=
  ⟨⟨slot, false, none⟩, List.getElem?_concat_length, rfl⟩

/-- A promise that is found after one was put in flight was there before, or is the new one. -/
theorem Session.exists_before_promising {session : Session} {slot : Slot} {id : Nat}
    {promise : Promise} (found : (session.promising slot).promises[id]? = some promise) :
    session.promises[id]? = some promise ∨
      id = session.promises.length ∧ promise = ⟨slot, false, none⟩ := by
  rw [promising, List.getElem?_append] at found
  split at found
  · exact .inl found
  · next outside =>
      rw [List.getElem?_singleton] at found
      split at found
      · exact .inr ⟨by omega, (Option.some.inj found).symm⟩
      · cases found

/-- A promise that is put in flight is sound: nothing is handed out under it yet. -/
theorem Scene.Sound.promising (sound : scene.Sound profile reads) (slot : Slot) :
    Scene.Sound profile reads ⟨scene.session.promising slot, scene.world⟩ where
  works := sound.works
  stock := sound.stock
  kept id promise report found ok := by
    rcases Session.exists_before_promising found with before | ⟨-, rfl⟩
    · exact sound.kept id promise report before ok
    · cases ok
  flying other id flying := by
    rcases List.mem_cons.mp flying with same | earlier
    · cases same
      exact scene.session.promised_promising slot
    · exact (sound.flying other id earlier).promising slot

theorem Session.Promised.withPromise {id : Nat} {slot : Slot} (promised : session.Promised id slot)
    (promise : Promise) (there : session.Promised ticket.promise promise.slot) :
    (session.withPromise ticket promise).Promised id slot := by
  obtain ⟨old, found, same⟩ := promised
  obtain ⟨before, present, slots⟩ := there
  by_cases here : id = ticket.promise
  · subst here
    obtain rfl : before = old := Option.some.inj (present.symm.trans found)
    refine ⟨promise, ?_, slots.symm.trans same⟩
    have inside := (List.getElem?_eq_some_iff.mp found).1
    rw [Session.withPromise, List.getElem?_set_self inside]
  · refine ⟨old, ?_, same⟩
    rw [Session.withPromise, List.getElem?_set_ne (Ne.symm here), found]

theorem Session.Promised.slot_eq {id : Nat} {slot : Slot} {promise : Promise}
    (promised : session.Promised id slot) (there : session.promises[id]? = some promise) :
    promise.slot = slot := by
  obtain ⟨other, found, same⟩ := promised
  rw [← same, Option.some.inj (found.symm.trans there)]

theorem Ticket.Valid.withPromise (valid : ticket.Valid profile session path) (promise : Promise)
    (same : promise.slot = ticket.slot) :
    ticket.Valid profile (session.withPromise ticket promise) path where
  marks := valid.marks
  promised := valid.promised.withPromise promise (by rw [same]; exact valid.promised)

theorem Ticket.Valid.held (valid : ticket.Valid profile session path) :
    ∀ held, some ticket = some held → held.Valid profile session path := by
  rintro held ⟨⟩
  exact valid

/-- A promise may be taken on, or kept with what was found in the script. -/
theorem Scene.Sound.withPromise (sound : scene.Sound profile reads) {promise : Promise}
    (there : scene.session.Promised ticket.promise promise.slot)
    (backed : ∀ report, promise.result? = some (.ok report) →
      Backed profile reads promise.slot.key report.names) :
    Scene.Sound profile reads ⟨scene.session.withPromise ticket promise, scene.world⟩ where
  works := sound.works
  stock := sound.stock
  kept id other report found ok := by
    rw [Session.withPromise, List.getElem?_set] at found
    split at found
    · split at found
      · cases found
        exact backed report ok
      · cases found
    · exact sound.kept id other report found ok
  flying slot id flying := (sound.flying slot id flying).withPromise promise there

/-- What a step leaves: a sound scene, something sound in hand, and all promises. -/
structure Passes (profile : Profile) (reads : Reads) (scene there : Scene) (next : Stage) :
    Prop where
  sound : there.Sound profile reads
  stage : next.Sound profile reads there.session
  promised : ∀ id slot, scene.session.Promised id slot → there.session.Promised id slot

/-- A load that has made the key of its script has nothing else in hand yet. -/
theorem Stage.sound_keyed (marks : profile.Marks errand.path key) :
    (errand.keyed key).Sound profile reads session := by
  unfold Errand.keyed
  cases errand.kind <;> exact marks

/-- What was extracted at the path that a task works on is sound in its hand. -/
theorem Stage.sound_extracted {ticket : Option Ticket}
    (valid : ∀ held, ticket = some held → held.Valid profile session errand.path)
    (finds : Finds profile reads errand.path result) :
    (Scene.extracted errand ticket result).Sound profile reads session := by
  cases ticket with
  | none => exact finds
  | some held =>
      cases result with
      | ok report => exact ⟨valid held rfl, finds report rfl⟩
      | error error => exact ⟨valid held rfl, finds⟩

theorem Finds.error {error : ExtractionError} : Finds profile reads path (.error error) := nofun

theorem Drawn.finds {origin : Origin} (drawn : Drawn profile reads path names) :
    Finds profile reads path (.ok ⟨names, origin⟩) := by
  rintro report same
  cases same
  exact drawn

theorem Finds.of_draw {content : String} (read : (path, content) ∈ reads) :
    Finds profile reads path (profile.draw content) := by
  intro report ok
  exact ⟨content, read, by rw [ok]; rfl⟩

/-! ## Where a list comes from -/

/-- What the store holds under a key of a script was found in the script. -/
theorem Scene.Sound.finds_of_names? (sound : scene.Sound profile reads) {world : World}
    (found : scene.world.names? key = (some names, world)) (marks : profile.Marks path key) :
    Finds profile reads path (.ok ⟨names, .cache⟩) :=
  (sound.stock _ _ (World.holdsNames_of_names? found) _ marks).finds

/-- What another load has left in a promise for a script was found in the script. -/
theorem Scene.Sound.finds_of_kept (sound : scene.Sound profile reads)
    (valid : ticket.Valid profile scene.session path) {slot : Slot} {led : Bool}
    (kept : scene.session.promises[ticket.promise]? = some ⟨slot, led, some result⟩) :
    Finds profile reads path result := by
  rintro report rfl
  have backed := sound.kept _ _ report kept rfl
  rw [valid.promised.slot_eq kept] at backed
  exact backed _ valid.marks

/-- A store from which a key is dropped hands out nothing new. -/
theorem Scene.Sound.forgetting (sound : scene.Sound profile reads) {world : World}
    (aside : World.Unasked (scene.world.forget key).2 world) :
    Scene.Sound profile reads ⟨scene.session, world⟩ := by
  refine sound.of_stock rfl rfl rfl fun other names held => ?_
  exact sound.stock other names (World.holdsNames_of_forget (aside.holdsNames_iff.mp held))

/-- A list may be kept under a key if it may be handed out under it. -/
theorem Scene.Sound.keeping (sound : scene.Sound profile reads) {world : World}
    (backed : Backed profile reads key names)
    (aside : World.Unasked (scene.world.keep key names).2 world) :
    Scene.Sound profile reads ⟨scene.session, world⟩ := by
  refine sound.of_stock rfl rfl rfl fun other listed held => ?_
  rcases World.holdsNames_of_keep (aside.holdsNames_iff.mp held) with ⟨rfl, rfl⟩ | earlier
  · exact backed
  · exact sound.stock other listed earlier

theorem Scene.Sound.landing (sound : scene.Sound profile reads) (ticket : Ticket) :
    Scene.Sound profile reads ⟨scene.session.landing ticket, scene.world⟩ where
  works := sound.works
  stock := sound.stock
  kept := sound.kept
  flying slot id flying := sound.flying slot id (List.mem_filter.mp flying).1

/-- A load that moves on stays sound, wherever it takes its list from. -/
theorem Move.sound (move : Move scene stage there next) (sound : scene.Sound profile reads)
    (standing : stage.Sound profile reads scene.session)
    (heard : ∀ errand ticket content, stage = .read errand ticket →
      readScript scene.world.host.files scene.world.host.cwd errand.path = .ok content →
        (errand.path, content) ∈ reads) :
    Passes profile reads scene there next := by
  have still : ∀ id slot, scene.session.Promised id slot → scene.session.Promised id slot :=
    fun _ _ promised => promised
  cases move with
  | keyed made =>
      exact ⟨sound, Stage.sound_keyed (marks_of_keyOf sound.works standing made), still⟩
  | keyless _ aside => exact ⟨sound.of_sameStock aside.toSameStock, nofun, still⟩
  | hit found =>
      refine ⟨sound.of_sameStock (World.sameStock_of_names? found), ?_, still⟩
      exact sound.finds_of_names? found standing
  | missed miss => exact ⟨sound.of_sameStock (World.sameStock_of_names? miss), standing, still⟩
  | dropped aside => exact ⟨sound.forgetting aside, standing, still⟩
  | joined there =>
      obtain ⟨front, back, split, -⟩ := List.lookup_eq_some_iff.mp there
      refine ⟨sound, ⟨standing, sound.flying _ _ ?_⟩, still⟩
      rw [split]
      exact List.mem_append_right front List.mem_cons_self
  | promised =>
      exact ⟨sound.promising _, ⟨standing, scene.session.promised_promising _⟩,
        fun _ _ promised => promised.promising _⟩
  | handed kept => exact ⟨sound, sound.finds_of_kept standing kept, still⟩
  | @led errand ticket slot free =>
      obtain rfl : slot = ticket.slot := standing.promised.slot_eq free
      have valid := standing.withPromise ⟨ticket.slot, true, none⟩ rfl
      refine ⟨sound.withPromise standing.promised (fun _ => nofun), ?_, ?_⟩
      · split
        · exact valid
        · exact valid.held
      · exact fun _ _ promised => promised.withPromise _ standing.promised
  | waited => exact ⟨sound, standing, still⟩
  | lateHit found aside =>
      have same := World.sameStock_of_names? found
      refine ⟨?_, ⟨standing, sound.finds_of_names? found standing.marks⟩, still⟩
      exact (sound.of_sameStock same).of_sameStock aside.toSameStock
  | missedAgain miss =>
      exact ⟨sound.of_sameStock (World.sameStock_of_names? miss), standing.held, still⟩
  | opened read => exact ⟨sound, ⟨heard _ _ _ rfl read, standing⟩, still⟩
  | unreadable => exact ⟨sound, Stage.sound_extracted standing .error, still⟩
  | called aside => exact ⟨sound.of_sameStock aside.toSameStock, standing, still⟩
  | drawn aside =>
      refine ⟨sound.of_sameStock aside.toSameStock, ?_, still⟩
      rw [sound.works]
      exact Stage.sound_extracted standing.2 (.of_draw standing.1)
  | stored aside =>
      obtain ⟨valid, drawn⟩ := standing
      exact ⟨sound.keeping (drawn.backed valid.marks) aside, ⟨valid, drawn.finds⟩, still⟩
  | left =>
      obtain ⟨valid, finds⟩ := standing
      exact ⟨sound.landing _, ⟨⟨valid.marks, valid.promised⟩, finds⟩, still⟩
  | published =>
      obtain ⟨valid, finds⟩ := standing
      refine ⟨sound.withPromise valid.promised ?_, finds, ?_⟩
      · rintro report same
        cases same
        exact (finds report rfl).backed valid.marks
      · exact fun _ _ promised => promised.withPromise _ valid.promised

/-- A step that asks nothing of the store leaves a sound scene. -/
theorem Passes.of_aside (sound : scene.Sound profile reads) {world : World}
    (aside : World.Unasked scene.world world) (works : after.profile = scene.session.profile)
    (promises : after.promises = scene.session.promises)
    (inFlight : after.inFlight = scene.session.inFlight) (stage : next.Sound profile reads after) :
    Passes profile reads scene ⟨after, world⟩ next where
  sound := sound.of_stock works promises inFlight fun key names held =>
    sound.stock key names (aside.holdsNames_iff.mp held)
  stage := stage
  promised id slot promised := by
    rw [Session.Promised, promises]
    exact promised

/-- A step that changes the host leaves a sound scene if it puts no names into the folder of the
store. -/
theorem Passes.of_spared (sound : scene.Sound profile reads) {world : World}
    (store : world.store = scene.world.store) (spares : World.Spares scene.world world)
    (stage : next.Sound profile reads scene.session) :
    Passes profile reads scene ⟨scene.session, world⟩ next where
  sound := sound.of_stock rfl rfl rfl fun key names held =>
    sound.stock key names (spares.holdsNames store held)
  stage := stage
  promised _ _ promised := promised

theorem Stage.sound_configured (next : Option LoadKind) (result : Except SessionError Location) :
    (Scene.configured next result).Sound profile reads session := by
  cases next with
  | none => trivial
  | some kind => cases result <;> trivial

/-- A function that is called was found in the script that the session has. -/
theorem Session.Belongs.drawn (belongs : session.Belongs profile reads) {location : Location}
    {name listed : String} (ready : session.path = .ready location)
    (found : session.listed? name = some listed) :
    ∃ names, listed ∈ names ∧ Drawn profile reads location.resolved names := by
  have member : listed ∈ session.names := List.mem_of_find?_eq_some found
  rcases belongs.listed with none | ⟨other, readyToo, drawn⟩
  · rw [none] at member
    cases member
  · obtain rfl : other = location := PathState.ready.inj (readyToo.symm.trans ready)
    exact ⟨session.names, member, drawn⟩

/-- A step outside of a load stays sound. -/
theorem Act.sound {request : Request} (act : Act request scene stage there next)
    (sound : scene.Sound profile reads) (belongs : scene.session.Belongs profile reads)
    (text : ∀ raw generation following location, stage = .resolve raw generation following →
      Location.resolve scene.world.host raw = .ok location → location.resolved.IsText)
    (spares : stage.calls = true → World.Spares scene.world there.world) :
    Passes profile reads scene there next := by
  have still : Passes profile reads scene scene .start :=
    .of_aside sound (.refl _) rfl rfl rfl trivial
  cases act with
  | repointed _ aside => exact .of_aside sound aside rfl rfl rfl trivial
  | resolved aside =>
      exact .of_aside sound aside rfl rfl rfl fun location found => text _ _ _ _ rfl found
  | located _ aside => exact .of_aside sound aside rfl rfl rfl (Stage.sound_configured _ _)
  | overtaken => exact { still with stage := Stage.sound_configured _ _ }
  | begun _ ready => exact .of_aside sound (.refl _) rfl rfl rfl (belongs.text _ ready)
  | refused | unlisted | rested => exact { still with stage := trivial }
  | recorded _ aside =>
      exact .of_aside sound aside (Session.profile_record _ _) (Session.promises_record _ _)
        (Session.inFlight_record _ _) trivial
  | discarded _ aside => exact .of_aside sound aside rfl rfl rfl trivial
  | listed _ ready found aside =>
      exact .of_aside sound aside rfl rfl rfl (belongs.drawn ready found)
  | spawned store => exact .of_spared sound store (spares rfl) trivial
  | watched store => exact .of_spared sound store (spares rfl) trivial
  | ended calls store => exact .of_spared sound store (spares calls) trivial
  | concluded aside => exact .of_aside sound aside rfl rfl rfl trivial

end Steps

/-- What a step may count on: the canonical path of a script that is found is text, and a function
that is called puts no names into the folder of the store. -/
structure Task.Tame (scene : Scene) (task : Task) : Prop where
  text : ∀ raw generation next location, task.stage = .resolve raw generation next →
    Location.resolve scene.world.host raw = .ok location → location.resolved.IsText
  calls : task.stage.calls = true → World.Spares scene.world (task.next scene).1.world

section Tasks

variable {profile : Profile} {reads : Reads} {request : Request} {before after : Session}
  {scene : Scene} {stage next : Stage} {task : Task}

/-- Every step leaves a sound scene, and something sound in hand. -/
theorem Task.passes_next (sound : scene.Sound profile reads)
    (belongs : scene.session.Belongs profile reads)
    (standing : task.stage.Sound profile reads scene.session) (tame : task.Tame scene)
    (heard : task.readings scene ⊆ reads) :
    Passes profile reads scene (task.next scene).1 (task.next scene).2 := by
  rcases task.move_or_act scene with move | act
  · refine move.sound sound standing ?_
    intro errand ticket content stage read
    apply heard
    simp only [Task.readings, stage, read]
    exact List.mem_singleton_self _
  · exact act.sound sound belongs tame.text tame.calls

/-- A turn leaves the session with a list of its own script. -/
theorem Turn.belongs (turn : Turn request before stage after next) (placed : stage.Placed before)
    (coherent : before.Coherent) (standing : stage.Sound profile reads before)
    (belongs : before.Belongs profile reads) : after.Belongs profile reads := by
  cases turn with
  | calm same =>
      constructor
      · rw [same.path]
        exact belongs.text
      · rw [same.path, same.names]
        exact belongs.listed
  | repointed => exact ⟨fun _ => nofun, .inl rfl⟩
  | @located raw generation following found current =>
      obtain ⟨text, resolving⟩ := (placed.sought _ rfl).2 current.symm
      refine ⟨?_, .inl (coherent.unready (by simp [resolving])).1⟩
      intro location ready
      cases found with
      | ok other =>
          cases ready
          exact standing location rfl
      | error error => cases ready
  | overtaken => exact belongs
  | begun => exact ⟨belongs.text, belongs.listed⟩
  | @recorded errand result current =>
      obtain ⟨location, ready, path⟩ := (placed.errand _ rfl).2 current.symm
      constructor
      · rw [Session.path_record]
        exact belongs.text
      · cases result with
        | ok report =>
            have drawn := standing report rfl
            rw [path] at drawn
            exact .inr ⟨location, ready, drawn⟩
        | error error => exact .inl rfl
  | discarded => exact belongs

end Tasks

/-! ## Runs -/

namespace Traffic

/-- What an event may count on: its step is tame, and changes from outside put no names into the
folder of the store. -/
def May (traffic : Traffic) : Event → Prop
  | .go index => ∀ task, traffic.tasks[index]? = some task → task.Tame traffic.scene
  | .edit host => World.Spares traffic.scene.world { traffic.scene.world with host }
  | _ => True

/-- What holds of a session and its tasks in every order of steps: there is order, and every list,
in the store, in a promise, in the hands of a task or of the session, is with the script that it was
found in. -/
structure Sound (profile : Profile) (traffic : Traffic) : Prop where
  orderly : traffic.Orderly
  scene : traffic.scene.Sound profile traffic.reads
  belongs : traffic.scene.session.Belongs profile traffic.reads
  stages : ∀ (index : Nat) (task : Task), traffic.tasks[index]? = some task →
    task.stage.Sound profile traffic.reads traffic.scene.session

variable {profile : Profile} {traffic : Traffic}

theorem sound_quiet (profile : Profile) {world : World}
    (empty : ∀ key names, ¬ world.HoldsNames key names) :
    (quiet ⟨.start profile, world⟩).Sound profile where
  orderly := orderly_quiet (Session.coherent_start profile)
  scene :=
    { works := rfl
      stock := fun key names held => absurd held (empty key names)
      kept := fun id promise report there => by
        rw [quiet, Session.start, List.getElem?_nil] at there
        cases there
      flying := fun slot id flying => absurd flying List.not_mem_nil }
  belongs := ⟨fun _ => nofun, .inl rfl⟩
  stages index task there := by
    rw [quiet, List.getElem?_nil] at there
    cases there

/-- A tame step of a task hands on only what belongs to its script. -/
theorem Sound.advance (sound : traffic.Sound profile) {index : Nat} {task : Task}
    (there : traffic.tasks[index]? = some task) (tame : task.Tame traffic.scene) :
    (traffic.advance index task).Sound profile := by
  have grown : traffic.reads ⊆ traffic.reads ++ task.readings traffic.scene :=
    List.subset_append_left _ _
  have belongs := sound.belongs.mono grown
  have standing := (sound.stages index task there).mono grown fun _ _ promised => promised
  have passes := Task.passes_next (sound.scene.mono grown) belongs standing tame
    (List.subset_append_right _ _)
  constructor
  · exact sound.orderly.advance there
  · exact passes.sound
  · exact (task.turn_next traffic.scene).belongs (sound.orderly.placed index task there)
      sound.orderly.coherent standing belongs
  · intro other later found
    rcases getElem?_advance found with ⟨rfl, rfl⟩ | ⟨-, before⟩
    · exact passes.stage
    · exact (sound.stages other later before).mono grown passes.promised

theorem Sound.rests (sound : traffic.Sound profile) {event : Event} (rests : traffic.Rests event)
    (spares : World.Spares traffic.scene.world (traffic.next event).scene.world) :
    (traffic.next event).Sound profile := by
  constructor
  · exact sound.orderly.rests rests
  · rw [rests.reads]
    refine sound.scene.of_stock ?_ ?_ ?_ fun key names held =>
      sound.scene.stock key names (spares.holdsNames rests.store held)
    · rw [rests.session]
    · rw [rests.session]
    · rw [rests.session]
  · rw [rests.session, rests.reads]
    exact sound.belongs
  · intro index task there
    rw [rests.session, rests.reads]
    rcases rests.tasks index task there with ⟨old, before, -, same⟩ | ⟨request, -, rfl⟩
    · rw [← same]
      exact sound.stages index old before
    · trivial

/-- Whatever may happen, each list stays with its script. -/
theorem Sound.next (sound : traffic.Sound profile) {event : Event} (may : traffic.May event) :
    (traffic.next event).Sound profile := by
  cases event with
  | ask request => exact sound.rests (traffic.rests_ask request) fun _ _ _ _ held => held
  | cancel index => exact sound.rests (traffic.rests_cancel index) fun _ _ _ _ held => held
  | edit host => exact sound.rests (traffic.rests_edit host) may
  | go index =>
      cases there : traffic.tasks[index]? with
      | some task =>
          rw [next_go there]
          exact sound.advance there (may task there)
      | none =>
          have same : traffic.next (.go index) = traffic := next_go_none there
          rw [same]
          exact sound

end Traffic

/-! ## Tasks that only load -/

/-- Whether a task at a stage neither looks for a path nor calls a function any more. -/
def Stage.isPlain : Stage → Bool
  | .start | .resolve .. | .spawn .. | .watch .. => false
  | _ => true

section Plain

variable {scene : Scene} {task : Task} {traffic : Traffic}

theorem Stage.isPlain_of_errand {stage : Stage} {errand : Errand}
    (loads : stage.errand? = some errand) : stage.isPlain = true := by
  cases stage <;> first | rfl | cases loads

theorem Stage.isPlain_configured (next : Option LoadKind) (result : Except SessionError Location) :
    (Scene.configured next result).isPlain = true := by
  cases next with
  | none => rfl
  | some kind => cases result <;> rfl

/-- A step of a load is always tame. -/
theorem Task.tame_of_isPlain (plain : task.stage.isPlain = true) : task.Tame scene := by
  have calls : task.stage.calls = false := by
    cases stage : task.stage with
    | spawn | watch =>
        rw [stage] at plain
        cases plain
    | _ => rfl
  constructor
  · intro raw generation next location resolves
    rw [resolves] at plain
    cases plain
  · intro called
    rw [calls] at called
    cases called

theorem Act.isPlain {request : Request} {there : Scene} {stage next : Stage}
    (act : Act request scene stage there next) (plain : stage.isPlain = true) :
    next.isPlain = true := by
  cases act with
  | located | overtaken => exact Stage.isPlain_configured _ _
  | repointed | resolved | listed | unlisted | spawned | watched => cases plain
  | begun | refused | recorded | discarded | ended | concluded | rested => rfl

/-- A task that only loads keeps to that. -/
theorem Task.isPlain_next (plain : task.stage.isPlain = true) :
    (task.next scene).2.isPlain = true := by
  rcases task.move_or_act scene with move | act
  · obtain ⟨errand, -, loads⟩ := move.exists_errand
    exact Stage.isPlain_of_errand loads
  · exact act.isPlain plain

/-- A task that only loads may always go on. -/
theorem Traffic.along_go (index : Nat) (n : Nat)
    (plain : ∀ task, traffic.tasks[index]? = some task → task.stage.isPlain = true) :
    Along Traffic.next Traffic.May traffic (List.replicate n (.go index)) := by
  induction n generalizing traffic with
  | zero => trivial
  | succ n ih =>
      refine ⟨fun task there => Task.tame_of_isPlain (plain task there), ih ?_⟩
      intro later there
      cases before : traffic.tasks[index]? with
      | some task =>
          rw [Traffic.next_go before] at there
          rcases Traffic.getElem?_advance there with ⟨-, rfl⟩ | ⟨different, -⟩
          · exact Task.isPlain_next (plain task before)
          · exact absurd rfl different
      | none =>
          rw [Traffic.next_go_none before, before] at there
          cases there

/-- A session may configure a script whose path is text, and load it. -/
theorem Traffic.along_configure (scene : Scene) {raw : String} {location : Location}
    (located : Location.resolve scene.world.host raw = .ok location)
    (text : location.resolved.IsText) (fresh : Bool) (n : Nat) :
    Along Traffic.next Traffic.May ⟨scene, [.ofRequest (.configure raw fresh) false], []⟩
      (List.replicate (n + 2) (.go 0)) := by
  obtain ⟨between, aside, setScript⟩ :=
    scene.setScript_eq raw (some (if fresh then .fresh else .cached))
  have first : Traffic.next ⟨scene, [.ofRequest (.configure raw fresh) false], []⟩ (.go 0) =
      ⟨⟨scene.session.repointed raw, between⟩,
        [⟨.configure raw fresh, .resolve raw (scene.session.generation + 1)
          (some (if fresh then .fresh else .cached)), false⟩], []⟩ :=
    Traffic.go_first setScript rfl
  rw [List.replicate_succ, List.replicate_succ]
  refine ⟨?_, ?_⟩
  · rintro task there
    cases there
    exact ⟨fun _ _ _ _ => nofun, nofun⟩
  rw [first]
  refine ⟨?_, Traffic.along_go 0 n ?_⟩
  · rintro task there
    cases there
    refine ⟨?_, nofun⟩
    rintro _ _ _ other same found
    cases same
    rw [show Location.resolve between.host raw = _ by rw [aside.host, located]] at found
    cases found
    exact text
  · intro task there
    rcases Traffic.getElem?_advance there with ⟨-, rfl⟩ | ⟨different, -⟩
    · rfl
    · exact absurd rfl different

/-- A session that configures the only script lists what is in it. -/
theorem Traffic.configure_withScript (profile : Profile) {world : World} {content : String}
    {modified : Int} (host : world.host = .withScript content modified) :
    Along Traffic.next Traffic.May (.quiet ⟨.start profile, world⟩)
        (.ask (.configure "/s" true) :: List.replicate 16 (.go 0)) ∧
      ∀ report, profile.draw (dropMark content) = .ok report →
        ((.ask (.configure "/s" true) :: List.replicate 16 (.go 0)).foldl Traffic.next
          (.quiet ⟨.start profile, world⟩)).scene.session.names = report.names := by
  have located := Host.resolve_of_eq_withScript host
  constructor
  · refine ⟨trivial, ?_⟩
    rw [Traffic.next_ask_quiet]
    exact Traffic.along_configure ⟨.start profile, world⟩ located Host.isText_onlyScript true 14
  · intro report drawn
    have there : [Task.ofRequest (.configure "/s" true) false][0]? = some _ := rfl
    obtain ⟨later, promises, reads, ended⟩ :=
      Traffic.fresh_configure (.start profile) world _ [] rfl located (Nat.le_refl 16) there
    have found : (Session.start profile).profile.drawAt world.host onlyScript = .ok report := by
      rw [host, Host.drawAt_withScript]
      exact drawn
    rw [List.foldl_cons, Traffic.next_ask_quiet, ended, found]
    rfl

end Plain

/-- In every order of steps, over a store that was empty at first, what a session lists was found in
something read at the path of its script, and what it calls was found at the very path that it is
called from. -/
theorem lists_belong_to_their_scripts (profile : Profile) (world : World)
    (empty : ∀ key names, ¬ world.HoldsNames key names) (events : List Event)
    (run : Along Traffic.next Traffic.May (.quiet ⟨.start profile, world⟩) events)
    {traffic : Traffic}
    (ended : events.foldl Traffic.next (.quiet ⟨.start profile, world⟩) = traffic) :
    (traffic.scene.session.names ≠ [] →
      ∃ location content, traffic.scene.session.path = .ready location ∧
        (location.resolved, content) ∈ traffic.reads ∧
        (profile.draw content).map Report.names = .ok traffic.scene.session.names) ∧
    ∀ task ∈ traffic.tasks, ∀ path name, task.stage = .spawn path name →
      ∃ content names, (path, content) ∈ traffic.reads ∧
        (profile.draw content).map Report.names = .ok names ∧ name ∈ names := by
  have sound : traffic.Sound profile := by
    rw [← ended]
    apply invariant_run (fun _ _ sound may => sound.next may) _ run
    exact Traffic.sound_quiet profile empty
  constructor
  · intro listed
    rcases sound.belongs.listed with none | ⟨location, ready, content, read, drawn⟩
    · exact absurd none listed
    · exact ⟨location, content, ready, read, drawn⟩
  · intro task member path name spawns
    obtain ⟨index, there⟩ := List.mem_iff_getElem?.mp member
    have standing := sound.stages index task there
    rw [spawns] at standing
    obtain ⟨names, listed, content, read, drawn⟩ := standing
    exact ⟨content, names, read, drawn, listed⟩

/-- A session that configures the only script lists what is in it. -/
theorem lists_belong_to_their_scripts_configured :
    ∃ (traffic : Traffic) (location : Location) (content : String),
      (.ask (.configure "/s" true) :: List.replicate 16 (.go 0)).foldl Traffic.next
          (.quiet ⟨.start (.ofSettings .defaults), .bare (.withScript "function A \x7b\x7d" 5)⟩) =
        traffic ∧
      traffic.scene.session.names = ["A"] ∧
      traffic.scene.session.path = .ready location ∧
      (location.resolved, content) ∈ traffic.reads ∧
      ((Profile.ofSettings .defaults).draw content).map Report.names = .ok ["A"] := by
  have listed : (Profile.ofSettings .defaults).draw (dropMark "function A \x7b\x7d") =
      .ok ⟨["A"], .extracted .structural⟩ := by decide +kernel
  obtain ⟨run, names⟩ := Traffic.configure_withScript (.ofSettings .defaults)
    (World.host_bare (.withScript "function A \x7b\x7d" 5))
  obtain ⟨belongs, -⟩ := lists_belong_to_their_scripts (.ofSettings .defaults)
    (.bare (.withScript "function A \x7b\x7d" 5)) (fun _ _ => World.not_holdsNames_bare) _ run rfl
  rw [names _ listed] at belongs
  obtain ⟨location, content, ready, read, drawn⟩ := belongs nofun
  exact ⟨_, location, content, rfl, names _ listed, ready, read, drawn⟩

end ScriptRoster
