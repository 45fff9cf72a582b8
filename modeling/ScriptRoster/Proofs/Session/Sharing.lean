import ScriptRoster.Proofs.Session.Belonging

/-!
# Loads that share a promise

A load that needs its script extracted joins the promise that is in flight for its slot: its key,
and whether the cache may answer. One caller takes the promise on, and it alone takes it out of
flight and keeps it. So in every order of steps one extraction at most is under way for a slot, and
two at most for a key, since loads that the cache may answer share nothing with those it may not.
-/

namespace ScriptRoster

open Cache Files

namespace Stage

/-- The ticket of the promise in flight that a task has taken on. -/
def leads? : Stage → Option Ticket
  | .lookAgain _ ticket | .keep _ ticket _ | .leave _ ticket _ => some ticket
  | .read _ ticket | .callSource _ ticket _ | .extract _ ticket _ => ticket
  | _ => none

/-- The ticket of the promise that a task has taken on and not yet kept, in flight or not. -/
def owes? : Stage → Option Ticket
  | .publish _ ticket _ => some ticket
  | stage => stage.leads?

/-- The ticket of the promise that a task waits for. -/
def awaits? : Stage → Option Ticket
  | .await _ ticket => some ticket
  | _ => none

/-- The ticket of the promise for which a script is being extracted. -/
def extracts? : Stage → Option Ticket
  | .read _ ticket | .callSource _ ticket _ | .extract _ ticket _ => ticket
  | _ => none

/-- What a task that comes to join a promise works on, and the key. -/
def joins? : Stage → Option (Errand × String)
  | .join errand key => some (errand, key)
  | _ => none

variable {stage : Stage} {ticket : Ticket}

theorem eq_join {errand : Errand} {key : String} (joins : stage.joins? = some (errand, key)) :
    stage = .join errand key := by
  cases stage <;> cases joins
  rfl

theorem owes_of_leads (leads : stage.leads? = some ticket) : stage.owes? = some ticket := by
  cases stage <;> first | exact leads | cases leads

theorem leads_of_extracts (extracts : stage.extracts? = some ticket) :
    stage.leads? = some ticket := by
  cases stage <;> first | exact extracts | cases extracts

theorem leads_keyed (errand : Errand) (key : String) : (errand.keyed key).leads? = none := by
  unfold Errand.keyed
  cases errand.kind <;> rfl

theorem owes_keyed (errand : Errand) (key : String) : (errand.keyed key).owes? = none := by
  unfold Errand.keyed
  cases errand.kind <;> rfl

theorem awaits_keyed (errand : Errand) (key : String) : (errand.keyed key).awaits? = none := by
  unfold Errand.keyed
  cases errand.kind <;> rfl

/-- An extraction that is over leaves its task with the promise that it was done for, and with none
if it was done for none. -/
theorem leads_extracted (errand : Errand) (ticket : Option Ticket)
    (result : Except ExtractionError Report) :
    (Scene.extracted errand ticket result).leads? = ticket := by
  cases ticket with
  | none => rfl
  | some ticket => cases result <;> rfl

theorem owes_extracted (errand : Errand) (ticket : Option Ticket)
    (result : Except ExtractionError Report) :
    (Scene.extracted errand ticket result).owes? = ticket := by
  cases ticket with
  | none => rfl
  | some ticket => cases result <;> rfl

theorem awaits_extracted (errand : Errand) (ticket : Option Ticket)
    (result : Except ExtractionError Report) :
    (Scene.extracted errand ticket result).awaits? = none := by
  cases ticket with
  | none => rfl
  | some ticket => cases result <;> rfl

/-- A stage outside of a load has nothing to do with promises. -/
theorem unshared_of_errand (idle : stage.errand? = none) :
    stage.leads? = none ∧ stage.owes? = none ∧ stage.awaits? = none := by
  cases stage <;> first | exact ⟨rfl, rfl, rfl⟩ | cases idle

end Stage

/-- A key has but two slots. -/
theorem Slot.eq_of_key_eq {one two three : Slot} (same : one.key = two.key)
    (also : two.key = three.key) : one = two ∨ one = three ∨ two = three := by
  obtain ⟨key, first⟩ := one
  obtain ⟨_, second⟩ := two
  obtain ⟨_, third⟩ := three
  obtain rfl : key = _ := same
  obtain rfl : key = _ := also
  cases first <;> cases second <;> cases third <;> simp

/-! ## What a step does with promises -/

/-- What a step from one stage to another does with the promises of a session. -/
inductive Handling : Session → Stage → Session → Stage → Prop
  | aside {before after stage next} (promises : after.promises = before.promises)
      (inFlight : after.inFlight = before.inFlight) (leads : next.leads? = stage.leads?)
      (owes : next.owes? = stage.owes?)
      (awaits : next.awaits? = none ∨ next.awaits? = stage.awaits?) :
      Handling before stage after next
  | joined {session errand key id}
      (there : session.inFlight.lookup ⟨key, errand.reuse⟩ = some id) :
      Handling session (.join errand key) session (.await errand ⟨⟨key, errand.reuse⟩, id⟩)
  | promised {session errand key}
      (missing : session.inFlight.lookup ⟨key, errand.reuse⟩ = none) :
      Handling session (.join errand key) (session.promising ⟨key, errand.reuse⟩)
        (.await errand ⟨⟨key, errand.reuse⟩, session.promises.length⟩)
  | led {session errand ticket slot}
      (free : session.promises[ticket.promise]? = some ⟨slot, false, none⟩) :
      Handling session (.await errand ticket) (session.withPromise ticket ⟨slot, true, none⟩)
        (if errand.reuse then .lookAgain errand ticket else .read errand (some ticket))
  | left {session errand ticket result} :
      Handling session (.leave errand ticket result) (session.landing ticket)
        (.publish errand ticket result)
  | published {session errand ticket result} :
      Handling session (.publish errand ticket result)
        (session.withPromise ticket ⟨ticket.slot, true, some result⟩) (.finish errand result)

section Steps

variable {request : Request} {scene there : Scene} {before after : Session}
  {stage next other : Stage} {ticket : Ticket}

theorem Move.handling (move : Move scene stage there next) :
    Handling scene.session stage there.session next := by
  cases move with
  | keyed =>
      exact .aside rfl rfl (Stage.leads_keyed _ _) (Stage.owes_keyed _ _)
        (.inl (Stage.awaits_keyed _ _))
  | unreadable | drawn =>
      exact .aside rfl rfl (Stage.leads_extracted _ _ _) (Stage.owes_extracted _ _ _)
        (.inl (Stage.awaits_extracted _ _ _))
  | joined there => exact .joined there
  | promised missing => exact .promised missing
  | led free => exact .led free
  | left => exact .left
  | published => exact .published
  | waited => exact .aside rfl rfl rfl rfl (.inr rfl)
  | keyless | hit | missed | dropped | handed | lateHit | missedAgain | opened | called | stored =>
      exact .aside rfl rfl rfl rfl (.inl rfl)

/-- A step outside of a load leaves all promises as they are. -/
theorem Act.handling (act : Act request scene stage there next) :
    Handling scene.session stage there.session next := by
  cases act with
  | repointed | resolved | listed | unlisted | spawned | watched | concluded | rested
  | discarded => exact .aside rfl rfl rfl rfl (.inl rfl)
  | located | overtaken =>
      obtain ⟨leads, owes, awaits⟩ := Stage.unshared_of_errand (errand_configured _ _)
      exact .aside rfl rfl leads owes (.inl awaits)
  | begun begins | refused begins =>
      obtain ⟨leads, owes, -⟩ := Stage.unshared_of_errand (Stage.errand_of_begins begins).1
      exact .aside rfl rfl leads.symm owes.symm (.inl rfl)
  | recorded =>
      exact .aside (Session.promises_record _ _) (Session.inFlight_record _ _) rfl rfl (.inl rfl)
  | @ended stage _ _ _ calls =>
      cases stage with
      | spawn | watch => exact .aside rfl rfl rfl rfl (.inl rfl)
      | _ => cases calls

/-- Every step of a task handles the promises of the session in one of the ways there are. -/
theorem Task.handling_next (scene : Scene) (task : Task) :
    Handling scene.session task.stage (task.next scene).1.session (task.next scene).2 := by
  rcases task.move_or_act scene with move | act
  · exact move.handling
  · exact act.handling

end Steps

/-- A promise in flight is still to be kept, it is the only one for its slot, and one that nobody has
taken on is in flight. -/
structure Session.Aloft (session : Session) : Prop where
  flying : ∀ slot id, (slot, id) ∈ session.inFlight →
    ∃ led, session.promises[id]? = some ⟨slot, led, none⟩
  single : ∀ slot id other, (slot, id) ∈ session.inFlight → (slot, other) ∈ session.inFlight →
    id = other
  free : ∀ (id : Nat) slot, session.promises[id]? = some ⟨slot, false, none⟩ →
    (slot, id) ∈ session.inFlight

/-- What a task at a stage has taken on it still owes, in flight until the task takes it out. -/
structure Stage.Minds (session : Session) (stage : Stage) : Prop where
  leads : ∀ ticket, stage.leads? = some ticket →
    (ticket.slot, ticket.promise) ∈ session.inFlight
  owes : ∀ ticket, stage.owes? = some ticket →
    session.promises[ticket.promise]? = some ⟨ticket.slot, true, none⟩
  landed : ∀ ticket, stage.leads? = none → stage.owes? = some ticket →
    ∀ slot, (slot, ticket.promise) ∉ session.inFlight
  awaits : ∀ ticket, stage.awaits? = some ticket → session.Promised ticket.promise ticket.slot

section Sharing

variable {before after session : Session} {stage next other : Stage} {ticket held : Ticket}
  {slot : Slot} {id : Nat}

theorem Stage.Minds.of_errand (idle : stage.errand? = none) : stage.Minds session := by
  obtain ⟨leads, owes, awaits⟩ := Stage.unshared_of_errand idle
  constructor
  · intro ticket same
    rw [leads] at same
    cases same
  · intro ticket same
    rw [owes] at same
    cases same
  · intro ticket _ same
    rw [owes] at same
    cases same
  · intro ticket same
    rw [awaits] at same
    cases same

theorem Stage.Minds.of_eq (minds : stage.Minds before) (promises : after.promises = before.promises)
    (inFlight : after.inFlight = before.inFlight) (leads : next.leads? = stage.leads?)
    (owes : next.owes? = stage.owes?)
    (awaits : next.awaits? = none ∨ next.awaits? = stage.awaits?) : next.Minds after := by
  constructor
  · rw [leads, inFlight]
    exact minds.leads
  · rw [owes, promises]
    exact minds.owes
  · rw [leads, owes, inFlight]
    exact minds.landed
  · intro ticket same
    rw [Session.Promised, promises]
    rcases awaits with none | kept
    · rw [none] at same
      cases same
    · exact minds.awaits ticket (kept ▸ same)

/-- The promise that a task owes is that of its ticket, wherever it is found. -/
theorem Stage.Minds.slot_eq (minds : stage.Minds session) (aloft : session.Aloft)
    (owes : stage.owes? = some ticket) (flying : (slot, ticket.promise) ∈ session.inFlight) :
    slot = ticket.slot := by
  obtain ⟨led, there⟩ := aloft.flying slot _ flying
  have kept := minds.owes ticket owes
  rw [there] at kept
  cases kept
  rfl

theorem mem_of_lookup_eq_some (there : session.inFlight.lookup slot = some id) :
    (slot, id) ∈ session.inFlight := by
  obtain ⟨front, back, split, -⟩ := List.lookup_eq_some_iff.mp there
  rw [split]
  exact List.mem_append_right front List.mem_cons_self

theorem not_mem_of_lookup_eq_none (missing : session.inFlight.lookup slot = none) :
    (slot, id) ∉ session.inFlight := by
  intro there
  have other := List.lookup_eq_none_iff.mp missing _ there
  simp at other

theorem getElem?_promising_of_lt (inside : id < session.promises.length) :
    (session.promising slot).promises[id]? = session.promises[id]? :=
  List.getElem?_append_left inside

theorem lt_of_getElem?_promises {promise : Promise}
    (there : session.promises[id]? = some promise) : id < session.promises.length :=
  (List.getElem?_eq_some_iff.mp there).1

/-- Taking a promise out of flight takes out nothing else. -/
theorem mem_landing :
    (slot, id) ∈ (session.landing ticket).inFlight ↔
      (slot, id) ∈ session.inFlight ∧ ¬ (slot = ticket.slot ∧ id = ticket.promise) := by
  simp [Session.landing, List.mem_filter]

theorem getElem?_withPromise_self {promise old : Promise}
    (there : session.promises[ticket.promise]? = some old) :
    (session.withPromise ticket promise).promises[ticket.promise]? = some promise :=
  List.getElem?_set_self (lt_of_getElem?_promises there)

theorem getElem?_withPromise_of_ne {promise : Promise} (h : id ≠ ticket.promise) :
    (session.withPromise ticket promise).promises[id]? = session.promises[id]? :=
  List.getElem?_set_ne (Ne.symm h)

theorem Session.Aloft.of_eq (aloft : before.Aloft) (promises : after.promises = before.promises)
    (inFlight : after.inFlight = before.inFlight) : after.Aloft := by
  constructor
  · rw [promises, inFlight]
    exact aloft.flying
  · rw [inFlight]
    exact aloft.single
  · rw [promises, inFlight]
    exact aloft.free

/-- A new promise for a slot that has none in flight is the only one for that slot. -/
theorem Session.Aloft.promising (aloft : session.Aloft)
    (missing : session.inFlight.lookup slot = none) : (session.promising slot).Aloft := by
  constructor
  · intro other id flying
    rcases List.mem_cons.mp flying with same | earlier
    · cases same
      exact ⟨false, List.getElem?_concat_length⟩
    · obtain ⟨led, there⟩ := aloft.flying other id earlier
      exact ⟨led, by rw [getElem?_promising_of_lt (lt_of_getElem?_promises there), there]⟩
  · intro other id rival one two
    rcases List.mem_cons.mp one with same | earlier
    · cases same
      rcases List.mem_cons.mp two with same | earlier
      · cases same
        rfl
      · exact absurd earlier (not_mem_of_lookup_eq_none missing)
    · rcases List.mem_cons.mp two with same | before
      · cases same
        exact absurd earlier (not_mem_of_lookup_eq_none missing)
      · exact aloft.single other id rival earlier before
  · intro id other free
    rcases Session.exists_before_promising free with before | ⟨rfl, new⟩
    · exact List.mem_cons_of_mem _ (aloft.free id other before)
    · cases new
      exact List.mem_cons_self

/-- A promise that is taken on stays in flight. -/
theorem Session.Aloft.led (aloft : session.Aloft)
    (free : session.promises[ticket.promise]? = some ⟨slot, false, none⟩) :
    (session.withPromise ticket ⟨slot, true, none⟩).Aloft := by
  constructor
  · intro other id flying
    obtain ⟨led, there⟩ := aloft.flying other id flying
    by_cases same : id = ticket.promise
    · subst same
      rw [free] at there
      cases there
      exact ⟨true, getElem?_withPromise_self free⟩
    · exact ⟨led, by rw [getElem?_withPromise_of_ne same, there]⟩
  · exact aloft.single
  · intro id other unled
    by_cases same : id = ticket.promise
    · subst same
      rw [getElem?_withPromise_self free] at unled
      cases unled
    · rw [getElem?_withPromise_of_ne same] at unled
      exact aloft.free id other unled

/-- Taking a promise that is owed out of flight leaves the others there. -/
theorem Session.Aloft.landing (aloft : session.Aloft)
    (taken : session.promises[ticket.promise]? = some ⟨ticket.slot, true, none⟩) :
    (session.landing ticket).Aloft := by
  constructor
  · intro other id flying
    exact aloft.flying other id (mem_landing.mp flying).1
  · intro other id rival one two
    exact aloft.single other id rival (mem_landing.mp one).1 (mem_landing.mp two).1
  · intro id other free
    refine mem_landing.mpr ⟨aloft.free id other free, ?_⟩
    rintro ⟨rfl, rfl⟩
    rw [show (session.landing ticket).promises = session.promises from rfl, taken] at free
    cases free

/-- A promise that is out of flight may be kept. -/
theorem Session.Aloft.published (aloft : session.Aloft) {result : Except ExtractionError Report}
    (landed : ∀ slot, (slot, ticket.promise) ∉ session.inFlight)
    (taken : session.promises[ticket.promise]? = some ⟨ticket.slot, true, none⟩) :
    (session.withPromise ticket ⟨ticket.slot, true, some result⟩).Aloft := by
  constructor
  · intro other id flying
    obtain ⟨led, there⟩ := aloft.flying other id flying
    have different : id ≠ ticket.promise := by
      rintro rfl
      exact landed other flying
    exact ⟨led, by rw [getElem?_withPromise_of_ne different, there]⟩
  · exact aloft.single
  · intro id other free
    have different : id ≠ ticket.promise := by
      rintro rfl
      rw [getElem?_withPromise_self taken] at free
      cases free
    rw [getElem?_withPromise_of_ne different] at free
    exact aloft.free id other free

/-- No step of a task that minds its promise breaks what holds of those in flight. -/
theorem Handling.aloft (handling : Handling before stage after next) (minds : stage.Minds before)
    (aloft : before.Aloft) : after.Aloft := by
  cases handling with
  | aside promises inFlight => exact aloft.of_eq promises inFlight
  | joined => exact aloft
  | promised missing => exact aloft.promising missing
  | led free => exact aloft.led free
  | left => exact aloft.landing (minds.owes _ rfl)
  | published => exact aloft.published (minds.landed _ rfl rfl) (minds.owes _ rfl)

/-- The stage of a caller that has taken a promise on. -/
theorem Stage.leads_led (errand : Errand) (ticket : Ticket) :
    (if errand.reuse then Stage.lookAgain errand ticket
      else .read errand (some ticket)).leads? = some ticket := by
  split <;> rfl

theorem Stage.owes_led (errand : Errand) (ticket : Ticket) :
    (if errand.reuse then Stage.lookAgain errand ticket
      else .read errand (some ticket)).owes? = some ticket := by
  split <;> rfl

theorem Stage.awaits_led (errand : Errand) (ticket : Ticket) :
    (if errand.reuse then Stage.lookAgain errand ticket
      else .read errand (some ticket)).awaits? = none := by
  split <;> rfl

theorem Stage.minds_await {errand : Errand} (promised : session.Promised id slot) :
    (Stage.await errand ⟨slot, id⟩).Minds session where
  leads := nofun
  owes := nofun
  landed _ := nofun
  awaits := by
    rintro ticket same
    cases same
    exact promised

/-- The task that does a step still owes what it has taken on. -/
theorem Handling.minds (handling : Handling before stage after next) (minds : stage.Minds before)
    (aloft : before.Aloft) : next.Minds after := by
  cases handling with
  | aside promises inFlight leads owes awaits =>
      exact minds.of_eq promises inFlight leads owes awaits
  | joined there =>
      obtain ⟨led, promise⟩ := aloft.flying _ _ (mem_of_lookup_eq_some there)
      exact Stage.minds_await ⟨_, promise, rfl⟩
  | promised => exact Stage.minds_await (Session.promised_promising _ _)
  | @led errand ticket slot free =>
      obtain rfl : slot = ticket.slot := (minds.awaits ticket rfl).slot_eq free
      constructor
      · intro other same
        obtain rfl : ticket = other := Option.some.inj ((Stage.leads_led _ _).symm.trans same)
        exact aloft.free _ _ free
      · intro other same
        obtain rfl : ticket = other := Option.some.inj ((Stage.owes_led _ _).symm.trans same)
        exact getElem?_withPromise_self free
      · intro other none
        rw [Stage.leads_led] at none
        cases none
      · intro other same
        rw [Stage.awaits_led] at same
        cases same
  | @left errand ticket result =>
      refine ⟨nofun, ?_, ?_, nofun⟩
      · rintro other same
        cases same
        exact minds.owes _ rfl
      · rintro other - same slot flying
        cases same
        obtain ⟨before, elsewhere⟩ := mem_landing.mp flying
        exact elsewhere ⟨minds.slot_eq aloft rfl before, rfl⟩
  | published => exact ⟨nofun, nofun, fun _ _ => nofun, nofun⟩

/-- A step leaves what other tasks owe alone. -/
theorem Handling.minds_other (handling : Handling before stage after next)
    (minds : stage.Minds before) (standing : other.Minds before)
    (apart : ∀ ticket held, stage.owes? = some ticket → other.owes? = some held →
      ticket.promise ≠ held.promise) : other.Minds after := by
  cases handling with
  | aside promises inFlight => exact standing.of_eq promises inFlight rfl rfl (.inr rfl)
  | joined => exact standing
  | promised =>
      constructor
      · exact fun held leads => List.mem_cons_of_mem _ (standing.leads held leads)
      · intro held owes
        have taken := standing.owes held owes
        rw [getElem?_promising_of_lt (lt_of_getElem?_promises taken), taken]
      · intro held leads owes slot flying
        rcases List.mem_cons.mp flying with same | earlier
        · have inside := lt_of_getElem?_promises (standing.owes held owes)
          rw [(Prod.mk.inj same).2] at inside
          exact absurd inside (Nat.lt_irrefl _)
        · exact standing.landed held leads owes slot earlier
      · exact fun held awaits => (standing.awaits held awaits).promising _
  | @led errand ticket slot free =>
      constructor
      · exact standing.leads
      · intro held owes
        have taken := standing.owes held owes
        have different : held.promise ≠ ticket.promise := by
          intro same
          rw [same, free] at taken
          cases taken
        rw [getElem?_withPromise_of_ne different, taken]
      · exact standing.landed
      · exact fun held awaits => (standing.awaits held awaits).withPromise _ ⟨_, free, rfl⟩
  | @left errand ticket result =>
      constructor
      · intro held leads
        refine mem_landing.mpr ⟨standing.leads held leads, ?_⟩
        rintro ⟨-, same⟩
        exact apart ticket held rfl (Stage.owes_of_leads leads) same.symm
      · exact standing.owes
      · intro held leads owes slot flying
        exact standing.landed held leads owes slot (mem_landing.mp flying).1
      · exact standing.awaits
  | @published errand ticket result =>
      have taken := minds.owes ticket rfl
      constructor
      · exact standing.leads
      · intro held owes
        rw [getElem?_withPromise_of_ne (Ne.symm (apart ticket held rfl owes)),
          standing.owes held owes]
      · exact standing.landed
      · exact fun held awaits => (standing.awaits held awaits).withPromise _ ⟨_, taken, rfl⟩

/-- What a task owes after a step it owed before, or nobody had taken it on. -/
theorem Handling.owes (handling : Handling before stage after next)
    (owes : next.owes? = some ticket) :
    stage.owes? = some ticket ∨
      ∃ slot, before.promises[ticket.promise]? = some ⟨slot, false, none⟩ := by
  cases handling with
  | aside _ _ _ same =>
      rw [same] at owes
      exact .inl owes
  | joined | promised | published => cases owes
  | led free =>
      rw [Stage.owes_led] at owes
      cases owes
      exact .inr ⟨_, free⟩
  | left => exact .inl owes

/-- A promise in flight that is found taken on after a step is taken on by that step, or was taken on
by another task before. -/
theorem Handling.led_or_before (handling : Handling before stage after next) (minds : stage.Minds before)
    (aloft : before.Aloft) (flying : (slot, id) ∈ after.inFlight)
    (taken : after.promises[id]? = some ⟨slot, true, none⟩) :
    next.leads? = some ⟨slot, id⟩ ∨
      ((slot, id) ∈ before.inFlight ∧ before.promises[id]? = some ⟨slot, true, none⟩ ∧
        stage.leads? ≠ some ⟨slot, id⟩) := by
  cases handling with
  | aside promises inFlight leads =>
      rw [inFlight] at flying
      rw [promises] at taken
      rw [leads]
      by_cases same : stage.leads? = some ⟨slot, id⟩
      · exact .inl same
      · exact .inr ⟨flying, taken, same⟩
  | joined => exact .inr ⟨flying, taken, nofun⟩
  | @promised errand key =>
      rcases List.mem_cons.mp flying with same | earlier
      · cases same
        have untaken : (before.promising ⟨key, errand.reuse⟩).promises[before.promises.length]? =
            some ⟨⟨key, errand.reuse⟩, false, none⟩ := List.getElem?_concat_length
        rw [untaken] at taken
        cases taken
      · obtain ⟨led, there⟩ := aloft.flying slot id earlier
        rw [getElem?_promising_of_lt (lt_of_getElem?_promises there)] at taken
        exact .inr ⟨earlier, taken, nofun⟩
  | @led errand ticket other free =>
      by_cases same : id = ticket.promise
      · subst same
        rw [getElem?_withPromise_self free] at taken
        cases taken
        obtain rfl : slot = ticket.slot := (minds.awaits ticket rfl).slot_eq free
        exact .inl (Stage.leads_led errand ticket)
      · rw [getElem?_withPromise_of_ne same] at taken
        exact .inr ⟨flying, taken, nofun⟩
  | @left errand ticket result =>
      obtain ⟨earlier, elsewhere⟩ := mem_landing.mp flying
      refine .inr ⟨earlier, taken, ?_⟩
      intro same
      cases same
      exact elsewhere ⟨rfl, rfl⟩
  | @published errand ticket result =>
      have different : id ≠ ticket.promise := by
        rintro rfl
        exact minds.landed ticket rfl rfl slot flying
      rw [getElem?_withPromise_of_ne different] at taken
      exact .inr ⟨flying, taken, nofun⟩

/-- A promise that was taken on stays so, and what it was kept with stays the same. -/
theorem Handling.stays_led (handling : Handling before stage after next)
    (minds : stage.Minds before) {result? : Option (Except ExtractionError Report)}
    (taken : before.promises[id]? = some ⟨slot, true, result?⟩) :
    ∃ later?, after.promises[id]? = some ⟨slot, true, later?⟩ ∧
      ∀ result, result? = some result → later? = some result := by
  cases handling with
  | aside promises =>
      rw [promises]
      exact ⟨result?, taken, fun _ same => same⟩
  | joined | left => exact ⟨result?, taken, fun _ same => same⟩
  | promised =>
      rw [getElem?_promising_of_lt (lt_of_getElem?_promises taken)]
      exact ⟨result?, taken, fun _ same => same⟩
  | @led errand ticket other free =>
      have different : id ≠ ticket.promise := by
        rintro rfl
        rw [free] at taken
        cases taken
      rw [getElem?_withPromise_of_ne different]
      exact ⟨result?, taken, fun _ same => same⟩
  | @published errand ticket result =>
      have owed := minds.owes ticket rfl
      by_cases same : id = ticket.promise
      · subst same
        rw [owed] at taken
        cases taken
        exact ⟨some result, getElem?_withPromise_self owed, nofun⟩
      · rw [getElem?_withPromise_of_ne same]
        exact ⟨result?, taken, fun _ same => same⟩

/-- A promise that nobody has taken on stays so, or the task that does a step takes it on. -/
theorem Handling.free_or_led (handling : Handling before stage after next)
    (minds : stage.Minds before) (free : before.promises[id]? = some ⟨slot, false, none⟩) :
    after.promises[id]? = some ⟨slot, false, none⟩ ∨
      ∃ errand, stage = .await errand ⟨slot, id⟩ ∧ next.leads? = some ⟨slot, id⟩ := by
  cases handling with
  | aside promises =>
      rw [promises]
      exact .inl free
  | joined | left => exact .inl free
  | promised =>
      rw [getElem?_promising_of_lt (lt_of_getElem?_promises free)]
      exact .inl free
  | @led errand ticket other unled =>
      by_cases same : id = ticket.promise
      · subst same
        obtain rfl : other = slot := by
          rw [unled] at free
          cases free
          rfl
        obtain rfl : other = ticket.slot := (minds.awaits ticket rfl).slot_eq unled
        exact .inr ⟨errand, rfl, Stage.leads_led errand ticket⟩
      · rw [getElem?_withPromise_of_ne same]
        exact .inl free
  | @published errand ticket result =>
      have different : id ≠ ticket.promise := by
        rintro rfl
        have owed := minds.owes ticket rfl
        rw [owed] at free
        cases free
      rw [getElem?_withPromise_of_ne different]
      exact .inl free

end Sharing

/-- A caller waits for a promise, or goes on with what it was kept with. -/
inductive Stage.Follows (errand : Errand) (ticket : Ticket)
    (result? : Option (Except ExtractionError Report)) : Stage → Prop
  | waits : Follows errand ticket result? (.await errand ticket)
  | finishes {result} (kept : result? = some result) :
      Follows errand ticket result? (.finish errand result)
  | recorded {result} (kept : result? = some result) :
      Follows errand ticket result? (.done (errand.kind.answer (result.mapError .extraction)))
  | discarded {result} (kept : result? = some result) :
      Follows errand ticket result? (.done (errand.kind.answer (stale result)))

section Following

variable {scene : Scene} {task : Task} {stage : Stage} {errand : Errand} {ticket : Ticket}
  {slot : Slot} {result? later? : Option (Except ExtractionError Report)}

theorem Stage.Follows.mono (follows : stage.Follows errand ticket result?)
    (grows : ∀ result, result? = some result → later? = some result) :
    stage.Follows errand ticket later? := by
  cases follows with
  | waits => exact .waits
  | finishes kept => exact .finishes (grows _ kept)
  | recorded kept => exact .recorded (grows _ kept)
  | discarded kept => exact .discarded (grows _ kept)

/-- A step of its own keeps a caller with the promise that it follows. -/
theorem Task.follows_next
    (taken : scene.session.promises[ticket.promise]? = some ⟨slot, true, result?⟩)
    (follows : task.stage.Follows errand ticket result?) :
    (task.next scene).2.Follows errand ticket result? := by
  obtain ⟨request, stage, cancelled⟩ := task
  cases follows with
  | waits =>
      show (scene.await errand ticket).2.Follows errand ticket result?
      cases result? with
      | none =>
          have waits : scene.await errand ticket = (scene, .await errand ticket) := by
            simp only [Scene.await, taken]
          rw [waits]
          exact .waits
      | some result =>
          rw [scene.await_kept errand ticket taken]
          exact .finishes rfl
  | @finishes result kept =>
      show (scene.finish errand result).2.Follows errand ticket result?
      by_cases current : scene.session.generation = errand.generation
      · obtain ⟨world, -, eq⟩ := scene.finish_current errand result current
        rw [eq]
        exact .recorded kept
      · obtain ⟨world, -, eq⟩ := scene.finish_superseded errand result current
        rw [eq]
        exact .discarded kept
  | recorded kept => exact .recorded kept
  | discarded kept => exact .discarded kept

end Following

/-! ## Runs -/

/-- A session with which no load is under way, such as a new one. -/
structure Session.AtRest (session : Session) : Prop where
  landed : session.inFlight = []
  kept : ∀ promise ∈ session.promises, promise.result?.isSome

/-- What holds of promises in every order of steps: whoever has taken one on owes it and nobody else
does, and one in flight that has been taken on is still led by somebody. -/
structure Traffic.Shared (traffic : Traffic) : Prop where
  aloft : traffic.scene.session.Aloft
  minds : ∀ (index : Nat) (task : Task), traffic.tasks[index]? = some task →
    task.stage.Minds traffic.scene.session
  apart : ∀ (index other : Nat) (task rival : Task) (ticket held : Ticket), index ≠ other →
    traffic.tasks[index]? = some task → traffic.tasks[other]? = some rival →
      task.stage.owes? = some ticket → rival.stage.owes? = some held →
        ticket.promise ≠ held.promise
  led : ∀ (slot : Slot) (id : Nat), (slot, id) ∈ traffic.scene.session.inFlight →
    traffic.scene.session.promises[id]? = some ⟨slot, true, none⟩ →
      ∃ (index : Nat) (task : Task),
        traffic.tasks[index]? = some task ∧ task.stage.leads? = some ⟨slot, id⟩

namespace Traffic

variable {scene : Scene} {traffic : Traffic} {index other : Nat} {task : Task} {event : Event}

theorem shared_quiet (rest : scene.session.AtRest) : (quiet scene).Shared where
  aloft := by
    constructor
    · intro slot id flying
      rw [quiet, rest.landed] at flying
      cases flying
    · intro slot id other flying
      rw [quiet, rest.landed] at flying
      cases flying
    · intro id slot free
      have kept := rest.kept _ (List.mem_of_getElem? free)
      cases kept
  minds index task there := by
    rw [quiet, List.getElem?_nil] at there
    cases there
  apart index other task rival ticket held different there := by
    rw [quiet, List.getElem?_nil] at there
    cases there
  led slot id flying := by
    rw [quiet, rest.landed] at flying
    cases flying

/-- What holds of the promises holds after a step of any task. -/
theorem Shared.advance (shared : traffic.Shared) (there : traffic.tasks[index]? = some task) :
    (traffic.advance index task).Shared := by
  have handling := Task.handling_next traffic.scene task
  have minds := shared.minds index task there
  constructor
  · exact handling.aloft minds shared.aloft
  · intro other later now
    rcases getElem?_advance now with ⟨rfl, rfl⟩ | ⟨different, before⟩
    · exact handling.minds minds shared.aloft
    · exact handling.minds_other minds (shared.minds other later before)
        fun ticket held => shared.apart index other task later ticket held different.symm there before
  · -- of two tasks at most one did a step, and what it has just taken on nobody else owes
    have fresh : ∀ (other : Nat) (rival : Task) (ticket held : Ticket), other ≠ index →
        traffic.tasks[other]? = some rival → (task.next traffic.scene).2.owes? = some ticket →
          rival.stage.owes? = some held → ticket.promise ≠ held.promise := by
      intro other rival ticket held different before owes holds
      rcases handling.owes owes with owed | ⟨slot, free⟩
      · exact shared.apart index other task rival ticket held different.symm there before owed holds
      · intro same
        have taken := (shared.minds other rival before).owes held holds
        rw [← same, free] at taken
        cases taken
    intro one two first second ticket held different now also owes holds
    rcases getElem?_advance now with ⟨rfl, rfl⟩ | ⟨differs, before⟩
    · rcases getElem?_advance also with ⟨rfl, rfl⟩ | ⟨apart, earlier⟩
      · exact absurd rfl different
      · exact fresh two second ticket held apart earlier owes holds
    · rcases getElem?_advance also with ⟨rfl, rfl⟩ | ⟨-, earlier⟩
      · exact (fresh one first held ticket differs before holds owes).symm
      · exact shared.apart one two first second ticket held different before earlier owes holds
  · intro slot id flying taken
    rcases handling.led_or_before minds shared.aloft flying taken with leads | ⟨flew, held, apart⟩
    · exact ⟨index, _, getElem?_advance_self there, leads⟩
    · obtain ⟨leader, leading, before, leads⟩ := shared.led slot id flew held
      have different : index ≠ leader := by
        rintro rfl
        rw [there] at before
        cases before
        exact apart leads
      exact ⟨leader, leading, (getElem?_advance_of_ne different).trans before, leads⟩

theorem Shared.rests (shared : traffic.Shared) (rests : traffic.Rests event) :
    (traffic.next event).Shared := by
  constructor
  · rw [rests.session]
    exact shared.aloft
  · intro index task there
    rw [rests.session]
    rcases rests.tasks index task there with ⟨old, before, -, stage⟩ | ⟨request, -, rfl⟩
    · rw [← stage]
      exact shared.minds index old before
    · exact Stage.Minds.of_errand rfl
  · intro index other task rival ticket held different there also owes holds
    rcases rests.tasks index task there with ⟨old, before, -, stage⟩ | ⟨request, -, rfl⟩
    · rcases rests.tasks other rival also with ⟨older, earlier, -, level⟩ | ⟨request, -, rfl⟩
      · rw [← stage] at owes
        rw [← level] at holds
        exact shared.apart index other old older ticket held different before earlier owes holds
      · cases holds
    · cases owes
  · intro slot id flying taken
    rw [rests.session] at flying taken
    obtain ⟨index, old, before, leads⟩ := shared.led slot id flying taken
    obtain ⟨task, there, stage⟩ := rests.kept index old before
    exact ⟨index, task, there, by rw [stage, leads]⟩

theorem Shared.next (shared : traffic.Shared) (event : Event) : (traffic.next event).Shared := by
  rcases traffic.rests_or_advances event with rests | ⟨index, task, rfl, there, after⟩
  · exact shared.rests rests
  · rw [after]
    exact shared.advance there

/-- What holds of the promises holds after every run of events. -/
theorem Shared.run (shared : traffic.Shared) (events : List Event) :
    (events.foldl Traffic.next traffic).Shared := by
  induction events generalizing traffic with
  | nil => exact shared
  | cons event events ih => exact ih (shared.next event)

/-! ## Callers that join -/

/-- A task has taken on the promise of a ticket, which others may still join. -/
def Leads (traffic : Traffic) (index : Nat) (ticket : Ticket) : Prop :=
  ∃ task, traffic.tasks[index]? = some task ∧ task.stage.leads? = some ticket

/-- A task is extracting a script for the promise of a ticket. -/
def Extracts (traffic : Traffic) (index : Nat) (ticket : Ticket) : Prop :=
  ∃ task, traffic.tasks[index]? = some task ∧ task.stage.extracts? = some ticket

/-- A caller follows a promise that somebody has taken on. -/
def Follows (traffic : Traffic) (caller : Nat) (errand : Errand) (ticket : Ticket) : Prop :=
  ∃ task result?, traffic.tasks[caller]? = some task ∧
    traffic.scene.session.promises[ticket.promise]? = some ⟨ticket.slot, true, result?⟩ ∧
      task.stage.Follows errand ticket result?

variable {ticket held : Ticket} {errand : Errand} {key : String} {caller : Nat}

theorem Extracts.leads (extracts : traffic.Extracts index ticket) : traffic.Leads index ticket := by
  obtain ⟨task, there, same⟩ := extracts
  exact ⟨task, there, Stage.leads_of_extracts same⟩

/-- The promise of a leader is in flight. -/
theorem Shared.flying (shared : traffic.Shared) (leads : traffic.Leads index ticket) :
    (ticket.slot, ticket.promise) ∈ traffic.scene.session.inFlight := by
  obtain ⟨task, there, same⟩ := leads
  exact (shared.minds index task there).leads ticket same

/-- The promise of a leader has been taken on, and has no result yet. -/
theorem Shared.taken (shared : traffic.Shared) (leads : traffic.Leads index ticket) :
    traffic.scene.session.promises[ticket.promise]? = some ⟨ticket.slot, true, none⟩ := by
  obtain ⟨task, there, same⟩ := leads
  exact (shared.minds index task there).owes ticket (Stage.owes_of_leads same)

/-- Nobody else leads what a slot has in flight. -/
theorem Shared.leader_unique (shared : traffic.Shared) (one : traffic.Leads index ticket)
    (two : traffic.Leads other held) (slot : ticket.slot = held.slot) : index = other := by
  have same : ticket.promise = held.promise :=
    shared.aloft.single ticket.slot _ _ (shared.flying one) (slot ▸ shared.flying two)
  by_contra different
  obtain ⟨task, there, leads⟩ := one
  obtain ⟨rival, also, holds⟩ := two
  exact shared.apart index other task rival ticket held different there also
    (Stage.owes_of_leads leads) (Stage.owes_of_leads holds) same

/-- Whoever joins a slot whose promise is led waits for that promise. -/
theorem Shared.join (shared : traffic.Shared)
    (stage : task.stage = .join errand key) (leads : traffic.Leads index ticket)
    (slot : ticket.slot = ⟨key, errand.reuse⟩) :
    task.next traffic.scene = (traffic.scene, .await errand ticket) := by
  have flying := shared.flying leads
  have found : traffic.scene.session.inFlight.lookup ⟨key, errand.reuse⟩ = some ticket.promise := by
    cases lookup : traffic.scene.session.inFlight.lookup ⟨key, errand.reuse⟩ with
    | none => exact absurd (slot ▸ flying) (not_mem_of_lookup_eq_none lookup)
    | some id =>
        rw [shared.aloft.single _ _ _ (mem_of_lookup_eq_some lookup) (slot ▸ flying)]
  rw [Task.next, stage]
  show traffic.scene.join errand key = _
  rw [traffic.scene.join_of_some errand found, ← slot]

/-- A caller follows its promise through the steps of all tasks, its own ones included. -/
theorem Follows.advance (shared : traffic.Shared) (follows : traffic.Follows caller errand ticket)
    (there : traffic.tasks[index]? = some task) :
    (traffic.advance index task).Follows caller errand ticket := by
  obtain ⟨old, result?, before, promise, far⟩ := follows
  obtain ⟨later?, kept, grows⟩ := (Task.handling_next traffic.scene task).stays_led
    (shared.minds index task there) promise
  by_cases same : index = caller
  · subst same
    obtain rfl : task = old := Option.some.inj (there.symm.trans before)
    exact ⟨_, later?, getElem?_advance_self there, kept,
      (Task.follows_next promise far).mono grows⟩
  · exact ⟨old, later?, (getElem?_advance_of_ne same).trans before, kept, far.mono grows⟩

theorem Follows.next (shared : traffic.Shared) (follows : traffic.Follows caller errand ticket)
    (event : Event) : (traffic.next event).Follows caller errand ticket := by
  rcases traffic.rests_or_advances event with rests | ⟨index, task, rfl, there, after⟩
  · obtain ⟨old, result?, before, promise, far⟩ := follows
    obtain ⟨task, there, stage⟩ := rests.kept caller old before
    rw [← stage] at far
    rw [← rests.session] at promise
    exact ⟨task, result?, there, promise, far⟩
  · rw [after]
    exact follows.advance shared there

theorem Follows.run (shared : traffic.Shared) (follows : traffic.Follows caller errand ticket)
    (events : List Event) : (events.foldl Traffic.next traffic).Follows caller errand ticket := by
  induction events generalizing traffic with
  | nil => exact follows
  | cons event events ih => exact ih (shared.next event) (follows.next shared event)

/-- A caller that joins a slot whose promise is led follows that promise from then on. -/
theorem Shared.follows (shared : traffic.Shared) (there : traffic.tasks[caller]? = some task)
    (stage : task.stage = .join errand key) (leads : traffic.Leads index ticket)
    (slot : ticket.slot = ⟨key, errand.reuse⟩) :
    (traffic.next (.go caller)).Follows caller errand ticket := by
  have joins := shared.join stage leads slot
  rw [next_go there]
  refine ⟨_, none, getElem?_advance_self there, ?_, ?_⟩
  · rw [scene_advance, joins]
    exact shared.taken leads
  · show (task.next traffic.scene).2.Follows errand ticket none
    rw [joins]
    exact .waits

end Traffic

/-- Loads that may overlap in any way extract a script once for each slot: no two tasks extract for
the same key and with the same leave to use the cache, and so no three for one key. A caller that
comes to join while somebody has the promise of its slot in hand starts nothing: it follows that
promise, through whatever happens later, and goes on with what it is kept with. -/
theorem one_extraction_for_a_slot {scene : Scene} (rest : scene.session.AtRest)
    (events : List Event) :
    let traffic := events.foldl Traffic.next (.quiet scene)
    (∀ one two ticket held, traffic.Extracts one ticket → traffic.Extracts two held →
        ticket.slot = held.slot → one = two) ∧
      (∀ one two three ticket held other, traffic.Extracts one ticket →
        traffic.Extracts two held → traffic.Extracts three other →
          ticket.slot.key = held.slot.key → held.slot.key = other.slot.key →
            one = two ∨ one = three ∨ two = three) ∧
      ∀ caller task errand key leader ticket, traffic.tasks[caller]? = some task →
        task.stage = .join errand key → traffic.Leads leader ticket →
          ticket.slot = ⟨key, errand.reuse⟩ → ∀ later : List Event,
            ((.go caller :: later).foldl Traffic.next traffic).Follows caller errand ticket := by
  intro traffic
  have shared : traffic.Shared := (Traffic.shared_quiet rest).run events
  have unique : ∀ one two ticket held, traffic.Extracts one ticket → traffic.Extracts two held →
      ticket.slot = held.slot → one = two :=
    fun one two ticket held first second slot =>
      shared.leader_unique first.leads second.leads slot
  refine ⟨unique, ?_, ?_⟩
  · intro one two three ticket held other first second third same also
    rcases Slot.eq_of_key_eq same also with slot | slot | slot
    · exact .inl (unique one two ticket held first second slot)
    · exact .inr (.inl (unique one three ticket other first third slot))
    · exact .inr (.inr (unique two three held other second third slot))
  · intro caller task errand key leader ticket there stage leads slot later
    exact (shared.follows there stage leads slot).run (shared.next _) later

/-! ## Two extractions for one key -/

/-- A session whose only script keeps its key, over an empty store. -/
def Scene.ofScript (content : String) : Scene where
  session := (Session.start { Profile.ofSettings .defaults with keyMode := .fixed }).pointed "/s"
    (.ok ⟨"/s", onlyScript⟩)
  world := .bare (.withScript content 5)

theorem Scene.atRest_ofScript (content : String) : (Scene.ofScript content).session.AtRest :=
  ⟨rfl, nofun⟩

/-- Two loads that have come to read the script, one of which the cache might have answered, and a
third one that comes to join. -/
def Traffic.bothWays : List Event :=
  [.ask (.load false), .ask (.load true), .ask (.load true)] ++
    List.replicate 6 (.go 0) ++ List.replicate 4 (.go 1) ++ List.replicate 2 (.go 2)

theorem Traffic.exists_of_map {α : Type} {f : Stage → Option α} {traffic : Traffic}
    {found : List (Option α)} (map : traffic.tasks.map (f ·.stage) = found) {index : Nat} {a : α}
    (there : found[index]? = some (some a)) :
    ∃ task, traffic.tasks[index]? = some task ∧ f task.stage = some a := by
  rw [← map, List.getElem?_map] at there
  exact Option.map_eq_some_iff.mp there

theorem Traffic.extracts_bothWays :
    let traffic := bothWays.foldl Traffic.next (.quiet (.ofScript "function A \x7b\x7d"))
    traffic.Extracts 0 ⟨⟨"psfunc-functions-/s", true⟩, 0⟩ ∧
      traffic.Extracts 1 ⟨⟨"psfunc-functions-/s", false⟩, 1⟩ := by
  intro traffic
  have extracts : traffic.tasks.map (·.stage.extracts?) =
      [some ⟨⟨"psfunc-functions-/s", true⟩, 0⟩, some ⟨⟨"psfunc-functions-/s", false⟩, 1⟩, none] := by
    decide +kernel
  exact ⟨exists_of_map extracts rfl, exists_of_map extracts rfl⟩

/-- Two loads at once extract one script for one key, and a third one waits for the second. -/
theorem one_extraction_for_a_slot_joined :
    let traffic := Traffic.bothWays.foldl Traffic.next (.quiet (.ofScript "function A \x7b\x7d"))
    traffic.Extracts 0 ⟨⟨"psfunc-functions-/s", true⟩, 0⟩ ∧
      traffic.Extracts 1 ⟨⟨"psfunc-functions-/s", false⟩, 1⟩ ∧
        ∀ later : List Event, ((.go 2 :: later).foldl Traffic.next traffic).Follows 2
          ⟨.fresh, onlyScript, 1⟩ ⟨⟨"psfunc-functions-/s", false⟩, 1⟩ := by
  intro traffic
  obtain ⟨one, two⟩ := Traffic.extracts_bothWays
  have joins : traffic.tasks.map (·.stage.joins?) =
      [none, none, some (⟨.fresh, onlyScript, 1⟩, "psfunc-functions-/s")] := by
    decide +kernel
  obtain ⟨caller, there, joining⟩ : ∃ task, traffic.tasks[2]? = some task ∧
      task.stage.joins? = _ := Traffic.exists_of_map joins rfl
  obtain ⟨-, -, follows⟩ := one_extraction_for_a_slot (Scene.atRest_ofScript "function A \x7b\x7d")
    Traffic.bothWays
  exact ⟨one, two, follows 2 caller _ _ 1 _ there (Stage.eq_join joining) two.leads rfl⟩

/-- A load that the cache may answer and one that it may not extract one script for one key at the
same time. -/
theorem two_extractions_for_a_key :
    ¬ ∀ (scene : Scene) (events : List Event) (one two : Nat) (ticket held : Ticket),
      scene.session.AtRest →
        (events.foldl Traffic.next (.quiet scene)).Extracts one ticket →
          (events.foldl Traffic.next (.quiet scene)).Extracts two held →
            ticket.slot.key = held.slot.key → one = two := by
  intro claim
  obtain ⟨one, two⟩ := Traffic.extracts_bothWays
  have same := claim _ _ 0 1 _ _ (Scene.atRest_ofScript _) one two rfl
  cases same

end ScriptRoster
