import ScriptRoster.Proofs.Cache.Asking
import ScriptRoster.Proofs.Session.Story

/-!
# Where names come from

A load is told names by its script, by another load that has made the same key, or by the store, and
then under the key that it has made itself. So in every order of steps the names that it answers were
found in a script that has this key, or they were put under this key from elsewhere: what the store
holds under another key, and what other loads are promised for another key, never reaches it.
-/

namespace ScriptRoster

open Cache Files

/-- A key of the script at a path, as it is made at some time. -/
def Profile.Makes (profile : Profile) (path : Path) (key : String) : Prop :=
  ∃ time, key = keyAt profile.keyPrefix profile.keyMode path time

/-- Which names were put into the store from elsewhere, and under which keys. -/
abbrev Foreign := String → List String → Prop

/-- Names that are told under a key: they were put there from elsewhere, or found in a script that has
this key. -/
def Profile.Tells (profile : Profile) (foreign : Foreign) (reads : Reads) (key : String)
    (names : List String) : Prop :=
  foreign key names ∨ ∃ path, profile.Makes path key ∧ Drawn profile reads path names

/-- Names that come to a load of the script at a path which has made one of some keys: they were found
in the script, or are told under the key. -/
def Profile.Comes (profile : Profile) (foreign : Foreign) (reads : Reads) (path : Path)
    (own : String → Prop) (names : List String) : Prop :=
  Drawn profile reads path names ∨ ∃ key, own key ∧ profile.Tells foreign reads key names

namespace Cache

namespace World

variable {before middle after : World} {key : String} {own others : String → Prop}

/-- Between two worlds the store was asked for some keys only, if for any. -/
def AsksFor (own : String → Prop) (before after : World) : Prop :=
  ∃ asked, after.calls = before.calls ++ asked ∧ ∀ call ∈ asked, own call.1.key

theorem asksFor_of_calls_eq (same : after.calls = before.calls) : AsksFor own before after :=
  ⟨[], by rw [same, List.append_nil], nofun⟩

theorem AsksFor.mono (asks : AsksFor own before after) (h : ∀ key, own key → others key) :
    AsksFor others before after := by
  obtain ⟨asked, calls, among⟩ := asks
  exact ⟨asked, calls, fun call member => h _ (among call member)⟩

theorem Asked.asksFor {these : List Call} (asked : Asked these before after)
    (among : ∀ call ∈ these, own call.key) : AsksFor own before after := by
  obtain ⟨calls, grown, told⟩ := asked
  refine ⟨calls, grown, ?_⟩
  intro call member
  exact among call.1 (told ▸ List.mem_map_of_mem member)

end World

end Cache

/-- Whether what is changed in a world puts nothing into the folder of its store but what is known
to. -/
def Cache.World.Takes (foreign : Foreign) (before after : World) : Prop :=
  ∀ folder, before.store = .folder folder → ∀ key names, after.HoldsNames key names →
    before.HoldsNames key names ∨ foreign key names

namespace Stage

/-- The key that a load has in hand. -/
def key? : Stage → Option String
  | .lookUp _ key | .drop _ key | .join _ key => some key
  | .await _ ticket | .lookAgain _ ticket | .keep _ ticket _ | .leave _ ticket _
  | .publish _ ticket _ => some ticket.slot.key
  | .read _ ticket | .callSource _ ticket _ | .extract _ ticket _ => ticket.map (·.slot.key)
  | _ => none

/-- What a load has read. -/
def content? : Stage → Option String
  | .callSource _ _ content | .extract _ _ content => some content
  | _ => none

/-- The names that a load ends with or has answered. -/
def lists? : Stage → Option (List String)
  | .finish _ (.ok report) | .done (.loaded (.ok report)) => some report.names
  | _ => none

/-- Whether a load has come to its key and gone on, or has been answered. -/
def isKeyed : Stage → Bool
  | .makeKey _ => false
  | .done _ => true
  | stage => stage.errand?.isSome

/-- What is known of a task: its key is one of its script, and what it has in hand for a promise is
told under the key. -/
structure Traced (profile : Profile) (foreign : Foreign) (reads : Reads) (stage : Stage) : Prop where
  keyed : ∀ errand key, stage.errand? = some errand → stage.key? = some key →
    profile.Makes errand.path key
  carried : ∀ ticket report, profile.carried? stage = some (ticket, .ok report) →
    profile.Tells foreign reads ticket.slot.key report.names

/-- What is known of a load of the script at a path that has made one of some keys. -/
structure Tracked (profile : Profile) (foreign : Foreign) (reads : Reads) (path : Path)
    (own : String → Prop) (stage : Stage) : Prop where
  works : ∀ errand, stage.errand? = some errand → errand.path = path
  made : ∀ key, stage.key? = some key → own key
  read : ∀ content, stage.content? = some content → (path, content) ∈ reads
  told : ∀ names, stage.lists? = some names → profile.Comes foreign reads path own names

end Stage

section Steps

variable {profile : Profile} {foreign : Foreign} {reads later : Reads} {path : Path} {key : String}
  {own : String → Prop} {names : List String} {scene there : Scene} {stage next : Stage}
  {request : Request}

theorem Profile.Tells.mono (tells : profile.Tells foreign reads key names) (h : reads ⊆ later) :
    profile.Tells foreign later key names := by
  rcases tells with elsewhere | ⟨path, makes, drawn⟩
  · exact .inl elsewhere
  · exact .inr ⟨path, makes, drawn.mono h⟩

theorem Profile.Comes.mono (comes : profile.Comes foreign reads path own names) (h : reads ⊆ later) :
    profile.Comes foreign later path own names := by
  rcases comes with drawn | ⟨key, mine, tells⟩
  · exact .inl (drawn.mono h)
  · exact .inr ⟨key, mine, tells.mono h⟩

theorem Stage.Traced.mono (traced : stage.Traced profile foreign reads) (h : reads ⊆ later) :
    stage.Traced profile foreign later where
  keyed := traced.keyed
  carried ticket report carries := (traced.carried ticket report carries).mono h

theorem Stage.Tracked.mono (tracked : stage.Tracked profile foreign reads path own)
    (h : reads ⊆ later) : stage.Tracked profile foreign later path own where
  works := tracked.works
  made := tracked.made
  read content held := h (tracked.read content held)
  told names same := (tracked.told names same).mono h

/-! ## Keys -/

theorem Stage.key_keyed (errand : Errand) (key : String) : (errand.keyed key).key? = some key := by
  unfold Errand.keyed
  cases errand.kind <;> rfl

theorem Stage.key_extracted (errand : Errand) (ticket : Option Ticket)
    (result : Except ExtractionError Report) (held : (Scene.extracted errand ticket result).key? =
      some key) : ticket.map (·.slot.key) = some key := by
  cases ticket with
  | none => cases held
  | some ticket => cases result <;> exact held

/-- A load that moves on keeps the key that it has in hand, or has just made it. -/
theorem Move.key_or_made (move : Move scene stage there next) (held : next.key? = some key) :
    stage.key? = some key ∨ ∃ errand, stage = .makeKey errand ∧
      scene.session.keyOf scene.world.host errand.path = .ok key := by
  cases move with
  | @keyed errand made same =>
      rw [Stage.key_keyed] at held
      cases held
      exact .inr ⟨errand, rfl, same⟩
  | @led errand =>
      refine .inl ?_
      cases reuse : errand.reuse <;> rw [reuse] at held <;> exact held
  | keyless | hit | handed | published => cases held
  | unreadable | drawn => exact .inl (Stage.key_extracted _ _ _ held)
  | missed | dropped | joined | promised | waited | lateHit | missedAgain | opened | called | stored
  | left => exact .inl held

theorem Stage.isKeyed_extracted (errand : Errand) (ticket : Option Ticket)
    (result : Except ExtractionError Report) :
    (Scene.extracted errand ticket result).isKeyed = true := by
  cases ticket with
  | none => rfl
  | some ticket => cases result <;> rfl

/-- A load that moves on has been at its key. -/
theorem Move.isKeyed (move : Move scene stage there next) : next.isKeyed = true := by
  cases move with
  | @keyed errand =>
      unfold Errand.keyed
      cases errand.kind <;> rfl
  | @led errand => cases errand.reuse <;> rfl
  | unreadable | drawn => exact Stage.isKeyed_extracted _ _ _
  | keyless | hit | missed | dropped | joined | promised | handed | waited | lateHit | missedAgain
  | opened | called | stored | left | published => rfl

/-- A load asks the store for nothing but the key that it has in hand. -/
theorem Move.asksFor (move : Move scene stage there next) :
    scene.world.AsksFor (stage.key? = some ·) there.world := by
  have one : ∀ {call : Call} {world : World}, stage.key? = some call.key →
      scene.world.Asked [call] world → scene.world.AsksFor (stage.key? = some ·) world := by
    intro call world same asked
    refine asked.asksFor ?_
    intro other member
    rw [List.mem_singleton.mp member]
    exact same
  cases move with
  | keyed | joined | promised | handed | led | waited | opened | unreadable | left | published =>
      exact World.asksFor_of_calls_eq rfl
  | keyless _ aside | called aside | drawn aside => exact World.asksFor_of_calls_eq aside.calls
  | hit found | missed found | missedAgain found => exact one rfl (World.asked_of_names? found)
  | lateHit found aside => exact one rfl ((World.asked_of_names? found).of_calls_eq aside.calls)
  | dropped aside => exact one rfl ((World.asked_forget _ _).of_calls_eq aside.calls)
  | stored aside => exact one rfl ((World.asked_keep _ _ _).of_calls_eq aside.calls)

/-! ## What is told -/

/-- What the store holds after a step of a load it held before, or the load has kept what it found
for its promise. -/
theorem Move.holdsNames (move : Move scene stage there next)
    (held : there.world.HoldsNames key names) :
    scene.world.HoldsNames key names ∨ ∃ errand ticket report,
      stage = .keep errand ticket report ∧ key = ticket.slot.key ∧ names = report.names := by
  cases move with
  | keyed | joined | promised | handed | led | waited | opened | unreadable | left | published =>
      exact .inl held
  | keyless _ aside | called aside | drawn aside => exact .inl (aside.holdsNames_iff.mp held)
  | hit found | missed found | missedAgain found =>
      exact .inl ((World.sameStock_of_names? found).holdsNames_iff.mp held)
  | lateHit found aside =>
      have between := aside.holdsNames_iff.mp held
      exact .inl ((World.sameStock_of_names? found).holdsNames_iff.mp between)
  | dropped aside => exact .inl (World.holdsNames_of_forget (aside.holdsNames_iff.mp held))
  | @stored errand ticket report world aside =>
      rcases World.holdsNames_of_keep (aside.holdsNames_iff.mp held) with ⟨rfl, rfl⟩ | before
      · exact .inr ⟨errand, ticket, report, rfl, rfl, rfl⟩
      · exact .inl before

/-- What comes into the store from elsewhere, a store in memory is out of reach for. -/
theorem Cache.World.Takes.holdsNames {before after : World} (takes : before.Takes foreign after)
    (store : after.store = before.store) (held : after.HoldsNames key names) :
    before.HoldsNames key names ∨ foreign key names := by
  cases kind : before.store with
  | folder folder => exact takes folder kind key names held
  | memory entries =>
      refine .inl (Spares.holdsNames (fun folder same => ?_) store held)
      cases kind.symm.trans same

/-- What the store holds after a step outside of loads it held before, or it was put there from
elsewhere. -/
theorem Act.holdsNames (act : Act request scene stage there next)
    (takes : stage.calls = true → scene.world.Takes foreign there.world)
    (held : there.world.HoldsNames key names) :
    scene.world.HoldsNames key names ∨ foreign key names := by
  cases act with
  | overtaken | begun | refused | unlisted | rested => exact .inl held
  | repointed _ aside | resolved aside | located _ aside | recorded _ aside | discarded _ aside
  | listed _ _ _ aside | concluded aside => exact .inl (aside.holdsNames_iff.mp held)
  | spawned store | watched store => exact (takes rfl).holdsNames store held
  | ended calls store => exact (takes calls).holdsNames store held

/-- What a load has in hand after it has looked again the store held under the key of its promise. -/
theorem Move.holdsNames_of_lookAgain {errand : Errand} {ticket held : Ticket} {report : Report}
    (move : Move scene (.lookAgain errand ticket) there next)
    (carries : profile.carried? next = some (held, .ok report)) :
    held = ticket ∧ scene.world.HoldsNames ticket.slot.key report.names := by
  cases move with
  | lateHit found =>
      cases carries
      exact ⟨rfl, World.holdsNames_of_names? found⟩
  | missedAgain => cases carries

theorem Act.key_eq_none (act : Act request scene stage there next) : next.key? = none := by
  cases act with
  | located | overtaken =>
      unfold Scene.configured
      split <;> rfl
  | repointed | resolved | begun | refused | recorded | discarded | listed | unlisted | spawned
  | watched | ended | concluded | rested => rfl

/-- A script that can be read is recorded with what it holds. -/
theorem mem_readings {task : Task} {errand : Errand} {ticket : Option Ticket}
    {content : String} (stage : task.stage = .read errand ticket)
    (read : readScript scene.world.host.files scene.world.host.cwd errand.path = .ok content) :
    (errand.path, content) ∈ task.readings scene := by
  simp only [Task.readings, stage, read]
  exact List.mem_singleton_self _

/-- What is found in a script was found in something read there. -/
theorem Profile.drawn_of_drawAt {host : Host} {report : Report}
    (drawn : profile.drawAt host path = .ok report)
    (heard : ∀ content, readScript host.files host.cwd path = .ok content → (path, content) ∈ reads) :
    Drawn profile reads path report.names := by
  unfold Profile.drawAt at drawn
  cases read : readScript host.files host.cwd path with
  | error error =>
      rw [read] at drawn
      cases drawn
  | ok content =>
      rw [read] at drawn
      have found : profile.draw content = .ok report := drawn
      exact ⟨content, heard content read, by rw [found]; rfl⟩

/-- What a load has in hand after a step is told under its key. -/
theorem Move.traced (move : Move scene stage there next) (works : scene.session.profile = profile)
    (stock : ∀ key names, scene.world.HoldsNames key names → profile.Tells foreign reads key names)
    (heard : ∀ errand ticket content, stage = .read errand ticket →
      readScript scene.world.host.files scene.world.host.cwd errand.path = .ok content →
        (errand.path, content) ∈ reads)
    (traced : stage.Traced profile foreign reads) : next.Traced profile foreign reads := by
  constructor
  · intro errand key loads held
    obtain ⟨kept, before, after⟩ := move.exists_errand
    cases after.symm.trans loads
    rcases move.key_or_made held with had | ⟨_, rfl, made⟩
    · exact traced.keyed errand key before had
    · cases before
      rw [Session.keyOf, works] at made
      exact exists_keyAt_of_scriptKey made
  · intro ticket report carries
    rcases move.carried works carries with same | ⟨errand, rfl, drawn⟩ | ⟨errand, rfl⟩
    · exact traced.carried ticket report same
    · refine .inr ⟨errand.path, traced.keyed errand _ rfl rfl, ?_⟩
      exact Profile.drawn_of_drawAt drawn.symm fun content => heard errand _ content rfl
    · obtain ⟨-, held⟩ := move.holdsNames_of_lookAgain carries
      exact stock _ _ held

/-- Outside of loads nothing is in hand. -/
theorem Act.traced (act : Act request scene stage there next) :
    next.Traced profile foreign reads where
  keyed errand key _ held := by
    rw [act.key_eq_none] at held
    cases held
  carried ticket report carries := by
    have owes := Profile.owes_of_carried carries
    rw [act.owes] at owes
    cases owes

/-! ## A load of a script -/

theorem Stage.lists_keyed (errand : Errand) (key : String) : (errand.keyed key).lists? = none := by
  unfold Errand.keyed
  cases errand.kind <;> rfl

/-- A load that is not done for a promise ends with what it has extracted. -/
theorem Stage.lists_extracted {errand : Errand} {ticket : Option Ticket}
    {result : Except ExtractionError Report}
    (told : (Scene.extracted errand ticket result).lists? = some names) :
    ticket = none ∧ ∃ report, result = .ok report ∧ names = report.names := by
  cases ticket with
  | none =>
      cases result with
      | ok report =>
          cases told
          exact ⟨rfl, report, rfl, rfl⟩
      | error error => cases told
  | some ticket => cases result <;> cases told

theorem Stage.content_keyed (errand : Errand) (key : String) :
    (errand.keyed key).content? = none := by
  unfold Errand.keyed
  cases errand.kind <;> rfl

theorem Stage.content_extracted (errand : Errand) (ticket : Option Ticket)
    (result : Except ExtractionError Report) :
    (Scene.extracted errand ticket result).content? = none := by
  cases ticket with
  | none => rfl
  | some ticket => cases result <;> rfl

/-- What a load has in hand after a step it has read before, or it has just read it. -/
theorem Move.content (move : Move scene stage there next) {content : String}
    (held : next.content? = some content) :
    stage.content? = some content ∨ ∃ errand ticket, stage = .read errand ticket ∧
      readScript scene.world.host.files scene.world.host.cwd errand.path = .ok content := by
  cases move with
  | keyed =>
      rw [Stage.content_keyed] at held
      cases held
  | @led errand => cases reuse : errand.reuse <;> rw [reuse] at held <;> cases held
  | opened read =>
      cases held
      exact .inr ⟨_, _, rfl, read⟩
  | called => exact .inl held
  | unreadable | drawn =>
      rw [Stage.content_extracted] at held
      cases held
  | keyless | hit | missed | dropped | joined | promised | handed | waited | lateHit | missedAgain
  | stored | left | published => cases held

/-- A load that ends was told the names by the store, under its key, or the promise that it waits for
was kept with them, or it has found them itself, for a promise or without one. -/
theorem Move.told (move : Move scene stage there next) (told : next.lists? = some names) :
    (∃ errand key, stage = .lookUp errand key ∧ scene.world.HoldsNames key names) ∨
      (∃ errand ticket slot led report, stage = .await errand ticket ∧ names = report.names ∧
        scene.session.promises[ticket.promise]? = some ⟨slot, led, some (.ok report)⟩) ∨
      (∃ errand ticket report, stage = .publish errand ticket (.ok report) ∧
        names = report.names) ∨
      ∃ errand content report, stage = .extract errand none content ∧ names = report.names ∧
        scene.session.profile.draw content = .ok report := by
  cases move with
  | keyed =>
      rw [Stage.lists_keyed] at told
      cases told
  | hit found =>
      cases told
      exact .inl ⟨_, _, rfl, World.holdsNames_of_names? found⟩
  | @handed errand ticket slot led result kept =>
      cases result with
      | ok report =>
          cases told
          exact .inr (.inl ⟨errand, ticket, slot, led, report, rfl, rfl, kept⟩)
      | error error => cases told
  | @led errand => cases reuse : errand.reuse <;> rw [reuse] at told <;> cases told
  | unreadable =>
      obtain ⟨-, report, ok, -⟩ := Stage.lists_extracted told
      cases ok
  | @drawn errand ticket content =>
      obtain ⟨rfl, report, ok, same⟩ := Stage.lists_extracted told
      exact .inr (.inr (.inr ⟨errand, content, report, rfl, same, ok⟩))
  | @published errand ticket result =>
      cases result with
      | ok report =>
          cases told
          exact .inr (.inr (.inl ⟨errand, ticket, report, rfl, rfl⟩))
      | error error => cases told
  | keyless | missed | dropped | joined | promised | waited | lateHit | missedAgain | opened
  | called | stored | left => cases told

/-- A load that goes on keeps to its script and to its key, and it ends with what it is told under
its key, or with what it has found in the script. -/
theorem Move.tracked (move : Move scene stage there next) (minds : stage.Minds scene.session)
    (stock : ∀ key names, scene.world.HoldsNames key names → profile.Tells foreign reads key names)
    (kept : ∀ (id : Nat) slot led report,
      scene.session.promises[id]? = some ⟨slot, led, some (.ok report)⟩ →
        profile.Tells foreign reads slot.key report.names)
    (works : scene.session.profile = profile)
    (heard : ∀ errand ticket content, stage = .read errand ticket →
      readScript scene.world.host.files scene.world.host.cwd errand.path = .ok content →
        (errand.path, content) ∈ reads)
    (made : ∀ errand key, stage = .makeKey errand →
      scene.session.keyOf scene.world.host errand.path = .ok key → own key)
    (traced : stage.Traced profile foreign reads)
    (tracked : stage.Tracked profile foreign reads path own) :
    next.Tracked profile foreign reads path own := by
  constructor
  · intro errand loads
    obtain ⟨kept, before, after⟩ := move.exists_errand
    cases after.symm.trans loads
    exact tracked.works errand before
  · intro key held
    rcases move.key_or_made held with had | ⟨errand, same, key⟩
    · exact tracked.made _ had
    · exact made errand _ same key
  · intro content held
    rcases move.content held with had | ⟨errand, ticket, rfl, read⟩
    · exact tracked.read content had
    · rw [← tracked.works errand rfl]
      exact heard errand ticket content rfl read
  · intro names told
    rcases move.told told with ⟨errand, key, rfl, held⟩ |
      ⟨errand, ticket, slot, led, report, rfl, rfl, there⟩ | ⟨errand, ticket, report, rfl, rfl⟩ |
      ⟨errand, content, report, rfl, rfl, drawn⟩
    · exact .inr ⟨key, tracked.made key rfl, stock key names held⟩
    · obtain rfl : slot = ticket.slot := (minds.awaits ticket rfl).slot_eq there
      exact .inr ⟨ticket.slot.key, tracked.made _ rfl, kept _ _ _ _ there⟩
    · exact .inr ⟨ticket.slot.key, tracked.made _ rfl, traced.carried ticket report rfl⟩
    · rw [works] at drawn
      exact .inl ⟨content, tracked.read content rfl, by rw [drawn]; rfl⟩

theorem Stage.not_isKeyed_of_begins {kind : LoadKind} (begins : stage.begins? request = some kind) :
    stage.isKeyed = false := by
  cases stage <;> first | rfl | cases begins

theorem Stage.not_isKeyed_of_calls (calls : stage.calls = true) : stage.isKeyed = false := by
  cases stage <;> first | rfl | cases calls

/-- A load that is answered with names has ended with them. -/
theorem LoadKind.lists_answer {kind : LoadKind} {result : Except ExtractionError Report}
    (told : (Stage.done (kind.answer (result.mapError .extraction))).lists? = some names) :
    ∃ report, result = .ok report ∧ names = report.names := by
  cases result with
  | ok report => cases kind <;> cases told <;> exact ⟨report, rfl, rfl⟩
  | error error => cases kind <;> cases told

/-- A load that is too late is answered with no names. -/
theorem LoadKind.lists_stale (kind : LoadKind) (result : Except ExtractionError Report) :
    (Stage.done (kind.answer (stale result))).lists? = none := by
  cases result <;> cases kind <;> rfl

/-- The making of a key is a step of a load. -/
theorem Act.stage_ne_makeKey (act : Act request scene stage there next) (errand : Errand) :
    stage ≠ .makeKey errand := by
  rintro rfl
  cases act with
  | begun begins | refused begins => cases begins
  | ended calls => cases calls

/-- A load that has ended, and one that has been answered, asks the store for nothing. -/
theorem Act.calls_eq (act : Act request scene stage there next) (keyed : stage.isKeyed = true) :
    there.world.calls = scene.world.calls := by
  cases act with
  | repointed | resolved | located | overtaken | listed | unlisted | spawned | watched
  | concluded => cases keyed
  | begun | refused | rested => rfl
  | ended calls =>
      rw [Stage.not_isKeyed_of_calls calls] at keyed
      cases keyed
  | recorded _ aside | discarded _ aside => exact aside.calls

/-- A load that has ended answers what it has ended with, or that it is too late. -/
theorem Act.tracked (act : Act request scene stage there next) (keyed : stage.isKeyed = true)
    (tracked : stage.Tracked profile foreign reads path own) :
    next.isKeyed = true ∧ next.Tracked profile foreign reads path own := by
  cases act with
  | repointed | resolved | located | overtaken | listed | unlisted | spawned | watched
  | concluded => cases keyed
  | begun begins | refused begins =>
      rw [Stage.not_isKeyed_of_begins begins] at keyed
      cases keyed
  | ended calls =>
      rw [Stage.not_isKeyed_of_calls calls] at keyed
      cases keyed
  | recorded =>
      refine ⟨rfl, nofun, nofun, nofun, fun names told => ?_⟩
      obtain ⟨report, rfl, rfl⟩ := LoadKind.lists_answer told
      exact tracked.told report.names rfl
  | discarded =>
      refine ⟨rfl, nofun, nofun, nofun, fun names told => ?_⟩
      rw [LoadKind.lists_stale] at told
      cases told
  | rested => exact ⟨rfl, tracked⟩

end Steps

namespace Traffic

/-- What an event may count on: whatever comes into the folder of the store from elsewhere is known
to. -/
def Admits (foreign : Foreign) (traffic : Traffic) : Event → Prop
  | .go index => ∀ task, traffic.tasks[index]? = some task → task.stage.calls = true →
      traffic.scene.world.Takes foreign (task.next traffic.scene).1.world
  | .edit host => traffic.scene.world.Takes foreign { traffic.scene.world with host }
  | _ => True

/-- Where nothing comes into a folder from elsewhere, there is nothing to know. -/
theorem May.admits {foreign : Foreign} {traffic : Traffic} {event : Event}
    (may : traffic.May event) : traffic.Admits foreign event := by
  cases event with
  | go index =>
      intro task there calls folder same key names held
      exact .inl ((may task there).calls calls folder same key names held)
  | edit host => exact fun folder same key names held => .inl (may folder same key names held)
  | ask | cancel => trivial

/-- What holds of names in every order of steps: those that the store holds under a key, that a promise
for the key was kept with or that a task has in hand for it are told under the key. -/
structure Traced (profile : Profile) (foreign : Foreign) (traffic : Traffic) : Prop where
  shared : traffic.Shared
  works : traffic.scene.session.profile = profile
  stock : ∀ key names, traffic.scene.world.HoldsNames key names →
    profile.Tells foreign traffic.reads key names
  kept : ∀ (id : Nat) slot led report,
    traffic.scene.session.promises[id]? = some ⟨slot, led, some (.ok report)⟩ →
      profile.Tells foreign traffic.reads slot.key report.names
  stages : ∀ (index : Nat) (task : Task), traffic.tasks[index]? = some task →
    task.stage.Traced profile foreign traffic.reads

variable {profile : Profile} {foreign : Foreign} {traffic : Traffic}

/-- At first a store tells nothing but what was put there from elsewhere. -/
theorem traced_quiet (profile : Profile) {world : World}
    (stocked : ∀ key names, world.HoldsNames key names → foreign key names) :
    (quiet ⟨.start profile, world⟩).Traced profile foreign where
  shared := shared_quiet ⟨rfl, nofun⟩
  works := rfl
  stock key names held := .inl (stocked key names held)
  kept id slot led report there := by
    rw [quiet, Session.start, List.getElem?_nil] at there
    cases there
  stages index task there := by
    rw [quiet, List.getElem?_nil] at there
    cases there

theorem Traced.rests (traced : traffic.Traced profile foreign) {event : Event}
    (rests : traffic.Rests event)
    (takes : traffic.scene.world.Takes foreign (traffic.next event).scene.world) :
    (traffic.next event).Traced profile foreign := by
  constructor
  · exact traced.shared.rests rests
  · rw [rests.session]
    exact traced.works
  · intro key names held
    rw [rests.reads]
    rcases takes.holdsNames rests.store held with before | elsewhere
    · exact traced.stock key names before
    · exact .inl elsewhere
  · rw [rests.session, rests.reads]
    exact traced.kept
  · intro index task there
    rw [rests.reads]
    rcases rests.tasks index task there with ⟨old, before, -, same⟩ | ⟨request, -, rfl⟩
    · rw [← same]
      exact traced.stages index old before
    · exact ⟨nofun, nofun⟩

/-- A step of a task leaves names where they belong; if it is a step of a load, the load is followed
on. -/
theorem Traced.advance (traced : traffic.Traced profile foreign) {index : Nat} {task : Task}
    (there : traffic.tasks[index]? = some task)
    (takes : task.stage.calls = true →
      traffic.scene.world.Takes foreign (task.next traffic.scene).1.world) :
    (traffic.advance index task).Traced profile foreign := by
  have grown : traffic.reads ⊆ (traffic.advance index task).reads := List.subset_append_left _ _
  have standing := traced.stages index task there
  constructor
  · exact traced.shared.advance there
  · exact (task.turn_next traffic.scene).profile_eq.trans traced.works
  · intro key names held
    rcases task.move_or_act traffic.scene with move | act
    · rcases move.holdsNames held with before | ⟨errand, ticket, report, keeping, rfl, rfl⟩
      · exact (traced.stock key names before).mono grown
      · refine (standing.carried ticket report ?_).mono grown
        rw [keeping]
        rfl
    · rcases act.holdsNames takes held with before | elsewhere
      · exact (traced.stock key names before).mono grown
      · exact .inl elsewhere
  · intro id slot led report there
    rcases (task.handling_next traffic.scene).kept there with before | ⟨errand, publishing⟩
    · exact (traced.kept id slot led report before).mono grown
    · refine (standing.carried ⟨slot, id⟩ report ?_).mono grown
      rw [publishing]
      rfl
  · intro other later now
    rcases getElem?_advance now with ⟨rfl, rfl⟩ | ⟨-, before⟩
    · rcases task.move_or_act traffic.scene with move | act
      · refine move.traced traced.works (fun key names held => (traced.stock key names held).mono grown)
          ?_ (standing.mono grown)
        intro errand ticket content reading read
        exact List.mem_append_right _ (mem_readings reading read)
      · exact act.traced
    · exact (traced.stages other later before).mono grown

/-- Whatever may happen, names stay under their keys. -/
theorem Traced.next (traced : traffic.Traced profile foreign) {event : Event}
    (admits : traffic.Admits foreign event) : (traffic.next event).Traced profile foreign := by
  have still : traffic.scene.world.Takes foreign traffic.scene.world :=
    fun _ _ _ _ held => .inl held
  cases event with
  | ask request => exact traced.rests (traffic.rests_ask request) still
  | cancel index => exact traced.rests (traffic.rests_cancel index) still
  | edit host => exact traced.rests (traffic.rests_edit host) admits
  | go index =>
      cases there : traffic.tasks[index]? with
      | some task =>
          rw [next_go there]
          exact traced.advance there (admits task there)
      | none =>
          rw [next_go_none there]
          exact traced

/-! ## One load among all that happens -/

/-- A task is a load of the script at a path that has made one of some keys, or it was one. -/
def Tracks (profile : Profile) (foreign : Foreign) (path : Path) (own : String → Prop)
    (traffic : Traffic) (index : Nat) : Prop :=
  ∃ task, traffic.tasks[index]? = some task ∧ task.stage.isKeyed = true ∧
    task.stage.Tracked profile foreign traffic.reads path own

variable {path : Path} {own : String → Prop} {index : Nat} {task : Task}

/-- A load that has come to its key stays with it through a step. -/
theorem Traced.tracks_advance (traced : traffic.Traced profile foreign)
    (there : traffic.tasks[index]? = some task)
    (tracked : task.stage.Tracked profile foreign traffic.reads path own)
    (keyed : task.stage.isKeyed = true ∨ ∃ errand, task.stage = .makeKey errand)
    (made : ∀ errand key, task.stage = .makeKey errand →
      traffic.scene.session.keyOf traffic.scene.world.host errand.path = .ok key → own key) :
    (traffic.advance index task).Tracks profile foreign path own index := by
  have grown : traffic.reads ⊆ (traffic.advance index task).reads := List.subset_append_left _ _
  refine ⟨_, getElem?_advance_self there, ?_⟩
  rcases task.move_or_act traffic.scene with move | act
  · refine ⟨move.isKeyed, move.tracked (traced.shared.minds index task there) ?_ ?_ traced.works ?_
      made ((traced.stages index task there).mono grown) (tracked.mono grown)⟩
    · exact fun key names held => (traced.stock key names held).mono grown
    · exact fun id slot led report kept => (traced.kept id slot led report kept).mono grown
    · exact fun errand ticket content reading read =>
        List.mem_append_right _ (mem_readings reading read)
  · rcases keyed with keyed | ⟨errand, making⟩
    · exact act.tracked keyed (tracked.mono grown)
    · exact absurd making (act.stage_ne_makeKey errand)

/-- A load that makes its key can be followed from then on. -/
theorem Traced.tracks_go (traced : traffic.Traced profile foreign) {errand : Errand}
    (there : traffic.tasks[index]? = some task) (making : task.stage = .makeKey errand)
    (made : ∀ key, profile.keyOf traffic.scene.world.host errand.path = .ok key → own key) :
    (traffic.next (.go index)).Tracks profile foreign errand.path own index := by
  rw [next_go there]
  apply traced.tracks_advance there
  · rw [making]
    refine ⟨?_, nofun, nofun, nofun⟩
    rintro _ ⟨⟩
    rfl
  · exact .inr ⟨errand, making⟩
  · rintro other key again same
    cases making.symm.trans again
    rw [Session.keyOf, traced.works] at same
    exact made key same

/-- A load is tracked through every event. -/
theorem Traced.tracks_next (traced : traffic.Traced profile foreign)
    (tracks : traffic.Tracks profile foreign path own index) (event : Event) :
    (traffic.next event).Tracks profile foreign path own index := by
  obtain ⟨task, there, keyed, tracked⟩ := tracks
  rcases traffic.rests_or_advances event with rests | ⟨mover, moving, -, moves, advances⟩
  · obtain ⟨later, now, same⟩ := rests.kept index task there
    refine ⟨later, now, ?_⟩
    rw [rests.reads, same]
    exact ⟨keyed, tracked⟩
  · rw [advances]
    by_cases same : mover = index
    · subst same
      cases there.symm.trans moves
      refine traced.tracks_advance there tracked (.inl keyed) ?_
      intro errand key making
      rw [making] at keyed
      cases keyed
    · refine ⟨task, (getElem?_advance_of_ne same).trans there, keyed, tracked.mono ?_⟩
      exact List.subset_append_left _ _

/-- A load is tracked to the end of every run of events. -/
theorem Traced.tracks_run (traced : traffic.Traced profile foreign)
    (tracks : traffic.Tracks profile foreign path own index) {events : List Event}
    (run : Along Traffic.next (Admits foreign) traffic events) :
    (events.foldl Traffic.next traffic).Tracks profile foreign path own index := by
  induction events generalizing traffic with
  | nil => exact tracks
  | cons event events ih =>
      obtain ⟨admits, rest⟩ := run
      exact ih (traced.next admits) (traced.tracks_next tracks event) rest

/-- What a session comes to, from its start, over a store into which nothing has come and nothing
comes but its own names and foreign ones. -/
def Reached (profile : Profile) (foreign : Foreign) (traffic : Traffic) : Prop :=
  ∃ (world : World) (events : List Event),
    (∀ key names, world.HoldsNames key names → foreign key names) ∧
    Along Traffic.next (Admits foreign) (quiet ⟨.start profile, world⟩) events ∧
    events.foldl Traffic.next (quiet ⟨.start profile, world⟩) = traffic

theorem Reached.traced (reached : traffic.Reached profile foreign) :
    traffic.Traced profile foreign := by
  obtain ⟨world, events, stocked, run, rfl⟩ := reached
  apply invariant_run (fun _ _ traced admits => traced.next admits) _ run
  exact traced_quiet profile stocked

/-- What comes of a load that makes its key, whatever else has happened before and happens then. -/
theorem Reached.tracks (reached : traffic.Reached profile foreign) {errand : Errand}
    (there : traffic.tasks[index]? = some task) (making : task.stage = .makeKey errand)
    (made : ∀ key, profile.keyOf traffic.scene.world.host errand.path = .ok key → own key)
    {later : List Event} (run : Along Traffic.next (Admits foreign) traffic (.go index :: later)) :
    ((Event.go index :: later).foldl Traffic.next traffic).Tracks profile foreign errand.path own
      index := by
  obtain ⟨admits, after⟩ := run
  have traced := reached.traced
  exact (traced.next admits).tracks_run (traced.tracks_go there making made) after

/-- A load that is followed asks the store for no key but its own, and is told no names but those that
come to it. -/
theorem Tracks.exists_loading (tracks : traffic.Tracks profile foreign path own index) :
    ∃ loading, traffic.tasks[index]? = some loading ∧
      traffic.scene.world.AsksFor own (loading.next traffic.scene).1.world ∧
      ∀ names, loading.stage.lists? = some names →
        profile.Comes foreign traffic.reads path own names := by
  obtain ⟨loading, there, keyed, tracked⟩ := tracks
  refine ⟨loading, there, ?_, tracked.told⟩
  rcases loading.move_or_act traffic.scene with move | act
  · exact move.asksFor.mono tracked.made
  · exact World.asksFor_of_calls_eq (act.calls_eq keyed)

end Traffic

end ScriptRoster
