import ScriptRoster.Proofs.Cache.Key
import ScriptRoster.Proofs.Run
import ScriptRoster.Proofs.Session.Alone
import ScriptRoster.Proofs.Session.OneScript

/-!
# The cache is not seen

Several sessions share a store whose keys hold the times of change. If a script that has not changed
its time reads the same, each call tells and leaves what it would without a cache, whatever the
store refuses and whatever happens to the files between the calls. The store stays honest: what it
holds under the key of a path and a time is what the script at that path held at that time.
-/

namespace ScriptRoster

open Cache Files

/-- What the user of a session sees of it. -/
structure View where
  path : PathState
  load : LoadState
  names : List String
  deriving DecidableEq, Repr

def Session.view (session : Session) : View := ⟨session.path, session.load, session.names⟩

/-- What a call tells its caller, but for where the names came from. -/
inductive Told where
  | located (result : Except SessionError Location)
  | loaded (result : Except SessionError (List String))
  | reloaded (result : Except SessionError Nat)

def Answer.told? : Answer → Option Told
  | .located result => some (.located result)
  | .loaded result => some (.loaded (result.map Report.names))
  | .reloaded result => some (.reloaded (result.map Summary.count))
  | .ran .. => none

/-! ## Sessions without a cache -/

namespace View

/-- The view of a session that has been pointed at a script. -/
def pointed (raw : String) (found : Except ResolveError Location) : View :=
  ⟨.ofFound raw found, .idle, []⟩

/-- The view of a session that has recorded the result of a load. -/
def record (view : View) : Except ExtractionError (List String) → View
  | .ok names => { view with load := .loaded, names }
  | .error error => { view with load := .failed error.message, names := [] }

variable (sources : List Source) (preference : Preference) (host : Host)

/-- Extracts the script from its file. -/
def extract (view : View) : View × Except SessionError (List String) :=
  match view.path with
  | .ready location =>
      let extraction :=
        Extraction.ofFile host.files host.cwd sources preference location.resolved
      let result := extraction.outcome.map Extracted.names
      (view.record result, result.mapError .extraction)
  | _ => (view, .error .notConfigured)

/-- Does what a session is asked to, and extracts the script on every load. -/
def perform (view : View) : Request → View × Option Told
  | .setScript raw =>
      let found := Location.resolve host raw
      (pointed raw found, some (.located (found.mapError .path)))
  | .configure raw _ =>
      match Location.resolve host raw with
      | .ok location =>
          let (view, result) := (pointed raw (.ok location)).extract sources preference host
          (view, some (.loaded result))
      | .error error => (pointed raw (.error error), some (.loaded (.error (.path error))))
  | .load _ =>
      let (view, result) := view.extract sources preference host
      (view, some (.loaded result))
  | .reload =>
      let (view, result) := view.extract sources preference host
      (view, some (.reloaded (result.map List.length)))
  | .run _ => (view, none)

end View

/-- What is seen of several sessions, and of each call: what it told and what it left. -/
structure Scenery where
  views : List View
  log : List (Option Told × View)

/-- What is seen of some sessions that have no script yet. -/
def Scenery.start (count : Nat) : Scenery :=
  ⟨List.replicate count ⟨.unconfigured, .idle, []⟩, []⟩

/-- Something that happens to sessions with common surroundings. -/
inductive Deed where
  | ask (session : Nat) (request : Request)
  /-- Files and anything else of the host are changed from outside. -/
  | edit (host : Host)

/-- What happens to sessions without a cache on a host. -/
def Scenery.next (sources : List Source) (preference : Preference) (host : Host)
    (scenery : Scenery) : Deed → Scenery
  | .ask index request =>
      match scenery.views[index]? with
      | some view =>
          let (view, told) := view.perform sources preference host request
          ⟨scenery.views.set index view, scenery.log ++ [(told, view)]⟩
      | none => scenery
  | .edit _ => scenery

/-! ## Sessions that share a store -/

/-- Sessions with common surroundings, and a record of the calls. -/
structure Fleet where
  world : World
  sessions : List Session
  log : List (Option Told × View)

namespace Fleet

def start (world : World) (profiles : List Profile) : Fleet :=
  ⟨world, profiles.map Session.start, []⟩

def seen (fleet : Fleet) : Scenery := ⟨fleet.sessions.map Session.view, fleet.log⟩

/-- What happens to sessions that share a store. -/
def next (fleet : Fleet) : Deed → Fleet
  | .ask index request =>
      match fleet.sessions[index]? with
      | some session =>
          let (scene, answer) := Scene.perform ⟨session, fleet.world⟩ request false
          { world := scene.world
            sessions := fleet.sessions.set index scene.session
            log := fleet.log ++ [(answer.bind Answer.told?, scene.session.view)] }
      | none => fleet
  | .edit host => { fleet with world := { fleet.world with host } }

theorem world_next_ask (fleet : Fleet) {index : Nat} {session : Session} {request : Request}
    (there : fleet.sessions[index]? = some session) :
    (fleet.next (.ask index request)).world =
      (Scene.perform ⟨session, fleet.world⟩ request false).1.world := by
  simp only [next, there]

/-- Sessions that share a store, beside sessions without one that find the same host. -/
def beside (profile : Profile) (pair : Fleet × Scenery) (deed : Deed) : Fleet × Scenery :=
  (pair.1.next deed,
    pair.2.next profile.sources profile.preference pair.1.world.host deed)

end Fleet

/-! ## What is counted on -/

/-- What is read at a path, by the time of its last change. -/
abbrev Archive := Path → Int → Except ExtractionError String

/-- Two profiles that differ at most in how functions are called. -/
def Profile.Alike (profile other : Profile) : Prop :=
  ∃ interpreter, other = { profile with interpreter }

/-- What a store holds under the key of a path and a time was found in the script as the archive has
it for them. -/
def Honest (archive : Archive) (profile : Profile) (world : World) : Prop :=
  ∀ path (time : Nat) names, path.IsText →
    world.HoldsNames (keyAt profile.keyPrefix .modified path time) names →
      ((archive path time).bind profile.draw).map Report.names = .ok names

/-- A script whose path is text and that reads as the archive has it for the time of its last
change, which is not before 1970. -/
structure Steady (archive : Archive) (host : Host) (path : Path) : Prop where
  text : path.IsText
  read : ∀ time, scriptTime host path = .ok time →
    0 ≤ time ∧ readScript host.files host.cwd path = archive path time

/-- What a call may count on: the script it loads is steady, and the entry that a reload removes is
not the script itself. -/
structure Session.MayAsk (archive : Archive) (session : Session) (world : World)
    (request : Request) : Prop where
  loads : ∀ name, request ≠ .run name
  steady : ∀ kind location base, session.Asks world.host request kind location base →
    Steady archive world.host location.resolved
  apart : ∀ location base, session.Asks world.host request .reload location base →
    ∀ key, session.profile.keyOf world.host location.resolved = .ok key →
      world.store.Apart world.host key location.resolved

/-- Nothing but loads is asked for, and changes from outside put no names into the store. -/
def Fleet.May (archive : Archive) (fleet : Fleet) : Deed → Prop
  | .ask index request => ∀ session, fleet.sessions[index]? = some session →
      session.MayAsk archive fleet.world request
  | .edit host => ∀ key names, World.HoldsNames { fleet.world with host } key names →
      fleet.world.HoldsNames key names

/-! ## One load -/

section Load

variable {archive : Archive} {profile : Profile} {before after : World} {host : Host} {path : Path}
  {time : Int} {key : String} {kind : LoadKind} {result : Except ExtractionError Report}

theorem Honest.of_sameStock (honest : Honest archive profile before)
    (same : World.SameStock before after) : Honest archive profile after := by
  intro path time names text holds
  exact honest path time names text (same.holdsNames_iff.mp holds)

theorem Honest.of_names? (honest : Honest archive profile before)
    {found : Option (List String)} (asked : before.names? key = (found, after)) :
    Honest archive profile after := honest.of_sameStock (World.sameStock_of_names? asked)

theorem Honest.forget (honest : Honest archive profile before) :
    Honest archive profile (before.forget key).2 := by
  intro path time names text holds
  exact honest path time names text (World.holdsNames_of_forget holds)

/-- An extraction leaves the store honest. -/
theorem Supplies.honest (honest : Honest archive profile before) (text : path.IsText)
    (epoch : 0 ≤ time)
    (read : readScript before.host.files before.host.cwd path = archive path time)
    (supplies : Supplies profile path (keyAt profile.keyPrefix .modified path (keyTime time))
      before result after) :
    Honest archive profile after := by
  intro other moment names otherText holds
  rcases supplies.holdsNames holds with earlier | ⟨same, inScript⟩
  · exact honest other moment names otherText earlier
  · obtain ⟨rfl, rfl⟩ := keyAt_modified_inj otherText text same
    rw [keyTime, Int.toNat_of_nonneg epoch, ← read]
    exact inScript

theorem exists_find_of_scriptTime (known : scriptTime host path = .ok time) :
    ∃ place item, host.files.find host.cwd path = .ok (place, item) := by
  unfold scriptTime at known
  split at known
  · next found => exact ⟨_, _, found⟩
  · next entry _ found => exact ⟨entry.1, entry.2, found⟩
  · cases known

/-- A key that holds the time is made for a time that is known. -/
theorem exists_time_of_keyOf (modified : profile.keyMode = .modified)
    (made : profile.keyOf host path = .ok key) :
    ∃ time, scriptTime host path = .ok time ∧
      key = keyAt profile.keyPrefix .modified path (keyTime time) := by
  rw [Profile.keyOf, modified, scriptKey_modified] at made
  split at made
  · next time known => exact ⟨time, known, (Except.ok.inj made).symm⟩
  · cases made

/-- Names that an honest store holds for a steady script are those in the script. -/
theorem Honest.holdsNames (honest : Honest archive profile before)
    (steady : Steady archive host path) (known : scriptTime host path = .ok time)
    {names : List String}
    (holds : before.HoldsNames (keyAt profile.keyPrefix .modified path (keyTime time)) names) :
    (profile.drawAt host path).map Report.names = .ok names := by
  obtain ⟨epoch, read⟩ := steady.read time known
  have found := honest path (keyTime time) names steady.text holds
  rw [keyTime, Int.toNat_of_nonneg epoch, ← read] at found
  exact found

/-- A load of a steady script finds the names in it, wherever it takes them from, and leaves the
store honest. -/
theorem Loads.honest (modified : profile.keyMode = .modified)
    (honest : Honest archive profile before) (steady : Steady archive before.host path)
    (apart : kind = .reload → ∀ key, profile.keyOf before.host path = .ok key →
      before.store.Apart before.host key path)
    (loads : Loads profile path kind before result after) :
    result.map Report.names = (profile.drawAt before.host path).map Report.names ∧
      Honest archive profile after := by
  cases loads with
  | keyless _ aside => exact ⟨rfl, honest.of_sameStock aside.toSameStock⟩
  | hit made found aside =>
      obtain ⟨time, known, rfl⟩ := exists_time_of_keyOf modified made
      constructor
      · exact (honest.holdsNames steady known (World.holdsNames_of_names? found)).symm
      · exact (honest.of_names? found).of_sameStock aside.toSameStock
  | lateHit made miss found aside =>
      obtain ⟨time, known, rfl⟩ := exists_time_of_keyOf modified made
      have still := honest.of_names? miss
      constructor
      · exact (still.holdsNames steady known (World.holdsNames_of_names? found)).symm
      · exact (still.of_names? found).of_sameStock aside.toSameStock
  | miss made first second supplied =>
      obtain ⟨time, known, rfl⟩ := exists_time_of_keyOf modified made
      obtain ⟨epoch, read⟩ := steady.read time known
      have host :=
        (World.sameStock_of_names? second).host.trans (World.sameStock_of_names? first).host
      constructor
      · rw [supplied.result_eq, host]
      · exact supplied.honest ((honest.of_names? first).of_names? second) steady.text epoch
          (by rw [host, read])
  | fresh made supplied =>
      obtain ⟨time, known, rfl⟩ := exists_time_of_keyOf modified made
      obtain ⟨epoch, read⟩ := steady.read time known
      constructor
      · rw [supplied.result_eq]
      · exact supplied.honest honest steady.text epoch read
  | reload made dropped supplied =>
      have spared := apart rfl _ made
      obtain ⟨time, known, rfl⟩ := exists_time_of_keyOf modified made
      obtain ⟨epoch, read⟩ := steady.read time known
      obtain ⟨place, item, found⟩ := exists_find_of_scriptTime known
      have same := readScript_dropped found spared dropped
      constructor
      · rw [supplied.result_eq, Profile.drawAt, Profile.drawAt, same]
      · exact supplied.honest (honest.forget.of_sameStock dropped.toSameStock) steady.text epoch
          (same.trans read)

end Load

/-! ## Calls and runs -/

/-- A call that shows nothing of the cache, and leaves the session quiet and the store honest. -/
structure Unseen (archive : Archive) (session : Session) (host : Host) (request : Request)
    (outcome : Scene × Option Answer) : Prop where
  same : (outcome.1.session.view, outcome.2.bind Answer.told?) =
    session.view.perform session.profile.sources session.profile.preference host request
  unchanged : outcome.1.session.profile = session.profile
  quiet : outcome.1.session.inFlight = []
  honest : Honest archive session.profile outcome.1.world

section Calls

variable {archive : Archive} {session : Session} {world : World} {request : Request}
  {kind : LoadKind} {location : Location}

/-- Extracting a file is drawing on what can be read there. -/
theorem ofFile_report (profile : Profile) (host : Host) (path : Path) :
    (Extraction.ofFile host.files host.cwd profile.sources profile.preference path).outcome.map
        Report.ofExtracted =
      profile.drawAt host path := by
  simp only [Extraction.ofFile, Profile.drawAt]
  cases readScript host.files host.cwd path <;> rfl

theorem ofFile_names (profile : Profile) (host : Host) (path : Path) :
    (Extraction.ofFile host.files host.cwd profile.sources profile.preference path).outcome.map
        Extracted.names =
      (profile.drawAt host path).map Report.names := by
  rw [← ofFile_report]
  cases (Extraction.ofFile host.files host.cwd profile.sources profile.preference path).outcome <;>
    rfl

/-- Without a cache a load of a script that was found records what is found in it. -/
theorem extract_ready (profile : Profile) (view : View) (host : Host)
    (ready : view.path = .ready location) :
    view.extract profile.sources profile.preference host =
      (view.record ((profile.drawAt host location.resolved).map Report.names),
        ((profile.drawAt host location.resolved).map Report.names).mapError .extraction) := by
  simp only [View.extract, ready, ofFile_names]

/-- Without a cache a load without a script tells so, and changes nothing. -/
theorem extract_unready (profile : Profile) (view : View) (host : Host)
    (unready : ∀ location, view.path ≠ .ready location) :
    view.extract profile.sources profile.preference host = (view, .error .notConfigured) := by
  simp only [View.extract]

/-- To see a result recorded is to record what is seen of it. -/
theorem view_record (session : Session) (result : Except ExtractionError Report)
    (promises : List Promise) :
    Session.view { session.record result with promises } =
      session.view.record (result.map Report.names) := by
  cases result <;> rfl

/-- What a load tells, but for where the names came from. -/
def LoadKind.told (kind : LoadKind) (result : Except SessionError (List String)) : Told :=
  match kind with
  | .reload => .reloaded (result.map List.length)
  | _ => .loaded result

/-- What a load answers tells what it tells without a cache. -/
theorem told?_answer (kind : LoadKind) (result : Except ExtractionError Report) :
    (kind.answer (result.mapError .extraction)).told? =
      some (kind.told ((result.map Report.names).mapError .extraction)) := by
  cases kind <;> cases result <;> rfl

/-- Without a cache, a request that comes to a load extracts the script of the session. -/
theorem perform_view (profile : Profile) {base : Session}
    (asks : session.Asks world.host request kind location base) :
    session.view.perform profile.sources profile.preference world.host request =
      (base.view.record ((profile.drawAt world.host location.resolved).map Report.names),
        some (kind.told
          (((profile.drawAt world.host location.resolved).map Report.names).mapError
            .extraction))) := by
  cases asks with
  | @load fresh _ ready =>
      simp only [View.perform, extract_ready profile session.view world.host ready]
      cases fresh <;> rfl
  | reload ready =>
      simp only [View.perform, extract_ready profile session.view world.host ready]
      rfl
  | @configure raw fresh _ located =>
      simp only [View.perform, located]
      rw [extract_ready profile _ _ rfl]
      cases fresh <;> rfl

/-- A request that comes to a load shows nothing of the cache. -/
theorem unseen_asks (modified : session.profile.keyMode = .modified)
    (quiet : session.inFlight = []) (honest : Honest archive session.profile world)
    (may : session.MayAsk archive world request) {base : Session}
    (asks : session.Asks world.host request kind location base) :
    Unseen archive session world.host request (Scene.perform ⟨session, world⟩ request false) := by
  obtain ⟨result, between, after, promises, aside, loads, performed⟩ :=
    Scene.perform_asks ⟨session, world⟩ false quiet asks
  have host : between.host = world.host := aside.host
  have store : between.store = world.store := aside.store
  obtain ⟨names, later⟩ := loads.honest modified (honest.of_sameStock aside.toSameStock)
    (by rw [host]; exact may.steady kind location base asks)
    (by rintro rfl; rw [host, store]; exact may.apart location base asks)
  rw [host] at names
  rw [performed]
  constructor
  · rw [perform_view session.profile asks, ← names, view_record, Option.bind_some, told?_answer]
  · exact (Session.profile_record base result).trans asks.profile_eq
  · exact (Session.inFlight_record base result).trans (asks.inFlight_eq.trans quiet)
  · exact later

/-- Pointing a session at a script shows nothing of the cache. -/
theorem unseen_setScript (raw : String) (quiet : session.inFlight = [])
    (honest : Honest archive session.profile world) :
    Unseen archive session world.host (.setScript raw)
      (Scene.perform ⟨session, world⟩ (.setScript raw) false) := by
  obtain ⟨after, aside, performed⟩ := Scene.perform_setScript ⟨session, world⟩ false raw
  dsimp only at performed
  rw [performed]
  constructor
  · simp only [View.perform]
    generalize Location.resolve world.host raw = found
    rfl
  · exact Session.profile_pointed _ _ _
  · exact (Session.inFlight_pointed _ _ _).trans quiet
  · exact honest.of_sameStock aside.toSameStock

theorem unseen_configure_error {raw : String} {error : ResolveError} (fresh : Bool)
    (quiet : session.inFlight = []) (honest : Honest archive session.profile world)
    (failed : Location.resolve world.host raw = .error error) :
    Unseen archive session world.host (.configure raw fresh)
      (Scene.perform ⟨session, world⟩ (.configure raw fresh) false) := by
  obtain ⟨after, aside, performed⟩ :=
    Scene.perform_configure_error ⟨session, world⟩ false fresh failed
  rw [performed]
  constructor
  · simp only [View.perform, failed]
    rfl
  · rfl
  · exact quiet
  · exact honest.of_sameStock aside.toSameStock

theorem unseen_unready (kind : LoadKind)
    (starts : Scene.start ⟨session, world⟩ request = Scene.startLoad ⟨session, world⟩ kind)
    (without : session.view.perform session.profile.sources session.profile.preference world.host
      request = (session.view, some (kind.told (.error .notConfigured))))
    (unready : ∀ location, session.path ≠ .ready location)
    (quiet : session.inFlight = []) (honest : Honest archive session.profile world) :
    Unseen archive session world.host request (Scene.perform ⟨session, world⟩ request false) := by
  have performed := Scene.perform_unready ⟨session, world⟩ false starts unready
  rw [performed]
  constructor
  · rw [without]
    cases kind <;> rfl
  · rfl
  · exact quiet
  · exact honest

/-- No call shows anything of the cache. -/
theorem unseen_perform (modified : session.profile.keyMode = .modified)
    (quiet : session.inFlight = []) (honest : Honest archive session.profile world)
    (may : session.MayAsk archive world request) :
    Unseen archive session world.host request (Scene.perform ⟨session, world⟩ request false) := by
  cases request with
  | setScript raw => exact unseen_setScript raw quiet honest
  | configure raw fresh =>
      cases located : Location.resolve world.host raw with
      | error error => exact unseen_configure_error fresh quiet honest located
      | ok location => exact unseen_asks modified quiet honest may (.configure located)
  | load fresh =>
      rcases session.ready_or_unready with ⟨location, ready⟩ | unready
      · exact unseen_asks modified quiet honest may (.load ready)
      · refine unseen_unready (if fresh then .fresh else .cached) rfl ?_ unready quiet honest
        simp only [View.perform, extract_unready session.profile session.view world.host unready]
        cases fresh <;> rfl
  | reload =>
      rcases session.ready_or_unready with ⟨location, ready⟩ | unready
      · exact unseen_asks modified quiet honest may (.reload ready)
      · refine unseen_unready .reload rfl ?_ unready quiet honest
        simp only [View.perform, extract_unready session.profile session.view world.host unready]
        rfl
  | run name => exact absurd rfl (may.loads name)

end Calls

namespace Fleet

variable {archive : Archive} {profile : Profile} {fleet : Fleet} {deed : Deed}

/-- What holds of sessions that share a store between two calls. -/
structure Sound (archive : Archive) (profile : Profile) (fleet : Fleet) : Prop where
  alike : ∀ session ∈ fleet.sessions, profile.Alike session.profile
  quiet : ∀ session ∈ fleet.sessions, session.inFlight = []
  honest : Honest archive profile fleet.world

theorem sound_start {world : World} {profiles : List Profile}
    (alike : ∀ other ∈ profiles, profile.Alike other) (honest : Honest archive profile world) :
    (start world profiles).Sound archive profile where
  alike := by
    intro session member
    obtain ⟨other, among, rfl⟩ := List.mem_map.mp member
    exact alike other among
  quiet := by
    intro session member
    obtain ⟨other, -, rfl⟩ := List.mem_map.mp member
    rfl
  honest := honest

/-- Every deed keeps what holds between two calls, and shows nothing of the cache. -/
theorem seen_next (modified : profile.keyMode = .modified) (sound : fleet.Sound archive profile)
    (may : fleet.May archive deed) :
    (fleet.next deed).Sound archive profile ∧
      (fleet.next deed).seen =
        fleet.seen.next profile.sources profile.preference fleet.world.host deed := by
  cases deed with
  | edit host =>
      refine ⟨⟨sound.alike, sound.quiet, ?_⟩, rfl⟩
      intro path time names text holds
      exact sound.honest path time names text (may _ _ holds)
  | ask index request =>
      cases there : fleet.sessions[index]? with
      | none =>
          have missing : fleet.seen.views[index]? = none := by simp [seen, there]
          simp only [next, there, Scenery.next, missing]
          exact ⟨sound, trivial⟩
      | some session =>
          have member : session ∈ fleet.sessions := List.mem_of_getElem? there
          have shown : fleet.seen.views[index]? = some session.view := by simp [seen, there]
          obtain ⟨interpreter, alike⟩ := sound.alike session member
          have unseen := unseen_perform (by rw [alike]; exact modified) (sound.quiet session member)
            (by rw [alike]; exact sound.honest) (may session there)
          have same := unseen.same
          rw [alike] at same
          simp only [next, there, Scenery.next, shown]
          refine ⟨⟨?_, ?_, ?_⟩, ?_⟩
          · intro other among
            rcases List.mem_or_eq_of_mem_set among with before | rfl
            · exact sound.alike other before
            · exact ⟨interpreter, unseen.unchanged.trans alike⟩
          · intro other among
            rcases List.mem_or_eq_of_mem_set among with before | rfl
            · exact sound.quiet other before
            · exact unseen.quiet
          · have honest := unseen.honest
            rw [alike] at honest
            exact honest
          · dsimp only at same
            rw [← same]
            simp only [seen, List.map_set]

/-- Sessions that share a store show what sessions without one do. -/
theorem beside_run (modified : profile.keyMode = .modified) (sound : fleet.Sound archive profile)
    {deeds : List Deed} (run : Along next (May archive) fleet deeds) :
    deeds.foldl (beside profile) (fleet, fleet.seen) =
      (deeds.foldl next fleet, (deeds.foldl next fleet).seen) := by
  induction deeds generalizing fleet with
  | nil => rfl
  | cons deed deeds ih =>
      obtain ⟨may, rest⟩ := run
      obtain ⟨kept, shown⟩ := seen_next modified sound may
      simp only [List.foldl_cons, beside, ← shown]
      exact ih kept rest

theorem seen_start (world : World) (profiles : List Profile) :
    (start world profiles).seen = .start profiles.length := by
  have idle : Session.view ∘ Session.start = fun _ => ⟨.unconfigured, .idle, []⟩ := rfl
  simp only [start, seen, Scenery.start, List.map_map, idle, List.map_const']

end Fleet

/-- The cache is not seen: whatever sessions over a common store are asked for, whatever happens to
files in between and whatever the store refuses, each call tells and leaves the same as with
sessions that have no cache and extract the script of their host on every load. -/
theorem cache_not_seen (archive : Archive) (profile : Profile)
    (modified : profile.keyMode = .modified) (world : World) (profiles : List Profile)
    (alike : ∀ other ∈ profiles, profile.Alike other) (honest : Honest archive profile world)
    (deeds : List Deed)
    (run : Along Fleet.next (Fleet.May archive) (.start world profiles) deeds) :
    deeds.foldl (Fleet.beside profile) (.start world profiles, .start profiles.length) =
      (deeds.foldl Fleet.next (.start world profiles),
        (deeds.foldl Fleet.next (.start world profiles)).seen) := by
  rw [← Fleet.seen_start world profiles]
  exact Fleet.beside_run modified (Fleet.sound_start alike honest) run

/-- The only script is steady if nothing but what it holds is in the archive. -/
theorem steady_withScript (content : String) {modified : Int} (epoch : 0 ≤ modified) :
    Steady (fun _ _ => .ok (dropMark content)) (.withScript content modified) onlyScript where
  text := Host.isText_onlyScript
  read := by
    intro time known
    rw [Host.scriptTime_withScript] at known
    cases known
    exact ⟨epoch, Host.readScript_withScript content modified⟩

theorem mayAsk_withScript (content : String) {modified : Int} (epoch : 0 ≤ modified)
    (session : Session) (fresh : Bool) {world : World}
    (host : world.host = .withScript content modified) :
    session.MayAsk (fun _ _ => .ok (dropMark content)) world (.configure "/s" fresh) where
  loads := nofun
  steady := by
    intro kind location base asks
    rw [host] at asks ⊢
    cases asks with
    | configure located =>
        rw [Host.resolve_withScript] at located
        cases located
        exact steady_withScript content epoch
  apart := by
    intro location base asks
    cases fresh <;> nomatch asks

/-- Two sessions configure a script that appears after they were started: the first one extracts it,
the second one finds its names in the cache. -/
theorem cache_not_seen_twice :
    let profile := Profile.ofSettings .defaults
    let world := World.bare (.withScript "" 0)
    let deeds : List Deed := [.edit (.withScript "function Get-A {}" 5),
      .ask 0 (.configure "/s" false), .ask 1 (.configure "/s" false)]
    deeds.foldl (Fleet.beside profile) (.start world [profile, profile], .start 2) =
      (deeds.foldl Fleet.next (.start world [profile, profile]),
        (deeds.foldl Fleet.next (.start world [profile, profile])).seen) := by
  intro profile world deeds
  have five : (0 : Int) ≤ 5 := by decide
  refine cache_not_seen (fun _ _ => .ok (dropMark "function Get-A {}")) profile rfl world
    [profile, profile] ?_ ?_ deeds ?_
  · intro other member
    simp only [List.mem_cons, List.not_mem_nil, or_false, or_self] at member
    subst member
    exact ⟨profile.interpreter, rfl⟩
  · intro path time names text holds
    exact absurd holds World.not_holdsNames_bare
  · refine ⟨?_, ?_, ?_, trivial⟩
    · intro key names holds
      exact absurd holds World.not_holdsNames_bare
    · rintro session -
      exact mayAsk_withScript "function Get-A {}" five session false rfl
    · rintro session -
      apply mayAsk_withScript "function Get-A {}" five session false
      rw [Fleet.world_next_ask _ rfl]
      exact (Scene.remembers_withScript "function Get-A {}" 5 (.start profile) false rfl rfl
        ⟨[], rfl⟩).host

end ScriptRoster
