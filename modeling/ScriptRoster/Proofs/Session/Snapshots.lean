import ScriptRoster.Proofs.Cache.Stock
import ScriptRoster.Proofs.Session.Transparency

/-!
# Fixed keys keep snapshots

With keys that hold no time, a session that does one thing after the other keeps for each script the
names that were extracted last, and tells them until it is told to extract again. What it answers,
what is seen of it and what its store holds is what a table of snapshots says, whatever happens to
the files in between.
-/

namespace ScriptRoster

open Cache Files

namespace Cache.Table

variable {α : Type} [DecidableEq α]

/-- The table when a load for something begins to extract: a reload has dropped what was kept. -/
def freed (table : Table α) (kind : LoadKind) (key : α) : Table α :=
  match kind with
  | .reload => Function.update table key none
  | _ => table

/-- The table after an extraction for something. -/
def noting (table : Table α) (key : α) : Except ExtractionError Report → Table α
  | .ok report => Function.update table key (some report.names)
  | .error _ => table

end Cache.Table

/-! ## Loads over a stock -/

/-- Whether a store can forget a key without a change of what is read at a path. -/
def Cache.Store.Spares (store : Store) (host : Host) (key : String) (path : Path) : Prop :=
  ∀ later after, store.remove host key = .ok (later, after) →
    readScript after.files after.cwd path = readScript host.files host.cwd path

section Loads

variable {profile : Profile} {path : Path} {kind : LoadKind} {key : String} {keys : Set String}
  {stock : Table String} {before after : World} {result : Except ExtractionError Report}
  {names : List String}

/-- An extraction leaves its names in stock under its key, and all else as it was. -/
theorem Supplies.stocked (supplies : Supplies profile path key before result after)
    (stocked : before.Stocked keys stock) (among : key ∈ keys) :
    after.Stocked keys (stock.noting key result) := by
  cases supplies with
  | failed _ aside => exact stocked.aside aside
  | kept _ aside stored => exact ((stocked.aside aside).keep among _).aside stored

/-- A load that asks the cache first tells what is in stock, and leaves the stock as it is. -/
theorem Loads.stocked_hit (loads : Loads profile path .cached before result after)
    (stocked : before.Stocked keys stock) (made : profile.keyOf before.host path = .ok key)
    (kept : stock key = some names) :
    result = .ok ⟨names, .cache⟩ ∧ after.Stocked keys stock := by
  have handed := (stocked.names?_eq key).trans kept
  cases loads with
  | keyless failed =>
      rw [made] at failed
      cases failed
  | hit again found aside =>
      cases made.symm.trans again
      rw [found] at handed
      cases handed
      exact ⟨rfl, (stocked.asked found).aside aside⟩
  | lateHit again miss | miss again miss =>
      cases made.symm.trans again
      rw [miss] at handed
      cases handed

/-- Any other load extracts the script, and keeps what it finds; before that a reload forgets what
was in stock. -/
theorem Loads.stocked_extracts (loads : Loads profile path kind before result after)
    (stocked : before.Stocked keys stock) (made : profile.keyOf before.host path = .ok key)
    (among : key ∈ keys) (missing : kind = .cached → stock key = none)
    (spares : kind = .reload → before.store.Spares before.host key path) :
    result = profile.drawAt before.host path ∧
      after.Stocked keys ((stock.freed kind key).noting key result) := by
  cases loads with
  | keyless failed =>
      rw [made] at failed
      cases failed
  | hit again found =>
      cases made.symm.trans again
      have handed := (stocked.names?_eq key).trans (missing rfl)
      rw [found] at handed
      cases handed
  | lateHit again miss found =>
      cases made.symm.trans again
      have handed := ((stocked.asked miss).names?_eq key).trans (missing rfl)
      rw [found] at handed
      cases handed
  | miss again first second supplied =>
      cases made.symm.trans again
      have host :=
        (World.sameStock_of_names? second).host.trans (World.sameStock_of_names? first).host
      exact ⟨by rw [supplied.result_eq, host],
        supplied.stocked ((stocked.asked first).asked second) among⟩
  | fresh again supplied =>
      cases made.symm.trans again
      exact ⟨supplied.result_eq, supplied.stocked stocked among⟩
  | reload again dropped supplied =>
      cases made.symm.trans again
      refine ⟨?_, supplied.stocked ((stocked.forget among).2.aside dropped) among⟩
      rw [supplied.result_eq, Profile.drawAt, Profile.drawAt, dropped.host]
      rcases World.forget_cases before key with same | ⟨later, host, done, -, left⟩
      · rw [same.host]
      · rw [left, spares rfl later host done]

end Loads

/-! ## A table of snapshots -/

/-- What is seen of a session, and the names that were extracted last from each script. -/
structure Keeper where
  view : View
  kept : Table Path

namespace Keeper

/-- A session that has no script and has kept nothing. -/
def start : Keeper := ⟨⟨.unconfigured, .idle, []⟩, fun _ => none⟩

variable (profile : Profile) (host : Host)

/-- Extracts a script and keeps what is found. -/
def extract (keeper : Keeper) (path : Path) : Keeper × Except ExtractionError Report :=
  let extraction :=
    Extraction.ofFile host.files host.cwd profile.sources profile.preference path
  let result := extraction.outcome.map Report.ofExtracted
  (⟨keeper.view.record (result.map Report.names), keeper.kept.noting path result⟩, result)

/-- Tells the names that are kept for a script if they will do, or extracts it. -/
def fetch (keeper : Keeper) (kind : LoadKind) (path : Path) :
    Keeper × Except ExtractionError Report :=
  match kind, keeper.kept path with
  | .cached, some names => (⟨keeper.view.record (.ok names), keeper.kept⟩, .ok ⟨names, .cache⟩)
  | kind, _ => extract profile host ⟨keeper.view, keeper.kept.freed kind path⟩ path

/-- Loads the names of the script, if there is one. -/
def load (keeper : Keeper) (kind : LoadKind) : Keeper × Option Answer :=
  match keeper.view.path with
  | .ready location =>
      let (keeper, result) := keeper.fetch profile host kind location.resolved
      (keeper, some (kind.answer (result.mapError .extraction)))
  | _ => (keeper, some (kind.answer (.error .notConfigured)))

/-- Points the view at a script that was looked for, and goes on to load it if it is there. -/
def point (keeper : Keeper) (kind : LoadKind) (raw : String)
    (found : Except ResolveError Location) : Keeper × Option Answer :=
  let keeper : Keeper := ⟨.pointed raw found, keeper.kept⟩
  match found with
  | .ok _ => keeper.load profile host kind
  | .error error => (keeper, some (kind.answer (.error (.path error))))

/-- Does what a session is asked to, but calls no functions. -/
def perform (keeper : Keeper) : Request → Keeper × Option Answer
  | .setScript raw =>
      let found := Location.resolve host raw
      (⟨.pointed raw found, keeper.kept⟩, some (.located (found.mapError .path)))
  | .configure raw fresh =>
      keeper.point profile host (if fresh then .fresh else .cached) raw (Location.resolve host raw)
  | .load fresh => keeper.load profile host (if fresh then .fresh else .cached)
  | .reload => keeper.load profile host .reload
  | .run _ => (keeper, none)

end Keeper

/-! ## Scripts that are opened -/

/-- The script that a task opens in its next step, if it opens one. -/
def Task.opens (task : Task) : List Path :=
  match task.stage with
  | .read errand _ => [errand.path]
  | _ => []

/-- The scripts that a task opens while it is carried on for at most `fuel` steps. -/
def Task.opensWithin : Nat → Scene → Task → List Path
  | 0, _, _ => []
  | fuel + 1, scene, task =>
      if task.answer?.isSome || task.isBlocked scene.session then []
      else task.opens ++ opensWithin fuel (task.step scene).1 (task.step scene).2

/-- The scripts that a session opens while it does what it is asked to. -/
def Scene.opened (scene : Scene) (request : Request) : List Path :=
  (Task.ofRequest request false).opensWithin Task.stepLimit scene

namespace Task

variable {task : Task} {scene between : Scene} {stage next : Stage} {fuel : Nat}

/-- A step in which nothing is opened leaves it to the other steps. -/
theorem opensWithin_move (free : moves stage = true) (silent : (task.goTo stage).opens = [])
    (h : (task.goTo stage).next scene = (between, next))
    (rest : (task.goTo next).opensWithin fuel between = []) :
    (task.goTo stage).opensWithin (fuel + 1) scene = [] := by
  have unanswered : (task.goTo stage).answer? = none := by
    cases stage <;> first | rfl | cases free
  have unblocked : (task.goTo stage).isBlocked scene.session = false := by
    cases stage <;> first | rfl | cases free
  simp only [opensWithin, unanswered, unblocked, silent, Task.step, h, List.nil_append]
  exact rest

theorem opensWithin_done {answer : Answer} (fuel : Nat) :
    (task.goTo (.done answer)).opensWithin fuel scene = [] := by
  cases fuel <;> rfl

/-- A load that finds its names in the cache opens nothing. -/
theorem opensWithin_hit (task : Task) (scene : Scene) (stage : Stage) {location : Location}
    {key : String} {names : List String} {after : World} (free : moves stage = true)
    (silent : (task.goTo stage).opens = [])
    (starts : (task.goTo stage).next scene = scene.startLoad .cached)
    (ready : scene.session.path = .ready location)
    (made : scene.session.keyOf scene.world.host location.resolved = .ok key)
    (found : scene.world.names? key = (some names, after)) (fuel : Nat) :
    (task.goTo stage).opensWithin (fuel + 4) scene = [] := by
  have begins := starts.trans (scene.startLoad_ready ready)
  have makeKey := Scene.makeKey_of_key ⟨{ scene.session with load := .loading }, scene.world⟩
    ⟨.cached, location.resolved, scene.session.generation⟩ made
  have lookUp := Scene.lookUp_of_some ⟨{ scene.session with load := .loading }, scene.world⟩
    ⟨.cached, location.resolved, scene.session.generation⟩ found
  obtain ⟨world, -, finish⟩ :=
    Scene.finish_current ⟨{ scene.session with load := .loading }, after⟩
      ⟨.cached, location.resolved, scene.session.generation⟩ (.ok ⟨names, .cache⟩) rfl
  exact opensWithin_move free silent begins (opensWithin_move rfl rfl makeKey
    (opensWithin_move rfl rfl lookUp (opensWithin_move rfl rfl finish (opensWithin_done fuel))))

end Task

/-- A request that finds its names in the cache opens nothing. -/
theorem Session.Asks.opened_eq_nil {session base : Session} {world : World} {request : Request}
    {kind : LoadKind} {location : Location}
    (asks : session.Asks world.host request kind location base) (cached : kind = .cached)
    {keys : Set String} {stock : Table String} (stocked : world.Stocked keys stock) {key : String}
    (made : session.keyOf world.host location.resolved = .ok key) {names : List String}
    (kept : stock key = some names) : Scene.opened ⟨session, world⟩ request = [] := by
  have handed : ∀ later : World, later.Stocked keys stock →
      ∃ after, later.names? key = (some names, after) :=
    fun later good => ⟨_, Prod.ext ((good.names?_eq key).trans kept) rfl⟩
  obtain ⟨fuel, patient⟩ : ∃ fuel, Task.stepLimit = fuel + 4 + 3 := ⟨8640057, rfl⟩
  rw [Scene.opened, patient]
  cases asks with
  | @load fresh _ ready =>
      obtain ⟨after, found⟩ := handed world stocked
      cases fresh with
      | true => cases cached
      | false =>
          exact Task.opensWithin_hit (.ofRequest (.load false) false) _ .start rfl rfl rfl ready
            made found _
  | reload => cases cached
  | @configure raw fresh _ located =>
      cases fresh with
      | true => cases cached
      | false =>
          obtain ⟨first, noted, setScript⟩ := Scene.setScript_eq ⟨session, world⟩ raw (some .cached)
          obtain ⟨second, remarked, resolve⟩ := Scene.resolve_eq ⟨session.repointed raw, first⟩ raw
            (session.generation + 1) (some .cached)
          obtain ⟨third, told, settle⟩ := Scene.settle_current ⟨session.repointed raw, second⟩ raw
            (some .cached) (Location.resolve first.host raw) rfl
          have aside := (noted.trans remarked).trans told
          rw [noted.host, located] at settle
          obtain ⟨after, found⟩ := handed third (stocked.aside aside)
          have still : (session.pointed raw (.ok location)).keyOf third.host location.resolved =
              .ok key := by
            rw [aside.host]
            exact made
          rw [noted.host, located] at resolve
          have hit := Task.opensWithin_hit (.ofRequest (.configure raw false) false)
            ⟨session.pointed raw (.ok location), third⟩ (.startLoad .cached) rfl rfl rfl rfl still
            found fuel
          have whole : (Task.goTo (.ofRequest (.configure raw false) false) .start).opensWithin
              (fuel + 4 + 3) ⟨session, world⟩ = [] :=
            Task.opensWithin_move rfl rfl setScript
              (Task.opensWithin_move rfl rfl resolve (Task.opensWithin_move rfl rfl settle hit))
          exact whole

/-! ## A session beside the table -/

/-- Something that happens to a session that does one thing after the other. -/
inductive Happening where
  | ask (request : Request)
  /-- Files and anything else of the host are changed from outside. -/
  | edit (host : Host)

/-- A table of snapshots, and a record of the calls: what each answered and left to see. -/
structure Ledger where
  keeper : Keeper
  log : List (Option Answer × View)

/-- A table in which nothing is kept yet. -/
def Ledger.start : Ledger := ⟨.start, []⟩

/-- What a table of snapshots on a host makes of what happens. -/
def Ledger.next (profile : Profile) (host : Host) (ledger : Ledger) : Happening → Ledger
  | .ask request =>
      let (keeper, answer) := ledger.keeper.perform profile host request
      ⟨keeper, ledger.log ++ [(answer, keeper.view)]⟩
  | .edit _ => ledger

/-- A session in its surroundings, and a record of the calls. -/
structure Sitting where
  scene : Scene
  log : List (Option Answer × View)

namespace Sitting

def start (profile : Profile) (world : World) : Sitting := ⟨⟨.start profile, world⟩, []⟩

/-- What a session makes of what happens. -/
def next (sitting : Sitting) : Happening → Sitting
  | .ask request =>
      let (scene, answer) := sitting.scene.perform request false
      ⟨scene, sitting.log ++ [(answer, scene.session.view)]⟩
  | .edit host =>
      { sitting with scene := sitting.scene.withWorld { sitting.scene.world with host } }

/-- A session, beside a table of snapshots that finds the same host. -/
def beside (profile : Profile) (pair : Sitting × Ledger) (happening : Happening) :
    Sitting × Ledger :=
  (pair.1.next happening, pair.2.next profile pair.1.scene.world.host happening)

end Sitting

/-- The key of a script when keys hold no time. -/
def Profile.fixedKey (profile : Profile) (path : Path) : String :=
  keyAt profile.keyPrefix .fixed path 0

/-- What a call may count on: it loads one of some scripts, and what a reload drops is not in the way
of the script itself. -/
structure Session.MayRecall (session : Session) (scripts : Set Path) (world : World)
    (request : Request) : Prop where
  loads : ∀ name, request ≠ .run name
  among : ∀ kind location base, session.Asks world.host request kind location base →
    location.resolved ∈ scripts
  spares : ∀ location base, session.Asks world.host request .reload location base →
    world.store.Spares world.host (session.profile.fixedKey location.resolved) location.resolved

/-- Nothing but loads is asked for, and changes from outside leave the store alone. -/
def Sitting.May (profile : Profile) (scripts : Set Path) (sitting : Sitting) : Happening → Prop
  | .ask request =>
      sitting.scene.session.MayRecall scripts sitting.scene.world request
  | .edit host =>
      sitting.scene.world.store.InOrder (profile.fixedKey '' scripts) host ∧
        ∀ key, sitting.scene.world.store.get host key =
          sitting.scene.world.store.get sitting.scene.world.host key

/-- A stock that holds under the keys of scripts what a table keeps for them. -/
structure Cache.Table.Shelves (kept : Table Path) (profile : Profile) (scripts : Set Path)
    (stock : Table String) : Prop where
  within : ∀ path names, kept path = some names → path ∈ scripts
  same : ∀ path ∈ scripts, stock (profile.fixedKey path) = kept path

/-- A scene that a table of snapshots tells all about. -/
structure Scene.Mirrors (scene : Scene) (profile : Profile) (scripts : Set Path) (keeper : Keeper) :
    Prop where
  works : scene.session.profile = profile
  quiet : scene.session.inFlight = []
  view : scene.session.view = keeper.view
  stock : ∃ stock, scene.world.Stocked (profile.fixedKey '' scripts) stock ∧
    keeper.kept.Shelves profile scripts stock

section Mirrors

variable {profile : Profile} {scripts : Set Path} {kept : Table Path} {stock : Table String}
  {path : Path} {kind : LoadKind}

/-- Scripts whose paths are text have different keys. -/
theorem fixedKey_inj (text : ∀ path ∈ scripts, path.IsText) :
    Set.InjOn profile.fixedKey scripts :=
  fun _ member _ among same => keyAt_inj (text _ member) (text _ among) same

/-- What is kept for a script is held under its key alone. -/
theorem Cache.Table.Shelves.update (shelves : kept.Shelves profile scripts stock)
    (text : ∀ path ∈ scripts, path.IsText) (among : path ∈ scripts) (names : Option (List String)) :
    Table.Shelves (Function.update kept path names) profile scripts
      (Function.update stock (profile.fixedKey path) names) where
  within other found there := by
    by_cases same : other = path
    · exact same ▸ among
    · rw [Function.update_of_ne same] at there
      exact shelves.within other found there
  same other member := by
    by_cases same : other = path
    · subst same
      rw [Function.update_self, Function.update_self]
    · have apart : profile.fixedKey other ≠ profile.fixedKey path :=
        mt (fixedKey_inj text member among) same
      rw [Function.update_of_ne same, Function.update_of_ne apart, shelves.same other member]

/-- A reload drops in the table what it drops in the stock. -/
theorem Cache.Table.Shelves.freed (shelves : kept.Shelves profile scripts stock)
    (text : ∀ path ∈ scripts, path.IsText) (among : path ∈ scripts) (kind : LoadKind) :
    (kept.freed kind path).Shelves profile scripts (stock.freed kind (profile.fixedKey path)) := by
  cases kind with
  | reload => exact shelves.update text among none
  | cached | fresh => exact shelves

/-- An extraction leaves in the table what it leaves in the stock. -/
theorem Cache.Table.Shelves.noting (shelves : kept.Shelves profile scripts stock)
    (text : ∀ path ∈ scripts, path.IsText) (among : path ∈ scripts)
    (result : Except ExtractionError Report) :
    (kept.noting path result).Shelves profile scripts
      (stock.noting (profile.fixedKey path) result) := by
  cases result with
  | ok report => exact shelves.update text among (some report.names)
  | error error => exact shelves

/-- A load tells what the table does, and keeps what the table does. -/
theorem Loads.recalls (keeper : Keeper) {before after : World}
    {result : Except ExtractionError Report} (fixed : profile.keyMode = .fixed)
    (text : ∀ path ∈ scripts, path.IsText)
    (loads : Loads profile path kind before result after)
    (stocked : before.Stocked (profile.fixedKey '' scripts) stock)
    (shelves : keeper.kept.Shelves profile scripts stock) (among : path ∈ scripts)
    (spares : kind = .reload →
      before.store.Spares before.host (profile.fixedKey path) path) :
    (keeper.fetch profile before.host kind path).2 = result ∧
      (keeper.fetch profile before.host kind path).1.view =
        keeper.view.record (result.map Report.names) ∧
      ∃ later, after.Stocked (profile.fixedKey '' scripts) later ∧
        (keeper.fetch profile before.host kind path).1.kept.Shelves profile scripts later := by
  have made : profile.keyOf before.host path = .ok (profile.fixedKey path) := by
    rw [Profile.keyOf, fixed, scriptKey_fixed _ _ _ 0]
    rfl
  have known := Set.mem_image_of_mem profile.fixedKey among
  by_cases hit : kind = .cached ∧ ∃ names, keeper.kept path = some names
  · obtain ⟨rfl, names, there⟩ := hit
    obtain ⟨rfl, later⟩ := loads.stocked_hit stocked made ((shelves.same path among).trans there)
    simp only [Keeper.fetch, there]
    exact ⟨trivial, rfl, stock, later, shelves⟩
  · have missing : kind = .cached → keeper.kept path = none := by
      intro cached
      rw [Option.eq_none_iff_forall_ne_some]
      exact fun names there => hit ⟨cached, names, there⟩
    obtain ⟨rfl, later⟩ := loads.stocked_extracts stocked made known
      (fun cached => (shelves.same path among).trans (missing cached)) spares
    have extracts : keeper.fetch profile before.host kind path =
        Keeper.extract profile before.host ⟨keeper.view, keeper.kept.freed kind path⟩ path := by
      unfold Keeper.fetch
      split
      · next names there =>
          rw [missing rfl] at there
          cases there
      · rfl
    simp only [extracts, Keeper.extract, ofFile_report]
    exact ⟨trivial, trivial, _, later, (shelves.freed text among kind).noting text among _⟩

end Mirrors

/-! ## Calls and runs -/

namespace Keeper

variable (keeper : Keeper) {host : Host} {location : Location}

/-- The table answers a load of a script that was found with what it fetches. -/
theorem load_ready (profile : Profile) (kind : LoadKind)
    (ready : keeper.view.path = .ready location) :
    keeper.load profile host kind =
      ((keeper.fetch profile host kind location.resolved).1,
        some (kind.answer
          ((keeper.fetch profile host kind location.resolved).2.mapError .extraction))) := by
  simp only [load, ready]

theorem load_unready (profile : Profile) (kind : LoadKind)
    (unready : ∀ location, keeper.view.path ≠ .ready location) :
    keeper.load profile host kind =
      (keeper, some (kind.answer (.error .notConfigured))) := by
  simp only [load]

end Keeper

/-- A request that comes to a load recalls the script of the session. -/
theorem Session.Asks.perform_keeper {session base : Session} {host : Host} {request : Request}
    {kind : LoadKind} {location : Location}
    (asks : session.Asks host request kind location base) (profile : Profile) {keeper : Keeper}
    (view : session.view = keeper.view) :
    keeper.perform profile host request =
      ((Keeper.fetch profile host ⟨base.view, keeper.kept⟩ kind location.resolved).1,
        some (kind.answer
          ((Keeper.fetch profile host ⟨base.view, keeper.kept⟩ kind
            location.resolved).2.mapError .extraction))) := by
  obtain ⟨seen, kept⟩ := keeper
  cases view
  cases asks with
  | load ready => exact Keeper.load_ready ⟨session.view, kept⟩ profile _ ready
  | reload ready => exact Keeper.load_ready ⟨session.view, kept⟩ profile .reload ready
  | @configure raw _ _ located =>
      rw [Keeper.perform, located]
      exact Keeper.load_ready ⟨.pointed raw (.ok location), kept⟩ profile _ rfl

section Calls

variable {profile : Profile} {scripts : Set Path} {session : Session} {world : World}
  {request : Request} {keeper : Keeper}

/-- A call that answers what the table does, and leaves a scene that the table tells all about. -/
def Keeps (profile : Profile) (scripts : Set Path) (host : Host) (keeper : Keeper)
    (request : Request) (outcome : Scene × Option Answer) : Prop :=
  outcome.2 = (keeper.perform profile host request).2 ∧
    outcome.1.Mirrors profile scripts (keeper.perform profile host request).1

/-- A call that comes to a load answers and leaves what the table does. -/
theorem keeps_asks (fixed : profile.keyMode = .fixed) (text : ∀ path ∈ scripts, path.IsText)
    (mirrors : Scene.Mirrors ⟨session, world⟩ profile scripts keeper)
    (may : session.MayRecall scripts world request) {base : Session} {kind : LoadKind}
    {location : Location} (asks : session.Asks world.host request kind location base) :
    Keeps profile scripts world.host keeper request
      (Scene.perform ⟨session, world⟩ request false) := by
  obtain ⟨stock, stocked, shelves⟩ := mirrors.stock
  have works : session.profile = profile := mirrors.works
  obtain ⟨result, between, after, promises, aside, loads, performed⟩ :=
    Scene.perform_asks ⟨session, world⟩ false mirrors.quiet asks
  have host : between.host = world.host := aside.host
  have store : between.store = world.store := aside.store
  have own : Loads profile location.resolved kind between result after := works ▸ loads
  have spares : kind = .reload →
      between.store.Spares between.host (profile.fixedKey location.resolved) location.resolved := by
    rintro rfl
    rw [host, store, ← works]
    exact may.spares location base asks
  obtain ⟨told, seen, later, kept, shelved⟩ := own.recalls ⟨base.view, keeper.kept⟩ fixed
    text (stocked.aside aside) shelves (may.among kind location base asks) spares
  rw [host] at told seen shelved
  rw [performed, Keeps, asks.perform_keeper profile mirrors.view, told]
  refine ⟨rfl, ?_, ?_, ?_, later, kept, shelved⟩
  · exact (Session.profile_record base result).trans (asks.profile_eq.trans works)
  · exact (Session.inFlight_record base result).trans (asks.inFlight_eq.trans mirrors.quiet)
  · rw [seen, view_record]

theorem keeps_setScript (raw : String)
    (mirrors : Scene.Mirrors ⟨session, world⟩ profile scripts keeper) :
    Keeps profile scripts world.host keeper (.setScript raw)
      (Scene.perform ⟨session, world⟩ (.setScript raw) false) := by
  obtain ⟨stock, stocked, shelves⟩ := mirrors.stock
  obtain ⟨after, aside, performed⟩ := Scene.perform_setScript ⟨session, world⟩ false raw
  dsimp only at performed
  rw [performed, Keeps, Keeper.perform]
  generalize Location.resolve world.host raw = found
  exact ⟨rfl, mirrors.works, mirrors.quiet, rfl, stock, stocked.aside aside, shelves⟩

theorem keeps_configure_error {raw : String} {error : ResolveError} (fresh : Bool)
    (mirrors : Scene.Mirrors ⟨session, world⟩ profile scripts keeper)
    (failed : Location.resolve world.host raw = .error error) :
    Keeps profile scripts world.host keeper (.configure raw fresh)
      (Scene.perform ⟨session, world⟩ (.configure raw fresh) false) := by
  obtain ⟨stock, stocked, shelves⟩ := mirrors.stock
  obtain ⟨after, aside, performed⟩ :=
    Scene.perform_configure_error ⟨session, world⟩ false fresh failed
  rw [performed, Keeps, Keeper.perform, failed]
  refine ⟨?_, mirrors.works, mirrors.quiet, rfl, stock, stocked.aside aside, shelves⟩
  cases fresh <;> rfl

theorem keeps_unready (kind : LoadKind)
    (starts : Scene.start ⟨session, world⟩ request = Scene.startLoad ⟨session, world⟩ kind)
    (loads : keeper.perform profile world.host request = keeper.load profile world.host kind)
    (mirrors : Scene.Mirrors ⟨session, world⟩ profile scripts keeper)
    (unready : ∀ location, session.path ≠ .ready location) :
    Keeps profile scripts world.host keeper request
      (Scene.perform ⟨session, world⟩ request false) := by
  have path : keeper.view.path = session.path := congrArg View.path mirrors.view.symm
  rw [Scene.perform_unready ⟨session, world⟩ false starts unready, Keeps, loads,
    keeper.load_unready profile kind (by rw [path]; exact unready)]
  exact ⟨rfl, mirrors⟩

/-- Every call answers what the table does. -/
theorem keeps_perform (fixed : profile.keyMode = .fixed) (text : ∀ path ∈ scripts, path.IsText)
    (mirrors : Scene.Mirrors ⟨session, world⟩ profile scripts keeper)
    (may : session.MayRecall scripts world request) :
    Keeps profile scripts world.host keeper request
      (Scene.perform ⟨session, world⟩ request false) := by
  cases request with
  | setScript raw => exact keeps_setScript raw mirrors
  | configure raw fresh =>
      cases located : Location.resolve world.host raw with
      | error error => exact keeps_configure_error fresh mirrors located
      | ok location => exact keeps_asks fixed text mirrors may (.configure located)
  | load fresh =>
      rcases session.ready_or_unready with ⟨location, ready⟩ | unready
      · exact keeps_asks fixed text mirrors may (.load ready)
      · exact keeps_unready (if fresh then .fresh else .cached) rfl rfl mirrors unready
  | reload =>
      rcases session.ready_or_unready with ⟨location, ready⟩ | unready
      · exact keeps_asks fixed text mirrors may (.reload ready)
      · exact keeps_unready .reload rfl rfl mirrors unready
  | run name => exact absurd rfl (may.loads name)

end Calls

namespace Sitting

variable {profile : Profile} {scripts : Set Path} {sitting : Sitting} {ledger : Ledger}
  {happening : Happening}

/-- A session that a table of snapshots tells all about, and the same record of the calls. -/
structure Matches (sitting : Sitting) (profile : Profile) (scripts : Set Path) (ledger : Ledger) :
    Prop where
  scene : sitting.scene.Mirrors profile scripts ledger.keeper
  log : sitting.log = ledger.log

/-- Whatever happens, the table tells all about the session. -/
theorem Matches.next (fixed : profile.keyMode = .fixed) (text : ∀ path ∈ scripts, path.IsText)
    (matched : sitting.Matches profile scripts ledger)
    (may : sitting.May profile scripts happening) :
    (sitting.next happening).Matches profile scripts
      (ledger.next profile sitting.scene.world.host happening) := by
  obtain ⟨mirrors, log⟩ := matched
  cases happening with
  | edit host =>
      obtain ⟨stock, stocked, shelves⟩ := mirrors.stock
      obtain ⟨order, same⟩ := may
      have untouched : World.Stocked { sitting.scene.world with host }
          (profile.fixedKey '' scripts) stock :=
        ⟨stocked.obliging, order, stocked.within, fun key => (same key).trans (stocked.holds key)⟩
      exact ⟨⟨mirrors.works, mirrors.quiet, mirrors.view, stock, untouched, shelves⟩, log⟩
  | ask request =>
      obtain ⟨answer, later⟩ := keeps_perform fixed text mirrors may
      refine ⟨later, ?_⟩
      have view := later.view
      simp only [Sitting.next, Ledger.next, log, answer, view]

/-- A session matches its table after everything that may happen. -/
theorem Matches.run (fixed : profile.keyMode = .fixed) (text : ∀ path ∈ scripts, path.IsText)
    (matched : sitting.Matches profile scripts ledger) {happenings : List Happening}
    (run : Along Sitting.next (May profile scripts) sitting happenings) :
    (happenings.foldl (beside profile) (sitting, ledger)).1.Matches profile scripts
      (happenings.foldl (beside profile) (sitting, ledger)).2 := by
  induction happenings generalizing sitting ledger with
  | nil => exact matched
  | cons happening happenings ih =>
      obtain ⟨may, rest⟩ := run
      exact ih (matched.next fixed text may) rest

theorem matches_start {world : World} (obliging : world.Obliging)
    (order : world.store.InOrder (profile.fixedKey '' scripts) world.host)
    (empty : ∀ key, world.store.get world.host key = .ok none) :
    (start profile world).Matches profile scripts .start where
  scene := ⟨rfl, rfl, rfl, fun _ => none, ⟨obliging, order, fun _ _ => nofun, empty⟩,
    fun _ _ => nofun, fun _ _ => rfl⟩
  log := rfl

end Sitting

/-- A store that mirrors a table holds the list of each script that is kept, under its key, and
nothing else. -/
theorem Scene.Mirrors.holds_iff {scene : Scene} {profile : Profile} {scripts : Set Path}
    {keeper : Keeper} (mirrors : scene.Mirrors profile scripts keeper) (key payload : String) :
    scene.world.store.Holds scene.world.host key payload ↔
      ∃ path names, keeper.kept path = some names ∧ key = profile.fixedKey path ∧
        payload = Json.listText names := by
  obtain ⟨stock, stocked, shelves⟩ := mirrors.stock
  rw [Store.Holds, stocked.holds, Except.ok.injEq, Option.map_eq_some_iff]
  constructor
  · rintro ⟨names, there, rfl⟩
    obtain ⟨path, among, rfl⟩ := stocked.within key names there
    exact ⟨path, names, (shelves.same path among).symm.trans there, rfl, rfl⟩
  · rintro ⟨path, names, kept, rfl, rfl⟩
    exact ⟨names, (shelves.same path (shelves.within path names kept)).trans kept, rfl⟩

/-- With keys that hold no time, over a store that is empty at first and fails no call, a session
that does one thing after the other is told all about by a table of snapshots that finds the same
files: every call answers and leaves to see what the table does; after each call the store holds the
lists of the table, under the keys of their scripts, and nothing else; and a request that may be
answered from the cache opens no script whose names are kept. -/
theorem fixed_keys_keep_snapshots (profile : Profile) (fixed : profile.keyMode = .fixed)
    (scripts : Set Path) (text : ∀ path ∈ scripts, path.IsText) (world : World)
    (obliging : world.Obliging)
    (order : world.store.InOrder (profile.fixedKey '' scripts) world.host)
    (empty : ∀ key, world.store.get world.host key = .ok none) (happenings : List Happening)
    (run : Along Sitting.next (Sitting.May profile scripts) (.start profile world) happenings)
    {sitting : Sitting} {ledger : Ledger}
    (ended : happenings.foldl (Sitting.beside profile) (.start profile world, .start) =
      (sitting, ledger)) :
    sitting.log = ledger.log ∧ sitting.scene.session.view = ledger.keeper.view ∧
      (∀ key payload, sitting.scene.world.store.Holds sitting.scene.world.host key payload ↔
        ∃ path names, ledger.keeper.kept path = some names ∧ key = profile.fixedKey path ∧
          payload = Json.listText names) ∧
      ∀ request location base names,
        sitting.scene.session.Asks sitting.scene.world.host request .cached location base →
          ledger.keeper.kept location.resolved = some names → sitting.scene.opened request = [] := by
  have matched := (Sitting.matches_start obliging order empty).run fixed text run
  rw [ended] at matched
  obtain ⟨mirrors, log⟩ := matched
  refine ⟨log, mirrors.view, mirrors.holds_iff, ?_⟩
  intro request location base names asks kept
  obtain ⟨stock, stocked, shelves⟩ := mirrors.stock
  have among := shelves.within location.resolved names kept
  have made : sitting.scene.session.keyOf sitting.scene.world.host location.resolved =
      .ok (profile.fixedKey location.resolved) := by
    rw [Session.keyOf, mirrors.works, fixed, scriptKey_fixed _ _ _ 0]
    rfl
  exact asks.opened_eq_nil rfl stocked made ((shelves.same _ among).trans kept)

/-- A profile whose keys hold no time. -/
def Profile.keeping : Profile := { Profile.ofSettings .defaults with keyMode := .fixed }

theorem Cache.World.InMemory.may_edit {profile : Profile} {scripts : Set Path} {sitting : Sitting}
    (memory : sitting.scene.world.InMemory) (host : Host) :
    sitting.May profile scripts (.edit host) := by
  obtain ⟨entries, store⟩ := memory
  rw [Sitting.May, store]
  exact ⟨trivial, fun _ => rfl⟩

theorem mayRecall_withScript (session : Session) (content : String) (modified : Int) (fresh : Bool)
    {world : World} (host : world.host = .withScript content modified) :
    session.MayRecall {onlyScript} world (.configure "/s" fresh) where
  loads := nofun
  among := by
    intro kind location base asks
    rw [host] at asks
    cases asks with
    | configure located =>
        rw [Host.resolve_withScript] at located
        cases located
        rfl
  spares := by
    intro location base asks
    cases fresh <;> nomatch asks

/-- A table that has kept nothing for the only script extracts it. -/
theorem Keeper.perform_withScript (keeper : Keeper) (missing : keeper.kept onlyScript = none)
    {content : String} (modified : Int) {report : Report}
    (drawn : Profile.keeping.draw (dropMark content) = .ok report) :
    (keeper.perform .keeping (.withScript content modified) (.configure "/s" false)).1 =
      ⟨⟨.ready ⟨"/s", onlyScript⟩, .loaded, report.names⟩,
        Function.update keeper.kept onlyScript (some report.names)⟩ := by
  rw [Keeper.perform, Host.resolve_withScript]
  dsimp only [Keeper.point]
  rw [Keeper.load_ready _ _ _ rfl]
  simp only [Keeper.fetch, missing, Keeper.extract, ofFile_report, Host.drawAt_withScript, drawn]
  rfl

/-- A table that has kept names for the only script tells them. -/
theorem Keeper.perform_withScript_kept (keeper : Keeper) {names : List String}
    (kept : keeper.kept onlyScript = some names) (content : String) (modified : Int) :
    (keeper.perform .keeping (.withScript content modified) (.configure "/s" false)).1 =
      ⟨⟨.ready ⟨"/s", onlyScript⟩, .loaded, names⟩, keeper.kept⟩ := by
  rw [Keeper.perform, Host.resolve_withScript]
  dsimp only [Keeper.point]
  rw [Keeper.load_ready _ _ _ rfl]
  simp only [Keeper.fetch, kept]
  rfl

/-- A session tells the names that it has kept for a script that was changed since, and does not open
it for that. -/
theorem fixed_keys_keep_snapshots_changed :
    ∃ sitting ledger,
      [Happening.ask (.configure "/s" false), .edit (.withScript "function B \x7b\x7d" 6),
          .ask (.configure "/s" false)].foldl (Sitting.beside .keeping)
        (.start .keeping (.bare (.withScript "function A \x7b\x7d" 5)), .start) =
          (sitting, ledger) ∧
      sitting.log = ledger.log ∧ sitting.scene.session.names = ["A"] ∧
      sitting.scene.world.store.Holds sitting.scene.world.host
        (Profile.keeping.fixedKey onlyScript) (Json.listText ["A"]) ∧
      sitting.scene.opened (.load false) = [] := by
  have drawn : Profile.keeping.draw (dropMark "function A \x7b\x7d") =
      .ok ⟨["A"], .extracted .structural⟩ := by decide +kernel
  have memory := (Scene.remembers_withScript "function A \x7b\x7d" 5 (.start .keeping) false rfl
    (World.host_bare _) ⟨[], rfl⟩).inMemory
  obtain ⟨⟨sitting, ledger⟩, ended⟩ : ∃ pair,
      [Happening.ask (.configure "/s" false), .edit (.withScript "function B \x7b\x7d" 6),
          .ask (.configure "/s" false)].foldl (Sitting.beside .keeping)
        (.start .keeping (.bare (.withScript "function A \x7b\x7d" 5)), .start) = pair := ⟨_, rfl⟩
  obtain ⟨log, view, holds, opens⟩ := fixed_keys_keep_snapshots .keeping rfl {onlyScript}
    (by rintro _ rfl; exact Host.isText_onlyScript)
    (.bare (.withScript "function A \x7b\x7d" 5)) (fun _ _ => rfl) trivial (fun _ => rfl)
    [.ask (.configure "/s" false), .edit (.withScript "function B \x7b\x7d" 6),
      .ask (.configure "/s" false)]
    ⟨mayRecall_withScript _ _ 5 false rfl, memory.may_edit _, mayRecall_withScript _ _ 6 false rfl,
      trivial⟩ ended
  -- the table of the first call holds the names of the first text, and the second call tells them
  have first := Keeper.start.perform_withScript rfl 5 drawn
  have kept : Function.update Keeper.start.kept onlyScript (some ["A"]) onlyScript = some ["A"] :=
    Function.update_self ..
  have second := Keeper.perform_withScript_kept
    ⟨⟨.ready ⟨"/s", onlyScript⟩, .loaded, ["A"]⟩,
      Function.update Keeper.start.kept onlyScript (some ["A"])⟩ kept "function B \x7b\x7d" 6
  have keeper : ledger.keeper = ⟨⟨.ready ⟨"/s", onlyScript⟩, .loaded, ["A"]⟩,
      Function.update Keeper.start.kept onlyScript (some ["A"])⟩ := by
    rw [← second, ← first]
    exact (congrArg (fun pair => pair.2.keeper) ended).symm
  rw [keeper] at view holds opens
  refine ⟨sitting, ledger, ended, log, congrArg View.names view, ?_, ?_⟩
  · exact (holds _ _).mpr ⟨onlyScript, ["A"], kept, rfl, rfl⟩
  · exact opens (.load false) ⟨"/s", onlyScript⟩ _ ["A"] (.load (congrArg View.path view)) kept

end ScriptRoster
