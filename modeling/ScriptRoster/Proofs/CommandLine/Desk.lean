import ScriptRoster.Proofs.CommandLine.Opening
import ScriptRoster.Proofs.Session.Snapshots

/-!
# Runs at a desk

What runs of the program over one home and one script share, and what a run does there: it tells the
names that are kept for the script, or keeps those it extracts. The commands on the cache find the
entry of the script under the key that the sessions keep it under.
-/

namespace ScriptRoster

open Cache Files Text

namespace CommandLine

/-! ## Commands and their arguments -/

/-- What a run is told to do with the names of the script. -/
inductive Command where
  | list (fresh : Bool)
  | search (query : String)
  | reload
  | inspect
  | clear
  deriving DecidableEq, Repr

/-- Whether an argument cannot be taken for an option. -/
def IsPlain (argument : String) : Prop := argument.toList.head? ≠ some '-'

namespace Command

def arguments : Command → List String
  | .list false => ["list"]
  | .list true => ["list", "--fresh"]
  | .search query => ["search", query]
  | .reload => ["reload"]
  | .inspect => ["_cache", "inspect"]
  | .clear => ["_cache", "clear"]

def action : Command → Action
  | .list fresh => .list fresh
  | .search query => .search query
  | .reload => .reload
  | .inspect => .inspectCache
  | .clear => .clearCache

/-- Whether what is searched for cannot be taken for an option. -/
def Plain : Command → Prop
  | .search query => IsPlain query
  | _ => True

/-- Whether there is an entry for the script after a run. -/
def leaves (stored : Bool) : Command → Bool
  | .list _ | .search _ | .reload => true
  | .inspect => stored
  | .clear => false

end Command

/-- The arguments that name a script, if one is named. -/
def scriptArguments : Option String → List String
  | some path => ["--script", path]
  | none => []

/-- The names that hold a query, whatever the size of letters. A blank query is held by all. -/
def matching (query : String) (names : List String) : List String :=
  let needle := (lowercase (trim query)).toList
  names.filter fun name => needle.isEmpty || isWithin needle (lowercase name).toList

theorem search_eq (session : Session) (query : String) :
    session.search query = matching query session.names := rfl

variable {command : Command} {argument : String} {named : Option String}

theorem Shape.of_plain (plain : IsPlain argument) : Shape.of argument = .text := by
  unfold Shape.of
  rw [IsPlain] at plain
  split <;> simp_all

/-- The arguments of a command ask for what it means. -/
theorem Action.ofArguments_arguments (plain : command.Plain) :
    ofArguments command.arguments = .ok command.action := by
  cases command with
  | list fresh => cases fresh <;> rfl
  | search query =>
      have text := Shape.of_plain plain
      simp only [Command.arguments, ofArguments, ofForm, Form.fill, Form.readOn, text,
        Bool.false_eq_true, if_false]
      rfl
  | reload | inspect | clear => rfl

theorem Options.readOn_arguments (script : Option String) (command : Command) :
    readOn script .nothing command.arguments = .ok ⟨script, command.arguments⟩ := by
  cases command with
  | list fresh => cases fresh <;> rfl
  | search | reload | inspect | clear => rfl

/-- A script that is named before a command is taken, and the command with it. -/
theorem Options.read_arguments (plain : ∀ path, named = some path → IsPlain path)
    (command : Command) :
    read (scriptArguments named ++ command.arguments) = .ok ⟨named, command.arguments⟩ := by
  cases named with
  | none => exact readOn_arguments none command
  | some path =>
      have text := Shape.of_plain (plain path rfl)
      have other : Leading.of path = .other := by simp only [Leading.of, text]
      have waits : read (scriptArguments (some path) ++ command.arguments) =
          readOn none .waiting (path :: command.arguments) := rfl
      rw [waits, readOn, other]
      simp only [if_true]
      cases command with
      | list fresh => cases fresh <;> rfl
      | search | reload | inspect | clear => rfl

end CommandLine

/-! ## Hosts that change at one place -/

/-- Whether a host is as it was, but for what stands at one place and for the time. -/
structure Host.SameOff (spot : Place) (before after : Host) : Prop where
  cwd : after.cwd = before.cwd
  environment : after.environment = before.environment
  files : ∀ other, other ≠ spot → after.files.at? other = before.files.at? other

namespace Host

variable {spot : Place} {host between after : Host} {path : Path} {place : Place}

theorem SameOff.refl (spot : Place) (host : Host) : SameOff spot host host :=
  ⟨rfl, rfl, fun _ _ => rfl⟩

theorem SameOff.trans (first : SameOff spot host between) (second : SameOff spot between after) :
    SameOff spot host after where
  cwd := second.cwd.trans first.cwd
  environment := second.environment.trans first.environment
  files other h := (second.files other h).trans (first.files other h)

/-- A host that had nothing at the place has grown. -/
theorem SameOff.grows (same : SameOff spot host after) (free : host.files.at? spot = none) :
    host.Grows after where
  cwd := same.cwd
  environment := same.environment
  files := FileTree.grows_of_free free same.files

end Host

namespace Cache.Folder

variable {folder : Folder} {place : Place} {host after : Host} {key payload : String}

/-- Keeping a payload changes nothing but the file of its key. -/
theorem Tidy.sameOff_set (stems : ∀ key, IsStem (folder.stem key)) (tidy : folder.Tidy place host)
    (done : folder.set host key payload = .ok after) :
    host.SameOff (place ++ [folder.fileName key]) after := by
  rw [tidy.set_eq stems done]
  exact ⟨rfl, rfl, fun other h => FileTree.at?_put_of_ne _ h _⟩

/-- Removing a key changes nothing but its file. -/
theorem Tidy.sameOff_remove (stems : ∀ key, IsStem (folder.stem key))
    (tidy : folder.Tidy place host) (done : folder.remove host key = .ok after) :
    host.SameOff (place ++ [folder.fileName key]) after := by
  simp only [Folder.remove, entryPath_eq,
    FileTree.removeFile_join tidy.there (isName_fileName (stems key)) (tidy.plain _)] at done
  split at done
  · next files removed =>
      cases done
      split at removed
      · cases removed
      · split at removed
        · cases removed
        · cases removed
          exact ⟨rfl, rfl, fun other h => FileTree.at?_erase_of_ne _ h⟩
  · cases done
    exact .refl _ _
  · cases done

end Cache.Folder

/-- In a directory a shorter name does not make a longer path. -/
theorem Files.Path.length_join_le (dir : Path) {name other : Bytes} (plain : IsName name)
    (otherPlain : IsName other) (shorter : name.length ≤ other.length) :
    (dir.join ⟨name⟩).bytes.length ≤ (dir.join ⟨other⟩).bytes.length := by
  unfold join
  simp only [plain.not_isAbsolute, otherPlain.not_isAbsolute]
  split
  · contradiction
  · split
    · simpa using shorter
    · simpa using shorter

/-- No names are extracted from a script without text. -/
theorem names_of_draw_empty {settings : Settings} {report : Report}
    (drawn : (Profile.ofSettings settings).draw (dropMark "") = .ok report) :
    report.names = [] := by
  have nothing : ∀ preference,
      ((Extraction.ofText Source.defaults preference (dropMark "")).outcome.map
        Report.ofExtracted).toOption.all (·.names.isEmpty) = true := by
    intro preference
    cases preference <;> decide +kernel
  have none := nothing settings.strategy
  simp only [Profile.draw, Profile.ofSettings] at drawn
  rw [drawn] at none
  exact List.isEmpty_iff.mp none

/-- What is in a file is what names are extracted from. -/
theorem drawAt_of_file {profile : Profile} {host : Host} {path : Path} {place : Place}
    {content : String} {modified : Int}
    (found : host.files.find host.cwd path = .ok (place, .file (encode content) modified)) :
    profile.drawAt host path = profile.draw (dropMark content) := by
  simp only [Profile.drawAt, readScript, FileTree.read, found, decode_encode]
  rfl

/-- A script from which names were extracted is a file. -/
theorem exists_file_of_drawAt {settings : Settings} {host : Host} {path : Path} {report : Report}
    (drawn : (Profile.ofSettings settings).drawAt host path = .ok report)
    (some : report.names ≠ []) :
    ∃ place content modified,
      host.files.find host.cwd path = .ok (place, .file content modified) := by
  have empty : decode [] = .ok "" := decode_encode ""
  unfold Profile.drawAt readScript FileTree.read at drawn
  cases found : host.files.find host.cwd path with
  | error cause =>
      simp only [found] at drawn
      cases drawn
  | ok spot =>
      obtain ⟨place, item⟩ := spot
      simp only [found] at drawn
      cases item with
      | file content modified => exact ⟨place, content, modified, rfl⟩
      | directory => cases drawn
      | link | program | device =>
          simp only [empty] at drawn
          exact absurd (names_of_draw_empty drawn) some

theorem exists_scriptKey {host : Host} {path : Path} {place : Place} {content : Bytes}
    {modified : Int} (found : host.files.find host.cwd path = .ok (place, .file content modified))
    (keyPrefix : String) (mode : KeyMode) :
    ∃ key, scriptKey keyPrefix mode host path = .ok key := by
  cases mode with
  | fixed => exact ⟨_, rfl⟩
  | modified => simp only [scriptKey, found, Except.ok.injEq, exists_eq']

/-! ## Loads -/

/-- Whatever calls for the key of a script keep, a load of the script keeps. -/
theorem Loads.keeps {profile : Profile} {path : Path} {kind : LoadKind} {key : String}
    {before after : World} {result : Except ExtractionError Report} {Kept : World → Prop}
    (loads : Loads profile path kind before result after)
    (made : profile.keyOf before.host path = .ok key)
    (aside : ∀ world later, Kept world → World.SameStock world later → Kept later)
    (keep : ∀ world names, Kept world → Kept (world.keep key names).2)
    (forget : ∀ world, Kept world → Kept (world.forget key).2) (kept : Kept before) :
    Kept after := by
  have supplied : ∀ {world later}, Supplies profile path key world result later → Kept world →
      Kept later := by
    intro world later supplies kept
    cases supplies with
    | failed _ first => exact aside _ _ kept first.toSameStock
    | kept _ first stored =>
        exact aside _ _ (keep _ _ (aside _ _ kept first.toSameStock)) stored.toSameStock
  cases loads with
  | keyless _ first => exact aside _ _ kept first.toSameStock
  | hit _ found first =>
      exact aside _ _ (aside _ _ kept (World.sameStock_of_names? found)) first.toSameStock
  | lateHit _ miss found first =>
      have asked := aside _ _ kept (World.sameStock_of_names? miss)
      exact aside _ _ (aside _ _ asked (World.sameStock_of_names? found)) first.toSameStock
  | miss again first second supplies =>
      cases made.symm.trans again
      have asked := aside _ _ kept (World.sameStock_of_names? first)
      exact supplied supplies (aside _ _ asked (World.sameStock_of_names? second))
  | fresh again supplies =>
      cases made.symm.trans again
      exact supplied supplies kept
  | reload again dropped supplies =>
      cases made.symm.trans again
      exact supplied supplies (aside _ _ (forget _ kept) dropped.toSameStock)

namespace CommandLine

/-! ## What runs share -/

/-- What runs over one home and one script share: the host once all that was missing has been made,
the settings, the script, the folder and its place, and what is extracted. -/
structure Desk where
  host : Host
  settings : Settings
  script : String
  location : Location
  folder : Folder
  place : Place
  report : Report

namespace Desk

/-- The key of the script. -/
def key (desk : Desk) : String :=
  match (Profile.ofSettings desk.settings).keyOf desk.host desk.location.resolved with
  | .ok key => key
  | .error _ => ""

/-- The place of the entry of the script. -/
def spot (desk : Desk) : Place := desk.place ++ [desk.folder.fileName desk.key]

/-- The names that are kept for the script, if they are. -/
def stock (desk : Desk) (stored : Bool) : Table String :=
  Function.update (fun _ => none) desk.key (if stored then some desk.report.names else none)

/-- A home where the cache directory is there without an entry for the script, and names are
extracted from the script. -/
structure Home (desk : Desk) : Prop where
  stems : desk.folder.stem = digestStem
  tidy : desk.folder.Tidy desk.place desk.host
  free : desk.host.files.at? desk.spot = none
  located : Location.resolve desk.host desk.script = .ok desk.location
  file : ∃ place content modified, desk.host.files.find desk.host.cwd desk.location.resolved =
    .ok (place, .file content modified)
  drawn : (Profile.ofSettings desk.settings).drawAt desk.host desk.location.resolved =
    .ok desk.report

/-- A home where the entries of the cache are within reach. -/
structure Sound (desk : Desk) : Prop extends desk.Home where
  short : ∀ key, (desk.folder.entryPath key).bytes.length < FileTree.pathLimit

/-- A host that differs from that of the desk in the entry of the script alone, if at all. -/
structure Suits (desk : Desk) (host : Host) : Prop where
  same : desk.host.SameOff desk.spot host
  tidy : desk.folder.Tidy desk.place host

/-- Such a host where the entry of the script is there or not. -/
structure Holds (desk : Desk) (stored : Bool) (host : Host) : Prop extends desk.Suits host where
  holds : ∀ key, desk.folder.get host key = .ok ((desk.stock stored key).map Json.listText)

variable {desk : Desk} {stored : Bool} {host : Host} {world later : World} {kind : LoadKind}
  {result : Except ExtractionError Report}

theorem stock_self (desk : Desk) (stored : Bool) :
    desk.stock stored desk.key = if stored then some desk.report.names else none :=
  Function.update_self ..

/-- After an extraction the stock of a desk is full, whether it was before or not. -/
theorem stock_freed_noting (desk : Desk) (stored : Bool) (kind : LoadKind) :
    ((desk.stock stored).freed kind desk.key).noting desk.key (.ok desk.report) =
      desk.stock true := by
  cases kind <;> simp only [Table.freed, Table.noting, stock, Function.update_idem, if_true]

theorem Home.isStem (home : desk.Home) (key : String) : IsStem (desk.folder.stem key) := by
  rw [home.stems]
  exact isStem_digestStem key

theorem Home.made (home : desk.Home) :
    (Profile.ofSettings desk.settings).keyOf desk.host desk.location.resolved = .ok desk.key := by
  obtain ⟨place, content, modified, found⟩ := home.file
  obtain ⟨key, made⟩ := exists_scriptKey found (Profile.ofSettings desk.settings).keyPrefix
    (Profile.ofSettings desk.settings).keyMode
  rw [Desk.key, Profile.keyOf, made]

/-- A file that is to replace an entry is within reach if the entries are. -/
theorem Sound.brief (sound : desk.Sound) :
    (desk.folder.dir.join (.ofString Folder.temporaryName)).bytes.length < FileTree.pathLimit := by
  have spelled : Path.IsName (encode Folder.temporaryName) := by constructor <;> decide
  have name := Folder.isName_fileName (sound.isStem desk.key)
  refine Nat.lt_of_le_of_lt (Path.length_join_le desk.folder.dir spelled name ?_)
    (sound.short desk.key)
  rw [Folder.fileName_eq, List.length_append, (sound.isStem desk.key).length_encode]
  decide

theorem Home.suits (home : desk.Home) : desk.Suits desk.host := ⟨.refl _ _, home.tidy⟩

/-- The time plays no part. -/
theorem Suits.at_time (suits : desk.Suits host) (now : Int) : desk.Suits { host with now } where
  same := ⟨suits.same.cwd, suits.same.environment, suits.same.files⟩
  tidy := ⟨suits.tidy.there, suits.tidy.plain, suits.tidy.entries, suits.tidy.distinct⟩

theorem Suits.grows (home : desk.Home) (suits : desk.Suits host) : desk.host.Grows host :=
  suits.same.grows home.free

/-- What is found on any host that suits the desk. -/
structure Finds (desk : Desk) (host : Host) : Prop where
  located : Location.resolve host desk.script = .ok desk.location
  read : readScript host.files host.cwd desk.location.resolved =
    readScript desk.host.files desk.host.cwd desk.location.resolved
  drawn : (Profile.ofSettings desk.settings).drawAt host desk.location.resolved = .ok desk.report
  made : (Profile.ofSettings desk.settings).keyOf host desk.location.resolved = .ok desk.key

theorem Home.finds (home : desk.Home) (suits : desk.Suits host) : desk.Finds host := by
  have grows := suits.grows home
  obtain ⟨place, content, modified, found⟩ := home.file
  have read := grows.readScript found
  refine ⟨grows.resolve home.located, read, ?_, ?_⟩
  · rw [Profile.drawAt, read]
    exact home.drawn
  · rw [Profile.keyOf, grows.scriptKey found]
    exact home.made

/-! ## Loads at a desk -/

/-- The surroundings of a session over the folder of the desk, on a host that suits it. -/
structure Tends (desk : Desk) (world : World) : Prop where
  store : world.store = .folder desk.folder
  suits : desk.Suits world.host

/-- Such surroundings where no call is refused and the entry of the script is there or not. -/
structure Serves (desk : Desk) (stored : Bool) (world : World) : Prop where
  store : world.store = .folder desk.folder
  obliging : world.Obliging
  host : desk.Holds stored world.host

theorem Tends.aside (tends : desk.Tends world) (same : World.SameStock world later) :
    desk.Tends later where
  store := same.store.trans tends.store
  suits := by
    rw [same.host]
    exact tends.suits

theorem Tends.keep (home : desk.Home) (tends : desk.Tends world) (names : List String) :
    desk.Tends (world.keep desk.key names).2 := by
  rcases World.keep_cases world desk.key names with still | ⟨kept, host, done, atStore, atHost⟩
  · exact tends.aside still
  · rw [tends.store] at done
    obtain ⟨rfl, left⟩ := Store.set_folder done
    refine ⟨atStore, ?_⟩
    rw [atHost]
    exact ⟨tends.suits.same.trans (tends.suits.tidy.sameOff_set home.isStem left),
      (tends.suits.tidy.set home.isStem left).1⟩

theorem Suits.remove (home : desk.Home) (suits : desk.Suits host) {after : Host}
    (done : desk.folder.remove host desk.key = .ok after) : desk.Suits after where
  same := suits.same.trans (suits.tidy.sameOff_remove home.isStem done)
  tidy := (suits.tidy.remove home.isStem done).1

theorem Tends.forget (home : desk.Home) (tends : desk.Tends world) :
    desk.Tends (world.forget desk.key).2 := by
  rcases World.forget_cases world desk.key with still | ⟨kept, host, done, atStore, atHost⟩
  · exact tends.aside still
  · rw [tends.store] at done
    obtain ⟨rfl, left⟩ := Store.remove_folder done
    refine ⟨atStore, ?_⟩
    rw [atHost]
    exact tends.suits.remove home left

/-- Dropping the entry of the script spares the script. -/
theorem Tends.spares (home : desk.Home) (tends : desk.Tends world) :
    world.store.Spares world.host desk.key desk.location.resolved := by
  intro later after done
  rw [tends.store] at done
  obtain ⟨-, left⟩ := Store.remove_folder done
  rw [(home.finds (tends.suits.remove home left)).read, (home.finds tends.suits).read]

/-- A load of the script leaves surroundings that suit the desk. -/
theorem Tends.loads (home : desk.Home) (tends : desk.Tends world)
    (loads : Loads (.ofSettings desk.settings) desk.location.resolved kind world result later) :
    desk.Tends later :=
  loads.keeps (home.finds tends.suits).made (fun _ _ => Tends.aside)
    (fun _ names tends => tends.keep home names) (fun _ tends => tends.forget home) tends

theorem Serves.tends (serves : desk.Serves stored world) : desk.Tends world :=
  ⟨serves.store, serves.host.toSuits⟩

/-- A store that serves a desk has the names of its script in stock, or nothing. -/
theorem Serves.stocked (sound : desk.Sound) (serves : desk.Serves stored world) :
    world.Stocked {desk.key} (desk.stock stored) where
  obliging := serves.obliging
  order := by
    rw [serves.store]
    exact ⟨sound.isStem, Set.injOn_singleton _ _, ⟨desk.place, serves.host.tidy⟩, sound.short,
      sound.brief⟩
  within key names kept := by
    by_contra other
    rw [stock, Function.update_of_ne other] at kept
    cases kept
  holds key := by
    rw [serves.store]
    exact serves.host.holds key

theorem Tends.serves (tends : desk.Tends world)
    (stocked : world.Stocked {desk.key} (desk.stock stored)) : desk.Serves stored world where
  store := tends.store
  obliging := stocked.obliging
  host := by
    refine ⟨tends.suits, fun key => ?_⟩
    have kept := stocked.holds key
    rw [tends.store] at kept
    exact kept

theorem Serves.aside (serves : desk.Serves stored world) (aside : World.Unasked world later) :
    desk.Serves stored later where
  store := aside.store.trans serves.store
  obliging := serves.obliging.of_refuses aside.refuses
  host := by
    rw [aside.host]
    exact serves.host

theorem Serves.note (serves : desk.Serves stored world) (notices : Journal) :
    desk.Serves stored (world.note notices) := serves.aside (World.unasked_note world notices)

/-- What is told after a load over an entry that is there or not. -/
def told (desk : Desk) (stored : Bool) : LoadKind → Report
  | .cached => if stored then ⟨desk.report.names, .cache⟩ else desk.report
  | _ => desk.report

theorem names_told (desk : Desk) (stored : Bool) (kind : LoadKind) :
    (desk.told stored kind).names = desk.report.names := by
  cases kind <;> cases stored <;> rfl

/-- A load of the script tells what is kept if it may, and leaves an entry. -/
theorem Serves.loads (sound : desk.Sound) (serves : desk.Serves stored world)
    (loads : Loads (.ofSettings desk.settings) desk.location.resolved kind world result later) :
    result = .ok (desk.told stored kind) ∧ desk.Serves true later := by
  have finds := sound.finds serves.tends.suits
  have tends := serves.tends.loads sound.toHome loads
  have stocked := serves.stocked sound
  by_cases hit : kind = .cached ∧ stored = true
  · obtain ⟨rfl, rfl⟩ := hit
    obtain ⟨told, kept⟩ := loads.stocked_hit stocked finds.made (desk.stock_self true)
    exact ⟨told, tends.serves kept⟩
  · have missing : kind = .cached → desk.stock stored desk.key = none := by
      rintro rfl
      rw [stock_self, if_neg fun there => hit ⟨rfl, there⟩]
    obtain ⟨told, kept⟩ := loads.stocked_extracts stocked finds.made rfl missing
      fun _ => serves.tends.spares sound.toHome
    rw [told, finds.drawn] at kept ⊢
    rw [stock_freed_noting] at kept
    refine ⟨?_, tends.serves kept⟩
    cases kind with
    | cached => rw [Desk.told, if_neg fun there => hit ⟨rfl, there⟩]
    | fresh | reload => rfl

/-- Whether every load of the script in some surroundings tells a report, and leaves surroundings as
they should be. -/
def Leads (desk : Desk) (world : World) (kind : LoadKind) (report : Report)
    (After : World → Prop) : Prop :=
  ∀ between result later, World.Unasked world between →
    Loads (.ofSettings desk.settings) desk.location.resolved kind between result later →
      result = .ok report ∧ After later

/-- A load over a store that serves a desk tells its names and leaves them in the store. -/
theorem Serves.leads (sound : desk.Sound) (serves : desk.Serves stored world) (kind : LoadKind) :
    desk.Leads world kind (desk.told stored kind) (desk.Serves true) :=
  fun _ _ _ aside loads => (serves.aside aside).loads sound loads

/-! ## Actions -/

/-- What a run works with in some surroundings. -/
def bench (desk : Desk) (world : World) : Bench where
  settings := desk.settings
  script := desk.script
  folder := desk.folder
  scene := ⟨.start (.ofSettings desk.settings), world⟩

/-- What a run replies, with an entry for the script or without. -/
def reply (desk : Desk) (stored : Bool) : Command → Reply
  | .list fresh =>
      .listed desk.script
        ⟨desk.report.names, if stored && !fresh then .cache else desk.report.origin⟩
  | .search query => .found query (matching query desk.report.names)
  | .reload => .reloaded ⟨desk.report.names.length, desk.report.origin⟩ desk.report.names
  | .inspect =>
      .inspected desk.location.resolved desk.key (desk.folder.entryPath desk.key)
        (if stored then some desk.report.names else none)
  | .clear =>
      .cleared desk.location.resolved (desk.folder.entryPath desk.key) stored (.ok ())

theorem noted_bench (desk : Desk) (world : World) (text : String) :
    (desk.bench world).noted text =
      ⟨.start (.ofSettings desk.settings), world.note [⟨.debug, workTopic, text⟩]⟩ := rfl

theorem script_bench (desk : Desk) (world : World) : (desk.bench world).script = desk.script := rfl

section Leads

variable {report : Report} {After : World → Prop}

theorem Leads.note (leads : desk.Leads world kind report After) (notices : Journal) :
    desk.Leads (world.note notices) kind report After :=
  fun _ _ _ aside => leads _ _ _ ((World.unasked_note world notices).trans aside)

/-- A request that comes to a load of the script loads it. -/
theorem Leads.performs {session base : Session} {request : Request}
    (leads : desk.Leads world kind report After)
    (works : session.profile = .ofSettings desk.settings) (quiet : session.inFlight = [])
    (asks : session.Asks world.host request kind desk.location base) :
    ∃ scene, Scene.perform ⟨session, world⟩ request false =
        (scene, some (kind.answer (.ok report))) ∧
      scene.session.names = report.names ∧ After scene.world := by
  obtain ⟨result, between, after, promises, aside, loads, performed⟩ :=
    Scene.perform_asks ⟨session, world⟩ false quiet asks
  rw [works] at loads
  obtain ⟨rfl, left⟩ := leads _ _ _ aside loads
  exact ⟨_, performed, rfl, left⟩

/-- To configure the script is to look for it and to load it. -/
theorem Leads.configure {fresh : Bool}
    (leads : desk.Leads world (if fresh then .fresh else .cached) report After)
    (located : Location.resolve world.host desk.script = .ok desk.location) :
    ∃ scene, (desk.bench world).configure fresh = (.ok report, scene) ∧
      scene.session.names = report.names ∧ After scene.world := by
  have asks : Session.Asks (.start (.ofSettings desk.settings))
      (world.note [⟨.debug, workTopic, "Configuring session with '" ++ desk.script ++
        "' (fresh: " ++ toString fresh ++ ")"⟩]).host
      (.configure desk.script fresh) _ desk.location _ := .configure located
  obtain ⟨scene, performed, names, after⟩ := (leads.note _).performs rfl rfl asks
  refine ⟨scene, ?_, names, after⟩
  rw [Bench.configure, noted_bench, script_bench, performed]
  cases fresh <;> rfl

end Leads

/-- Configuring the script tells its names, and from then on they are stored. -/
theorem Serves.configure (sound : desk.Sound) (serves : desk.Serves stored world) (fresh : Bool) :
    ∃ scene, (desk.bench world).configure fresh =
        (.ok (desk.told stored (if fresh then .fresh else .cached)), scene) ∧
      scene.session.names = desk.report.names ∧ desk.Serves true scene.world := by
  rw [← desk.names_told stored (if fresh then .fresh else .cached)]
  exact (serves.leads sound _).configure (sound.finds serves.host.toSuits).located

theorem Serves.setScript (sound : desk.Sound) (serves : desk.Serves stored world) :
    ∃ after, Scene.perform ⟨.start (.ofSettings desk.settings), world⟩ (.setScript desk.script)
        false =
          (⟨Session.pointed (.start (.ofSettings desk.settings)) desk.script (.ok desk.location),
            after⟩, some (.located (.ok desk.location))) ∧
      desk.Serves stored after := by
  obtain ⟨after, aside, performed⟩ := Scene.perform_setScript
    ⟨.start (.ofSettings desk.settings), world⟩ false desk.script
  refine ⟨after, ?_, serves.aside aside⟩
  dsimp only at performed
  rw [performed, (sound.finds serves.host.toSuits).located]
  rfl

/-- A reload tells the names that it has extracted, and from then on they are stored. -/
theorem Serves.reload (sound : desk.Sound) (serves : desk.Serves stored world) :
    ∃ scene, (desk.bench world).reload =
        (.ok ⟨desk.report.names.length, desk.report.origin⟩, scene) ∧
      scene.session.names = desk.report.names ∧ desk.Serves true scene.world := by
  have noted := serves.note [⟨.debug, workTopic, "Reloading '" ++ desk.script ++ "'"⟩]
  obtain ⟨between, sets, pointed⟩ := noted.setScript sound
  have ready : (Session.pointed (.start (.ofSettings desk.settings)) desk.script
      (.ok desk.location)).path = .ready desk.location := rfl
  obtain ⟨scene, performed, names, after⟩ :=
    (pointed.leads sound .reload).performs rfl rfl (.reload ready)
  refine ⟨scene, ?_, names, after⟩
  simp only [Bench.reload, noted_bench, script_bench, sets, performed]
  rfl

/-- The key of the entry is that of the script, and asking for it changes nothing. -/
theorem Serves.entry (sound : desk.Sound) (serves : desk.Serves stored world) :
    ∃ after, (desk.bench world).entry =
        (.ok (desk.location.resolved, desk.key), ⟨.start (.ofSettings desk.settings), after⟩) ∧
      desk.Serves stored after := by
  have finds := sound.finds serves.host.toSuits
  have host : (desk.bench world).scene.world.host = world.host := rfl
  have made : (Session.start (.ofSettings desk.settings)).keyOf world.host desk.location.resolved =
      .ok desk.key := finds.made
  refine ⟨world.note (Location.remarks world.host desk.script), ?_, serves.note _⟩
  simp only [Bench.entry, script_bench, host, finds.located]
  have session : ∀ later, ((desk.bench world).scene.withWorld later).session =
      .start (.ofSettings desk.settings) := fun _ => rfl
  simp only [session, made]
  rfl

/-- The store hands out the entry of the script if it is there. -/
theorem Serves.asks (sound : desk.Sound) (serves : desk.Serves stored world) :
    ∃ after, world.names? desk.key = (desk.stock stored desk.key, after) ∧
      desk.Serves stored after := by
  have stocked := serves.stocked sound
  refine ⟨(world.names? desk.key).2, ?_, ?_⟩
  · rw [← stocked.names?_eq desk.key]
  · exact (serves.tends.aside (World.sameStock_of_names? rfl)).serves (stocked.asked rfl)

/-- An inspection shows the names that are stored, and stores none. -/
theorem Serves.inspect (sound : desk.Sound) (serves : desk.Serves stored world) :
    ∃ scene, (desk.bench world).inspect = (.ok (desk.reply stored .inspect), scene) ∧
      desk.Serves stored scene.world := by
  obtain ⟨between, entry, serves⟩ := serves.entry sound
  obtain ⟨after, asked, serves⟩ := serves.asks sound
  refine ⟨⟨.start (.ofSettings desk.settings), after⟩, ?_, serves⟩
  simp only [Bench.inspect, entry, asked, stock_self]
  rfl

/-- Clearing removes the entry if there is one, and tells whether there was. -/
theorem Serves.clear (sound : desk.Sound) (serves : desk.Serves stored world) :
    ∃ scene, (desk.bench world).clear = (.ok (desk.reply stored .clear), scene) ∧
      desk.Serves false scene.world := by
  obtain ⟨between, entry, serves⟩ := serves.entry sound
  obtain ⟨after, asked, serves⟩ := serves.asks sound
  obtain ⟨done, left⟩ := (serves.stocked sound).forget rfl
  have tends := serves.tends.forget sound.toHome
  refine ⟨⟨.start (.ofSettings desk.settings), (after.forget desk.key).2⟩, ?_, ?_⟩
  · simp only [Bench.clear, entry, asked, stock_self, done]
    cases stored <;> rfl
  · refine tends.serves ?_
    rw [stock, Function.update_idem] at left
    exact left

/-- Every command replies what it should, and leaves an entry or none as it should. -/
theorem Serves.perform (sound : desk.Sound) (serves : desk.Serves stored world)
    (sign : Host → Bool) (command : Command) :
    ∃ scene, (desk.bench world).perform sign command.action =
        (.ok (desk.reply stored command), scene) ∧
      desk.Serves (command.leaves stored) scene.world := by
  cases command with
  | list fresh =>
      obtain ⟨scene, told, -, after⟩ := serves.configure sound fresh
      refine ⟨scene, ?_, after⟩
      simp only [Command.action, Bench.perform, told]
      cases fresh <;> cases stored <;> rfl
  | search query =>
      obtain ⟨scene, told, names, after⟩ := serves.configure sound false
      refine ⟨scene, ?_, after⟩
      simp only [Command.action, Bench.perform, told, search_eq, names]
      rfl
  | reload =>
      obtain ⟨scene, told, names, after⟩ := serves.reload sound
      refine ⟨scene, ?_, after⟩
      simp only [Command.action, Bench.perform, told, names]
      rfl
  | inspect =>
      obtain ⟨scene, told, after⟩ := serves.inspect sound
      refine ⟨scene, ?_, after⟩
      simp only [Command.action, Bench.perform, told]
  | clear =>
      obtain ⟨scene, told, after⟩ := serves.clear sound
      refine ⟨scene, ?_, after⟩
      simp only [Command.action, Bench.perform, told]

end Desk

end CommandLine

end ScriptRoster
