import ScriptRoster.Proofs.CommandLine.Desk

/-!
# Runs that agree

Several runs of the program, one after the other, over the same home and one script: what a run has
kept is told by the next, whatever command it was given. An entry can only be kept if its path is
not too long for the system. Where it is, every run extracts the names anew.
-/

namespace ScriptRoster

open Cache Files Text

namespace CommandLine

/-! ## Runs -/

/-- A run of the program, a sign that asks it for a stop, the stamp of its log, and the time when
the next run may begin. -/
structure Visit where
  command : Command
  sign : Host → Bool
  stamp : String
  later : Int

namespace Visit

/-- The ending of a run over a script that may be named. -/
def run (named : Option String) (host : Host) (visit : Visit) : Ending :=
  CommandLine.run visit.sign visit.stamp host (scriptArguments named ++ visit.command.arguments)

/-- The codes and outputs of runs, one after the other. -/
def runs (named : Option String) : Host → List Visit → List (Nat × String)
  | _, [] => []
  | host, visit :: rest =>
      let ending := visit.run named host
      (ending.code, ending.output) :: runs named { ending.host with now := visit.later } rest

end Visit

namespace Desk

/-- The code and the output that a run should have, with an entry for the script or without. -/
def answer (desk : Desk) (stored : Bool) (command : Command) : Nat × String :=
  (0, (desk.reply stored command).output.render (Tint.opening (tintsReplies desk.host)))

/-- The codes and outputs that runs should have, with an entry for the script at first or
without. -/
def answers (desk : Desk) : Bool → List Visit → List (Nat × String)
  | _, [] => []
  | stored, visit :: rest =>
      desk.answer stored visit.command :: desk.answers (visit.command.leaves stored) rest

/-- Whether a run on a host loads the settings of the desk, opens its folder, and is about its
script, and what the host is then. -/
structure Opens (desk : Desk) (named : Option String) (host after : Host) : Prop where
  prepared : ∃ between loading,
    Settings.loadDefault host = (.ok desk.settings, between, loading) ∧
      Folder.prepareDefault between = .ok (desk.folder, after)
  script : desk.settings.chosenScript named (after.lookup? scriptVariable) = desk.script
  named : ∀ path, named = some path → IsPlain path

/-- What runs begin with: the cache directory is empty when the first of them has opened it, and
names are extracted from the script. -/
structure Begins (desk : Desk) (named : Option String) (host : Host) : Prop where
  opens : desk.Opens named host desk.host
  there : desk.host.files.find desk.host.cwd desk.folder.dir = .ok (desk.place, .directory)
  empty : desk.host.files.namesIn desk.place = []
  located : Location.resolve desk.host desk.script = .ok desk.location
  drawn : (Profile.ofSettings desk.settings).drawAt desk.host desk.location.resolved =
    .ok desk.report
  some : desk.report.names ≠ []

variable {desk : Desk} {stored : Bool} {host after : Host} {named : Option String}

theorem trouble?_reply (desk : Desk) (stored : Bool) (command : Command) :
    (desk.reply stored command).trouble? = none := by
  cases command <;> rfl

theorem Suits.tints (suits : desk.Suits host) : tintsReplies host = tintsReplies desk.host := by
  rw [tintsReplies, tintsReplies, Host.lookup?, Host.lookup?, suits.same.environment]

/-- What a run does in the surroundings that it has prepared is all that it answers and leaves. -/
theorem Opens.run {After : World → Prop} {replied : Bool} (opens : desk.Opens named host after)
    (visit : Visit) (plain : visit.command.Plain)
    (suits : ∀ world, After world → desk.Suits world.host)
    (performs : ∀ notes, ∃ scene, (desk.bench (Bench.world after desk.folder notes)).perform
        visit.sign visit.command.action = (.ok (desk.reply replied visit.command), scene) ∧
      After scene.world) :
    ((visit.run named host).code, (visit.run named host).output) =
        desk.answer replied visit.command ∧
      ∃ world, After world ∧ (visit.run named host).host = world.host := by
  obtain ⟨between, loading, loaded, opened⟩ := opens.prepared
  obtain ⟨notes, prepared⟩ : ∃ notes,
      Bench.prepare host named (Options.notice ⟨named, visit.command.arguments⟩) =
        (.ok (desk.bench (Bench.world after desk.folder notes)), after, notes) :=
    ⟨_, by rw [Bench.prepare_eq loaded opened, opens.script]; rfl⟩
  obtain ⟨scene, performed, left⟩ := performs notes
  have read := Options.read_arguments opens.named visit.command
  have acts := Action.ofArguments_arguments plain
  obtain ⟨errors, ran⟩ : ∃ errors, visit.run named host =
      ⟨0, (desk.reply replied visit.command).output.render
        (Tint.opening (tintsReplies scene.world.host)), errors, scene.world.host⟩ := by
    simp only [Visit.run, CommandLine.run, read, dispatch, prepared, acts, performed,
      Ending.ofReply, trouble?_reply]
    exact ⟨_, rfl⟩
  rw [ran, (suits _ left).tints]
  exact ⟨rfl, scene.world, left, rfl⟩

/-- A run answers what it should, and leaves an entry or none as it should. -/
theorem Opens.answers (sound : desk.Sound) (opens : desk.Opens named host after)
    (holds : desk.Holds stored after) {visit : Visit} (plain : visit.command.Plain) :
    ((visit.run named host).code, (visit.run named host).output) =
        desk.answer stored visit.command ∧
      desk.Holds (visit.command.leaves stored) (visit.run named host).host := by
  have serves : ∀ notes, desk.Serves stored (Bench.world after desk.folder notes) :=
    fun _ => ⟨rfl, fun _ _ => rfl, holds⟩
  obtain ⟨answered, world, serves, left⟩ := opens.run visit plain
    (fun _ serves => Holds.toSuits (Serves.host serves))
    fun notes => (serves notes).perform sound visit.sign visit.command
  rw [left]
  exact ⟨answered, serves.host⟩

/-! ## Runs that begin -/

/-- What a run comes to, a later one comes to again on any host that has grown. -/
theorem Begins.opens_again (begins : desk.Begins named host) {later : Host}
    (grows : desk.host.Grows later) : desk.Opens named later later where
  prepared := by
    obtain ⟨between, loading, loaded, opened⟩ := begins.opens.prepared
    obtain ⟨-, loads⟩ := Settings.loadDefault_again loaded
    obtain ⟨grown, -, opens⟩ := Folder.prepareDefault_again opened begins.there
    exact ⟨later, [], loads later (grown.trans grows), opens later grows⟩
  script := by
    rw [grows.lookup?]
    exact begins.opens.script
  named := begins.opens.named

theorem Begins.home (begins : desk.Begins named host) : desk.Home where
  stems := by
    obtain ⟨between, loading, loaded, opened⟩ := begins.opens.prepared
    exact (Folder.prepareDefault_again opened begins.there).2.1
  tidy := Folder.tidy_of_empty begins.there begins.empty
  free := by
    by_contra standing
    obtain ⟨item, there⟩ := Option.ne_none_iff_exists'.mp standing
    have member := FileTree.mem_namesIn_of_at? there
    rw [begins.empty] at member
    cases member
  located := begins.located
  file := exists_file_of_drawAt begins.drawn begins.some
  drawn := begins.drawn

/-- Nothing is stored for any key when runs begin. -/
theorem Begins.holds (begins : desk.Begins named host) (sound : desk.Sound) :
    desk.Holds false desk.host where
  toSuits := sound.suits
  holds key := by
    have nothing : desk.folder.held desk.place desk.host key = none := by
      rcases sound.tidy.held_cases sound.isStem key with ⟨-, none⟩ | ⟨entry, modified, -, file, -⟩
      · exact none
      · have member := FileTree.mem_namesIn_of_at? file
        rw [begins.empty] at member
        cases member
    rw [sound.tidy.get_eq sound.isStem, if_neg (Nat.not_le.mpr (sound.short key)), nothing, stock]
    simp

/-- What is extracted is told to come from an extraction. -/
theorem Begins.exists_strategy (begins : desk.Begins named host) :
    ∃ strategy, desk.report.origin = .extracted strategy := by
  have drawn := begins.drawn
  unfold Profile.drawAt at drawn
  cases read : readScript desk.host.files desk.host.cwd desk.location.resolved with
  | error error =>
      rw [read] at drawn
      cases drawn
  | ok content =>
      rw [read] at drawn
      simp only [Except.bind, Profile.draw] at drawn
      generalize (Extraction.ofText _ _ content).outcome = outcome at drawn
      cases outcome with
      | error error => cases drawn
      | ok found =>
          rw [← Except.ok.inj drawn]
          exact ⟨_, rfl⟩

/-- Runs answer what they should, one after the other. -/
theorem Begins.answers (begins : desk.Begins named host) (sound : desk.Sound) {visits : List Visit}
    (plain : ∀ visit ∈ visits, visit.command.Plain) {before : Host}
    (opens : desk.Opens named before after) (holds : desk.Holds stored after) :
    Visit.runs named before visits = desk.answers stored visits := by
  induction visits generalizing stored before after with
  | nil => rfl
  | cons visit visits ih =>
      obtain ⟨answered, left⟩ := opens.answers sound holds (plain visit List.mem_cons_self)
      have later : desk.Holds (visit.command.leaves stored)
          { (visit.run named before).host with now := visit.later } :=
        ⟨left.toSuits.at_time _, left.holds⟩
      have rest := ih (fun other member => plain other (List.mem_cons_of_mem _ member))
        (begins.opens_again (later.toSuits.grows sound.toHome)) later
      rw [Visit.runs, Desk.answers]
      dsimp only
      rw [answered, rest]

end Desk

/-! ## A cache directory that is named over points -/

/-- The path of a directory below the root, over as many points as asked for. -/
def dotted : Nat → String
  | 0 => "c"
  | points + 1 => "./" ++ dotted points

/-- Files with one script, settings, and an empty directory. -/
def tidyHome : FileTree where
  items :=
    [([[0x73]], .file (encode "function A \x7b\x7d") 0),
      ([[0x63]], .directory),
      ([[0x70, 0x73, 0x66, 0x75, 0x6e, 0x63]], .directory),
      ([[0x70, 0x73, 0x66, 0x75, 0x6e, 0x63],
          [0x63, 0x6f, 0x6e, 0x66, 0x69, 0x67, 0x2e, 0x74, 0x6f, 0x6d, 0x6c]],
        .file (encode Settings.defaults.text) 0)]

/-- The host whose cache directory is named over as many points as asked for. -/
def dottedHost (points : Nat) : Host where
  files := tidyHome
  cwd := []
  environment :=
    [("XDG_CONFIG_HOME", "/"), (scriptVariable, "/s"), ("PSFUNC_CACHE_DIR", dotted points)]
  now := 0

/-- What runs on such a host share. -/
def dottedDesk (points : Nat) : Desk where
  host := dottedHost points
  settings := .defaults
  script := "/s"
  location := ⟨"/s", onlyScript⟩
  folder := ⟨.ofString (dotted points), digestStem⟩
  place := [[0x63]]
  report := ⟨["A"], .extracted .structural⟩

section Dotted

variable (points : Nat)

theorem encode_dotted_succ :
    encode (dotted (points + 1)) = Path.here ++ Path.slash :: encode (dotted points) := by
  have front : encode "./" = Path.here ++ [Path.slash] := by decide
  rw [dotted, encode_append, front, List.append_assoc]
  rfl

theorem length_encode_dotted : (encode (dotted points)).length = 2 * points + 1 := by
  induction points with
  | zero => decide
  | succ points ih =>
      rw [encode_dotted_succ, List.length_append, List.length_cons, ih]
      simp only [Path.here, List.length_singleton]
      omega

theorem isEmpty_dotted : (encode (dotted points)).isEmpty = false := by
  cases points with
  | zero => decide
  | succ points =>
      rw [encode_dotted_succ]
      rfl

theorem noNul_dotted : (encode (dotted points)).contains 0 = false := by
  induction points with
  | zero => decide
  | succ points ih =>
      rw [encode_dotted_succ]
      simpa [Path.here, Path.slash] using ih

theorem getLast?_dotted : (encode (dotted points)).getLast? = some 0x63 := by
  induction points with
  | zero => decide
  | succ points ih => simp [encode_dotted_succ, List.getLast?_cons, ih]

theorem head?_dotted : (dotted points).toList.head? ≠ some '~' ∧ dotted points ≠ "" := by
  cases points with
  | zero => decide
  | succ points =>
      have front : "./".toList = ['.', '/'] := by decide
      constructor
      · simp [dotted, String.toList_append, front]
      · intro empty
        have letters := congrArg String.toList empty
        simp [dotted, String.toList_append, front] at letters

theorem components_dotted :
    (Path.ofString (dotted points)).components = List.replicate points Path.here ++ [[0x63]] := by
  have names : Path.names ⟨encode (dotted points)⟩ =
      List.replicate points Path.here ++ [[0x63]] := by
    induction points with
    | zero => decide
    | succ points ih =>
        rw [Path.names, encode_dotted_succ, Path.split_append_slash, List.filter_append]
        exact congrArg (Path.here :: ·) ih
  rw [Path.components_eq, Path.ofString, names, getLast?_dotted]
  rfl

/-- The directory is found behind any number of points that the system takes. -/
theorem find_dotted (short : 2 * points + 1 < FileTree.pathLimit) :
    tidyHome.find [] (.ofString (dotted points)) = .ok ([[0x63]], .directory) := by
  have length : (encode (dotted points)).length = 2 * points + 1 := length_encode_dotted points
  have whole : ¬(encode (dotted points)).isEmpty = true := by
    rw [isEmpty_dotted]
    decide
  have noNul : ¬(encode (dotted points)).contains 0 = true := by
    rw [noNul_dotted]
    decide
  have root : tidyHome.at? [] = some .directory := rfl
  have there : tidyHome.at? [[0x63]] = some .directory := rfl
  have ends : tidyHome.walk true FileTree.linkLimit [] [[0x63]] =
      .ok (.taken [[0x63]] .directory) := by
    simp [FileTree.walk, root, there, Path.here, Path.above, FileTree.nameLimit]
  rw [FileTree.find, FileTree.locate, components_dotted, ite_self,
    FileTree.walk_replicate_here root, ends]
  simp only [Path.ofString, if_neg noNul, if_neg whole, length, if_neg (Nat.not_le.mpr short)]

theorem find_settings : tidyHome.find [] (.ofString "/psfunc") =
    .ok ([[0x70, 0x73, 0x66, 0x75, 0x6e, 0x63]], .directory) := by
  have root : tidyHome.at? [] = some .directory := rfl
  have there : tidyHome.at? [[0x70, 0x73, 0x66, 0x75, 0x6e, 0x63]] = some .directory := rfl
  have components : (Path.ofString "/psfunc").components =
      [[0x70, 0x73, 0x66, 0x75, 0x6e, 0x63]] := by decide
  have located : tidyHome.locate true [] (.ofString "/psfunc") =
      tidyHome.walk true FileTree.linkLimit [] (Path.ofString "/psfunc").components := rfl
  rw [FileTree.find, located, components]
  simp [FileTree.walk, root, there, Path.here, Path.above, FileTree.nameLimit]

theorem find_settingsFile : tidyHome.find [] (.ofString "/psfunc/config.toml") =
    .ok ([[0x70, 0x73, 0x66, 0x75, 0x6e, 0x63],
        [0x63, 0x6f, 0x6e, 0x66, 0x69, 0x67, 0x2e, 0x74, 0x6f, 0x6d, 0x6c]],
      .file (encode Settings.defaults.text) 0) := by
  have root : tidyHome.at? [] = some .directory := rfl
  have there : tidyHome.at? [[0x70, 0x73, 0x66, 0x75, 0x6e, 0x63]] = some .directory := rfl
  have file : tidyHome.at? [[0x70, 0x73, 0x66, 0x75, 0x6e, 0x63],
      [0x63, 0x6f, 0x6e, 0x66, 0x69, 0x67, 0x2e, 0x74, 0x6f, 0x6d, 0x6c]] =
        some (.file (encode Settings.defaults.text) 0) := rfl
  have components : (Path.ofString "/psfunc/config.toml").components =
      [[0x70, 0x73, 0x66, 0x75, 0x6e, 0x63],
        [0x63, 0x6f, 0x6e, 0x66, 0x69, 0x67, 0x2e, 0x74, 0x6f, 0x6d, 0x6c]] := by decide
  have located : tidyHome.locate true [] (.ofString "/psfunc/config.toml") =
      tidyHome.walk true FileTree.linkLimit [] (Path.ofString "/psfunc/config.toml").components :=
    rfl
  rw [FileTree.find, located, components]
  simp [FileTree.walk, root, there, file, Path.here, Path.above, FileTree.nameLimit]

/-- The settings are there, so that loading them changes nothing. -/
theorem loadDefault_dotted : Settings.loadDefault (dottedHost points) =
    (.ok .defaults, dottedHost points, []) := by
  have settings : (dottedHost points).settingsPath = .ofString "/psfunc" := by
    have base : (dottedHost points).baseDirectory "XDG_CONFIG_HOME" ".config" = .ofString "/" := by
      rfl
    rw [Host.settingsPath, base]
    decide +kernel
  have there : (dottedHost points).files.exists? (dottedHost points).cwd
      (dottedHost points).settingsPath = true := by
    rw [settings]
    exact FileTree.exists?_eq_true.mpr ⟨_, _, find_settings⟩
  have file : (dottedHost points).settingsPath.join (.ofString Settings.fileName) =
      .ofString "/psfunc/config.toml" := by
    rw [settings]
    decide +kernel
  rw [Settings.loadDefault_eq there, file]
  exact Settings.load_defaults find_settingsFile

theorem prepareDefault_dotted (short : 2 * points + 1 < FileTree.pathLimit) :
    Folder.prepareDefault (dottedHost points) =
      .ok (⟨.ofString (dotted points), digestStem⟩, dottedHost points) := by
  obtain ⟨plain, some⟩ := head?_dotted points
  have named : (dottedHost points).lookup? "PSFUNC_CACHE_DIR" = Option.some (dotted points) := rfl
  have path : (dottedHost points).cachePath = .ofString (dotted points) := by
    simp only [Host.cachePath, Host.nonempty?, named, Option.filter_some]
    rw [if_pos (by simpa using some)]
    simp only [Host.expandHome_of_head _ plain]
  rw [← path]
  have there := find_dotted points short
  rw [← path] at there
  exact Folder.prepareDefault_of_find there

theorem drawAt_dotted : (Profile.ofSettings .defaults).drawAt (dottedHost points) onlyScript =
    .ok ⟨["A"], .extracted .structural⟩ := by
  have there : (dottedHost points).files.at? [[0x73]] =
      some (.file (encode "function A \x7b\x7d") 0) := rfl
  have drawn : (Profile.ofSettings .defaults).draw (dropMark "function A \x7b\x7d") =
      .ok ⟨["A"], .extracted .structural⟩ := by decide +kernel
  rw [← drawn]
  exact drawAt_of_file (Host.isTop_onlyScript.find_of_file there)

/-- The key of the script tells its time, which is that of the epoch. -/
theorem key_dotted : (dottedDesk points).key = "psfunc-functions-/s-0" := by
  have there : (dottedHost points).files.at? [[0x73]] =
      some (.file (encode "function A \x7b\x7d") 0) := rfl
  have time : scriptTime (dottedHost points) onlyScript = .ok 0 := by
    rw [scriptTime, Host.isTop_onlyScript.find_of_file there]
  have text : keyAt "psfunc-functions" .modified onlyScript (keyTime 0) =
      "psfunc-functions-/s-0" := by decide +kernel
  have made : (Profile.ofSettings (dottedDesk points).settings).keyOf (dottedDesk points).host
      (dottedDesk points).location.resolved = .ok "psfunc-functions-/s-0" := by
    have made := scriptKey_modified "psfunc-functions" (dottedHost points) onlyScript
    rw [time] at made
    rw [← text]
    exact made
  rw [Desk.key, made]

theorem begins_dotted (short : 2 * points + 1 < FileTree.pathLimit) :
    (dottedDesk points).Begins none (dottedHost points) where
  opens :=
    { prepared := ⟨_, _, loadDefault_dotted points, prepareDefault_dotted points short⟩
      script := by
        have chosen : Settings.chosenScript none (some "/s") .defaults = "/s" := by decide +kernel
        exact chosen
      named := by simp }
  there := find_dotted points short
  empty := rfl
  located := Host.isTop_onlyScript.resolve (by decide +kernel) (by decide +kernel) rfl
  drawn := drawAt_dotted points
  some := by simp [dottedDesk]

/-- Each point lengthens the paths of all entries by two bytes. -/
theorem length_entryPath_dotted (key : String) :
    ((dottedDesk points).folder.entryPath key).bytes.length = 2 * points + 39 := by
  have stem := isStem_digestStem key
  have name : ((dottedDesk points).folder.fileName key).length = 37 := by
    rw [Folder.fileName_eq, List.length_append]
    exact congrArg (· + 5) stem.length_encode
  have plain : Path.IsName ((dottedDesk points).folder.fileName key) := Folder.isName_fileName stem
  have dir : (dottedDesk points).folder.dir = ⟨encode (dotted points)⟩ := rfl
  rw [Folder.entryPath_eq, Path.join, plain.not_isAbsolute, dir, isEmpty_dotted, getLast?_dotted]
  simp [name, length_encode_dotted, Path.slash]

end Dotted

/-! ## Agreement -/

variable {desk : Desk} {named : Option String} {host : Host}

/-- Runs over one home and one script agree with each other, if the cache directory is empty at
first and the paths of entries are not too long. Every `list` and `reload` tells the names that are
extracted, in order, and every `search` those that hold its query. There is an entry for the script,
with just these names, if and only if the last command that was no `inspect` was no `clear` either:
then `inspect` shows it, a `list` that may use it tells that the names come from the cache, and
`clear` tells that it has removed it. -/
theorem runs_agree (begins : desk.Begins named host)
    (short : ∀ key, (desk.folder.entryPath key).bytes.length < FileTree.pathLimit)
    (visits : List Visit) (plain : ∀ visit ∈ visits, visit.command.Plain) :
    (∃ strategy, desk.report.origin = .extracted strategy) ∧
      Visit.runs named host visits = desk.answers false visits := by
  have sound : desk.Sound := ⟨begins.home, short⟩
  exact ⟨begins.exists_strategy, begins.answers sound plain begins.opens (begins.holds sound)⟩

/-- Over a directory that is named as it is, the names that the first run has kept are told by the
second and shown by an inspection; a search tells them as well, and what may not use them extracts
them. Once the entry is cleared, there is none to clear and none to show until the names are loaded
again. -/
theorem runs_agree_dotted :
    let file := "\n  Entry File:     c/5a07a26e71dd451f77e8fe31ed3d81eb.json\n\n"
    let inspected (status : String) : Nat × String :=
      (0, "\nInspecting cached names for '/s'\n  Key:            psfunc-functions-/s-0" ++ file ++
        status)
    let cleared (status : String) : Nat × String :=
      (0, "\nClearing cached names for '/s'" ++ file ++ status)
    let vacant := inspected "Status: no entry is stored under this key.\n"
    let shown := inspected "--- Cached names ---\n[\n  \"A\"\n]\n"
    Visit.runs none (dottedHost 0)
        ([.inspect, .list false, .list false, .inspect, .search "a", .list true, .clear, .clear,
          .inspect, .reload, .inspect, .list false].map fun command =>
          ⟨command, fun _ => false, "", 0⟩) =
      [vacant,
        (0, "1 function(s) in '/s' (from structural parse)\n  A\n"),
        (0, "1 function(s) in '/s' (from cache)\n  A\n"), shown, (0, "  A\n"),
        (0, "1 function(s) in '/s' (from structural parse)\n  A\n"),
        cleared "Cache entry removed. The script will be parsed on the next run.\n",
        cleared "No entry was stored for this script. Nothing to do.\n", vacant,
        (0, "Reloaded 1 function(s) from the structural parse.\n  A\n"), shown,
        (0, "1 function(s) in '/s' (from cache)\n  A\n")] := by
  intro file inspected cleared vacant shown
  have begins := begins_dotted 0 (by decide)
  refine (runs_agree begins (fun key => ?_) _ ?_).2.trans ?_
  · rw [length_entryPath_dotted]
    decide
  · simp [Command.Plain, IsPlain]
  · simp only [List.map, Desk.answers, Desk.answer, Desk.reply, key_dotted]
    decide +kernel

/-! ## Entries beyond reach -/

namespace Desk

/-- A load extracts the script if no entry is within reach, whatever was kept before. -/
theorem Home.leads_beyond_reach {world : World} (home : desk.Home)
    (long : ∀ key, FileTree.pathLimit ≤ (desk.folder.entryPath key).bytes.length)
    (tends : desk.Tends world) : desk.Leads world .cached desk.report desk.Tends := by
  intro between result later aside loads
  have tends := tends.aside aside.toSameStock
  have finds := home.finds tends.suits
  refine ⟨?_, tends.loads home loads⟩
  have missed : ∀ {world after : World} {names : Option (List String)}, desk.Tends world →
      world.names? desk.key = (names, after) → names = none := by
    intro world after names tends asked
    have failed : world.store.get world.host desk.key = .error (.io .nameTooLong) := by
      rw [tends.store]
      exact (tends.suits.tidy.get_eq home.isStem _).trans (if_pos (long _))
    have none := World.names?_of_get_error failed
    rw [asked] at none
    exact none
  cases loads with
  | keyless failed =>
      rw [finds.made] at failed
      cases failed
  | hit again found =>
      cases finds.made.symm.trans again
      cases missed tends found
  | lateHit again first found =>
      cases finds.made.symm.trans again
      cases missed (tends.aside (World.sameStock_of_names? first)) found
  | miss again first second supplied =>
      have drawn := (home.finds ((tends.aside (World.sameStock_of_names? first)).aside
        (World.sameStock_of_names? second)).suits).drawn
      cases supplied with
      | failed failed => cases drawn.symm.trans failed
      | kept again => exact again.symm.trans drawn

theorem Home.lists_beyond_reach {world : World} (home : desk.Home)
    (long : ∀ key, FileTree.pathLimit ≤ (desk.folder.entryPath key).bytes.length)
    (tends : desk.Tends world) (sign : Host → Bool) :
    ∃ scene, (desk.bench world).perform sign (.list false) =
        (.ok (desk.reply false (.list false)), scene) ∧ desk.Tends scene.world := by
  have leads : desk.Leads world (if false then .fresh else .cached) desk.report desk.Tends :=
    home.leads_beyond_reach long tends
  obtain ⟨scene, told, -, left⟩ := leads.configure (home.finds tends.suits).located
  refine ⟨scene, ?_, left⟩
  simp only [Bench.perform, told]
  rfl

/-- Every `list` extracts the names anew if no entry is within reach. -/
theorem Begins.lists_beyond_reach (begins : desk.Begins named host)
    (long : ∀ key, FileTree.pathLimit ≤ (desk.folder.entryPath key).bytes.length)
    {visits : List Visit} (lists : ∀ visit ∈ visits, visit.command = .list false)
    {before after : Host} (opens : desk.Opens named before after) (suits : desk.Suits after) :
    Visit.runs named before visits = visits.map fun _ => desk.answer false (.list false) := by
  induction visits generalizing before after with
  | nil => rfl
  | cons visit visits ih =>
      obtain ⟨command, sign, stamp, time⟩ := visit
      obtain rfl : command = .list false := lists _ List.mem_cons_self
      have tends : ∀ notes, desk.Tends (Bench.world after desk.folder notes) :=
        fun _ => ⟨rfl, suits⟩
      obtain ⟨answered, world, tends, left⟩ := opens.run ⟨.list false, sign, stamp, time⟩ trivial
        (fun _ tends => Tends.suits tends)
        fun notes => begins.home.lists_beyond_reach long (tends notes) sign
      have later := (left ▸ tends.suits).at_time time
      have rest := ih (fun other member => lists other (List.mem_cons_of_mem _ member))
        (begins.opens_again (later.grows begins.home)) later
      rw [Visit.runs, List.map_cons]
      dsimp only at answered ⊢
      rw [answered, rest]

end Desk

/-- If the paths of entries are too long, no `list` finds any, and each extracts the names anew. -/
theorem lists_beyond_reach (begins : desk.Begins named host)
    (long : ∀ key, FileTree.pathLimit ≤ (desk.folder.entryPath key).bytes.length)
    (visits : List Visit) (lists : ∀ visit ∈ visits, visit.command = .list false) :
    Visit.runs named host visits = visits.map fun _ => desk.answer false (.list false) :=
  begins.lists_beyond_reach long lists begins.opens begins.home.suits

/-- Where the paths of entries are too long, a second `list` does not find what the first one was
to keep. -/
theorem runs_disagree_beyond_reach :
    let visits : List Visit := List.replicate 2 ⟨.list false, fun _ => false, "", 0⟩
    (dottedDesk 2029).Begins none (dottedHost 2029) ∧
      Visit.runs none (dottedHost 2029) visits ≠ (dottedDesk 2029).answers false visits := by
  intro visits
  have begins := begins_dotted 2029 (by decide)
  refine ⟨begins, ?_⟩
  rw [lists_beyond_reach begins (fun key => ?_) visits (by simp [visits])]
  · decide +kernel
  · rw [length_entryPath_dotted]
    decide

end CommandLine

end ScriptRoster
