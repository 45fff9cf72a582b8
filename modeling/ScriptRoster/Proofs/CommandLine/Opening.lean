import ScriptRoster.CommandLine.Program
import ScriptRoster.Proofs.Files.Growth
import ScriptRoster.Proofs.Settings.Loading
import ScriptRoster.Proofs.Text.Utf8

/-!
# What a run finds before it does anything

A run loads the settings and opens the cache, and makes what is missing: the directories, and a file
with the defaults. A later run on the same host finds the same, and changes nothing any more.
-/

namespace ScriptRoster

open Cache Files Text

theorem Files.Path.join_ne_nil (dir : Path) {name : Path} (whole : name.bytes ≠ []) :
    (dir.join name).bytes ≠ [] := by
  unfold join
  split
  · exact whole
  · split
    · exact List.append_ne_nil_of_right_ne_nil _ whole
    · simp

/-- Whether a host keeps what paths lead to, and all that its runs are told by the environment. -/
structure Host.Grows (before after : Host) : Prop where
  cwd : after.cwd = before.cwd
  environment : after.environment = before.environment
  files : before.files.Grows after.files

section Hosts

variable {host between after later : Host} {path : Path} {text : String}

theorem Files.FileTree.Grows.readText {tree grown : FileTree} {cwd : Place}
    (grows : tree.Grows grown) (read : tree.readText cwd path = .ok text) :
    grown.readText cwd path = .ok text := by
  cases found : tree.find cwd path with
  | error cause => simp [FileTree.readText, FileTree.read, found] at read
  | ok spot =>
      simp only [FileTree.readText, FileTree.read, found] at read
      simp only [FileTree.readText, FileTree.read, grows cwd path spot.1 spot.2 found]
      exact read

namespace Host

theorem Grows.refl (host : Host) : host.Grows host := ⟨rfl, rfl, .refl _⟩

theorem Grows.trans (first : host.Grows between) (second : between.Grows after) :
    host.Grows after where
  cwd := second.cwd.trans first.cwd
  environment := second.environment.trans first.environment
  files := first.files.trans second.files

theorem Grows.lookup? (grows : host.Grows after) (name : String) :
    after.lookup? name = host.lookup? name := by
  rw [Host.lookup?, Host.lookup?, grows.environment]

theorem Grows.home (grows : host.Grows after) : after.home = host.home := by
  rw [Host.home, Host.home, nonempty?, nonempty?, grows.lookup?]

theorem Grows.expandHome (grows : host.Grows after) (raw : String) :
    after.expandHome raw = host.expandHome raw := by
  simp only [Host.expandHome, grows.home]

/-- Where files are kept by default depends on variables alone. -/
theorem Grows.baseDirectory (grows : host.Grows after) (variableName fallback : String) :
    after.baseDirectory variableName fallback = host.baseDirectory variableName fallback := by
  simp only [Host.baseDirectory, grows.lookup?, grows.home]

theorem Grows.settingsPath (grows : host.Grows after) : after.settingsPath = host.settingsPath := by
  rw [Host.settingsPath, Host.settingsPath, grows.baseDirectory]

theorem Grows.cachePath (grows : host.Grows after) : after.cachePath = host.cachePath := by
  simp only [Host.cachePath, nonempty?, grows.lookup?, grows.expandHome, grows.baseDirectory]

theorem Grows.exists? (grows : host.Grows after) (there : host.files.exists? host.cwd path = true) :
    after.files.exists? after.cwd path = true := by
  obtain ⟨place, item, found⟩ := FileTree.exists?_eq_true.mp there
  rw [grows.cwd]
  exact FileTree.exists?_eq_true.mpr ⟨place, item, grows.files _ _ _ _ found⟩

/-- A script that was found is found at the same place when files are added. -/
theorem Grows.resolve {raw : String} {location : Location} (grows : host.Grows after)
    (located : Location.resolve host raw = .ok location) :
    Location.resolve after raw = .ok location := by
  unfold Location.resolve at located ⊢
  split at located
  · cases located
  · next written =>
      rw [if_neg written, grows.cwd, grows.expandHome]
      cases found : host.files.find host.cwd (.ofString (host.expandHome raw)) with
      | error cause =>
          simp only [found] at located
          split at located <;> simp_all
      | ok spot =>
          simp only [grows.files _ _ spot.1 spot.2 found]
          simp only [found] at located
          exact located

theorem Grows.readScript {item : Item} (grows : host.Grows after)
    (found : host.files.find host.cwd path = .ok (place, item)) :
    readScript after.files after.cwd path = readScript host.files host.cwd path := by
  simp only [ScriptRoster.readScript, FileTree.read, grows.cwd, grows.files _ _ _ _ found, found]

/-- The key of a script that is there stays the same when files are added. -/
theorem Grows.scriptKey {content : Bytes} {modified : Int} (grows : host.Grows after)
    (found : host.files.find host.cwd path = .ok (place, .file content modified))
    (keyPrefix : String) (mode : KeyMode) :
    scriptKey keyPrefix mode after path = scriptKey keyPrefix mode host path := by
  cases mode with
  | fixed => rfl
  | modified => simp only [Cache.scriptKey, grows.cwd, grows.files _ _ _ _ found, found]

/-- A directory that was made sure of is there, with all that was there before. -/
theorem grows_of_ensureDirectory (done : host.ensureDirectory path = .ok after) :
    host.Grows after ∧ (path.bytes ≠ [] → after.files.exists? after.cwd path = true) := by
  unfold ensureDirectory at done
  split at done
  · next there =>
      cases done
      exact ⟨.refl host, fun _ => there⟩
  · split at done
    · next made =>
        cases done
        obtain ⟨grows, there⟩ := FileTree.grows_of_makeDirectories made
        refine ⟨⟨rfl, rfl, grows⟩, fun whole => ?_⟩
        obtain ⟨place, found⟩ := there whole
        exact FileTree.exists?_eq_true.mpr ⟨place, _, found⟩
    · cases done

theorem ensureDirectory_of_exists (there : host.files.exists? host.cwd path = true) :
    host.ensureDirectory path = .ok host := if_pos there

end Host

end Hosts

/-! ## The settings -/

namespace Settings

variable {host after : Host} {path : Path} {settings : Settings} {notes : Journal}

/-- The defaults are loaded from where they were written. -/
theorem load_defaults {place : Place} {modified : Int} (written : host.files.find host.cwd path =
    .ok (place, .file (encode defaults.text) modified)) :
    load host path = (.ok defaults, host, []) :=
  load_of_find (ofText_text writable_defaults) written

/-- Settings that were loaded once are loaded again, and nothing is made for that. -/
theorem load_again (loaded : load host path = (.ok settings, after, notes)) :
    host.Grows after ∧
      ∀ later, after.Grows later → load later path = (.ok settings, later, []) := by
  unfold load at loaded
  split at loaded
  · next there =>
      split at loaded
      · cases loaded
      · next source read =>
          split at loaded
          · next parsed =>
              cases loaded
              refine ⟨.refl _, fun later grows => ?_⟩
              rw [load, if_pos (grows.exists? there), grows.cwd, grows.files.readText read]
              simp only [parsed]
          · cases loaded
  · next missing =>
      split at loaded
      · next files written =>
          cases loaded
          obtain ⟨grown, place, found⟩ :=
            FileTree.grows_of_write (Bool.eq_false_iff.mpr missing) written
          refine ⟨⟨rfl, rfl, grown⟩, fun later grows => ?_⟩
          have standing := grows.files _ _ _ _ found
          rw [← grows.cwd] at standing
          exact load_defaults standing
      · cases loaded

theorem loadDefault_eq (there : host.files.exists? host.cwd host.settingsPath = true) :
    loadDefault host = load host (host.settingsPath.join (.ofString fileName)) := by
  rw [loadDefault, Host.settingsDirectory, Host.ensureDirectory_of_exists there]
  rfl

/-- The settings of the user are loaded again as they were. -/
theorem loadDefault_again (loaded : loadDefault host = (.ok settings, after, notes)) :
    host.Grows after ∧
      ∀ later, after.Grows later → loadDefault later = (.ok settings, later, []) := by
  unfold loadDefault at loaded
  split at loaded
  · next dir between made =>
      cases ensured : host.ensureDirectory host.settingsPath with
      | error cause =>
          rw [Host.settingsDirectory, ensured] at made
          cases made
      | ok ready =>
          rw [Host.settingsDirectory, ensured] at made
          cases made
          obtain ⟨first, there⟩ := Host.grows_of_ensureDirectory ensured
          obtain ⟨second, again⟩ := load_again loaded
          have standing := there (Path.join_ne_nil _ (by decide))
          refine ⟨first.trans second, fun later grows => ?_⟩
          have whole := second.trans grows
          have same := (first.trans whole).settingsPath
          rw [loadDefault_eq (by rw [same]; exact whole.exists? standing), same]
          exact again later grows
  · cases loaded

end Settings

/-! ## The cache -/

namespace Cache.Folder

variable {host after : Host} {folder : Folder} {place : Place}

/-- A folder that is there is opened, and nothing is made for that. -/
theorem prepareDefault_of_find
    (there : host.files.find host.cwd host.cachePath = .ok (place, .directory)) :
    prepareDefault host = .ok (⟨host.cachePath, digestStem⟩, host) := by
  have standing : host.files.exists? host.cwd host.cachePath = true :=
    FileTree.exists?_eq_true.mpr ⟨place, _, there⟩
  simp only [prepareDefault, Host.cacheDirectory, Host.ensureDirectory_of_exists standing,
    Except.map, prepare, FileTree.makeDirectories_of_find there]

/-- A folder that was opened once is opened again, and nothing is made for that. -/
theorem prepareDefault_again (opened : prepareDefault host = .ok (folder, after))
    (there : after.files.find after.cwd folder.dir = .ok (place, .directory)) :
    host.Grows after ∧ folder.stem = digestStem ∧
      ∀ later, after.Grows later → prepareDefault later = .ok (folder, later) := by
  cases ensured : host.ensureDirectory host.cachePath with
  | error cause =>
      simp only [prepareDefault, Host.cacheDirectory, ensured, Except.map] at opened
      cases opened
  | ok between =>
      simp only [prepareDefault, Host.cacheDirectory, ensured, Except.map, prepare] at opened
      split at opened
      · next files made =>
          cases opened
          obtain ⟨first, -⟩ := Host.grows_of_ensureDirectory ensured
          have second : between.Grows { between with files } :=
            ⟨rfl, rfl, (FileTree.grows_of_makeDirectories made).1⟩
          refine ⟨first.trans second, rfl, fun later grows => ?_⟩
          have same := ((first.trans second).trans grows).cachePath
          have found : later.files.find later.cwd later.cachePath = .ok (place, .directory) := by
            rw [same, grows.cwd]
            exact grows.files _ _ _ _ there
          rw [prepareDefault_of_find found, same]
      · cases opened

end Cache.Folder

namespace CommandLine.Bench

/-- A run works with the settings that it has loaded, the folder that it has opened, and the script
that both of them choose. -/
theorem prepare_eq {host between after : Host} {settings : Settings} {loading : Journal}
    {folder : Folder} (loaded : Settings.loadDefault host = (.ok settings, between, loading))
    (opened : Folder.prepareDefault between = .ok (folder, after)) (script : Option String)
    (journal : Journal) :
    prepare host script journal =
      (.ok
        { settings, folder
          script := settings.chosenScript script (after.lookup? scriptVariable)
          scene := ⟨.start (.ofSettings settings), world after folder (journal ++ loading)⟩ },
        after, journal ++ loading) := by
  simp only [prepare, loaded, opened]

end CommandLine.Bench

end ScriptRoster
