import ScriptRoster.Proofs.Files.Top
import ScriptRoster.Proofs.Files.Writing
import ScriptRoster.Proofs.Settings.Written
import ScriptRoster.Proofs.Text.Utf8
import ScriptRoster.Settings.File

/-!
# Settings survive being written and loaded

What is loaded from a file is what was written to it, no file that is there is ever changed, and
loading once more gives the same. Main statement: `settings_survive`.
-/

namespace ScriptRoster

open Files Text

namespace Settings

variable {host : Host} {path : Path} {settings : Settings} {source : String}

/-- Whether settings can be written: a timeout has to be a signed number of 64 bits. -/
def Writable (settings : Settings) : Prop := ∀ seconds ∈ settings.timeout, seconds < 2 ^ 63

/-- What a file holds is loaded from it, and the file is left as it is. -/
theorem load_of_find {place : Place} {modified : Int} (means : ofText source = .ok settings)
    (found : host.files.find host.cwd path = .ok (place, .file (encode source) modified)) :
    load host path = (.ok settings, host, []) := by
  have there : host.files.exists? host.cwd path = true :=
    FileTree.exists?_eq_true.mpr ⟨place, _, found⟩
  have read : host.files.readText host.cwd path = .ok source := by
    simp only [FileTree.readText, FileTree.read, found, decode?_encode]
  simp only [load, if_pos there, read, means]

/-- What was written to a file is loaded from it. -/
theorem load_of_write {files : FileTree} (means : ofText source = .ok settings)
    (free : host.files.IsFree host.cwd path)
    (written : host.files.write host.cwd path (encode source) host.now = .ok files) :
    load { host with files } path = (.ok settings, { host with files }, []) := by
  obtain ⟨place, found⟩ := FileTree.find_of_write free written
  exact load_of_find means found

theorem writable_defaults : defaults.Writable := by
  intro seconds given
  cases given

/-- Loading leaves the host as it is, or puts one file where nothing was, with the defaults. -/
theorem load_eq (host : Host) (path : Path) :
    (∃ result, load host path = (result, host, [])) ∨
      host.files.exists? host.cwd path = false ∧ ∃ place, host.files.at? place = none ∧
        host.files.locate true host.cwd path = .ok (.free place) ∧
        load host path =
          (.ok defaults,
            { host with files := host.files.put place (.file (encode defaults.text) host.now) },
            created path) := by
  cases there : host.files.exists? host.cwd path with
  | true =>
      left
      rw [load, if_pos there]
      split
      · exact ⟨_, rfl⟩
      · split
        · exact ⟨_, rfl⟩
        · exact ⟨_, rfl⟩
  | false =>
      have nowhere (place : Place) (item : Files.Item) :
          host.files.locate true host.cwd path ≠ .ok (.taken place item) := by
        intro found
        rw [FileTree.exists?_eq_true.mpr ⟨place, item, FileTree.find_eq_ok.mpr found⟩] at there
        cases there
      rw [load, if_neg (by rw [there]; decide)]
      split
      · next files written =>
          right
          unfold FileTree.write at written
          split at written
          · next place free =>
              cases written
              exact ⟨rfl, place, FileTree.hasSpot_locate free, free, rfl⟩
          · next found => exact absurd found (nowhere _ _)
          · next found => exact absurd found (nowhere _ _)
          · next found => exact absurd found (nowhere _ _)
          · cases written
      · exact .inl ⟨_, rfl⟩

/-- A second load tells what the first one told, and changes nothing. -/
theorem load_twice (host : Host) (path : Path) :
    load (load host path).2.1 path = ((load host path).1, (load host path).2.1, []) := by
  rcases load_eq host path with ⟨result, same⟩ | ⟨-, place, -, free, made⟩
  · rw [same]
    exact same
  · rw [made]
    exact load_of_find (ofText_text writable_defaults)
      (FileTree.find_put_of_free (by simp) free)

/-- Loading leaves everything that is there as it is. -/
theorem at?_load (host : Host) (path : Path) {place : Place} {item : Files.Item}
    (there : host.files.at? place = some item) :
    (load host path).2.1.files.at? place = some item := by
  rcases load_eq host path with ⟨result, same⟩ | ⟨-, other, free, -, made⟩
  · rw [same]
    exact there
  · rw [made, ← there]
    refine FileTree.at?_put_of_ne host.files ?_ _
    rintro rfl
    rw [free] at there
    cases there

theorem load_of_exists (there : host.files.exists? host.cwd path = true) :
    (load host path).2.1 = host := by
  rcases load_eq host path with ⟨result, same⟩ | ⟨missing, -⟩
  · rw [same]
  · rw [there] at missing
    cases missing

end Settings

/-- Settings that are written are loaded as they were, and so are any of their fields, in any order
and among plain values under other keys, with the defaults for the rest. Whatever is at the path,
loading changes nothing that is there, writes only where nothing is, and tells the same when it is
done again. -/
theorem settings_survive (host : Host) (path : Path) :
    (∀ (settings : Settings) (files : FileTree), settings.Writable →
      host.files.IsFree host.cwd path →
      host.files.write host.cwd path (encode settings.text) host.now = .ok files →
      Settings.load { host with files } path = (.ok settings, { host with files }, [])) ∧
    (∀ (settings : Settings) (items : List Settings.Item) (files : FileTree), settings.Writable →
      (items.map Settings.Item.name).Nodup → host.files.IsFree host.cwd path →
      host.files.write host.cwd path (encode (settings.document items)) host.now = .ok files →
      Settings.load { host with files } path =
        (.ok (settings.onto Settings.defaults (Settings.Item.fields items)),
          { host with files }, [])) ∧
    (∀ place item, host.files.at? place = some item →
      (Settings.load host path).2.1.files.at? place = some item) ∧
    (host.files.exists? host.cwd path = true → (Settings.load host path).2.1 = host) ∧
    Settings.load (Settings.load host path).2.1 path =
      ((Settings.load host path).1, (Settings.load host path).2.1, []) := by
  refine ⟨fun settings files writable free written => ?_,
    fun settings items files writable apart free written => ?_,
    fun place item => Settings.at?_load host path, Settings.load_of_exists,
    Settings.load_twice host path⟩
  · exact Settings.load_of_write (Settings.ofText_text writable) free written
  · exact Settings.load_of_write (Settings.ofText_document writable apart) free written

/-- Settings with quotes, line ends, control characters and a timeout as great as can be. -/
def Settings.quoted : Settings where
  scriptPath := "it's \"so\"\n\\\t\r"
  interpreter := "'''\"\"\""
  interpreterArguments := ["-a", "", "λ\x7f"]
  strategy := .textual
  keyMode := .fixed
  timeout := some (2 ^ 63 - 1)

/-- Two fields, not in the order in which settings are written, around a key that is not known. -/
def Settings.twoFields : List Settings.Item :=
  [.field .timeout,
    .other "of old" (by intro f; cases f <;> decide)
      (.floating ⟨true, 1, Nat.toDigits 10 50, some 308, Toml.isDigits_toDigits 50⟩
        (by decide +kernel)),
    .field .script]

/-- On a host without files, settings are written and loaded, and so are two of their fields. -/
theorem settings_survive_quoted :
    ∃ (host : Host) (path : Path) (files others : FileTree),
      host.files.write host.cwd path (encode Settings.quoted.text) host.now = .ok files ∧
      Settings.load { host with files } path = (.ok Settings.quoted, { host with files }, []) ∧
      host.files.write host.cwd path
        (encode (Settings.quoted.document Settings.twoFields)) host.now = .ok others ∧
      Settings.load { host with files := others } path =
        (.ok { Settings.defaults with
          scriptPath := "it's \"so\"\n\\\t\r"
          timeout := some (2 ^ 63 - 1) }, { host with files := others }, []) ∧
      (Settings.load host path).2.1.files.at? [] = some .directory ∧
      (Settings.load { host with files } path).2.1 = { host with files } := by
  let host : Host := ⟨⟨[]⟩, [], [], 0⟩
  let path : Path := .ofString "/c"
  have top : path.IsTop [0x63] := by constructor <;> decide
  have free (content : Bytes) : host.files.write host.cwd path content host.now =
      .ok (host.files.put [[0x63]] (.file content host.now)) := by
    rw [FileTree.write, top.locate_of_none rfl]
  have nowhere : host.files.IsFree host.cwd path := by
    intro place item found
    rw [top.find_of_none rfl] at found
    cases found
  have writable : Settings.quoted.Writable := by
    intro seconds given
    cases given
    decide
  obtain ⟨whole, part, kept, -, -⟩ := settings_survive host path
  have first := whole _ _ writable nowhere (free _)
  have second := part _ Settings.twoFields _ writable (by decide +kernel) nowhere (free _)
  obtain ⟨-, -, -, unchanged, -⟩ := settings_survive
    { host with
      files := host.files.put [[0x63]] (.file (encode Settings.quoted.text) host.now) } path
  refine ⟨host, path, _, _, free _, first, free _, second, kept [] .directory rfl, ?_⟩
  apply unchanged
  rw [FileTree.exists?_eq_true]
  exact ⟨_, _, top.find_of_file (FileTree.at?_put_self _ (by simp) _)⟩

end ScriptRoster
