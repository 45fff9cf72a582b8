import Mathlib.Logic.Relation
import ScriptRoster.Proofs.Cache.Contents
import ScriptRoster.Proofs.Files.Lasting
import ScriptRoster.Proofs.Files.Top

/-!
# Names that are kept come back

Names that a store has taken are written as a list in JSON, and in a folder this list once more as a
string inside of an entry. The store hands out the same names, in their order, whatever is done with
other keys meanwhile, and also when the folder has been opened again.
-/

namespace ScriptRoster.Cache

open Files Text

namespace Folder

/-- The folder in a directory, as it is opened. -/
def inDirectory (dir : Path) : Folder := ⟨dir, digestStem⟩

theorem isStem_inDirectory (dir : Path) (key : String) : IsStem ((inDirectory dir).stem key) :=
  isStem_digestStem key

/-- A folder whose files stand in the directory at a place. -/
structure OpensAt (folder : Folder) (place : Place) (host : Host) : Prop where
  stems : ∀ key, IsStem (folder.stem key)
  directory : host.files.OpensAt host.cwd folder.dir place

/-- Whether no file of an entry is a link. -/
def Unlinked (folder : Folder) (place : Place) (host : Host) : Prop :=
  ∀ key target, host.files.at? (place ++ [folder.fileName key]) ≠ some (.link target)

/-- Whether the entry of a key stands in its file, and the file is within reach. -/
structure Stores (folder : Folder) (place : Place) (host : Host) (key payload : String) : Prop where
  stems : ∀ key, IsStem (folder.stem key)
  short : (folder.entryPath key).bytes.length < FileTree.pathLimit
  file : ∃ modified, host.files.at? (place ++ [folder.fileName key]) =
    some (.file (encode (Entry.text ⟨key, payload⟩)) modified)

variable {folder : Folder} {place : Place} {host after : Host} {key other payload held : String}

/-- What keeps a payload is one replacement of a file. -/
theorem replace_of_set (done : folder.set host key payload = .ok after) :
    ∃ files, host.files.replace host.cwd (folder.dir.join ⟨folder.fileName key⟩)
        (encode (Entry.text ⟨key, payload⟩)) host.now = .ok files ∧
      after = { host with files } := by
  simp only [Folder.set] at done
  split at done
  · cases done
  split at done
  · next files replaced =>
      cases done
      exact ⟨files, replaced, rfl⟩
  · cases done

/-- What drops a key is the removal of one file, or nothing. -/
theorem removeFile_of_remove (done : folder.remove host key = .ok after) :
    after = host ∨ ∃ files,
      host.files.removeFile host.cwd (folder.dir.join ⟨folder.fileName key⟩) = .ok files ∧
        after = { host with files } := by
  unfold Folder.remove at done
  split at done
  · next files removed =>
      cases done
      exact .inr ⟨files, removed, rfl⟩
  · cases done
    exact .inl rfl
  · cases done

/-- The path of an entry is at most 38 bytes longer than that of its directory. -/
theorem length_entryPath_le (isStem : IsStem (folder.stem key)) :
    (folder.entryPath key).bytes.length ≤ folder.dir.bytes.length + 38 := by
  have relative := (isName_fileName isStem).not_isAbsolute
  rw [entryPath_eq, Path.join, if_neg (by rw [relative]; decide)]
  split
  · simp [fileName_eq, isStem.length_encode]
  · simp [fileName_eq, isStem.length_encode]

/-! ## The entry of a key -/

/-- What a folder has taken stands in the file of its key. -/
theorem OpensAt.stores_set (opens : folder.OpensAt place host)
    (done : folder.set host key payload = .ok after) : folder.Stores place after key payload := by
  obtain ⟨files, replaced, rfl⟩ := replace_of_set done
  obtain ⟨spot, found, -⟩ := FileTree.locate_of_replace replaced
  obtain ⟨-, rfl⟩ := opens.directory.replace_eq (isName_fileName (opens.stems key)) replaced
  refine ⟨opens.stems, (FileTree.locate_eq_ok.mp found).1.short, host.now, ?_⟩
  exact FileTree.at?_put_self _ (by simp) _

/-- A folder takes a payload if paths are short enough and nothing is in the way of its files. -/
theorem OpensAt.set_ok (opens : folder.OpensAt place host) (payload : String)
    (short : (folder.entryPath key).bytes.length < FileTree.pathLimit)
    (brief : (folder.dir.join (.ofString temporaryName)).bytes.length < FileTree.pathLimit)
    (file : host.files.at? (place ++ [folder.fileName key]) ≠ some .directory)
    (free : host.files.at? (place ++ [encode temporaryName]) = none) :
    folder.set host key payload = .ok
      { host with
        files := host.files.put (place ++ [folder.fileName key])
          (.file (encode (Entry.text ⟨key, payload⟩)) host.now) } := by
  have spelled : Path.IsName (encode temporaryName) := by constructor <;> decide
  have located := opens.directory.locate spelled (show true = true → _ by simp [free])
  rw [Path.ofString] at brief
  rw [if_neg (Nat.not_le.mpr brief)] at located
  simp only [Folder.set, Path.ofString, located, entryPath_eq,
    opens.directory.replace_ok (isName_fileName (opens.stems key)) short file]

/-- A folder hands out what stands in the file of a key. -/
theorem OpensAt.get_of_stores (opens : folder.OpensAt place host)
    (stores : folder.Stores place host key payload) : folder.get host key = .ok (some payload) := by
  obtain ⟨modified, there⟩ := stores.file
  have found := opens.directory.find_file (isName_fileName (opens.stems key)) stores.short there
  rw [← entryPath_eq] at found
  refine get_eq_some_iff.mpr ⟨Entry.text ⟨key, payload⟩, ?_, Entry.ofText_text _⟩
  simp only [FileTree.readText, FileTree.read, found, decode?_encode]

section Stores

variable (stores : folder.Stores place host key payload)
  (apart : folder.stem key ≠ folder.stem other)

include stores

theorem Stores.of_at? (same : after.files.at? (place ++ [folder.fileName key]) =
    host.files.at? (place ++ [folder.fileName key])) : folder.Stores place after key payload :=
  ⟨stores.stems, stores.short, by rw [same]; exact stores.file⟩

include apart in
/-- A call for a key with another file leaves the entry as it is. -/
theorem Stores.leave {left : Option String} (done : folder.leave host other left = .ok after) :
    folder.Stores place after key payload := by
  cases left with
  | some held =>
      obtain ⟨files, replaced, rfl⟩ := replace_of_set done
      exact stores.of_at? (FileTree.at?_of_replace (isName_fileName (stores.stems other))
        (mt fileName_inj.mp apart) replaced)
  | none =>
      rcases removeFile_of_remove done with rfl | ⟨files, removed, rfl⟩
      · exact stores
      · exact stores.of_at? (FileTree.at?_of_removeFile (isName_fileName (stores.stems other))
          (mt fileName_inj.mp apart) removed)

/-- Opening a folder again makes directories at most, where nothing is. -/
theorem Stores.prepare {dir : Path} (opened : Folder.prepare host dir = .ok (folder, after)) :
    folder.Stores place after key payload := by
  unfold Folder.prepare at opened
  split at opened
  · next files made =>
      cases opened
      obtain ⟨modified, there⟩ := stores.file
      exact ⟨stores.stems, stores.short, modified, FileTree.at?_of_makeDirectories made there⟩
  · cases opened

end Stores

/-! ## The directory of a folder -/

/-- A folder that has no links among its entries stays open at its place, and has none then. -/
theorem OpensAt.of_change {name : Bytes} (opens : folder.OpensAt place host)
    (unlinked : folder.Unlinked place host) (plain : ∃ key, name = folder.fileName key)
    (file : host.files.at? (place ++ [name]) ≠ some .directory)
    (cwd : after.cwd = host.cwd)
    (same : ∀ spot, spot ≠ place ++ [name] → after.files.at? spot = host.files.at? spot)
    (stays : ∀ target, after.files.at? (place ++ [name]) ≠ some (.link target)) :
    folder.OpensAt place after ∧ folder.Unlinked place after := by
  obtain ⟨key, rfl⟩ := plain
  refine ⟨⟨opens.stems, ?_⟩, fun other target => ?_⟩
  · rw [cwd]
    exact opens.directory.of_agreesOff (FileTree.agreesOff_of_unlinked file (unlinked key) same)
  · by_cases own : folder.fileName other = folder.fileName key
    · rw [own]
      exact stays target
    · rw [same _ (concat_ne own)]
      exact unlinked other target

/-- A call for a key leaves a folder without links among its entries at its place. -/
theorem OpensAt.leave {left : Option String} (opens : folder.OpensAt place host)
    (unlinked : folder.Unlinked place host) (done : folder.leave host other left = .ok after) :
    folder.OpensAt place after ∧ folder.Unlinked place after := by
  have spelled := isName_fileName (opens.stems other)
  cases left with
  | some held =>
      obtain ⟨files, replaced, rfl⟩ := replace_of_set done
      obtain ⟨file, rfl⟩ := opens.directory.replace_eq spelled replaced
      refine opens.of_change unlinked ⟨other, rfl⟩ file rfl ?_ ?_
      · exact fun spot elsewhere => FileTree.at?_put_of_ne _ elsewhere _
      · intro target
        rw [FileTree.at?_put_self _ (by simp)]
        nofun
  | none =>
      rcases removeFile_of_remove done with rfl | ⟨files, removed, rfl⟩
      · exact ⟨opens, unlinked⟩
      obtain ⟨file, rfl⟩ := opens.directory.removeFile_eq spelled removed
      refine opens.of_change unlinked ⟨other, rfl⟩ file rfl ?_ ?_
      · exact fun spot elsewhere => FileTree.at?_erase_of_ne _ elsewhere
      · intro target
        rw [FileTree.at?_erase_self _ (by simp)]
        nofun

/-- In a tidy folder no file of an entry is a link. -/
theorem Tidy.unlinked (tidy : folder.Tidy place host) : folder.Unlinked place host := by
  intro key target link
  obtain ⟨_, _, file⟩ := tidy.plain _ _ link
  cases file

/-- A folder whose directory is there is opened with nothing to make. -/
theorem prepare_eq {dir : Path} (opens : host.files.OpensAt host.cwd dir place) :
    prepare host dir = .ok (inDirectory dir, host) := by
  rw [prepare, opens.makeDirectories]
  rfl

/-- A directory that is there is opened without a change of the host. -/
theorem OpensAt.prepare (opens : folder.OpensAt place host)
    (opened : Folder.prepare host folder.dir = .ok (folder, after)) : after = host := by
  rw [prepare_eq opens.directory] at opened
  exact (Prod.mk.inj (Except.ok.inj opened)).2.symm

/-! ## A directory behind its own entry -/

/-- Whether the directory of a folder is reached through a link to the root, which stands there
under the name of the file of a key. -/
structure ThroughEntry (folder : Folder) (host : Host) (key : String) : Prop where
  stems : ∀ key, IsStem (folder.stem key)
  top : folder.dir.IsTop (folder.fileName key)
  link : host.files.at? [folder.fileName key] = some (.link (.ofString "/"))

theorem ThroughEntry.opensAt (through : folder.ThroughEntry host key) : folder.OpensAt [] host :=
  ⟨through.stems, FileTree.opensAt_of_find (through.top.find_of_link through.link)⟩

/-- The file of the key takes the place of the link and is then behind itself, out of reach. -/
theorem ThroughEntry.get_of_set (through : folder.ThroughEntry host key)
    (done : folder.set host key payload = .ok after) :
    folder.get after key = .error (.io .notDirectory) := by
  have stores := through.opensAt.stores_set done
  obtain ⟨modified, there⟩ := stores.file
  have lost : after.files.find after.cwd (folder.entryPath key) = .error .notDirectory := by
    have short := stores.short
    rw [entryPath_eq] at short ⊢
    exact through.top.find_join_of_file (isName_fileName (through.stems key)) short there
  simp only [get, entry?, FileTree.readText, FileTree.read, lost, Except.map]

end Folder

namespace Store

/-- Whether two keys share an entry. -/
def Shares (store : Store) (key other : String) : Prop :=
  match store with
  | .memory _ => key = other
  | .folder holder => holder.stem key = holder.stem other

/-- A store in memory, or a folder whose files stand in the directory at a place. -/
def OpensAt (store : Store) (place : Place) (host : Host) : Prop :=
  match store with
  | .memory _ => True
  | .folder holder => holder.OpensAt place host

/-- Whether no file of an entry is a link. -/
def Unlinked (store : Store) (place : Place) (host : Host) : Prop :=
  match store with
  | .memory _ => True
  | .folder holder => holder.Unlinked place host

/-- Whether the payload of a key is in its place. -/
def Stores (store : Store) (place : Place) (host : Host) (key payload : String) : Prop :=
  match store with
  | .memory entries => entries.lookup key = some payload
  | .folder holder => holder.Stores place host key payload

variable {store later : Store} {place : Place} {host after : Host} {key other payload held : String}

/-- A payload that was kept is in its place. -/
theorem OpensAt.stores_set (opens : store.OpensAt place host)
    (done : store.set host key payload = .ok (later, after)) :
    later.Stores place after key payload := by
  cases store with
  | memory entries =>
      cases done
      exact Memory.lookup_set_self entries key payload
  | folder holder =>
      obtain ⟨rfl, written⟩ := set_folder done
      exact Folder.OpensAt.stores_set opens written

theorem OpensAt.get_of_stores (opens : store.OpensAt place host)
    (stores : store.Stores place host key payload) : store.Holds host key payload := by
  cases store with
  | memory entries => exact congrArg Except.ok stores
  | folder holder => exact Folder.OpensAt.get_of_stores opens stores

/-- A call for a key that does not share the entry leaves the payload in its place. -/
theorem Stores.leave (left : Option String) (stores : store.Stores place host key payload)
    (apart : ¬ store.Shares key other)
    (done : store.leave host other left = .ok (later, after)) :
    later.Stores place after key payload := by
  cases store with
  | memory entries =>
      rw [leave_memory] at done
      cases done
      exact (Memory.lookup_leave_of_ne entries left apart).trans stores
  | folder holder =>
      obtain ⟨rfl, made⟩ := leave_folder left done
      exact Folder.Stores.leave stores apart made

/-- A call for a key leaves a store without links among its entries at its place. -/
theorem OpensAt.leave (left : Option String) (opens : store.OpensAt place host)
    (unlinked : store.Unlinked place host)
    (done : store.leave host other left = .ok (later, after)) :
    later.OpensAt place after ∧ later.Unlinked place after := by
  cases store with
  | memory entries =>
      rw [leave_memory] at done
      cases done
      exact ⟨trivial, trivial⟩
  | folder holder =>
      obtain ⟨rfl, made⟩ := leave_folder left done
      exact Folder.OpensAt.leave opens unlinked made

end Store

namespace World

/-- What may happen to a store but for what concerns the entry of a key: names are asked for; names,
or any payload, are kept under a key that does not share the entry, or forgotten; a folder is opened
again. Calls may fail. -/
inductive Elsewhere (key : String) : World → World → Prop
  | asked {world other} : Elsewhere key world (world.names? other).2
  | kept {world other names} (apart : ¬ world.store.Shares key other) :
      Elsewhere key world (world.keep other names).2
  | forgot {world other} (apart : ¬ world.store.Shares key other) :
      Elsewhere key world (world.forget other).2
  | put {world other payload store host} (apart : ¬ world.store.Shares key other)
      (done : world.store.set world.host other payload = .ok (store, host)) :
      Elsewhere key world { world with store, host }
  | reopened {before after folder} (there : before.store = .folder folder)
      (opened : Folder.prepare before.host folder.dir = .ok (folder, after.host))
      (again : after.store = .folder folder) : Elsewhere key before after

variable {world before after later : World} {key payload : String} {names : List String}
  {place : Place}

theorem SameStock.stores (same : SameStock before after)
    (stores : before.store.Stores place before.host key payload) :
    after.store.Stores place after.host key payload := by
  rw [same.host, same.store]
  exact stores

/-- A store at a place where no file of an entry is a link. -/
def StandsAt (world : World) (place : Place) : Prop :=
  world.store.OpensAt place world.host ∧ world.store.Unlinked place world.host

theorem SameStock.standsAt (same : SameStock before after) (stands : before.StandsAt place) :
    after.StandsAt place := by
  rw [StandsAt, same.host, same.store]
  exact stands

theorem StandsAt.keep (stands : world.StandsAt place) (key : String) (names : List String) :
    (world.keep key names).2.StandsAt place := by
  rcases keep_cases world key names with same | ⟨store, host, done, atStore, atHost⟩
  · exact same.standsAt stands
  · rw [StandsAt, atStore, atHost]
    exact stands.1.leave (some _) stands.2 done

theorem StandsAt.forget (stands : world.StandsAt place) (key : String) :
    (world.forget key).2.StandsAt place := by
  rcases forget_cases world key with same | ⟨store, host, done, atStore, atHost⟩
  · exact same.standsAt stands
  · rw [StandsAt, atStore, atHost]
    exact stands.1.leave none stands.2 done

/-- What is in its place stays there, whatever happens elsewhere. -/
theorem Elsewhere.stores (elsewhere : Elsewhere key before after)
    (stores : before.store.Stores place before.host key payload) :
    after.store.Stores place after.host key payload := by
  cases elsewhere with
  | asked => exact (sameStock_names? _ _).stores stores
  | @kept other names apart =>
      rcases keep_cases before other names with same | ⟨store, host, done, atStore, atHost⟩
      · exact same.stores stores
      · rw [atStore, atHost]
        exact stores.leave (some _) apart done
  | @forgot other apart =>
      rcases forget_cases before other with same | ⟨store, host, done, atStore, atHost⟩
      · exact same.stores stores
      · rw [atStore, atHost]
        exact stores.leave none apart done
  | put apart done => exact stores.leave (some _) apart done
  | reopened there opened again =>
      rw [there] at stores
      rw [again]
      exact Folder.Stores.prepare stores opened

theorem Elsewhere.standsAt (elsewhere : Elsewhere key before after)
    (stands : before.StandsAt place) : after.StandsAt place := by
  cases elsewhere with
  | asked => exact (sameStock_names? _ _).standsAt stands
  | kept => exact stands.keep _ _
  | forgot => exact stands.forget _
  | put _ done => exact stands.1.leave (some _) stands.2 done
  | reopened there opened again =>
      rw [StandsAt, there] at stands
      rw [StandsAt, again, Folder.OpensAt.prepare stands.1 opened]
      exact stands

/-- Names that were kept were kept by the store. -/
theorem keep_eq_ok (kept : (world.keep key names).1 = .ok ()) :
    ∃ store host, world.store.set world.host key (Json.listText names) = .ok (store, host) ∧
      (world.keep key names).2.store = store ∧ (world.keep key names).2.host = host := by
  rw [keep_eq] at kept ⊢
  split at kept
  · cases kept
  · next willing =>
      rw [if_neg willing]
      cases made : world.store.set world.host key (Json.listText names) with
      | error cause =>
          rw [made] at kept
          cases kept
      | ok left => exact ⟨left.1, left.2, rfl, rfl, rfl⟩

variable (meanwhile : Relation.ReflTransGen (Elsewhere key) before after)

include meanwhile

theorem stores_of_meanwhile (stores : before.store.Stores place before.host key payload) :
    after.store.Stores place after.host key payload := by
  induction meanwhile with
  | refl => exact stores
  | tail _ elsewhere ih => exact elsewhere.stores ih

theorem standsAt_of_meanwhile (stands : before.StandsAt place) : after.StandsAt place := by
  induction meanwhile with
  | refl => exact stands
  | tail _ elsewhere ih => exact elsewhere.standsAt ih

omit meanwhile

theorem kept_of_set {left : Store × Host} (obliging : world.Obliging)
    (done : world.store.set world.host key (Json.listText names) = .ok left) :
    (world.keep key names).1 = .ok () := by
  rw [keep_eq, obliging, done]
  rfl

theorem store_keep_folder {folder : Folder} (there : world.store = .folder folder) (key : String)
    (names : List String) : (world.keep key names).2.store = .folder folder := by
  rcases keep_cases world key names with same | ⟨store, host, done, atStore, -⟩
  · rw [same.store, there]
  · rw [there] at done
    rw [atStore, (Store.set_folder done).1]

/-- Names that a store has taken are handed out as they are, one by one and in their order, also
after any number of calls for keys that do not share the entry, and after the folder has been opened
again. For a folder the directory must still be where it was when the names are asked for, as it
always is if no entry was a link. -/
theorem kept_names_come_back
    (opens : world.store.OpensAt place world.host)
    (kept : (world.keep key names).1 = .ok ())
    (meanwhile : Relation.ReflTransGen (Elsewhere key) (world.keep key names).2 later)
    (stays : world.store.Unlinked place world.host ∨ later.store.OpensAt place later.host)
    (obliging : later.Obliging) :
    (later.names? key).1 = some names := by
  obtain ⟨store, host, done, atStore, atHost⟩ := keep_eq_ok kept
  have taken : (world.keep key names).2.store.Stores place (world.keep key names).2.host key
      (Json.listText names) := by
    rw [atStore, atHost]
    exact opens.stores_set done
  have stillOpens : later.store.OpensAt place later.host := by
    rcases stays with unlinked | still
    · exact (standsAt_of_meanwhile meanwhile (StandsAt.keep ⟨opens, unlinked⟩ key names)).1
    · exact still
  have stores := stores_of_meanwhile meanwhile taken
  obtain ⟨after, handed⟩ := names?_of_holdsNames obliging
    ⟨Json.listText names, stillOpens.get_of_stores stores, Json.strings_listText names⟩
  rw [handed]

/-- Surroundings with a folder as the store, which refuses nothing. -/
def overFolder (folder : Folder) (host : Host) : World where
  host := host
  store := .folder folder
  refuses := fun _ _ => false
  calls := []
  sourcesCalled := 0
  journal := []

/-- Names are kept in a folder which is opened again after names were kept under another key. -/
theorem kept_names_come_back_reopened :
    let names := ["", "\"\\", "\x01\n", "😀"]
    let start := World.overFolder (.inDirectory (.ofString "/c"))
      ⟨⟨[([[0x63]], .directory)]⟩, [], [], 0⟩
    ∃ host, (start.keep "a" names).1 = .ok () ∧
      Folder.prepare ((start.keep "a" names).2.keep "b" []).2.host (.ofString "/c") =
        .ok (.inDirectory (.ofString "/c"), host) ∧
      ((World.overFolder (.inDirectory (.ofString "/c")) host).names? "a").1 = some names := by
  intro names start
  have isTop : (Path.ofString "/c").IsTop [0x63] := by constructor <;> decide
  have there : start.host.files.find start.host.cwd (.ofString "/c") = .ok ([[0x63]], .directory) :=
    isTop.find_of_directory rfl
  have tidy : Folder.Tidy (.inDirectory (.ofString "/c")) [[0x63]] start.host :=
    Folder.tidy_of_empty there (by decide)
  have stands : start.StandsAt [[0x63]] :=
    ⟨⟨Folder.isStem_inDirectory _, FileTree.opensAt_of_find there⟩, tidy.unlinked⟩
  have near : (Path.ofString "/c").bytes.length + 38 < FileTree.pathLimit := by decide
  have short := Nat.lt_of_le_of_lt
    (Folder.length_entryPath_le (Folder.isStem_inDirectory (.ofString "/c") "a")) near
  obtain ⟨after, taken⟩ := tidy.exists_set (Folder.isStem_inDirectory _) (Json.listText names) short
    (show ((Path.ofString "/c").join (.ofString Folder.temporaryName)).bytes.length < _ by
      decide +kernel)
  have written : start.store.set start.host "a" (Json.listText names) = .ok _ :=
    congrArg (Except.map fun host => (start.store, host)) taken
  have kept := kept_of_set (fun _ _ => rfl) written
  have first : (start.keep "a" names).2.store = start.store := store_keep_folder rfl "a" names
  have second := store_keep_folder first "b" []
  have other : Elsewhere "a" (start.keep "a" names).2 ((start.keep "a" names).2.keep "b" []).2 := by
    refine .kept ?_
    rw [first]
    show digestStem "a" ≠ digestStem "b"
    decide +kernel
  have opened : Folder.prepare ((start.keep "a" names).2.keep "b" []).2.host (.ofString "/c") =
      .ok (.inDirectory (.ofString "/c"), ((start.keep "a" names).2.keep "b" []).2.host) := by
    have still := ((stands.keep "a" names).keep "b" []).1
    rw [second] at still
    exact Folder.prepare_eq still.directory
  refine ⟨_, kept, opened, ?_⟩
  have again : Elsewhere "a" ((start.keep "a" names).2.keep "b" []).2
      (.overFolder (.inDirectory (.ofString "/c"))
        ((start.keep "a" names).2.keep "b" []).2.host) :=
    .reopened second opened rfl
  exact kept_names_come_back stands.1 kept ((Relation.ReflTransGen.single other).tail again)
    (.inl stands.2) fun _ _ => rfl

/-- Names that are kept in a directory behind its own entry are lost. -/
theorem names?_of_throughEntry {folder : Folder} (there : world.store = .folder folder)
    (through : folder.ThroughEntry world.host key) (kept : (world.keep key names).1 = .ok ()) :
    ((world.keep key names).2.names? key).1 = none := by
  obtain ⟨store, host, done, atStore, atHost⟩ := keep_eq_ok kept
  rw [there] at done
  obtain ⟨rfl, written⟩ := Store.set_folder done
  have failed : (world.keep key names).2.store.get (world.keep key names).2.host key =
      .error (.io .notDirectory) := by
    rw [atStore, atHost]
    exact through.get_of_set written
  exact names?_of_get_error failed

/-- A folder is reached through a link to the root that has the name of the file of a key. The file
takes the place of the link, and the names that were kept cannot be reached any more. -/
theorem kept_names_lost_behind_a_link :
    let folder : Folder := .inDirectory (.ofString "/5cbcb0cee824b91866cd67f57a6643dd.json")
    let start := World.overFolder folder
      ⟨⟨[([folder.fileName "k"], .link (.ofString "/"))]⟩, [], [], 0⟩
    Folder.prepare start.host folder.dir = .ok (folder, start.host) ∧
      (start.keep "k" ["A"]).1 = .ok () ∧ ((start.keep "k" ["A"]).2.names? "k").1 = none := by
  intro folder start
  have isStem : ∀ key, IsStem (folder.stem key) := Folder.isStem_inDirectory _
  have named : folder.fileName "k" = encode "5cbcb0cee824b91866cd67f57a6643dd.json" := by
    have stem : folder.stem "k" = "5cbcb0cee824b91866cd67f57a6643dd" := by decide +kernel
    rw [Folder.fileName, stem]
    decide
  have dir : folder.dir = ⟨Path.slash :: folder.fileName "k"⟩ := by
    rw [named]
    decide +kernel
  have link : start.host.files.at? [folder.fileName "k"] = some (.link (.ofString "/")) := by
    simp [FileTree.at?, start, overFolder]
  have through : folder.ThroughEntry start.host "k" :=
    ⟨isStem, by rw [dir]; exact (Folder.isName_fileName (isStem "k")).isTop, link⟩
  have free : start.host.files.at? [encode Folder.temporaryName] = none := by
    simp only [FileTree.at?, start, overFolder, named]
    decide +kernel
  have near : folder.dir.bytes.length + 38 < FileTree.pathLimit := by decide +kernel
  have written := through.opensAt.set_ok (Json.listText ["A"])
    (Nat.lt_of_le_of_lt (Folder.length_entryPath_le (isStem "k")) near) (by decide +kernel)
    (fun same => by cases link.symm.trans same) free
  have done : start.store.set start.host "k" (Json.listText ["A"]) = .ok _ :=
    congrArg (Except.map fun host => (start.store, host)) written
  have kept := kept_of_set (fun _ _ => rfl) done
  exact ⟨Folder.prepare_eq through.opensAt.directory, kept, names?_of_throughEntry rfl through kept⟩

end World

end ScriptRoster.Cache
