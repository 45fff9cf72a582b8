import ScriptRoster.Proofs.Cache.Keeping
import ScriptRoster.Proofs.Cache.Reading
import ScriptRoster.Proofs.Files.Replacing
import ScriptRoster.Proofs.Session.Alone
import ScriptRoster.Proofs.Session.OneScript

/-!
# Damaged entries heal

An entry file tells names or it does not, and what does not is as if nothing was there. A load that
asks the cache then reads the script, and keeps what it finds where the damaged file was, so that
the next one is handed the names.
-/

namespace ScriptRoster

open Cache Files Text

namespace Cache.Folder

variable {dir : Path} {host after : Host} {key payload : String} {content : Bytes}

/-- A payload that is kept over an entry file that can be read is handed out from then on. -/
theorem get_of_set {folder : Folder} (isStem : IsStem (folder.stem key))
    (read : host.files.read host.cwd (folder.entryPath key) = .ok content)
    (done : folder.set host key payload = .ok after) :
    folder.get after key = .ok (some payload) := by
  obtain ⟨place, item, file, found⟩ := FileTree.exists_find_of_read read
  obtain ⟨files, replaced, rfl⟩ := replace_of_set done
  rw [entryPath_eq] at found
  obtain ⟨spot, kept⟩ := FileTree.find_of_replace (isName_fileName isStem) found file replaced
  refine get_eq_some_iff.mpr ⟨Entry.text ⟨key, payload⟩, ?_, Entry.ofText_text _⟩
  rw [entryPath_eq, FileTree.readText, FileTree.read]
  simp only [kept, decode?_encode]

end Cache.Folder

section Load

variable {profile : Profile} {path : Path} {key : String} {before after : World} {report : Report}
  {result : Except ExtractionError Report}

/-- A load that asks the cache in vain finds what is in the script, and keeps it. -/
theorem Loads.kept_of_miss (made : profile.keyOf before.host path = .ok key)
    (nothing : ∀ names, ¬ before.HoldsNames key names)
    (drawn : profile.drawAt before.host path = .ok report)
    (loads : Loads profile path .cached before result after) :
    result = .ok report ∧ ∃ between, World.SameStock before between ∧
      between.refuses = before.refuses ∧ World.Unasked (between.keep key report.names).2 after := by
  obtain ⟨between, same, refuses, supplied⟩ := loads.supplies_of_miss made nothing
  cases supplied with
  | failed other =>
      rw [same.host, drawn] at other
      cases other
  | kept found aside stored =>
      rw [same.host, drawn] at found
      cases found
      exact ⟨rfl, _, ⟨aside.host.trans same.host, aside.store.trans same.store⟩,
        aside.refuses.trans refuses, stored⟩

/-- The key of a script that is found as it was is the same at the same time. -/
theorem keyOf_of_find {other : Profile} {host later : Host}
    (keyPrefix : other.keyPrefix = profile.keyPrefix) (keyMode : other.keyMode = profile.keyMode)
    (now : later.now = host.now)
    (same : later.files.find later.cwd path = host.files.find host.cwd path) :
    other.keyOf later path = profile.keyOf host path := by
  rw [Profile.keyOf, Profile.keyOf, keyPrefix, keyMode]
  unfold scriptKey
  rw [same, now]

end Load

theorem Cache.World.keep_of_set {world : World} {key : String} {names : List String} {store : Store}
    {host : Host} (obliging : world.Obliging)
    (done : world.store.set world.host key (Json.listText names) = .ok (store, host)) :
    (world.keep key names).2.store = store ∧ (world.keep key names).2.host = host := by
  obtain ⟨kept, left, again, atStore, atHost⟩ := World.keep_eq_ok (World.kept_of_set obliging done)
  cases done.symm.trans again
  exact ⟨atStore, atHost⟩

/-- From an entry file, names are handed out just if its content is the text of an entry of the key
with a list of these names. If none are handed out, a load that asks the cache tells what it
extracts from the script. Where the store takes these names, it then hands them out to the next load
of the script that asks the cache, by the same session or any other with such keys, unless the
script has changed meanwhile. -/
theorem damaged_entries_heal {dir : Path} {world : World} {key : String} {content : Bytes}
    (there : world.store = .folder (.inDirectory dir)) (obliging : world.Obliging)
    (read : world.host.files.read world.host.cwd ((Folder.inDirectory dir).entryPath key) =
      .ok content) :
    (∀ names, (world.names? key).1 = some names ↔ Tells content key names) ∧
    ((world.names? key).1 = none →
      ∀ {session base : Session} {request : Request} {location : Location} {report : Report},
        session.inFlight = [] → session.Asks world.host request .cached location base →
        session.profile.keyOf world.host location.resolved = .ok key →
        session.profile.drawAt world.host location.resolved = .ok report →
        ∃ left after,
          Scene.perform ⟨session, world⟩ request false =
            (⟨left, after⟩, some (.loaded (.ok report))) ∧
          left.profile = session.profile ∧ left.inFlight = [] ∧ left.path = .ready location ∧
          ∀ store host,
            world.store.set world.host key (Json.listText report.names) = .ok (store, host) →
            after.store = store ∧ after.host = host ∧
            ∀ {second later : Session} {again : Request} {place : Location},
              second.profile.keyPrefix = session.profile.keyPrefix →
              second.profile.keyMode = session.profile.keyMode → second.inFlight = [] →
              second.Asks host again .cached place later → place.resolved = location.resolved →
              host.files.find host.cwd location.resolved =
                world.host.files.find world.host.cwd location.resolved →
              (Scene.perform ⟨second, after⟩ again false).2 =
                some (.loaded (.ok ⟨report.names, .cache⟩))) := by
  refine ⟨fun names => World.names?_eq_some_iff there obliging read, ?_⟩
  intro missed session base request location report quiet asks keyed drawn
  -- the load begins where the store and the host are as they were
  obtain ⟨result, start, after, promises, aside, loads, performs⟩ :=
    Scene.perform_asks ⟨session, world⟩ false quiet asks
  have host : start.host = world.host := aside.host
  have nothing : ∀ names, ¬ start.HoldsNames key names := by
    intro names held
    obtain ⟨later, handed⟩ := World.names?_of_holdsNames obliging (aside.holdsNames_iff.mp held)
    rw [handed] at missed
    cases missed
  obtain ⟨rfl, between, same, refuses, stored⟩ :=
    loads.kept_of_miss (by rw [host]; exact keyed) nothing (by rw [host]; exact drawn)
  refine ⟨_, after, performs, (Session.profile_record _ _).trans asks.profile_eq,
    (Session.inFlight_record _ _).trans (asks.inFlight_eq.trans quiet),
    (Session.path_record _ _).trans asks.path_eq, ?_⟩
  intro store kept done
  -- what the load found is kept as the store takes it
  have willing := (obliging.of_refuses aside.refuses).of_refuses refuses
  obtain ⟨atStore, atHost⟩ : after.store = store ∧ after.host = kept := by
    have made : between.store.set between.host key (Json.listText report.names) =
        .ok (store, kept) := by
      rw [same.store, same.host, host, aside.store]
      exact done
    obtain ⟨atStore, atHost⟩ := World.keep_of_set willing made
    exact ⟨stored.store.trans atStore, stored.host.trans atHost⟩
  refine ⟨atStore, atHost, ?_⟩
  intro second later again place keyPrefix keyMode quietToo asksAgain samePath unchanged
  rw [← atHost] at asksAgain
  obtain ⟨result, restart, final, _, asideToo, loadsToo, performsToo⟩ :=
    Scene.perform_asks ⟨second, after⟩ false quietToo asksAgain
  -- the entry file could be read before, so that what was kept over it can be
  rw [there] at done
  obtain ⟨rfl, written⟩ := Store.set_folder done
  have handed := Folder.get_of_set (Folder.isStem_inDirectory dir key) read written
  have held : after.HoldsNames key report.names := by
    refine ⟨Json.listText report.names, ?_, Json.strings_listText _⟩
    rw [atStore, atHost]
    exact handed
  have made : second.profile.keyOf restart.host place.resolved = .ok key := by
    have now : kept.now = world.host.now := by
      obtain ⟨files, -, rfl⟩ := Folder.replace_of_set written
      rfl
    rw [samePath, asideToo.host, atHost, keyOf_of_find keyPrefix keyMode now unchanged]
    exact keyed
  have obligingToo : restart.Obliging := by
    refine willing.of_refuses (asideToo.refuses.trans (stored.refuses.trans ?_))
    exact World.refuses_keep _ _ _
  obtain rfl := loadsToo.result_of_held obligingToo made (asideToo.holdsNames_iff.mpr held)
  rw [performsToo]
  rfl

/-! ## An entry that was cut off -/

/-- The directory of a folder below the root. -/
def Cache.Folder.top : Folder := .inDirectory (.ofString "/c")

/-- A host with one script and a folder, in which the entry file of a key was cut off. -/
def Host.withCutEntry (content key : String) : Host where
  files := ⟨[([[0x73]], .file (encode content) 5), ([[0x63]], .directory),
    ([[0x63], Folder.top.fileName key], .file (encode "\x7b\"key\":") 5)]⟩
  cwd := []
  environment := []
  now := 5

namespace Host

variable (content key : String)

theorem opensAt_withCutEntry : Folder.top.OpensAt [[0x63]] (withCutEntry content key) := by
  have directory : (withCutEntry content key).files.at? [[0x63]] = some .directory := by
    simp [FileTree.at?, withCutEntry, List.lookup_cons]
  have isTop : (Path.ofString "/c").IsTop [0x63] := by constructor <;> decide +kernel
  exact ⟨Folder.isStem_inDirectory _, FileTree.opensAt_of_find (isTop.find_of_directory directory)⟩

theorem at?_entry_withCutEntry :
    (withCutEntry content key).files.at? ([[0x63]] ++ [Folder.top.fileName key]) =
      some (.file (encode "\x7b\"key\":") 5) := by
  simp [FileTree.at?, withCutEntry, List.lookup_cons]

theorem short_entryPath_top : (Folder.top.entryPath key).bytes.length < FileTree.pathLimit :=
  Nat.lt_of_le_of_lt (Folder.length_entryPath_le (Folder.isStem_inDirectory _ key))
    (by decide +kernel)

theorem read_withCutEntry :
    (withCutEntry content key).files.read (withCutEntry content key).cwd
      (Folder.top.entryPath key) = .ok (encode "\x7b\"key\":") := by
  have opens := opensAt_withCutEntry content key
  have found := opens.directory.find_file (Folder.isName_fileName (opens.stems key))
    (short_entryPath_top key) (at?_entry_withCutEntry content key)
  rw [FileTree.read, Folder.entryPath_eq, found]

theorem at?_script_withCutEntry :
    (withCutEntry content key).files.at? [[0x73]] = some (.file (encode content) 5) := by
  simp [FileTree.at?, withCutEntry]

theorem readScript_withCutEntry :
    readScript (withCutEntry content key).files (withCutEntry content key).cwd onlyScript =
      .ok (dropMark content) := by
  have found : (withCutEntry content key).files.find (withCutEntry content key).cwd onlyScript =
      .ok ([[0x73]], .file (encode content) 5) :=
    isTop_onlyScript.find_of_file (at?_script_withCutEntry content key)
  simp only [readScript, FileTree.read, found, decode_encode]

theorem ne_temporaryName : encode Folder.temporaryName ≠ Folder.top.fileName key := by
  intro same
  have isStem : IsStem (Folder.top.stem key) := Folder.isStem_inDirectory _ key
  have long := congrArg List.length same
  rw [Folder.fileName_eq, List.length_append, isStem.length_encode] at long
  revert long
  decide

/-- The folder takes what is kept under the key. -/
theorem set_withCutEntry (payload : String) :
    Folder.top.set (withCutEntry content key) key payload = .ok
      { withCutEntry content key with
        files := (withCutEntry content key).files.put ([[0x63]] ++ [Folder.top.fileName key])
          (.file (encode (Entry.text ⟨key, payload⟩)) 5) } := by
  have other := beq_false_of_ne (ne_temporaryName key)
  refine (opensAt_withCutEntry content key).set_ok payload (short_entryPath_top key)
    (by decide +kernel) (by rw [at?_entry_withCutEntry]; nofun) ?_
  simp [FileTree.at?, withCutEntry, List.lookup_cons, other]

/-- The script is found where it was. -/
theorem find_withCutEntry (item : Item) :
    ((withCutEntry content key).files.put ([[0x63]] ++ [Folder.top.fileName key]) item).find []
      onlyScript = (withCutEntry content key).files.find [] onlyScript := by
  have there := at?_script_withCutEntry content key
  rw [isTop_onlyScript.find_of_file there, isTop_onlyScript.find_of_file]
  rw [FileTree.at?_put_of_ne _ (by simp), there]

end Host

/-- A default session at the only script, with one entry for all times. -/
def Session.atScript : Session :=
  { Session.start { Profile.ofSettings .defaults with keyMode := .fixed } with
    path := .ready ⟨"/s", onlyScript⟩ }

/-- An entry that was cut off is no answer. The load finds the names in the script, and the next
load is handed them from the cache. -/
theorem damaged_entries_heal_cut_off :
    let key := defaultKeyPrefix ++ "-" ++ onlyScript.display
    let world := World.overFolder .top (.withCutEntry "function A\x7b\x7d" key)
    (world.names? key).1 = none ∧
      ∃ left after,
        Scene.perform ⟨.atScript, world⟩ (.load false) false =
          (⟨left, after⟩, some (.loaded (.ok ⟨["A"], .extracted .structural⟩))) ∧
        (Scene.perform ⟨left, after⟩ (.load false) false).2 =
          some (.loaded (.ok ⟨["A"], .cache⟩)) := by
  intro key world
  obtain ⟨told, heals⟩ := damaged_entries_heal
    (show world.store = .folder (.inDirectory (.ofString "/c")) from rfl) (fun _ _ => rfl)
    (Host.read_withCutEntry _ key)
  have missed : (world.names? key).1 = none := by
    cases handed : (world.names? key).1 with
    | none => rfl
    | some names =>
        obtain ⟨text, payload, spelled, parsed, -⟩ := tells_iff.mp ((told names).mp handed)
        have same := congrArg decode? spelled
        rw [decode?_encode, decode?_encode] at same
        cases same
        cases parsed
  have drawn : Session.atScript.profile.drawAt world.host onlyScript =
      .ok ⟨["A"], .extracted .structural⟩ := by
    have script : readScript world.host.files world.host.cwd onlyScript = _ :=
      Host.readScript_withCutEntry _ key
    rw [Profile.drawAt, script]
    decide +kernel
  have asks : Session.atScript.Asks world.host (.load false) .cached ⟨"/s", onlyScript⟩ .atScript :=
    .load rfl
  obtain ⟨left, after, performed, profile, quiet, ready, next⟩ := heals missed rfl asks rfl drawn
  refine ⟨missed, left, after, performed, ?_⟩
  have written : world.store.set world.host key (Json.listText ["A"]) = .ok _ :=
    congrArg (Except.map fun host => (world.store, host)) (Host.set_withCutEntry _ key _)
  obtain ⟨-, -, recalls⟩ := next _ _ written
  exact recalls (congrArg Profile.keyPrefix profile) (congrArg Profile.keyMode profile) quiet
    (.load ready) rfl (Host.find_withCutEntry _ key _)

end ScriptRoster
