import ScriptRoster.Cache.World
import ScriptRoster.Proofs.Cache.Entry
import ScriptRoster.Proofs.Files.Change
import ScriptRoster.Proofs.Text.Utf8

/-!
# What a store holds

A store holds a payload under a key if it hands the payload out for the key. Keeping a payload adds
it and nothing else, removing a key adds nothing, in memory as in a folder whose files may be shared
by several keys. Lists of names that are handed out were held.
-/

namespace ScriptRoster.Cache

open Files Text

namespace Folder

variable {folder : Folder} {host after : Host} {key other payload held : String}

/-- An entry that is read for a key was written for that key. -/
theorem get_eq_some_iff :
    folder.get host key = .ok (some payload) ↔
      ∃ text, host.files.readText host.cwd (folder.entryPath key) = .ok text ∧
        Entry.ofText text = .ok ⟨key, payload⟩ := by
  unfold get entry?
  split
  · next missing => simp [Except.map, missing]
  · next cause _ failed => simp [Except.map, failed]
  · next text found =>
      split
      · next entry parsed =>
          obtain ⟨k, p⟩ := entry
          by_cases same : k = key
          · subst same
            simp [Except.map, found, parsed]
          · simp [Except.map, Option.filter, same, found, parsed]
      · next fault parsed => simp [Except.map, found, parsed]

/-- Text that is read in the later tree was read in the earlier one, unless it stands in the place
that was changed. -/
theorem readText_of_agreesOff {place : Place} {before later : FileTree}
    (agree : FileTree.AgreesOff place before later) {cwd : Place} {path : Path} {text : String}
    (found : later.readText cwd path = .ok text) :
    before.readText cwd path = .ok text ∨
      ∃ item, later.at? place = some item ∧ later.find cwd path = .ok (place, item) := by
  cases spot : later.find cwd path with
  | error cause => simp [FileTree.readText, FileTree.read, spot] at found
  | ok entry =>
      obtain ⟨other, item⟩ := entry
      by_cases here : other = place
      · subst here
        exact .inr ⟨item, FileTree.hasSpot_locate (FileTree.find_eq_ok.mp spot), rfl⟩
      · refine .inl ?_
        simpa only [FileTree.readText, FileTree.read, spot, agree.find here spot] using found

/-- Keeping a payload in a folder puts its entry at one place and changes nothing else. -/
theorem set_eq_ok (done : folder.set host key payload = .ok after) :
    ∃ place, place ≠ [] ∧ after =
      { host with
        files := host.files.put place (.file (encode (Entry.text ⟨key, payload⟩)) host.now) } := by
  simp only [set] at done
  split at done
  · cases done
  split at done
  · next files replaced =>
      cases done
      obtain ⟨place, inside, rfl⟩ := FileTree.replace_eq_ok replaced
      exact ⟨place, inside, rfl⟩
  · cases done

/-- Keeping a payload in a folder adds it and nothing else. -/
theorem get_set (done : folder.set host key payload = .ok after)
    (found : folder.get after other = .ok (some held)) :
    other = key ∧ held = payload ∨ folder.get host other = .ok (some held) := by
  obtain ⟨place, inside, rfl⟩ := set_eq_ok done
  obtain ⟨text, read, parsed⟩ := get_eq_some_iff.mp found
  rcases readText_of_agreesOff (FileTree.agreesOff_put _ inside _ _) read with
    before | ⟨item, there, spot⟩
  · exact .inr (get_eq_some_iff.mpr ⟨text, before, parsed⟩)
  · rw [FileTree.at?_put_self _ inside] at there
    cases there
    simp only [FileTree.readText, FileTree.read, spot, decode?_encode, Except.ok.injEq] at read
    subst read
    rw [Entry.ofText_text] at parsed
    cases parsed
    exact .inl ⟨rfl, rfl⟩

/-- Removing a key from a folder adds nothing. -/
theorem get_remove (done : folder.remove host key = .ok after)
    (found : folder.get after other = .ok (some held)) :
    folder.get host other = .ok (some held) := by
  unfold remove at done
  split at done
  · next files removed =>
      cases done
      obtain ⟨place, item, inside, -, -, rfl⟩ := FileTree.removeFile_eq_ok removed
      obtain ⟨text, read, parsed⟩ := get_eq_some_iff.mp found
      rcases readText_of_agreesOff (FileTree.agreesOff_erase _ inside) read with
        before | ⟨item, there, -⟩
      · exact get_eq_some_iff.mpr ⟨text, before, parsed⟩
      · rw [FileTree.at?_erase_self _ inside] at there
        cases there
  · cases done
    exact found
  · cases done

/-- Leaves a payload under a key, or nothing. -/
def leave (folder : Folder) (host : Host) (key : String) : Option String → Except StoreError Host
  | some payload => folder.set host key payload
  | none => folder.remove host key

/-- A call for a key adds what it leaves there and nothing else. -/
theorem get_leave {left : Option String} (done : folder.leave host key left = .ok after)
    (found : folder.get after other = .ok (some held)) :
    other = key ∧ left = some held ∨ folder.get host other = .ok (some held) := by
  cases left with
  | some payload => exact (get_set done found).imp_left fun same => ⟨same.1, by rw [same.2]⟩
  | none => exact .inr (get_remove done found)

/-- Whether the entry of a key is kept apart from the script at a path: it is no link, and it does
not stand where the script does. -/
def Apart (folder : Folder) (host : Host) (key : String) (path : Path) : Prop :=
  ∀ spot entry, host.files.locate false host.cwd (folder.entryPath key) = .ok (.taken spot entry) →
    (∀ target, entry ≠ .link target) ∧
      ∀ place item, host.files.find host.cwd path = .ok (place, item) → place ≠ spot

/-- Removing a key from a folder leaves a file where it is, unless the file is the entry itself. -/
theorem find_remove {path : Path} {place : Place} {item : Item} (apart : folder.Apart host key path)
    (done : folder.remove host key = .ok after)
    (found : host.files.find host.cwd path = .ok (place, item)) :
    after.files.find after.cwd path = .ok (place, item) := by
  unfold remove at done
  split at done
  · next files removed =>
      cases done
      obtain ⟨spot, entry, inside, file, located, rfl⟩ := FileTree.removeFile_eq_ok removed
      obtain ⟨plain, elsewhere⟩ := apart spot entry located
      have agree :=
        FileTree.agreesOff_of_erase host.files (FileTree.hasSpot_locate located) file plain
      exact agree.find (elsewhere place item found) found
  · cases done
    exact found
  · cases done

end Folder

namespace Memory

theorem lookup_set_self (memory : Memory) (key payload : String) :
    (memory.set key payload).lookup key = some payload := by
  simp [set]

theorem lookup_set_of_ne (memory : Memory) {key other : String} (payload : String)
    (h : other ≠ key) : (memory.set key payload).lookup other = memory.lookup other := by
  simp only [set, List.lookup_cons, beq_false_of_ne h]
  exact lookup_filter_ne memory h

theorem lookup_remove_self (memory : Memory) (key : String) :
    (memory.remove key).lookup key = none := lookup_filter_self memory key

theorem lookup_remove_of_ne (memory : Memory) {key other : String} (h : other ≠ key) :
    (memory.remove key).lookup other = memory.lookup other := lookup_filter_ne memory h

/-- Leaves a payload under a key, or nothing. -/
def leave (memory : Memory) (key : String) : Option String → Memory
  | some payload => memory.set key payload
  | none => memory.remove key

theorem lookup_leave_self (memory : Memory) (key : String) (left : Option String) :
    (memory.leave key left).lookup key = left := by
  cases left with
  | some payload => exact lookup_set_self memory key payload
  | none => exact lookup_remove_self memory key

theorem lookup_leave_of_ne (memory : Memory) {key other : String} (left : Option String)
    (h : other ≠ key) : (memory.leave key left).lookup other = memory.lookup other := by
  cases left with
  | some payload => exact lookup_set_of_ne memory payload h
  | none => exact lookup_remove_of_ne memory h

end Memory

namespace Store

variable {store later : Store} {folder : Folder} {host after : Host}
  {key other payload held : String}

/-- Leaves a payload under a key, or nothing. -/
def leave (store : Store) (host : Host) (key : String) :
    Option String → Except StoreError (Store × Host)
  | some payload => store.set host key payload
  | none => store.remove host key

/-- A store in memory does all that is asked. -/
theorem leave_memory (entries : Memory) (host : Host) (key : String) (left : Option String) :
    (Store.memory entries).leave host key left = .ok (.memory (entries.leave key left), host) := by
  cases left <;> rfl

variable (left : Option String)

/-- A folder that has done what it was asked to is still the store. -/
theorem leave_folder (done : (Store.folder folder).leave host key left = .ok (later, after)) :
    later = .folder folder ∧ folder.leave host key left = .ok after := by
  have made : (Store.folder folder).leave host key left =
      (folder.leave host key left).map fun host => (.folder folder, host) := by
    cases left <;> rfl
  rw [made] at done
  cases come : folder.leave host key left with
  | error cause =>
      rw [come] at done
      cases done
  | ok stands =>
      rw [come] at done
      cases done
      exact ⟨rfl, rfl⟩

theorem set_folder (done : (Store.folder folder).set host key payload = .ok (later, after)) :
    later = .folder folder ∧ folder.set host key payload = .ok after :=
  leave_folder (some payload) done

theorem remove_folder (done : (Store.folder folder).remove host key = .ok (later, after)) :
    later = .folder folder ∧ folder.remove host key = .ok after :=
  leave_folder none done

/-- Whether a store hands a payload out for a key. -/
def Holds (store : Store) (host : Host) (key payload : String) : Prop :=
  store.get host key = .ok (some payload)

/-- A call for a key adds what it leaves there and nothing else. -/
theorem holds_of_leave (done : store.leave host key left = .ok (later, after))
    (found : later.Holds after other held) :
    other = key ∧ left = some held ∨ store.Holds host other held := by
  cases store with
  | memory entries =>
      rw [leave_memory] at done
      cases done
      have there : (entries.leave key left).lookup other = some held := Except.ok.inj found
      by_cases same : other = key
      · subst same
        rw [Memory.lookup_leave_self] at there
        exact .inl ⟨rfl, there⟩
      · rw [Memory.lookup_leave_of_ne _ _ same] at there
        exact .inr (congrArg Except.ok there)
  | folder place =>
      obtain ⟨rfl, made⟩ := leave_folder left done
      exact Folder.get_leave made found

/-- Whether the entry of a key is kept apart from the script at a path, as it is in memory. -/
def Apart (store : Store) (host : Host) (key : String) (path : Path) : Prop :=
  match store with
  | .memory _ => True
  | .folder place => place.Apart host key path

/-- Removing a key leaves a file where it is, unless the file is the entry itself. -/
theorem find_remove {path : Path} {place : Place} {item : Item} (apart : store.Apart host key path)
    (done : store.remove host key = .ok (later, after))
    (found : host.files.find host.cwd path = .ok (place, item)) :
    after.files.find after.cwd path = .ok (place, item) := by
  cases store with
  | memory entries =>
      cases done
      exact found
  | folder holder =>
      obtain ⟨rfl, removed⟩ := remove_folder done
      exact Folder.find_remove apart removed found

end Store

namespace World

variable {world before after : World} {key other : String} {names held : List String}

/-- Whether the store of a world holds a list of names under a key. -/
def HoldsNames (world : World) (key : String) (names : List String) : Prop :=
  ∃ payload, world.store.Holds world.host key payload ∧ Json.strings payload = .ok names

/-- Two worlds have the same stock if they differ at most in what was recorded and noted. -/
structure SameStock (before after : World) : Prop where
  host : after.host = before.host
  store : after.store = before.store

theorem SameStock.refl (world : World) : SameStock world world := ⟨rfl, rfl⟩

theorem SameStock.holdsNames_iff (same : SameStock before after) :
    after.HoldsNames key names ↔ before.HoldsNames key names := by
  rw [HoldsNames, HoldsNames, same.host, same.store]

/-- Between two worlds nothing was asked of the store and nothing happened to the host. -/
structure Unasked (before after : World) : Prop extends SameStock before after where
  refuses : after.refuses = before.refuses
  calls : after.calls = before.calls

theorem Unasked.refl (world : World) : Unasked world world := ⟨.refl world, rfl, rfl⟩

theorem Unasked.symm (aside : Unasked before after) : Unasked after before where
  host := aside.host.symm
  store := aside.store.symm
  refuses := aside.refuses.symm
  calls := aside.calls.symm

theorem Unasked.trans {middle : World} (first : Unasked before middle)
    (second : Unasked middle after) : Unasked before after where
  host := second.host.trans first.host
  store := second.store.trans first.store
  refuses := second.refuses.trans first.refuses
  calls := second.calls.trans first.calls

theorem unasked_note (world : World) (notices : Journal) : Unasked world (world.note notices) :=
  ⟨⟨rfl, rfl⟩, rfl, rfl⟩

/-! ## Asking for names -/

/-- A call that is not refused is answered by the store, and recorded as one that is refused. -/
theorem fetch_eq (world : World) (key : String) :
    world.fetch key =
      if world.refuses world.calls.length (.get key) then
        (.error (refusal (.get key)), (world.record (.get key)).2)
      else
        (world.store.get world.host key,
          (world.record (.get key)).2.note (world.store.remarks world.host key)) := rfl

/-- The names in what a store has answered, if there are any. -/
def namesIn? : Except StoreError (Option String) → Option (List String)
  | .ok (some payload) => (Json.strings payload).toOption
  | _ => none

theorem exists_of_namesIn?_eq_some {answer : Except StoreError (Option String)}
    (told : namesIn? answer = some names) :
    ∃ payload, answer = .ok (some payload) ∧ Json.strings payload = .ok names := by
  cases answer with
  | error error => cases told
  | ok payload? =>
      cases payload? with
      | none => cases told
      | some payload =>
          refine ⟨payload, rfl, ?_⟩
          cases read : Json.strings payload with
          | error fault =>
              rw [namesIn?, read] at told
              cases told
          | ok list =>
              rw [namesIn?, read] at told
              exact congrArg Except.ok (Option.some.inj told)

/-- To ask for names is to ask for a payload, read the names in it and note what came of it. -/
theorem exists_names?_eq (world : World) (key : String) :
    ∃ notices, world.names? key =
      (namesIn? (world.fetch key).1, (world.fetch key).2.note notices) := by
  unfold names?
  split
  · next payload after fetched =>
      rw [fetched]
      split
      · next read => exact ⟨_, Prod.ext (congrArg Except.toOption read).symm rfl⟩
      · next unread => exact ⟨_, Prod.ext (congrArg Except.toOption unread).symm rfl⟩
  · next fetched => exact ⟨_, by rw [fetched]; rfl⟩
  · next fetched => exact ⟨_, by rw [fetched]; rfl⟩

/-- Names are told just if the answer of the store is a list of names. -/
theorem names?_fst (world : World) (key : String) :
    (world.names? key).1 = namesIn? (world.fetch key).1 := by
  obtain ⟨notices, asked⟩ := world.exists_names?_eq key
  rw [asked]

theorem unasked_names? (world : World) (key : String) :
    Unasked (world.fetch key).2 (world.names? key).2 := by
  obtain ⟨notices, asked⟩ := world.exists_names?_eq key
  rw [asked]
  exact unasked_note _ _

theorem sameStock_fetch (world : World) (key : String) : SameStock world (world.fetch key).2 := by
  rw [fetch_eq]
  split <;> exact ⟨rfl, rfl⟩

/-- A payload that is handed out was held. -/
theorem holds_of_fetch {payload : String} (found : (world.fetch key).1 = .ok (some payload)) :
    world.store.Holds world.host key payload := by
  rw [fetch_eq] at found
  split at found
  · cases found
  · exact found

theorem sameStock_names? (world : World) (key : String) :
    SameStock world (world.names? key).2 where
  host := (world.unasked_names? key).host.trans (world.sameStock_fetch key).host
  store := (world.unasked_names? key).store.trans (world.sameStock_fetch key).store

theorem sameStock_of_names? {found : Option (List String)}
    (asked : before.names? key = (found, after)) : SameStock before after := by
  have same := sameStock_names? before key
  rw [asked] at same
  exact same

/-- Names that are found in the cache were held. -/
theorem holdsNames_of_names? (found : before.names? key = (some names, after)) :
    before.HoldsNames key names := by
  have told := (before.names?_fst key).symm.trans (congrArg Prod.fst found)
  obtain ⟨payload, fetched, parsed⟩ := exists_of_namesIn?_eq_some told
  exact ⟨payload, holds_of_fetch fetched, parsed⟩

/-- No names are found where the store cannot be read. -/
theorem names?_of_get_error {error : StoreError}
    (failed : world.store.get world.host key = .error error) : (world.names? key).1 = none := by
  rw [names?_fst, fetch_eq, failed]
  split <;> rfl

theorem sameStock_record (world : World) (call : Call) : SameStock world (world.record call).2 :=
  ⟨rfl, rfl⟩

/-- A payload is kept as the store keeps it, unless the call is refused. -/
theorem keep_eq (world : World) (key : String) (names : List String) :
    world.keep key names =
      if world.refuses world.calls.length (.set key (Json.listText names)) then
        (.error (refusal (.set key (Json.listText names))),
          (world.record (.set key (Json.listText names))).2)
      else
        (world.record (.set key (Json.listText names))).2.settle
          (world.store.set world.host key (Json.listText names)) := rfl

/-- A key is dropped as the store drops it, unless the call is refused. -/
theorem forget_eq (world : World) (key : String) :
    world.forget key =
      if world.refuses world.calls.length (.remove key) then
        (.error (refusal (.remove key)), (world.record (.remove key)).2)
      else (world.record (.remove key)).2.settle (world.store.remove world.host key) := rfl

/-- A call that changes the store leaves the stock as it is, or leaves what the store made. -/
theorem settle_cases (world : World) (made : Except StoreError (Store × Host)) :
    SameStock world (world.settle made).2 ∨
      ∃ store host, made = .ok (store, host) ∧ (world.settle made).2.store = store ∧
        (world.settle made).2.host = host := by
  cases made with
  | error cause => exact .inl (.refl world)
  | ok pair => exact .inr ⟨pair.1, pair.2, rfl, rfl, rfl⟩

/-- A call to keep names has failed and left the stock as it was, or the store has kept them. -/
theorem keep_cases (world : World) (key : String) (names : List String) :
    SameStock world (world.keep key names).2 ∨
      ∃ store host, world.store.set world.host key (Json.listText names) = .ok (store, host) ∧
        (world.keep key names).2.store = store ∧ (world.keep key names).2.host = host := by
  rw [keep_eq]
  split
  · exact .inl (sameStock_record world _)
  · rcases settle_cases (world.record (.set key (Json.listText names))).2 _ with same | made
    · exact .inl ⟨same.host, same.store⟩
    · exact .inr made

/-- A call to drop a key has failed and left the stock as it was, or the store has dropped it. -/
theorem forget_cases (world : World) (key : String) :
    SameStock world (world.forget key).2 ∨
      ∃ store host, world.store.remove world.host key = .ok (store, host) ∧
        (world.forget key).2.store = store ∧ (world.forget key).2.host = host := by
  rw [forget_eq]
  split
  · exact .inl (sameStock_record world _)
  · rcases settle_cases (world.record (.remove key)).2 _ with same | made
    · exact .inl ⟨same.host, same.store⟩
    · exact .inr made

/-- Keeping names adds them and no others. -/
theorem holdsNames_of_keep (found : (world.keep key names).2.HoldsNames other held) :
    other = key ∧ held = names ∨ world.HoldsNames other held := by
  rcases keep_cases world key names with same | ⟨store, host, done, atStore, atHost⟩
  · exact .inr (same.holdsNames_iff.mp found)
  · obtain ⟨payload, holds, parsed⟩ := found
    rw [atStore, atHost] at holds
    rcases Store.holds_of_leave (some _) done holds with ⟨rfl, same⟩ | earlier
    · rw [← Option.some.inj same, Json.strings_listText] at parsed
      exact .inl ⟨rfl, (Except.ok.inj parsed).symm⟩
    · exact .inr ⟨payload, earlier, parsed⟩

/-- Forgetting a key adds no names. -/
theorem holdsNames_of_forget (found : (world.forget key).2.HoldsNames other held) :
    world.HoldsNames other held := by
  rcases forget_cases world key with same | ⟨store, host, done, atStore, atHost⟩
  · exact same.holdsNames_iff.mp found
  · obtain ⟨payload, holds, parsed⟩ := found
    rw [atStore, atHost] at holds
    rcases Store.holds_of_leave none done holds with ⟨-, same⟩ | earlier
    · cases same
    · exact ⟨payload, earlier, parsed⟩

/-- Forgetting a key leaves a file where it is, unless the file is the entry itself. -/
theorem find_forget {path : Path} {place : Place} {item : Item}
    (apart : world.store.Apart world.host key path)
    (found : world.host.files.find world.host.cwd path = .ok (place, item)) :
    (world.forget key).2.host.files.find (world.forget key).2.host.cwd path =
      .ok (place, item) := by
  rcases forget_cases world key with same | ⟨store, host, done, -, atHost⟩
  · rw [same.host, found]
  · rw [atHost]
    exact Store.find_remove apart done found

/-- Whether a change from outside puts no names into the folder of the store, if it has one. -/
def Spares (before after : World) : Prop :=
  ∀ folder, before.store = .folder folder →
    ∀ key names, after.HoldsNames key names → before.HoldsNames key names

/-- A store in memory is out of reach from outside. -/
theorem Spares.holdsNames (spares : Spares before after) (store : after.store = before.store)
    (held : after.HoldsNames key names) : before.HoldsNames key names := by
  cases kind : before.store with
  | folder folder => exact spares folder kind key names held
  | memory entries =>
      obtain ⟨payload, holds, parsed⟩ := held
      rw [store, kind] at holds
      refine ⟨payload, ?_, parsed⟩
      rw [kind]
      exact holds

/-- Whether the store of a world is in memory, where no call touches the host. -/
def InMemory (world : World) : Prop := ∃ entries, world.store = .memory entries

/-- What calls to a store in memory leave: the host as it was, and a store in memory. -/
structure Remembers (before after : World) : Prop where
  host : after.host = before.host
  inMemory : after.InMemory

theorem Remembers.trans {middle : World} (first : Remembers before middle)
    (second : Remembers middle after) : Remembers before after :=
  ⟨second.host.trans first.host, second.inMemory⟩

/-- A store in memory with the same stock is one whose host was left alone. -/
theorem SameStock.remembers (same : SameStock before after) (memory : before.InMemory) :
    Remembers before after := by
  obtain ⟨entries, store⟩ := memory
  exact ⟨same.host, entries, same.store.trans store⟩

theorem remembers_keep (memory : world.InMemory) (key : String) (names : List String) :
    Remembers world (world.keep key names).2 := by
  rcases keep_cases world key names with same | ⟨store, host, done, atStore, atHost⟩
  · exact same.remembers memory
  · obtain ⟨entries, there⟩ := memory
    rw [there] at done
    cases done
    exact ⟨atHost, _, atStore⟩

theorem remembers_forget (memory : world.InMemory) (key : String) :
    Remembers world (world.forget key).2 := by
  rcases forget_cases world key with same | ⟨store, host, done, atStore, atHost⟩
  · exact same.remembers memory
  · obtain ⟨entries, there⟩ := memory
    rw [there] at done
    cases done
    exact ⟨atHost, _, atStore⟩

/-- Whether the store refuses no call. -/
def Obliging (world : World) : Prop := ∀ count call, world.refuses count call = false

theorem Obliging.of_refuses (obliging : before.Obliging) (same : after.refuses = before.refuses) :
    after.Obliging := by
  intro count call
  rw [same]
  exact obliging count call

theorem refuses_fetch (world : World) (key : String) :
    (world.fetch key).2.refuses = world.refuses := by
  rw [fetch_eq]
  split <;> rfl

theorem refuses_names? {found : Option (List String)}
    (asked : before.names? key = (found, after)) : after.refuses = before.refuses := by
  have later : (before.names? key).2 = after := congrArg Prod.snd asked
  rw [← later, (before.unasked_names? key).refuses, refuses_fetch]

theorem refuses_settle (world : World) (made : Except StoreError (Store × Host)) :
    (world.settle made).2.refuses = world.refuses := by
  cases made <;> rfl

theorem refuses_keep (world : World) (key : String) (names : List String) :
    (world.keep key names).2.refuses = world.refuses := by
  rw [keep_eq]
  split
  · rfl
  · exact refuses_settle _ _

theorem refuses_forget (world : World) (key : String) :
    (world.forget key).2.refuses = world.refuses := by
  rw [forget_eq]
  split
  · rfl
  · exact refuses_settle _ _

/-- A store that refuses nothing hands out what it holds. -/
theorem fetch_obliging (obliging : world.Obliging) (key : String) :
    (world.fetch key).1 = world.store.get world.host key := by
  rw [fetch_eq, obliging]
  rfl

/-- A store that refuses nothing hands out the names it holds. -/
theorem names?_of_holdsNames (obliging : world.Obliging) (held : world.HoldsNames key names) :
    ∃ after, world.names? key = (some names, after) := by
  obtain ⟨payload, holds, parsed⟩ := held
  refine ⟨_, Prod.ext ?_ rfl⟩
  rw [names?_fst, fetch_obliging obliging, holds]
  exact congrArg Except.toOption parsed

/-- A store in memory that refuses nothing holds the names that were kept last. -/
theorem holdsNames_keep (obliging : world.Obliging) (memory : world.InMemory) (key : String)
    (names : List String) : (world.keep key names).2.HoldsNames key names := by
  obtain ⟨entries, store⟩ := memory
  refine ⟨Json.listText names, ?_, Json.strings_listText names⟩
  rw [keep_eq, obliging, store]
  exact congrArg Except.ok (Memory.lookup_set_self entries key _)

end World

end ScriptRoster.Cache
