import Mathlib.Logic.Function.Basic
import ScriptRoster.Proofs.Cache.Contents

/-!
# Stores that do all that is asked

A store is in order for some keys if no call for one of them fails or touches what is kept under the
others. In memory that is so for all keys; in a folder the files have to be within reach, and no two
of the keys may share one. Such a store is a table: what was kept under a key last is handed out,
and nothing else.
-/

namespace ScriptRoster.Cache

open Files Text

namespace Folder

/-- Whether a folder is in order for some keys: it is tidy, its files are within reach, and no two of
the keys share a file. -/
structure InOrder (folder : Folder) (keys : Set String) (host : Host) : Prop where
  stems : ∀ key, IsStem (folder.stem key)
  apart : Set.InjOn folder.stem keys
  tidy : ∃ place, folder.Tidy place host
  short : ∀ key, (folder.entryPath key).bytes.length < FileTree.pathLimit
  brief : (folder.dir.join (.ofString temporaryName)).bytes.length < FileTree.pathLimit

variable {folder : Folder} {keys : Set String} {host after : Host} {place : Place}
  {key other payload : String}

/-- A folder that is in order answers for every key, since its files are within reach. -/
theorem InOrder.get_eq (order : folder.InOrder keys host) (tidy : folder.Tidy place host)
    (key : String) :
    folder.get host key =
      .ok (((folder.held place host key).filter (·.key = key)).map Entry.payload) := by
  rw [tidy.get_eq order.stems, if_neg (Nat.not_le.mpr (order.short key))]

/-- A key can be dropped from a tidy folder if its file is within reach. -/
theorem Tidy.exists_remove (tidy : folder.Tidy place host) (stems : ∀ key, IsStem (folder.stem key))
    (short : (folder.entryPath key).bytes.length < FileTree.pathLimit) :
    ∃ after, folder.remove host key = .ok after := by
  rw [entryPath_eq] at short
  simp only [Folder.remove, entryPath_eq,
    FileTree.removeFile_join tidy.there (isName_fileName (stems key)) (tidy.plain _)]
  rw [if_neg (Nat.not_le.mpr short)]
  by_cases missing : host.files.at? (place ++ [folder.fileName key]) = none
  · rw [if_pos missing]
    exact ⟨_, rfl⟩
  · rw [if_neg missing]
    exact ⟨_, rfl⟩

/-- A folder that is in order does what it is asked to for one of the keys. It hands out for that key
what was left there, and for the others what it did before. -/
theorem InOrder.leave (order : folder.InOrder keys host) (among : key ∈ keys)
    (left : Option String) :
    ∃ after, folder.leave host key left = .ok after ∧ folder.InOrder keys after ∧
      folder.get after key = .ok left ∧
      ∀ other, other ≠ key → other ∈ keys ∨ folder.get host other = .ok none →
        folder.get after other = folder.get host other := by
  obtain ⟨place, tidy⟩ := order.tidy
  obtain ⟨after, done⟩ : ∃ after, folder.leave host key left = .ok after := by
    cases left with
    | some payload => exact tidy.exists_set order.stems payload (order.short key) order.brief
    | none => exact tidy.exists_remove order.stems (order.short key)
  obtain ⟨tidier, replaced⟩ := tidy.leave order.stems done
  have later : folder.InOrder keys after :=
    ⟨order.stems, order.apart, ⟨place, tidier⟩, order.short, order.brief⟩
  refine ⟨after, done, later, ?_, ?_⟩
  · rw [later.get_eq tidier, replaced, if_pos rfl]
    cases left <;> simp
  · intro other different known
    rw [later.get_eq tidier, replaced]
    by_cases same : folder.stem other = folder.stem key
    · -- another key with the same file is none of the keys, so nothing was handed out for it
      have missing : folder.get host other = .ok none :=
        known.resolve_left fun member => different (order.apart member among same)
      rw [if_pos same, missing]
      cases left <;> simp [Ne.symm different]
    · rw [if_neg same, order.get_eq tidy]

end Folder

namespace Store

/-- Whether a store is in order for some keys, as it always is in memory. -/
def InOrder (store : Store) (keys : Set String) (host : Host) : Prop :=
  match store with
  | .memory _ => True
  | .folder place => place.InOrder keys host

variable {store : Store} {keys : Set String} {host : Host} {key other : String}

/-- A store that is in order does what it is asked to for one of the keys. It hands out for that key
what was left there, and for the others what it did before. -/
theorem InOrder.leave (order : store.InOrder keys host) (among : key ∈ keys)
    (left : Option String) :
    ∃ later after, store.leave host key left = .ok (later, after) ∧ later.InOrder keys after ∧
      later.get after key = .ok left ∧
      ∀ other, other ≠ key → other ∈ keys ∨ store.get host other = .ok none →
        later.get after other = store.get host other := by
  cases store with
  | memory entries =>
      refine ⟨_, host, leave_memory entries host key left, trivial, ?_, ?_⟩
      · exact congrArg Except.ok (Memory.lookup_leave_self entries key left)
      · intro other different _
        exact congrArg Except.ok (Memory.lookup_leave_of_ne entries left different)
  | folder place =>
      obtain ⟨after, done, kept⟩ := Folder.InOrder.leave order among left
      refine ⟨.folder place, after, ?_, kept⟩
      cases left with
      | some payload => exact congrArg (Except.map fun host => (Store.folder place, host)) done
      | none => exact congrArg (Except.map fun host => (Store.folder place, host)) done

end Store

/-! ## What a world has in stock -/

/-- Which names are kept for what. -/
abbrev Table (α : Type) := α → Option (List String)

namespace World

/-- A world whose store refuses nothing, is in order for some keys, and holds a stock under them. -/
structure Stocked (world : World) (keys : Set String) (stock : Table String) : Prop where
  obliging : world.Obliging
  order : world.store.InOrder keys world.host
  within : ∀ key names, stock key = some names → key ∈ keys
  holds : ∀ key, world.store.get world.host key = .ok ((stock key).map Json.listText)

variable {world before after : World} {keys : Set String} {stock : Table String} {key : String}
  {names : List String}

theorem Stocked.of_sameStock (stocked : before.Stocked keys stock) (same : SameStock before after)
    (refuses : after.refuses = before.refuses) : after.Stocked keys stock where
  obliging := stocked.obliging.of_refuses refuses
  order := by
    rw [same.store, same.host]
    exact stocked.order
  within := stocked.within
  holds := by
    rw [same.store, same.host]
    exact stocked.holds

theorem Stocked.aside (stocked : before.Stocked keys stock) (aside : Unasked before after) :
    after.Stocked keys stock := stocked.of_sameStock aside.toSameStock aside.refuses

theorem Stocked.asked (stocked : before.Stocked keys stock) {found : Option (List String)}
    (asked : before.names? key = (found, after)) : after.Stocked keys stock :=
  stocked.of_sameStock (sameStock_of_names? asked) (refuses_names? asked)

/-- The store hands out what is in stock. -/
theorem Stocked.names?_eq (stocked : world.Stocked keys stock) (key : String) :
    (world.names? key).1 = stock key := by
  rw [names?_fst, fetch_obliging stocked.obliging, stocked.holds]
  cases stock key with
  | none => rfl
  | some names => exact congrArg Except.toOption (Json.strings_listText names)

/-- What a call for one key leaves is the stock with that key changed. -/
theorem Stocked.replaced (stocked : world.Stocked keys stock) (among : key ∈ keys)
    (kept : Option (List String)) {later : Store} {host : Host} (order : later.InOrder keys host)
    (own : later.get host key = .ok (kept.map Json.listText))
    (others : ∀ other, other ≠ key → other ∈ keys ∨ world.store.get world.host other = .ok none →
      later.get host other = world.store.get world.host other)
    (refuses : after.refuses = world.refuses) (store : after.store = later)
    (left : after.host = host) : after.Stocked keys (Function.update stock key kept) where
  obliging := stocked.obliging.of_refuses refuses
  order := by
    rw [store, left]
    exact order
  within other names there := by
    by_cases same : other = key
    · exact same ▸ among
    · rw [Function.update_of_ne same] at there
      exact stocked.within other names there
  holds other := by
    rw [store, left]
    by_cases same : other = key
    · subst same
      rw [own, Function.update_self]
    · rw [Function.update_of_ne same, ← stocked.holds other]
      apply others other same
      rw [stocked.holds other]
      cases there : stock other with
      | none => exact .inr rfl
      | some names => exact .inl (stocked.within other names there)

/-- Names that are kept are in stock under their key, and all else stays. -/
theorem Stocked.keep (stocked : world.Stocked keys stock) (among : key ∈ keys)
    (names : List String) :
    (world.keep key names).2.Stocked keys (Function.update stock key (some names)) := by
  obtain ⟨later, host, done, order, own, others⟩ :=
    stocked.order.leave among (some (Json.listText names))
  have kept : world.keep key names =
      (world.record (.set key (Json.listText names))).2.settle (.ok (later, host)) := by
    rw [keep_eq, stocked.obliging]
    exact congrArg (World.settle _) done
  rw [kept]
  exact stocked.replaced among (some names) order own others rfl rfl rfl

/-- A key can be dropped from stock, and all else stays. -/
theorem Stocked.forget (stocked : world.Stocked keys stock) (among : key ∈ keys) :
    (world.forget key).1 = .ok () ∧
      (world.forget key).2.Stocked keys (Function.update stock key none) := by
  obtain ⟨later, host, done, order, own, others⟩ := stocked.order.leave among none
  have forgotten : world.forget key =
      (world.record (.remove key)).2.settle (.ok (later, host)) := by
    rw [forget_eq, stocked.obliging]
    exact congrArg (World.settle _) done
  rw [forgotten]
  exact ⟨rfl, stocked.replaced among none order own others rfl rfl rfl⟩

end World

end ScriptRoster.Cache
