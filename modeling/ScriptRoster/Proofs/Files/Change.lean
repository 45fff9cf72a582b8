import ScriptRoster.Proofs.Files.Walk
import ScriptRoster.Proofs.Lookup

/-!
# Walks past a changed item

Two trees that agree at every place but one, where the later one has neither a directory nor a link,
are not told apart by a walk in the later one that ends at another place: such a walk cannot have
passed the changed place. A walk that ends at the changed place ends there in both.
-/

namespace ScriptRoster.Files.FileTree

/-- The later tree holds what the earlier one holds, but for one place that no walk can pass. -/
structure AgreesOff (place : Place) (before after : FileTree) : Prop where
  same : ∀ other, other ≠ place → after.at? other = before.at? other
  noDirectory : after.at? place ≠ some .directory
  noLink : ∀ target, after.at? place ≠ some (.link target)

theorem at?_put_self (tree : FileTree) {place : Place} (h : place ≠ []) (item : Item) :
    (tree.put place item).at? place = some item := by
  simp [at?, put, h]

theorem at?_put_of_ne (tree : FileTree) {place other : Place} (h : other ≠ place) (item : Item) :
    (tree.put place item).at? other = tree.at? other := by
  have missed : (other == place) = false := beq_false_of_ne h
  simp only [at?, put, List.lookup_cons, missed]
  rw [lookup_filter_ne _ h]

theorem at?_erase_self (tree : FileTree) {place : Place} (h : place ≠ []) :
    (tree.erase place).at? place = none := by
  simp only [at?, erase, h, if_false]
  exact lookup_filter_self _ _

theorem at?_erase_of_ne (tree : FileTree) {place other : Place} (h : other ≠ place) :
    (tree.erase place).at? other = tree.at? other := by
  simp only [at?, erase]
  rw [lookup_filter_ne _ h]

theorem agreesOff_put (tree : FileTree) {place : Place} (h : place ≠ []) (content : Text.Bytes)
    (modified : Int) : AgreesOff place tree (tree.put place (.file content modified)) where
  same _ hne := at?_put_of_ne tree hne _
  noDirectory := by simp [at?_put_self tree h]
  noLink := by simp [at?_put_self tree h]

theorem agreesOff_erase (tree : FileTree) {place : Place} (h : place ≠ []) :
    AgreesOff place tree (tree.erase place) where
  same _ hne := at?_erase_of_ne tree hne
  noDirectory := by simp [at?_erase_self tree h]
  noLink := by simp [at?_erase_self tree h]

/-- A tree without a file holds what the tree with it holds, but for the place of the file. -/
theorem agreesOff_of_erase (tree : FileTree) {place : Place} {item : Item}
    (there : tree.at? place = some item) (file : item ≠ .directory)
    (plain : ∀ target, item ≠ .link target) : AgreesOff place (tree.erase place) tree where
  same _ hne := (at?_erase_of_ne tree hne).symm
  noDirectory := fun h => file (Option.some.inj (there.symm.trans h))
  noLink := fun target h => plain target (Option.some.inj (there.symm.trans h))

/-- What is found in the later tree and a walk can pass was there before. -/
theorem AgreesOff.before_eq {place other : Place} {before after : FileTree}
    (agree : AgreesOff place before after) {item : Item} (there : after.at? other = some item)
    (passable : item = .directory ∨ ∃ target, item = .link target) :
    before.at? other = some item := by
  rw [← there]
  refine (agree.same other fun here => ?_).symm
  subst here
  rcases passable with rfl | ⟨target, rfl⟩
  · exact agree.noDirectory there
  · exact agree.noLink target there

variable {before after : FileTree} {place : Place} {follow : Bool} {links : Nat} {start : Place}
  {names : List Text.Bytes} {spot : Spot} {item : Item}

/-- A walk that ends elsewhere in the later tree ends there in the earlier one. -/
theorem AgreesOff.walks (agree : AgreesOff place before after) (elsewhere : spot.place ≠ place)
    (walks : after.Walks follow links start names spot) :
    before.Walks follow links start names spot := by
  induction walks with
  | ends there => exact .ends ((agree.same _ elsewhere).symm.trans there)
  | here directory _ ih => exact .here (agree.before_eq directory (.inl rfl)) (ih elsewhere)
  | above directory _ ih => exact .above (agree.before_eq directory (.inl rfl)) (ih elsewhere)
  | free directory step missing =>
      exact .free (agree.before_eq directory (.inl rfl)) step
        ((agree.same _ elsewhere).symm.trans missing)
  | stops directory step there unfollowed =>
      exact .stops (agree.before_eq directory (.inl rfl)) step
        (agree.before_eq there (.inr ⟨_, rfl⟩)) unfollowed
  | link directory step there followed full _ ih =>
      exact .link (agree.before_eq directory (.inl rfl)) step
        (agree.before_eq there (.inr ⟨_, rfl⟩)) followed full (ih elsewhere)
  | @item _ start name _ _ _ directory step there unlinked goesOn ih =>
      -- the item is where the walk ends, or it is a directory
      have passed : start ++ [name] ≠ place := by
        rcases goesOn.place_eq_or_directory with ends | passable
        · exact ends ▸ elsewhere
        · rintro rfl
          exact agree.noDirectory passable
      exact .item (agree.before_eq directory (.inl rfl)) step
        ((agree.same _ passed).symm.trans there) unlinked (ih elsewhere)

/-- A walk that ends in the later tree at the place that changed ends there in the earlier one, and
links at the end may be followed as well. -/
theorem AgreesOff.walks_to (agree : AgreesOff place before after)
    (there : before.at? place = some item) (unlinked : ∀ target, item ≠ .link target)
    (here : spot.place = place) (walks : after.Walks follow links start names spot) :
    before.Walks true links start names (.taken place item) := by
  induction walks with
  | ends =>
      subst here
      exact .ends there
  | here directory _ ih => exact .here (agree.before_eq directory (.inl rfl)) (ih here)
  | above directory _ ih => exact .above (agree.before_eq directory (.inl rfl)) (ih here)
  | free directory step =>
      subst here
      exact .item (agree.before_eq directory (.inl rfl)) step there unlinked (.ends there)
  | stops _ _ link =>
      subst here
      exact absurd link (agree.noLink _)
  | link directory step link _ full _ ih =>
      exact .link (agree.before_eq directory (.inl rfl)) step
        (agree.before_eq link (.inr ⟨_, rfl⟩)) (fun _ => rfl) full (ih here)
  | @item _ start name _ _ found directory step standing plain _ ih =>
      have directory := agree.before_eq directory (.inl rfl)
      by_cases passed : start ++ [name] = place
      · exact .item directory step (passed ▸ there) unlinked (ih here)
      · exact .item directory step ((agree.same _ passed).symm.trans standing) plain (ih here)

/-- What is found at another place in the later tree was found there in the earlier one. -/
theorem AgreesOff.find {place other : Place} {before after : FileTree}
    (agree : AgreesOff place before after) {cwd : Place} {path : Path} {item : Item}
    (h : other ≠ place) (found : after.find cwd path = .ok (other, item)) :
    before.find cwd path = .ok (other, item) := by
  obtain ⟨proper, walks⟩ := locate_eq_ok.mp (find_eq_ok.mp found)
  exact find_eq_ok.mpr (locate_eq_ok.mpr ⟨proper, agree.walks h walks⟩)

/-- A file that replaces what is at a path is put at one place, and the rest stays as it is. -/
theorem replace_eq_ok {tree after : FileTree} {cwd : Place} {path : Path} {content : Text.Bytes}
    {now : Int} (done : tree.replace cwd path content now = .ok after) :
    ∃ place, place ≠ [] ∧ after = tree.put place (.file content now) := by
  unfold replace at done
  split at done
  · next place found =>
      cases done
      exact ⟨place, ne_root_of_locate (.inl found), rfl⟩
  · cases done
  · next place item other found =>
      cases done
      refine ⟨place, ne_root_of_locate (.inr ⟨item, ?_, found⟩), rfl⟩
      rintro rfl
      exact other rfl
  · cases done

/-- A file that is removed leaves one place free, and the rest stays as it is. -/
theorem removeFile_eq_ok {tree after : FileTree} {cwd : Place} {path : Path}
    (done : tree.removeFile cwd path = .ok after) :
    ∃ place item, place ≠ [] ∧ item ≠ .directory ∧
      tree.locate false cwd path = .ok (.taken place item) ∧ after = tree.erase place := by
  unfold removeFile at done
  split at done
  · cases done
  · cases done
  · next place item other found =>
      cases done
      have file : item ≠ .directory := by
        rintro rfl
        exact other rfl
      exact ⟨place, item, ne_root_of_locate (.inr ⟨item, file, found⟩), file, found, rfl⟩
  · cases done

end ScriptRoster.Files.FileTree
