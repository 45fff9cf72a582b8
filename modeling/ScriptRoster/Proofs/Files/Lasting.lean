import ScriptRoster.Proofs.Files.Growth

/-!
# Files that last

A file that is replaced or removed through a path is the one with the last name of the path,
wherever the path leads by then. So what stands in a directory under another name is still there,
and paths still lead to the directory unless a link has given way to the file.
-/

namespace ScriptRoster.Files.FileTree

open Text

variable {tree after : FileTree} {cwd start place : Place} {dir path : Path} {name other : Bytes}
  {names : List Bytes} {item : Item} {content : Bytes} {links : Nat} {now : Int}

/-! ## The last name of a path -/

/-- A walk that stops at links ends at the last name of its path. -/
theorem Walks.exists_above {spot : Spot} (walks : tree.Walks false links start names spot)
    (last : names.getLast? = some name) (step : IsStep name) :
    ∃ above, spot.place = above ++ [name] := by
  induction walks with
  | ends => cases last
  | @here _ _ rest _ _ _ ih =>
      cases rest with
      | nil => exact absurd (Option.some.inj last).symm step.notHere
      | cons next rest => exact ih (by simpa using last)
  | @above _ _ rest _ _ _ ih =>
      cases rest with
      | nil => exact absurd (Option.some.inj last).symm step.notAbove
      | cons next rest => exact ih (by simpa using last)
  | free | stops =>
      cases last
      exact ⟨_, rfl⟩
  | @link _ _ _ rest _ _ _ _ _ followed _ _ ih =>
      cases rest with
      | nil => exact absurd (followed rfl) Bool.false_ne_true
      | cons next rest =>
          refine ih ?_
          rw [List.getLast?_append_of_ne_nil _ (List.cons_ne_nil next rest)]
          simpa using last
  | @item _ _ _ rest _ _ _ _ _ _ goesOn ih =>
      cases rest with
      | nil =>
          cases goesOn
          cases last
          exact ⟨_, rfl⟩
      | cons next rest => exact ih (by simpa using last)

theorem place_of_locate_join {spot : Spot} (plain : Path.IsName name)
    (found : tree.locate false cwd (dir.join ⟨name⟩) = .ok spot) :
    ∃ above, spot.place = above ++ [name] := by
  obtain ⟨-, walks⟩ := locate_eq_ok.mp found
  rw [Path.components_join plain] at walks
  exact walks.exists_above (by simp) plain.isStep

/-- A file that replaces what is at a path is put where the path leads without its last link. -/
theorem locate_of_replace (done : tree.replace cwd path content now = .ok after) :
    ∃ spot, tree.locate false cwd path = .ok spot ∧ tree.at? spot.place ≠ some .directory ∧
      after = tree.put spot.place (.file content now) := by
  unfold replace at done
  split at done
  · next place found =>
      cases done
      refine ⟨_, found, ?_, rfl⟩
      rw [Spot.place, show tree.at? place = none from hasSpot_locate found]
      nofun
  · cases done
  · next place item other found =>
      cases done
      refine ⟨_, found, ?_, rfl⟩
      rw [Spot.place, show tree.at? place = some item from hasSpot_locate found]
      rintro ⟨⟩
      exact other rfl
  · cases done

/-- What stands under another name is there after a file was put at a name. -/
theorem at?_of_replace (plain : Path.IsName name) (differ : other ≠ name)
    (done : tree.replace cwd (dir.join ⟨name⟩) content now = .ok after) :
    after.at? (place ++ [other]) = tree.at? (place ++ [other]) := by
  obtain ⟨spot, found, -, rfl⟩ := locate_of_replace done
  obtain ⟨above, ends⟩ := place_of_locate_join plain found
  refine at?_put_of_ne tree ?_ _
  rw [ends]
  intro same
  exact differ (List.cons.inj (List.append_inj' same rfl).2).1

/-- What stands under another name is there after a file was removed at a name. -/
theorem at?_of_removeFile (plain : Path.IsName name) (differ : other ≠ name)
    (done : tree.removeFile cwd (dir.join ⟨name⟩) = .ok after) :
    after.at? (place ++ [other]) = tree.at? (place ++ [other]) := by
  obtain ⟨spot, item, -, -, found, rfl⟩ := removeFile_eq_ok done
  obtain ⟨above, ends⟩ := place_of_locate_join plain found
  refine at?_erase_of_ne tree ?_
  rw [show spot = above ++ [name] from ends]
  intro same
  exact differ (List.cons.inj (List.append_inj' same rfl).2).1

/-! ## Directories that are made -/

theorem at?_of_makeDirectory (done : tree.makeDirectory cwd path = .ok after)
    (there : tree.at? place = some item) : after.at? place = some item := by
  obtain ⟨spot, free, rfl⟩ := makeDirectory_eq_ok done
  rw [at?_put_of_ne tree, there]
  rintro rfl
  exact Option.some_ne_none item (there.symm.trans (hasSpot_locate free))

/-- Directories are made at free places only. -/
theorem at?_of_makeDirectories (done : tree.makeDirectories cwd path = .ok after)
    (there : tree.at? place = some item) : after.at? place = some item :=
  holds_of_makeDirectoriesWithin at?_of_makeDirectory done there

theorem OpensAt.makeDirectories (opens : tree.OpensAt cwd dir place) :
    tree.makeDirectories cwd dir = .ok tree := by
  unfold OpensAt at opens
  split at opens
  · next empty => simp [FileTree.makeDirectories, makeDirectoriesWithin, empty]
  · exact makeDirectories_of_find opens

/-! ## Directories that stay open -/

/-- A path still opens a directory after a change at a place where no path could pass. -/
theorem OpensAt.of_agreesOff {spot : Place} (opens : tree.OpensAt cwd dir place)
    (agree : AgreesOff spot after tree) : after.OpensAt cwd dir place := by
  have elsewhere : place ≠ spot := by
    rintro rfl
    exact agree.noDirectory opens.walks.hasSpot
  unfold OpensAt at opens ⊢
  split at opens
  · next empty =>
      rw [if_pos empty, ← agree.same place elsewhere]
      exact opens
  · next whole =>
      rw [if_neg whole]
      exact agree.find elsewhere opens

section Names

variable (opens : tree.OpensAt cwd dir place) (plain : Path.IsName name)

include opens plain

theorem OpensAt.spot_eq {spot : Spot} (found : tree.locate false cwd (dir.join ⟨name⟩) = .ok spot) :
    spot = tree.spotAt (place ++ [name]) := by
  have located := opens.locate plain (show false = true → _ from nofun)
  rw [found] at located
  split at located
  · cases located
  · exact Except.ok.inj located

/-- A file that replaces what is at a name is put in the directory that the path opens. -/
theorem OpensAt.replace_eq (done : tree.replace cwd (dir.join ⟨name⟩) content now = .ok after) :
    tree.at? (place ++ [name]) ≠ some .directory ∧
      after = tree.put (place ++ [name]) (.file content now) := by
  obtain ⟨spot, found, file, rfl⟩ := locate_of_replace done
  have there : spot.place = place ++ [name] := by
    rw [opens.spot_eq plain found, spotAt]
    split <;> rfl
  rw [there] at file
  exact ⟨file, by rw [there]⟩

/-- What is no directory is replaced. -/
theorem OpensAt.replace_ok (short : (dir.join ⟨name⟩).bytes.length < pathLimit)
    (file : tree.at? (place ++ [name]) ≠ some .directory) :
    tree.replace cwd (dir.join ⟨name⟩) content now =
      .ok (tree.put (place ++ [name]) (.file content now)) := by
  have located := opens.locate plain (show false = true → _ from nofun)
  rw [if_neg (Nat.not_le.mpr short), spotAt] at located
  rw [replace, located]
  cases there : tree.at? (place ++ [name]) with
  | none => rfl
  | some item =>
      cases item with
      | directory => exact absurd there file
      | file | link | program | device => rfl

theorem OpensAt.removeFile_eq (done : tree.removeFile cwd (dir.join ⟨name⟩) = .ok after) :
    tree.at? (place ++ [name]) ≠ some .directory ∧ after = tree.erase (place ++ [name]) := by
  obtain ⟨spot, item, -, file, found, rfl⟩ := removeFile_eq_ok done
  have there := hasSpot_locate found
  have same := opens.spot_eq plain found
  unfold spotAt at same
  split at same
  · cases same
    refine ⟨?_, rfl⟩
    intro directory
    exact file (Option.some.inj (there.symm.trans directory))
  · cases same

/-- The file at a name behind a path that opens a directory is found. -/
theorem OpensAt.find_file {modified : Int}
    (short : (dir.join ⟨name⟩).bytes.length < pathLimit)
    (there : tree.at? (place ++ [name]) = some (.file content modified)) :
    tree.find cwd (dir.join ⟨name⟩) = .ok (place ++ [name], .file content modified) := by
  have stops : ∀ target, tree.at? (place ++ [name]) ≠ some (.link target) := by simp [there]
  rw [FileTree.find, opens.locate plain fun _ => stops, if_neg (by omega), spotAt, there]

end Names

theorem agreesOff_of_unlinked {spot : Place} (file : tree.at? spot ≠ some .directory)
    (unlinked : ∀ target, tree.at? spot ≠ some (.link target))
    (same : ∀ other, other ≠ spot → after.at? other = tree.at? other) :
    AgreesOff spot after tree where
  same other h := (same other h).symm
  noDirectory := file
  noLink := unlinked

end ScriptRoster.Files.FileTree
