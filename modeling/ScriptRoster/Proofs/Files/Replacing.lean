import ScriptRoster.Proofs.Files.Lasting

/-!
# Files that are replaced

A file that can be read through a path and is replaced through the same path is found there with its
new content, also where links lead to it: a link that leads to a file is not on the way to the
directory, so that the way stays open if the file takes the place of the link.
-/

namespace ScriptRoster.Files.FileTree

open Text

variable {tree after : FileTree} {cwd start place : Place} {dir : Path} {name : Bytes}
  {names : List Bytes} {item : Item} {content : Bytes} {links : Nat} {now : Int} {spot : Spot}

/-! ## Ways that stay open -/

/-- A place that is not passed on a way to a directory: there is no directory, and no link that
leads on to one. -/
structure IsEnd (tree : FileTree) (above : Place) (name : Bytes) : Prop where
  noDirectory : tree.at? (above ++ [name]) ≠ some .directory
  noWay : ∀ target, tree.at? (above ++ [name]) = some (.link target) → ∀ links names place,
    tree.walk true links (if target.isAbsolute then [] else above) (target.components ++ names) ≠
      .ok (.taken place .directory)

/-- What a name in a directory leads to, links followed, ends the way if it is no directory. -/
theorem isEnd_of_walks (file : item ≠ .directory) (plain : Path.IsName name)
    (walks : tree.Walks true links place [name] (.taken start item)) : tree.IsEnd place name := by
  cases walks with
  | here => exact absurd rfl plain.notHere
  | above => exact absurd rfl plain.notAbove
  | stops _ _ _ unfollowed => cases unfollowed
  | @link _ _ _ _ _ target directory step there _ full goesOn =>
      refine ⟨by simp [there], ?_⟩
      intro other link fewer names goal reached
      have same : target = other := by simpa [there] using link
      subst same
      rw [List.append_nil] at goesOn
      -- the way to the end of the link comes to the item, and not to a directory
      have elsewhere : ∀ {other}, ¬ tree.Walks true fewer
          (if target.isAbsolute then [] else place) target.components (.taken other .directory) := by
        intro other reached
        cases goesOn.unique reached
        exact file rfl
      by_cases last : names = []
      · rw [last, List.append_nil] at reached
        exact elsewhere (walk_eq_ok.mp reached)
      · obtain ⟨other, passed⟩ := (walk_eq_ok.mp reached).of_append last
        exact elsewhere passed
  | item directory step there unlinked goesOn =>
      refine ⟨fun standing => ?_, fun target link => ?_⟩
      · cases goesOn with
        | ends found => exact file (Option.some.inj (found.symm.trans standing))
      · exact absurd (Option.some.inj (there.symm.trans link)) (unlinked target)

/-- A way to a directory stays open after a change at a place that it does not pass. -/
theorem IsEnd.walks {above : Place} {last : Bytes} (isEnd : tree.IsEnd above last)
    (same : ∀ other, other ≠ above ++ [last] → after.at? other = tree.at? other)
    (opened : spot = .taken place .directory) (walks : tree.Walks true links start names spot) :
    after.Walks true links start names spot := by
  have still : ∀ {other}, tree.at? other = some .directory → after.at? other = some .directory := by
    intro other directory
    rw [same other, directory]
    rintro rfl
    exact isEnd.noDirectory directory
  induction walks with
  | ends there =>
      cases opened
      exact .ends (still there)
  | here directory _ ih => exact .here (still directory) (ih opened)
  | above directory _ ih => exact .above (still directory) (ih opened)
  | free | stops => cases opened
  | @link _ start next _ _ target directory step there followed full goesOn ih =>
      have elsewhere : start ++ [next] ≠ above ++ [last] := by
        intro here
        obtain ⟨rfl, single⟩ := List.append_inj' here rfl
        cases single
        exact isEnd.noWay target there _ _ _ (opened ▸ goesOn.walk_eq)
      exact .link (still directory) step ((same _ elsewhere).trans there) followed full (ih opened)
  | @item _ start next _ _ _ directory step there unlinked goesOn ih =>
      have passed : tree.at? (start ++ [next]) = some .directory := by
        rcases goesOn.place_eq_or_directory with ends | passable
        · have standing := goesOn.hasSpot
          rw [opened] at ends standing
          exact ends ▸ standing
        · exact passable
      cases there.symm.trans passed
      exact .item (still directory) step (still passed) unlinked (ih opened)

theorem IsEnd.opensAt {above : Place} {last : Bytes} (isEnd : tree.IsEnd above last)
    (same : ∀ other, other ≠ above ++ [last] → after.at? other = tree.at? other)
    (opens : tree.OpensAt cwd dir place) : after.OpensAt cwd dir place := by
  unfold OpensAt at opens ⊢
  split at opens
  · next empty =>
      rw [if_pos empty, same place]
      · exact opens
      · rintro rfl
        exact isEnd.noDirectory opens.2
  · next whole =>
      obtain ⟨proper, walks⟩ := locate_eq_ok.mp (find_eq_ok.mp opens)
      rw [if_neg whole]
      exact find_eq_ok.mpr (locate_eq_ok.mpr ⟨proper, isEnd.walks same rfl walks⟩)

/-! ## What is replaced -/

theorem exists_bytes_join (dir : Path) (plain : Path.IsName name) :
    ∃ back, (dir.join ⟨name⟩).bytes = dir.bytes ++ back := by
  rw [Path.join, if_neg (by rw [plain.not_isAbsolute]; decide)]
  split
  · exact ⟨name, rfl⟩
  · exact ⟨Path.slash :: name, rfl⟩

/-- A way along the names of a path to a directory is one along its components. -/
theorem walks_components
    (walks : tree.Walks true links start dir.names (.taken place .directory)) :
    tree.Walks true links start dir.components (.taken place .directory) := by
  rw [Path.components_eq]
  split
  · obtain ⟨left, goesOn⟩ := walks.walk_append rfl true (List.cons_ne_nil Path.here [])
    have directory : tree.at? place = some .directory := walks.hasSpot
    rw [← walk_eq_ok, goesOn, walk_here directory, walk_nil directory]
  · exact walks

/-- A path under which something is found has a directory in front of its last name. -/
theorem exists_opensAt_of_find (plain : Path.IsName name)
    (found : tree.find cwd (dir.join ⟨name⟩) = .ok (place, item)) :
    ∃ above, tree.OpensAt cwd dir above := by
  obtain ⟨proper, walks⟩ := locate_eq_ok.mp (find_eq_ok.mp found)
  rw [Path.components_join plain, Path.isAbsolute_join plain] at walks
  obtain ⟨above, way⟩ := walks.of_append (List.cons_ne_nil name [])
  refine ⟨above, ?_⟩
  rw [OpensAt]
  split
  · next empty =>
      have nowhere : dir.names = [] := by simp [Path.names, empty, Path.split]
      have relative : dir.isAbsolute = false := by simp [Path.isAbsolute, empty]
      rw [nowhere, relative] at way
      cases way with
      | ends there => exact ⟨rfl, there⟩
  · next whole =>
      obtain ⟨back, joined⟩ := exists_bytes_join dir plain
      have noNul := proper.noNul
      have short := proper.short
      rw [joined, List.contains_append, Bool.or_eq_false_iff] at noNul
      rw [joined, List.length_append] at short
      have properDir : IsProper dir := ⟨noNul.1, whole, by omega⟩
      exact find_eq_ok.mpr (locate_eq_ok.mpr ⟨properDir, walks_components way⟩)

/-- What stands at a file that is read is no directory. -/
theorem exists_find_of_read {path : Path} (read : tree.read cwd path = .ok content) :
    ∃ place item, item ≠ .directory ∧ tree.find cwd path = .ok (place, item) := by
  cases found : tree.find cwd path with
  | error cause => simp [FileTree.read, found] at read
  | ok entry =>
      obtain ⟨place, item⟩ := entry
      refine ⟨place, item, ?_, rfl⟩
      rintro rfl
      simp [FileTree.read, found] at read

/-- A file that is found under a path and replaced through it is found there with the new content. -/
theorem find_of_replace (plain : Path.IsName name)
    (found : tree.find cwd (dir.join ⟨name⟩) = .ok (place, item)) (file : item ≠ .directory)
    (done : tree.replace cwd (dir.join ⟨name⟩) content now = .ok after) :
    ∃ spot, after.find cwd (dir.join ⟨name⟩) = .ok (spot, .file content now) := by
  obtain ⟨proper, walks⟩ := locate_eq_ok.mp (find_eq_ok.mp found)
  obtain ⟨above, opens⟩ := exists_opensAt_of_find plain found
  rw [Path.components_join plain, Path.isAbsolute_join plain, ← walk_eq_ok] at walks
  obtain ⟨left, goesOn⟩ := opens.walks.walk_append rfl true (List.cons_ne_nil name [])
  rw [goesOn, walk_eq_ok] at walks
  have isEnd := isEnd_of_walks file plain walks
  obtain ⟨-, rfl⟩ := opens.replace_eq plain done
  have stillOpens : (tree.put (above ++ [name]) (.file content now)).OpensAt cwd dir above :=
    isEnd.opensAt (fun _ elsewhere => at?_put_of_ne tree elsewhere _) opens
  exact ⟨_, stillOpens.find_file plain proper.short (at?_put_self tree (by simp) _)⟩

end ScriptRoster.Files.FileTree
