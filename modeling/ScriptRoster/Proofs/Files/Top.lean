import ScriptRoster.Proofs.Files.Inside

/-!
# Right below the root

A path of one name below the root leads to what stands there under the name, or to where a link
under the name leads. A path that goes on behind a file leads nowhere.
-/

namespace ScriptRoster.Files.Path

open Text

variable {path dir : Path} {name own content : Bytes} {tree : FileTree} {cwd : Place}
  {modified : Int}

theorem components_root : (Path.ofString "/").components = [Path.here] := by decide

/-- The root leads to itself. -/
theorem find_root : tree.find cwd (.ofString "/") = .ok ([], .directory) := by
  have proper : FileTree.IsProper (Path.ofString "/") := by constructor <;> decide
  have absolute : (Path.ofString "/").isAbsolute = true := by decide
  have walks : tree.Walks true FileTree.linkLimit [] [Path.here] (.taken [] .directory) :=
    .here rfl (.ends rfl)
  rw [FileTree.find_eq_ok, FileTree.locate_of_isProper proper, if_pos absolute, components_root,
    walks.walk_eq]

/-- A path of one plain name below the root. -/
structure IsTop (path : Path) (name : Bytes) : Prop where
  components : path.components = [name]
  place : .ofPlace [name] = path
  whole : path.bytes.contains 0 = false
  nonempty : path.bytes.isEmpty = false
  absolute : path.isAbsolute = true
  short : path.bytes.length < FileTree.pathLimit
  notHere : name ≠ Path.here
  notAbove : name ≠ Path.above
  brief : name.length ≤ FileTree.nameLimit

theorem join_root (plain : IsName name) : join ⟨[slash]⟩ ⟨name⟩ = ⟨slash :: name⟩ := by
  rw [join, if_neg (by rw [plain.not_isAbsolute]; decide)]
  rfl

theorem IsName.isTop (plain : IsName name) : IsTop ⟨slash :: name⟩ name where
  components := by
    rw [← join_root plain, components_join plain]
    rfl
  place := rfl
  whole := by
    rw [← join_root plain]
    exact noNul_join plain (by decide)
  nonempty := rfl
  absolute := rfl
  short := by
    have short := plain.short
    simp only [FileTree.nameLimit, FileTree.pathLimit, List.length_cons] at short ⊢
    omega
  notHere := plain.notHere
  notAbove := plain.notAbove
  brief := plain.short

namespace IsTop

theorem isProper (top : path.IsTop name) : FileTree.IsProper path :=
  ⟨top.whole, fun empty => by simpa [empty] using top.nonempty, top.short⟩

theorem isStep (top : path.IsTop name) : FileTree.IsStep name :=
  ⟨top.notHere, top.notAbove, top.brief⟩

theorem locate (top : path.IsTop name) :
    tree.locate true cwd path = tree.walk true FileTree.linkLimit [] [name] := by
  rw [FileTree.locate_of_isProper top.isProper, if_pos top.absolute, top.components]

/-- What stands below the root, and is no link, is found there. -/
theorem find_of_item (top : path.IsTop name) {item : Item} (there : tree.at? [name] = some item)
    (plain : ∀ target, item ≠ .link target) : tree.find cwd path = .ok ([name], item) := by
  rw [FileTree.find_eq_ok, top.locate, FileTree.walk_item rfl top.isStep there plain]
  exact FileTree.walk_nil there

theorem find_of_file (top : path.IsTop name)
    (there : tree.at? [name] = some (.file content modified)) :
    tree.find cwd path = .ok ([name], .file content modified) :=
  top.find_of_item there fun _ => Item.noConfusion

theorem find_of_directory (top : path.IsTop name) (there : tree.at? [name] = some .directory) :
    tree.find cwd path = .ok ([name], .directory) :=
  top.find_of_item there fun _ => Item.noConfusion

/-- A link to the root that stands below it leads there. -/
theorem find_of_link (top : path.IsTop name)
    (there : tree.at? [name] = some (.link (.ofString "/"))) :
    tree.find cwd path = .ok ([], .directory) := by
  have walks : tree.Walks true FileTree.linkLimit [] [name] (.taken [] .directory) := by
    refine .link rfl top.isStep there (fun _ => rfl) (by decide) ?_
    rw [if_pos (by decide), components_root]
    exact .here rfl (.ends rfl)
  rw [FileTree.find_eq_ok, top.locate, walks.walk_eq]

theorem locate_of_none (top : path.IsTop name) (missing : tree.at? [name] = none) :
    tree.locate true cwd path = .ok (.free [name]) := by
  rw [top.locate]
  exact FileTree.walk_free rfl top.isStep missing

theorem find_of_none (top : path.IsTop name) (missing : tree.at? [name] = none) :
    tree.find cwd path = .error .notFound := by
  rw [FileTree.find, top.locate_of_none missing]

theorem names (top : path.IsTop name) : path.names = [name] := by
  have same := top.components
  rw [components_eq] at same
  split at same
  · rcases List.append_eq_singleton_iff.mp same with ⟨-, last⟩ | ⟨-, last⟩
    · exact absurd (List.singleton_inj.mp last).symm top.notHere
    · cases last
  · exact same

/-- Behind a file there is nothing. -/
theorem find_join_of_file (top : dir.IsTop own) (plain : IsName name)
    (short : (dir.join ⟨name⟩).bytes.length < FileTree.pathLimit)
    (there : tree.at? [own] = some (.file content modified)) :
    tree.find cwd (dir.join ⟨name⟩) = .error .notDirectory := by
  have proper : FileTree.IsProper (dir.join ⟨name⟩) :=
    ⟨noNul_join plain top.whole, nonempty_join plain, short⟩
  have behind : tree.at? [own] ≠ some .directory := by simp [there]
  rw [FileTree.find, FileTree.locate_of_isProper proper, isAbsolute_join plain,
    if_pos top.absolute, components_join plain, top.names, List.singleton_append,
    FileTree.walk_item rfl top.isStep there (fun _ => Item.noConfusion), List.nil_append,
    FileTree.walk, if_pos behind]

end IsTop

end ScriptRoster.Files.Path
