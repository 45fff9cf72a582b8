import ScriptRoster.Proofs.Files.Growth

/-!
# Files that are written

A file that is written is found under its path, whether it is new or stands in the stead of another.
Main statement: `find_of_write`.
-/

namespace ScriptRoster.Files.FileTree

open Text

variable {tree after : FileTree} {cwd place : Place} {path : Path} {content old : Bytes}
  {modified now : Int}

/-- Whether a path leads to a regular file or nowhere. -/
def IsFree (tree : FileTree) (cwd : Place) (path : Path) : Prop :=
  ∀ place item, tree.find cwd path = .ok (place, item) →
    ∃ content modified, item = .file content modified

/-- A path to a file leads to the file that is put in its stead. -/
theorem find_put_of_file (found : tree.find cwd path = .ok (place, .file old modified)) :
    (tree.put place (.file content now)).find cwd path = .ok (place, .file content now) := by
  obtain ⟨proper, walks⟩ := locate_eq_ok.mp (find_eq_ok.mp found)
  have file : tree.at? place = some (.file old modified) := walks.hasSpot
  have root : place ≠ [] :=
    ne_root_of_locate (.inr ⟨_, Item.noConfusion, find_eq_ok.mp found⟩)
  have agree : AgreesOff place (tree.put place (.file content now)) tree :=
    agreesOff_of_plain (fun item there => ⟨old, modified, Option.some.inj (there.symm.trans file)⟩)
      fun _ h => at?_put_of_ne tree h _
  exact find_eq_ok.mpr (locate_eq_ok.mpr
    ⟨proper, agree.walks_to (at?_put_self tree root _) (fun _ => Item.noConfusion) rfl walks⟩)

/-- A file that was written is found with what was written. -/
theorem find_of_write (free : tree.IsFree cwd path)
    (done : tree.write cwd path content now = .ok after) :
    ∃ place, after.find cwd path = .ok (place, .file content now) := by
  cases there : tree.exists? cwd path with
  | false => exact (grows_of_write there done).2
  | true =>
      obtain ⟨place, item, found⟩ := exists?_eq_true.mp there
      obtain ⟨old, modified, rfl⟩ := free place item found
      rw [write, find_eq_ok.mp found] at done
      cases done
      exact ⟨place, find_put_of_file found⟩

end ScriptRoster.Files.FileTree
