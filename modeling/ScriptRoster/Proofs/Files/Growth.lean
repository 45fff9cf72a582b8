import ScriptRoster.Proofs.Files.Inside

/-!
# Trees that grow

A tree grows if whatever a path leads to in it is there afterwards as well. Directories and files
that are made at free places let a tree grow, and the paths they were made at lead to them.
-/

namespace ScriptRoster.Files.FileTree

open Text

/-- Whether all that paths lead to in one tree is there in another. -/
def Grows (before after : FileTree) : Prop :=
  ∀ cwd path place item, before.find cwd path = .ok (place, item) →
    after.find cwd path = .ok (place, item)

variable {tree after : FileTree} {cwd place : Place} {path : Path} {item : Item} {follow : Bool}

theorem Grows.refl (tree : FileTree) : tree.Grows tree := fun _ _ _ _ => id

theorem Grows.trans {later : FileTree} (first : tree.Grows after) (second : after.Grows later) :
    tree.Grows later :=
  fun cwd path place item found => second cwd path place item (first cwd path place item found)

theorem isPlain_of_none (free : tree.at? place = none) : tree.IsPlain place := by
  intro item there
  rw [free] at there
  cases there

/-- A tree grows if it changes at a free place only: no path leads past it. -/
theorem grows_of_free (free : tree.at? place = none)
    (same : ∀ other, other ≠ place → after.at? other = tree.at? other) : tree.Grows after := by
  intro cwd path other item found
  refine (agreesOff_of_plain (isPlain_of_none free) same).find ?_ found
  rintro rfl
  have there := hasSpot_locate (find_eq_ok.mp found)
  rw [HasSpot, free] at there
  cases there

theorem grows_put (free : tree.at? place = none) (item : Item) : tree.Grows (tree.put place item) :=
  grows_of_free free fun _ h => at?_put_of_ne tree h item

theorem exists?_eq_true : tree.exists? cwd path = true ↔
    ∃ place item, tree.find cwd path = .ok (place, item) := by
  rw [exists?]
  cases tree.find cwd path with
  | error cause => simp [Except.isOk, Except.toBool]
  | ok found =>
      obtain ⟨place, item⟩ := found
      simp [Except.isOk, Except.toBool]

theorem isDirectory_eq_true : tree.isDirectory cwd path = true ↔
    ∃ place, tree.find cwd path = .ok (place, .directory) := by
  rw [isDirectory]
  split
  · next found => simp [found]
  · next other =>
      simp only [Bool.false_eq_true, false_iff, not_exists]
      exact other

/-! ## What is made at free places -/

theorem find_put_of_free (unlinked : ∀ target, item ≠ .link target)
    (free : tree.locate follow cwd path = .ok (.free place)) :
    (tree.put place item).find cwd path = .ok (place, item) := by
  obtain ⟨proper, walks⟩ := locate_eq_ok.mp free
  have there := at?_put_self tree (ne_root_of_locate (.inl free)) item
  have agree : AgreesOff place (tree.put place item) tree :=
    agreesOff_of_plain (isPlain_of_none walks.hasSpot) fun _ h => at?_put_of_ne tree h item
  exact find_eq_ok.mpr (locate_eq_ok.mpr ⟨proper, agree.walks_to there unlinked rfl walks⟩)

/-! ## Directories that are made -/

/-- A directory is made at a free place. -/
theorem makeDirectory_eq_ok (done : tree.makeDirectory cwd path = .ok after) :
    ∃ place, tree.locate false cwd path = .ok (.free place) ∧ after = tree.put place .directory := by
  unfold makeDirectory at done
  split at done
  · next place free =>
      cases done
      exact ⟨place, free, rfl⟩
  · cases done
  · cases done

/-- The last directory of a path is made after those above it, unless it is there. -/
theorem makeDirectoriesWithin_cases {fuel : Nat}
    (done : tree.makeDirectoriesWithin cwd (fuel + 1) path = .ok after) :
    (path.bytes = [] ∧ after = tree) ∨
      ∃ between,
        (between = tree ∨ ∃ parent, tree.makeDirectoriesWithin cwd fuel parent = .ok between) ∧
          (between.makeDirectory cwd path = .ok after ∨
            after = between ∧ after.isDirectory cwd path = true) := by
  rw [makeDirectoriesWithin] at done
  split at done
  · next empty =>
      cases done
      exact .inl ⟨List.isEmpty_iff.mp empty, rfl⟩
  refine .inr ?_
  split at done
  · next made =>
      cases done
      exact ⟨tree, .inl rfl, .inl made⟩
  · -- something above the directory is missing, and made first
    split at done
    · cases done
    · next parent _ =>
        cases above : tree.makeDirectoriesWithin cwd fuel parent with
        | error cause =>
            rw [above] at done
            cases done
        | ok between =>
            refine ⟨between, .inr ⟨parent, above⟩, ?_⟩
            simp only [above, bind, Except.bind] at done
            split at done
            · next made =>
                cases done
                exact .inl made
            · split at done
              · next standing =>
                  cases done
                  exact .inr ⟨rfl, standing⟩
              · cases done
  · split at done
    · next standing =>
        cases done
        exact ⟨tree, .inl rfl, .inr ⟨rfl, standing⟩⟩
    · cases done

/-- What holds on as one directory is made holds on as a directory is made with all above it. -/
theorem holds_of_makeDirectoriesWithin {fuel : Nat} {holds : FileTree → Prop}
    (step : ∀ {before after : FileTree} {path : Path},
      before.makeDirectory cwd path = .ok after → holds before → holds after)
    (done : tree.makeDirectoriesWithin cwd fuel path = .ok after) (first : holds tree) :
    holds after := by
  induction fuel generalizing path after with
  | zero =>
      cases done
      exact first
  | succ fuel ih =>
      rcases makeDirectoriesWithin_cases done with ⟨-, rfl⟩ | ⟨between, above, last⟩
      · exact first
      have halfway : holds between := by
        rcases above with rfl | ⟨parent, above⟩
        · exact first
        · exact ih above
      rcases last with made | ⟨rfl, -⟩
      · exact step made halfway
      · exact halfway

/-- A directory that was made is there, with all that was there before. -/
theorem grows_of_makeDirectory (done : tree.makeDirectory cwd path = .ok after) :
    tree.Grows after ∧ ∃ place, after.find cwd path = .ok (place, .directory) := by
  obtain ⟨place, free, rfl⟩ := makeDirectory_eq_ok done
  exact ⟨grows_put (hasSpot_locate free) _, place, find_put_of_free (by simp) free⟩

/-- A directory that was made with all above it is there, with all that was there before. -/
theorem grows_of_makeDirectories (done : tree.makeDirectories cwd path = .ok after) :
    tree.Grows after ∧
      (path.bytes ≠ [] → ∃ place, after.find cwd path = .ok (place, .directory)) := by
  refine ⟨?_, fun whole => ?_⟩
  · exact holds_of_makeDirectoriesWithin
      (fun made grows => grows.trans (grows_of_makeDirectory made).1) done (.refl tree)
  · rcases makeDirectoriesWithin_cases done with ⟨empty, -⟩ | ⟨between, -, made | ⟨rfl, standing⟩⟩
    · exact absurd empty whole
    · exact (grows_of_makeDirectory made).2
    · exact isDirectory_eq_true.mp standing

/-! ## Files that are written -/

/-- A file that was written where nothing was is there, with all that was there before. -/
theorem grows_of_write {content : Bytes} {now : Int} (missing : tree.exists? cwd path = false)
    (done : tree.write cwd path content now = .ok after) :
    tree.Grows after ∧ ∃ place, after.find cwd path = .ok (place, .file content now) := by
  have nowhere : ∀ place item, tree.locate true cwd path ≠ .ok (.taken place item) := by
    intro place item found
    have there := exists?_eq_true.mpr ⟨place, item, find_eq_ok.mpr found⟩
    rw [missing] at there
    cases there
  unfold write at done
  split at done
  · next place free =>
      cases done
      exact ⟨grows_put (hasSpot_locate free) _, place, find_put_of_free (by simp) free⟩
  · next found => exact absurd found (nowhere _ _)
  · next found => exact absurd found (nowhere _ _)
  · next found => exact absurd found (nowhere _ _)
  · cases done

end ScriptRoster.Files.FileTree
