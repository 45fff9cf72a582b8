import ScriptRoster.Files.Tree
import Mathlib.Data.List.Basic

/-!
# Walks that come to an end

A walk that comes to an end takes one of a few steps at each name. `Walks` tells these steps, and
`walk_eq_ok` says that they are all: what is true of the walks that end is proved by induction on
them, and the ways in which a walk fails need not be looked at again. Paths are located by walks.
-/

namespace ScriptRoster.Files.FileTree

open Text

/-- The place that a walk has come to. -/
def Spot.place : Spot → Place
  | .taken place _ => place
  | .free place => place

/-- A tree has a spot if it holds there what the spot says. -/
def HasSpot (tree : FileTree) : Spot → Prop
  | .taken place item => tree.at? place = some item
  | .free place => tree.at? place = none

/-- A name that leads from a directory to what stands there under it. -/
structure IsStep (name : Bytes) : Prop where
  notHere : name ≠ Path.here
  notAbove : name ≠ Path.above
  short : name.length ≤ nameLimit

/-- Where a walk from a place along names ends, step by step. -/
inductive Walks (tree : FileTree) (follow : Bool) : Nat → Place → List Bytes → Spot → Prop where
  | ends {links : Nat} {place : Place} {item : Item} (there : tree.at? place = some item) :
      Walks tree follow links place [] (.taken place item)
  | here {links : Nat} {place : Place} {rest : List Bytes} {spot : Spot}
      (directory : tree.at? place = some .directory)
      (goesOn : Walks tree follow links place rest spot) :
      Walks tree follow links place (Path.here :: rest) spot
  | above {links : Nat} {place : Place} {rest : List Bytes} {spot : Spot}
      (directory : tree.at? place = some .directory)
      (goesOn : Walks tree follow links place.dropLast rest spot) :
      Walks tree follow links place (Path.above :: rest) spot
  | free {links : Nat} {place : Place} {name : Bytes}
      (directory : tree.at? place = some .directory) (step : IsStep name)
      (missing : tree.at? (place ++ [name]) = none) :
      Walks tree follow links place [name] (.free (place ++ [name]))
  | stops {links : Nat} {place : Place} {name : Bytes} {target : Path}
      (directory : tree.at? place = some .directory) (step : IsStep name)
      (there : tree.at? (place ++ [name]) = some (.link target)) (unfollowed : follow = false) :
      Walks tree follow links place [name] (.taken (place ++ [name]) (.link target))
  | link {links : Nat} {place : Place} {name : Bytes} {rest : List Bytes} {spot : Spot}
      {target : Path} (directory : tree.at? place = some .directory) (step : IsStep name)
      (there : tree.at? (place ++ [name]) = some (.link target))
      (followed : rest = [] → follow = true) (full : target.bytes ≠ [])
      (goesOn : Walks tree follow links (if target.isAbsolute then [] else place)
        (target.components ++ rest) spot) :
      Walks tree follow (links + 1) place (name :: rest) spot
  | item {links : Nat} {place : Place} {name : Bytes} {rest : List Bytes} {spot : Spot}
      {item : Item} (directory : tree.at? place = some .directory) (step : IsStep name)
      (there : tree.at? (place ++ [name]) = some item) (unlinked : ∀ target, item ≠ .link target)
      (goesOn : Walks tree follow links (place ++ [name]) rest spot) :
      Walks tree follow links place (name :: rest) spot

variable {tree : FileTree} {follow : Bool} {links more : Nat} {start place : Place}
  {names rest : List Bytes} {name : Bytes} {item : Item} {target : Path} {spot other : Spot}

/-! ## Single steps -/

theorem walk_nil (there : tree.at? place = some item) :
    tree.walk follow links place [] = .ok (.taken place item) := by
  rw [FileTree.walk, there]

section Steps

variable (directory : tree.at? place = some .directory)

include directory

theorem walk_here :
    tree.walk follow links place (Path.here :: rest) = tree.walk follow links place rest := by
  rw [FileTree.walk, if_neg (not_not.mpr directory), if_pos rfl]

theorem walk_above :
    tree.walk follow links place (Path.above :: rest) =
      tree.walk follow links place.dropLast rest := by
  rw [FileTree.walk, if_neg (not_not.mpr directory), if_neg (by decide), if_pos rfl]

variable (step : IsStep name)

include step

theorem walk_free (missing : tree.at? (place ++ [name]) = none) :
    tree.walk follow links place [name] = .ok (.free (place ++ [name])) := by
  rw [FileTree.walk, if_neg (not_not.mpr directory), if_neg step.notHere, if_neg step.notAbove,
    if_neg (Nat.not_lt.mpr step.short), missing]
  rfl

theorem walk_stops (there : tree.at? (place ++ [name]) = some (.link target)) :
    tree.walk false links place [name] = .ok (.taken (place ++ [name]) (.link target)) := by
  rw [FileTree.walk, if_neg (not_not.mpr directory), if_neg step.notHere, if_neg step.notAbove,
    if_neg (Nat.not_lt.mpr step.short), there]
  rfl

theorem walk_link (there : tree.at? (place ++ [name]) = some (.link target))
    (followed : rest = [] → follow = true) (full : target.bytes ≠ []) :
    tree.walk follow (links + 1) place (name :: rest) =
      tree.walk follow links (if target.isAbsolute then [] else place)
        (target.components ++ rest) := by
  have goesOn : ¬ (decide (rest = []) && !follow) = true := by simpa using followed
  have notEmpty : ¬ target.bytes.isEmpty = true := by simpa using full
  rw [FileTree.walk, if_neg (not_not.mpr directory), if_neg step.notHere, if_neg step.notAbove,
    if_neg (Nat.not_lt.mpr step.short), there]
  simp only [if_neg goesOn, if_neg notEmpty]

theorem walk_item (there : tree.at? (place ++ [name]) = some item)
    (unlinked : ∀ target, item ≠ .link target) :
    tree.walk follow links place (name :: rest) =
      tree.walk follow links (place ++ [name]) rest := by
  rw [FileTree.walk, if_neg (not_not.mpr directory), if_neg step.notHere, if_neg step.notAbove,
    if_neg (Nat.not_lt.mpr step.short), there]
  cases item with
  | link target => exact absurd rfl (unlinked target)
  | file | directory | program | device => rfl

end Steps

theorem Walks.walk_eq (walks : tree.Walks follow links start names spot) :
    tree.walk follow links start names = .ok spot := by
  induction walks with
  | ends there => exact walk_nil there
  | here directory _ ih => rw [walk_here directory, ih]
  | above directory _ ih => rw [walk_above directory, ih]
  | free directory step missing => exact walk_free directory step missing
  | stops directory step there unfollowed =>
      subst unfollowed
      exact walk_stops directory step there
  | link directory step there followed full _ ih =>
      rw [walk_link directory step there followed full, ih]
  | item directory step there unlinked _ ih => rw [walk_item directory step there unlinked, ih]

/-- A walk that ends is one of these steps after the other. -/
theorem walk_eq_ok : tree.walk follow links start names = .ok spot ↔
    tree.Walks follow links start names spot := by
  refine ⟨fun ends => ?_, Walks.walk_eq⟩
  fun_induction FileTree.walk tree follow links start names with
  | case1 links start found there =>
      cases ends
      exact .ends there
  | case2 | case3 | case6 | case8 | case10 | case11 => cases ends -- these are the ways to fail
  | case4 links start rest directory ih => exact .here (not_not.mp directory) (ih ends)
  | case5 links start rest directory _ ih => exact .above (not_not.mp directory) (ih ends)
  | case7 links start name directory notHere notAbove short missing =>
      cases ends
      exact .free (not_not.mp directory) ⟨notHere, notAbove, Nat.not_lt.mp short⟩ missing
  | case9 links start name rest directory notHere notAbove short target there stops =>
      cases ends
      obtain ⟨rfl, unfollowed⟩ : rest = [] ∧ follow = false := by simpa using stops
      exact .stops (not_not.mp directory) ⟨notHere, notAbove, Nat.not_lt.mp short⟩ there unfollowed
  | case12 start name rest directory notHere notAbove short target there goesOn links full ih =>
      exact .link (not_not.mp directory) ⟨notHere, notAbove, Nat.not_lt.mp short⟩ there
        (by simpa using goesOn) (by simpa using full) (ih ends)
  | case13 links start name rest directory notHere notAbove short found notLink there ih =>
      exact .item (not_not.mp directory) ⟨notHere, notAbove, Nat.not_lt.mp short⟩ there
        (fun target link => notLink target link) (ih ends)

/-! ## Where walks end -/

/-- Where a walk ends the tree holds what the walk tells. -/
theorem Walks.hasSpot (walks : tree.Walks follow links start names spot) : tree.HasSpot spot := by
  induction walks with
  | ends there | stops _ _ there _ => exact there
  | free _ _ missing => exact missing
  | here _ _ ih | above _ _ ih | link _ _ _ _ _ _ ih | item _ _ _ _ _ ih => exact ih

/-- A walk goes on from a directory only. -/
theorem Walks.directory (walks : tree.Walks follow links start (name :: rest) spot) :
    tree.at? start = some .directory := by
  cases walks <;> assumption

/-- A walk is at its end, or goes on from a directory. -/
theorem Walks.place_eq_or_directory (walks : tree.Walks follow links start names spot) :
    spot.place = start ∨ tree.at? start = some .directory := by
  cases names with
  | nil =>
      cases walks
      exact .inl rfl
  | cons name rest => exact .inr walks.directory

/-- A walk that may follow more links ends where it does with fewer. -/
theorem Walks.mono (walks : tree.Walks follow links start names spot) (le : links ≤ more) :
    tree.Walks follow more start names spot := by
  induction walks generalizing more with
  | ends there => exact .ends there
  | here directory _ ih => exact .here directory (ih le)
  | above directory _ ih => exact .above directory (ih le)
  | free directory step missing => exact .free directory step missing
  | stops directory step there unfollowed => exact .stops directory step there unfollowed
  | link directory step there followed full _ ih =>
      obtain ⟨more, rfl⟩ := Nat.exists_eq_add_one_of_ne_zero (Nat.ne_zero_of_lt le)
      exact .link directory step there followed full (ih (Nat.le_of_succ_le_succ le))
  | item directory step there unlinked _ ih => exact .item directory step there unlinked (ih le)

/-- Where a walk ends does not depend on how many links it may follow. -/
theorem Walks.unique (walks : tree.Walks follow links start names spot)
    (walksToo : tree.Walks follow more start names other) : spot = other := by
  have first := (walks.mono (Nat.le_max_left links more)).walk_eq
  have second := (walksToo.mono (Nat.le_max_right links more)).walk_eq
  exact Except.ok.inj (first.symm.trans second)

/-- What a walk comes to through all links it comes to as well if it stops at a link at the end. -/
theorem Walks.unfollowed (walks : tree.Walks true links start names spot)
    (found : spot = .taken place item) :
    ∃ place item, tree.Walks false links start names (.taken place item) := by
  induction walks with
  | ends there => exact ⟨_, _, .ends there⟩
  | here directory _ ih =>
      obtain ⟨place, item, goesOn⟩ := ih found
      exact ⟨place, item, .here directory goesOn⟩
  | above directory _ ih =>
      obtain ⟨place, item, goesOn⟩ := ih found
      exact ⟨place, item, .above directory goesOn⟩
  | free => cases found
  | stops directory step there => exact ⟨_, _, .stops directory step there rfl⟩
  | @link _ _ _ rest _ _ directory step there _ full _ ih =>
      by_cases last : rest = []
      · subst last
        exact ⟨_, _, .stops directory step there rfl⟩
      · obtain ⟨place, item, goesOn⟩ := ih found
        exact ⟨place, item, .link directory step there (absurd · last) full goesOn⟩
  | item directory step there unlinked _ ih =>
      obtain ⟨place, item, goesOn⟩ := ih found
      exact ⟨place, item, .item directory step there unlinked goesOn⟩

/-! ## Walks one after the other -/

/-- A walk to a directory goes on from there, with the links that are left. -/
theorem Walks.walk_append (walks : tree.Walks true links start names spot)
    (opened : spot = .taken place .directory) (follow : Bool) (more : rest ≠ []) :
    ∃ left, tree.walk follow links start (names ++ rest) = tree.walk follow left place rest := by
  induction walks with
  | @ends links start _ _ =>
      cases opened
      exact ⟨links, rfl⟩
  | here directory _ ih =>
      rw [List.cons_append, walk_here directory]
      exact ih opened
  | above directory _ ih =>
      rw [List.cons_append, walk_above directory]
      exact ih opened
  | free | stops => cases opened
  | link directory step there _ full _ ih =>
      rw [List.cons_append, walk_link directory step there (by simp [more]) full,
        ← List.append_assoc]
      exact ih opened
  | item directory step there unlinked _ ih =>
      rw [List.cons_append, walk_item directory step there unlinked]
      exact ih opened

/-- The front of a walk from a directory stays there or takes the first step of the walk. -/
theorem exists_front {all : List Bytes} (directory : tree.at? start = some .directory)
    (whole : names ++ rest = name :: all)
    (longer : ∀ names, names ++ rest = all →
      ∃ place, tree.Walks true links start (name :: names) (.taken place .directory)) :
    ∃ place, tree.Walks true links start names (.taken place .directory) := by
  rcases List.append_eq_cons_iff.mp whole with ⟨rfl, -⟩ | ⟨names, rfl, rfl⟩
  · exact ⟨start, .ends directory⟩
  · exact longer names rfl

/-- A walk that goes on has come to a directory. -/
theorem Walks.of_append (walks : tree.Walks follow links start (names ++ rest) spot)
    (goesOn : rest ≠ []) :
    ∃ place, tree.Walks true links start names (.taken place .directory) := by
  generalize whole : names ++ rest = all at walks
  induction walks generalizing names with
  | ends => exact absurd (List.append_eq_nil_iff.mp whole).2 goesOn
  | here directory _ ih =>
      refine exists_front directory whole fun names whole => ?_
      obtain ⟨place, front⟩ := ih whole
      exact ⟨place, .here directory front⟩
  | above directory _ ih =>
      refine exists_front directory whole fun names whole => ?_
      obtain ⟨place, front⟩ := ih whole
      exact ⟨place, .above directory front⟩
  | free directory | stops directory =>
      refine exists_front directory whole fun names nothing => ?_
      exact absurd (List.append_eq_nil_iff.mp nothing).2 goesOn
  | link directory step there _ full _ ih =>
      refine exists_front directory whole fun names whole => ?_
      obtain ⟨place, front⟩ := ih (by rw [List.append_assoc, whole])
      exact ⟨place, .link directory step there (fun _ => rfl) full front⟩
  | item directory step there unlinked _ ih =>
      refine exists_front directory whole fun names whole => ?_
      obtain ⟨place, front⟩ := ih whole
      exact ⟨place, .item directory step there unlinked front⟩

/-- A walk that names the directory itself at the end ends where it does without that. -/
theorem Walks.of_here
    (walks : tree.Walks true links start (names ++ [Path.here]) (.taken place item)) :
    tree.Walks true links start names (.taken place item) := by
  obtain ⟨above, front⟩ := walks.of_append (List.cons_ne_nil Path.here [])
  obtain ⟨left, same⟩ := front.walk_append rfl true (List.cons_ne_nil Path.here [])
  have directory : tree.at? above = some .directory := front.hasSpot
  have ends := walks.walk_eq
  rw [same, walk_here directory, walk_nil directory] at ends
  cases ends
  exact front

/-! ## Paths -/

/-- A path that is looked up: what it consists of is no reason to refuse it. -/
structure IsProper (path : Path) : Prop where
  noNul : path.bytes.contains 0 = false
  nonempty : path.bytes ≠ []
  short : path.bytes.length < pathLimit

variable {cwd : Place} {path : Path}

theorem locate_of_isProper (proper : IsProper path) :
    tree.locate follow cwd path =
      tree.walk follow linkLimit (if path.isAbsolute then [] else cwd) path.components := by
  have nonempty := proper.nonempty
  rw [locate, if_neg (by rw [proper.noNul]; decide), if_neg (by simpa using nonempty),
    if_neg (Nat.not_le.mpr proper.short)]

/-- A path leads to where the walk along it ends. -/
theorem locate_eq_ok : tree.locate follow cwd path = .ok spot ↔
    IsProper path ∧
      tree.Walks follow linkLimit (if path.isAbsolute then [] else cwd) path.components spot := by
  constructor
  · intro found
    unfold locate at found
    split at found
    · cases found
    split at found
    · cases found
    split at found
    · cases found
    · next noNul nonempty short =>
        exact ⟨⟨by simpa using noNul, by simpa using nonempty, by omega⟩, walk_eq_ok.mp found⟩
  · rintro ⟨proper, walks⟩
    rw [locate_of_isProper proper, walks.walk_eq]

theorem hasSpot_locate (found : tree.locate follow cwd path = .ok spot) : tree.HasSpot spot :=
  (locate_eq_ok.mp found).2.hasSpot

/-- The root is never free, and it is a directory. -/
theorem ne_root_of_locate
    (found : tree.locate follow cwd path = .ok (.free place) ∨
      ∃ item, item ≠ .directory ∧ tree.locate follow cwd path = .ok (.taken place item)) :
    place ≠ [] := by
  rintro rfl
  rcases found with found | ⟨item, other, found⟩
  · exact Option.some_ne_none _ (hasSpot_locate found)
  · exact other (Option.some.inj (hasSpot_locate found)).symm

theorem find_eq_ok : tree.find cwd path = .ok (place, item) ↔
    tree.locate true cwd path = .ok (.taken place item) := by
  unfold find
  split <;> simp_all

end ScriptRoster.Files.FileTree
