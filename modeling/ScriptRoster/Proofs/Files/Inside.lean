import ScriptRoster.Proofs.Files.Change

/-!
# Inside of a directory

A path that leads to a directory leads on to what stands there under a name, whether the path ends
with a slash or not. What is put in the directory or taken out of it shows among its names, and the
path still leads there.
-/

namespace ScriptRoster.Files

open Text

namespace Path

/-- A name that something in a directory can have. -/
structure IsName (name : Bytes) : Prop where
  nonempty : name ≠ []
  noSlash : slash ∉ name
  noNul : (0 : UInt8) ∉ name
  notHere : name ≠ here
  notAbove : name ≠ above
  short : name.length ≤ FileTree.nameLimit

/-- The names that a path goes through. -/
def names (path : Path) : List Bytes := (split path.bytes).filter (· != [])

theorem components_eq (path : Path) :
    path.components =
      if path.bytes.getLast? == some slash then path.names ++ [here] else path.names := rfl

theorem split_ne_nil (bytes : Bytes) : split bytes ≠ [] := by
  cases bytes with
  | nil => exact List.cons_ne_nil _ _
  | cons b bytes =>
      rw [split]
      split
      · exact List.cons_ne_nil _ _
      · split <;> exact List.cons_ne_nil _ _

theorem split_append_slash (front back : Bytes) :
    split (front ++ slash :: back) = split front ++ split back := by
  induction front with
  | nil => rfl
  | cons b front ih =>
      simp only [List.cons_append, split, ih]
      split
      · rfl
      · cases parts : split front with
        | nil => exact absurd parts (split_ne_nil front)
        | cons part rest => rfl

theorem split_of_not_mem {name : Bytes} (plain : slash ∉ name) : split name = [name] := by
  induction name with
  | nil => rfl
  | cons b name ih =>
      rw [List.mem_cons, not_or] at plain
      have other : (b == slash) = false := beq_false_of_ne (Ne.symm plain.1)
      rw [split, other, ih plain.2]
      rfl

variable {dir : Path} {name : Bytes}

theorem IsName.not_isAbsolute (plain : IsName name) : isAbsolute ⟨name⟩ = false := by
  cases name with
  | nil => rfl
  | cons b rest =>
      have other : b ≠ slash := by
        rintro rfl
        exact plain.noSlash List.mem_cons_self
      simpa [isAbsolute] using other

theorem IsName.getLast?_ne (plain : IsName name) : name.getLast? ≠ some slash := by
  intro last
  exact plain.noSlash (List.mem_of_getLast? last)

theorem IsName.isStep (plain : IsName name) : FileTree.IsStep name :=
  ⟨plain.notHere, plain.notAbove, plain.short⟩

/-- The path of a name inside of a directory is that of the directory, a slash and the name. -/
theorem exists_join (whole : dir.bytes ≠ []) (plain : IsName name) :
    ∃ front, (dir.join ⟨name⟩).bytes = front ++ slash :: name ∧
      (split front).filter (· != []) = dir.names ∧
        (front = dir.bytes ∨ front ++ [slash] = dir.bytes) := by
  have relative := plain.not_isAbsolute
  by_cases last : dir.bytes.getLast? = some slash
  · obtain ⟨front, ends⟩ := List.getLast?_eq_some_iff.mp last
    refine ⟨front, ?_, ?_, .inr ends.symm⟩
    · simp [join, relative, ends]
    · rw [names, ends, split_append_slash, List.filter_append]
      simp [split]
  · refine ⟨dir.bytes, ?_, rfl, .inl rfl⟩
    simp [join, relative, last, whole]

/-- The path of a name inside of the working directory is the name. -/
theorem join_of_nil (empty : dir.bytes = []) (name : Bytes) : dir.join ⟨name⟩ = ⟨name⟩ := by
  simp [join, empty]

theorem components_join (plain : IsName name) :
    (dir.join ⟨name⟩).components = dir.names ++ [name] := by
  by_cases empty : dir.bytes = []
  · have last : (name.getLast? == some slash) = false := beq_false_of_ne plain.getLast?_ne
    rw [join_of_nil empty, components_eq, last, names, names, empty, split_of_not_mem plain.noSlash]
    simp [split, plain.nonempty]
  · obtain ⟨front, bytes, same, -⟩ := exists_join empty plain
    have last : ((dir.join ⟨name⟩).bytes.getLast? == some slash) = false := by
      have same : (front ++ slash :: name).getLast? = name.getLast? := by
        rw [List.append_cons, List.getLast?_append_of_ne_nil _ plain.nonempty]
      rw [bytes, same]
      exact beq_false_of_ne plain.getLast?_ne
    rw [components_eq, last, names, bytes, split_append_slash, List.filter_append, same,
      split_of_not_mem plain.noSlash]
    simp [plain.nonempty]

theorem isAbsolute_join (plain : IsName name) :
    (dir.join ⟨name⟩).isAbsolute = dir.isAbsolute := by
  by_cases empty : dir.bytes = []
  · rw [join_of_nil empty, plain.not_isAbsolute, isAbsolute, empty]
    rfl
  · obtain ⟨front, bytes, -, same | ends⟩ := exists_join empty plain
    · rw [isAbsolute, bytes, same, List.head?_append_of_ne_nil _ empty, isAbsolute]
    · rw [isAbsolute, bytes, List.append_cons, ends, List.head?_append_of_ne_nil _ empty,
        isAbsolute]

theorem noNul_join (plain : IsName name) (noNul : dir.bytes.contains 0 = false) :
    (dir.join ⟨name⟩).bytes.contains 0 = false := by
  have noneThere : (0 : UInt8) ∉ dir.bytes := by simpa using noNul
  have noneHere := plain.noNul
  by_cases empty : dir.bytes = []
  · rw [join_of_nil empty]
    simpa using noneHere
  · obtain ⟨front, bytes, -, same | ends⟩ := exists_join empty plain
    · simp [bytes, same, noneThere, noneHere, slash]
    · rw [← ends] at noneThere
      simp at noneThere
      simp [bytes, noneThere, noneHere, slash]

theorem nonempty_join (plain : IsName name) : (dir.join ⟨name⟩).bytes ≠ [] := by
  by_cases empty : dir.bytes = []
  · rw [join_of_nil empty]
    exact plain.nonempty
  · obtain ⟨front, bytes, -⟩ := exists_join empty plain
    simp [bytes]

end Path

namespace FileTree

/-- The spot that a tree has at a place. -/
def spotAt (tree : FileTree) (place : Place) : Spot :=
  match tree.at? place with
  | some item => .taken place item
  | none => .free place

/-- A place where there is a file or nothing. -/
def IsPlain (tree : FileTree) (place : Place) : Prop :=
  ∀ item, tree.at? place = some item → ∃ content modified, item = .file content modified

variable {tree after : FileTree} {links : Nat} {start place : Place} {names : List Bytes}
  {name : Bytes} {item : Item}

/-- A name in a directory leads to what stands there, unless a link is followed. -/
theorem walk_name {follow : Bool} (directory : tree.at? place = some .directory)
    (plain : Path.IsName name)
    (stops : follow = true → ∀ target, tree.at? (place ++ [name]) ≠ some (.link target)) :
    tree.walk follow links place [name] = .ok (tree.spotAt (place ++ [name])) := by
  have step := plain.isStep
  rw [spotAt]
  cases under : tree.at? (place ++ [name]) with
  | none => exact walk_free directory step under
  | some item =>
      cases item with
      | link target =>
          cases follow with
          | false => exact walk_stops directory step under
          | true => exact absurd under (stops rfl target)
      | file | directory | program | device =>
          rw [walk_item directory step under (fun _ => Item.noConfusion), walk_nil under]

/-- A walk that names the directory itself at the start goes on from where it is. -/
theorem walk_replicate_here {follow : Bool} (directory : tree.at? start = some .directory)
    (times : Nat) (names : List Bytes) :
    tree.walk follow links start (List.replicate times Path.here ++ names) =
      tree.walk follow links start names := by
  induction times with
  | zero => rfl
  | succ times ih =>
      rw [List.replicate_succ, List.cons_append, walk_here directory, ih]

variable {cwd : Place} {dir path : Path}

/-- A directory that is there need not be made. -/
theorem makeDirectories_of_find (there : tree.find cwd path = .ok (place, .directory)) :
    tree.makeDirectories cwd path = .ok tree := by
  obtain ⟨proper, walks⟩ := locate_eq_ok.mp (find_eq_ok.mp there)
  obtain ⟨spot, other, stops⟩ := walks.unfollowed rfl
  have found : tree.locate false cwd path = .ok (.taken spot other) :=
    locate_eq_ok.mpr ⟨proper, stops⟩
  have standing : tree.isDirectory cwd path = true := by rw [isDirectory, there]
  have nonempty := proper.nonempty
  rw [makeDirectories, makeDirectoriesWithin, if_neg (by simpa using nonempty), makeDirectory, found]
  simp only [standing, if_true]

/-- Whether the names behind a path stand in the directory at a place. The empty path stands for the
working directory. -/
def OpensAt (tree : FileTree) (cwd : Place) (dir : Path) (place : Place) : Prop :=
  if dir.bytes = [] then cwd = place ∧ tree.at? place = some .directory
  else tree.find cwd dir = .ok (place, .directory)

theorem opensAt_of_find (there : tree.find cwd dir = .ok (place, .directory)) :
    tree.OpensAt cwd dir place := by
  rw [OpensAt, if_neg (locate_eq_ok.mp (find_eq_ok.mp there)).1.nonempty]
  exact there

theorem OpensAt.noNul (opens : tree.OpensAt cwd dir place) : dir.bytes.contains 0 = false := by
  unfold OpensAt at opens
  split at opens
  · next empty => simp [empty]
  · exact (locate_eq_ok.mp (find_eq_ok.mp opens)).1.noNul

/-- The walk along the names of a path that opens a directory leads there. -/
theorem OpensAt.walks (opens : tree.OpensAt cwd dir place) :
    tree.Walks true linkLimit (if dir.isAbsolute then [] else cwd) dir.names
      (.taken place .directory) := by
  unfold OpensAt at opens
  split at opens
  · next empty =>
      obtain ⟨rfl, directory⟩ := opens
      have nowhere : dir.names = [] := by simp [Path.names, empty, Path.split]
      have relative : dir.isAbsolute = false := by simp [Path.isAbsolute, empty]
      rw [nowhere, relative]
      exact .ends directory
  · obtain ⟨-, walks⟩ := locate_eq_ok.mp (find_eq_ok.mp opens)
    rw [Path.components_eq] at walks
    by_cases last : (dir.bytes.getLast? == some Path.slash) = true
    · rw [if_pos last] at walks
      exact walks.of_here
    · rw [if_neg last] at walks
      exact walks

/-- Where a name behind a path leads, unless a link is followed. -/
theorem OpensAt.locate {follow : Bool} (opens : tree.OpensAt cwd dir place)
    (plain : Path.IsName name)
    (stops : follow = true → ∀ target, tree.at? (place ++ [name]) ≠ some (.link target)) :
    tree.locate follow cwd (dir.join ⟨name⟩) =
      if pathLimit ≤ (dir.join ⟨name⟩).bytes.length then .error .nameTooLong
      else .ok (tree.spotAt (place ++ [name])) := by
  obtain ⟨left, goesOn⟩ := opens.walks.walk_append rfl follow (List.cons_ne_nil name [])
  rw [FileTree.locate, if_neg (by rw [Path.noNul_join plain opens.noNul]; decide),
    if_neg (by simpa using Path.nonempty_join plain), Path.components_join plain,
    Path.isAbsolute_join plain, goesOn, walk_name opens.walks.hasSpot plain stops]

section Names

variable (there : tree.find cwd dir = .ok (place, .directory)) (plain : Path.IsName name)

include there plain

/-- Where a name in a directory leads. -/
theorem locate_join (standing : tree.IsPlain (place ++ [name])) (follow : Bool) :
    tree.locate follow cwd (dir.join ⟨name⟩) =
      if pathLimit ≤ (dir.join ⟨name⟩).bytes.length then .error .nameTooLong
      else .ok (tree.spotAt (place ++ [name])) := by
  refine (opensAt_of_find there).locate plain fun _ target link => ?_
  obtain ⟨_, _, file⟩ := standing _ link
  cases file

/-- A file that replaces what is at a name in a directory is put there. -/
theorem replace_join (standing : tree.IsPlain (place ++ [name])) (content : Bytes) (now : Int) :
    tree.replace cwd (dir.join ⟨name⟩) content now =
      if pathLimit ≤ (dir.join ⟨name⟩).bytes.length then .error .nameTooLong
      else .ok (tree.put (place ++ [name]) (.file content now)) := by
  rw [replace, locate_join there plain standing]
  by_cases long : pathLimit ≤ (dir.join ⟨name⟩).bytes.length
  · rw [if_pos long, if_pos long]
  · rw [if_neg long, if_neg long, spotAt]
    cases under : tree.at? (place ++ [name]) with
    | none => rfl
    | some item =>
        obtain ⟨_, _, rfl⟩ := standing item under
        rfl

/-- A file that is removed from a directory is the one at its name. -/
theorem removeFile_join (standing : tree.IsPlain (place ++ [name])) :
    tree.removeFile cwd (dir.join ⟨name⟩) =
      if pathLimit ≤ (dir.join ⟨name⟩).bytes.length then .error .nameTooLong
      else if tree.at? (place ++ [name]) = none then .error .notFound
      else .ok (tree.erase (place ++ [name])) := by
  rw [removeFile, locate_join there plain standing]
  by_cases long : pathLimit ≤ (dir.join ⟨name⟩).bytes.length
  · rw [if_pos long, if_pos long]
  · rw [if_neg long, if_neg long, spotAt]
    cases under : tree.at? (place ++ [name]) with
    | none => rfl
    | some item =>
        obtain ⟨_, _, rfl⟩ := standing item under
        rfl

end Names

/-! ## Names in a directory -/

/-- The name of a place that is directly below another. -/
def nameBelow? (place spot : Place) : Option Bytes :=
  match spot.reverse with
  | name :: above => if above.reverse = place then some name else none
  | [] => none

theorem nameBelow?_eq_some {spot : Place} :
    nameBelow? place spot = some name ↔ spot = place ++ [name] := by
  unfold nameBelow?
  split
  · next last above reversed =>
      have whole : spot = above.reverse ++ [last] := by
        rw [← List.reverse_cons, ← reversed, List.reverse_reverse]
      constructor
      · intro found
        split at found
        · next same =>
            cases found
            rw [whole, same]
        · cases found
      · rintro rfl
        obtain ⟨same, last⟩ := List.append_inj' whole rfl
        cases last
        rw [if_pos same.symm]
  · next empty =>
      have nothing : spot = [] := List.reverse_eq_nil_iff.mp empty
      simp [nothing]

theorem namesIn_eq (tree : FileTree) (place : Place) :
    tree.namesIn place = tree.items.filterMap fun entry => nameBelow? place entry.1 := rfl

theorem mem_namesIn :
    name ∈ tree.namesIn place ↔ ∃ item, (place ++ [name], item) ∈ tree.items := by
  rw [namesIn_eq, List.mem_filterMap]
  constructor
  · rintro ⟨⟨spot, item⟩, member, below⟩
    obtain rfl := nameBelow?_eq_some.mp below
    exact ⟨item, member⟩
  · rintro ⟨item, member⟩
    exact ⟨(place ++ [name], item), member, nameBelow?_eq_some.mpr rfl⟩

/-- What stands in a directory has its name there. -/
theorem mem_namesIn_of_at? (there : tree.at? (place ++ [name]) = some item) :
    name ∈ tree.namesIn place := by
  have found : tree.items.lookup (place ++ [name]) = some item := by simpa [at?] using there
  obtain ⟨front, back, split, -⟩ := List.lookup_eq_some_iff.mp found
  exact mem_namesIn.mpr ⟨item, by simp [split]⟩

theorem namesIn_erase (tree : FileTree) (place : Place) (name : Bytes) :
    (tree.erase (place ++ [name])).namesIn place = (tree.namesIn place).filter (· != name) := by
  rw [namesIn_eq, namesIn_eq, erase]
  induction tree.items with
  | nil => rfl
  | cons entry items ih =>
      by_cases same : entry.1 = place ++ [name]
      · have below : nameBelow? place (place ++ [name]) = some name := nameBelow?_eq_some.mpr rfl
        simp [same, below, ih]
      · cases below : nameBelow? place entry.1 with
        | none => simp [same, below, ih]
        | some other =>
            have different : other ≠ name := by
              rintro rfl
              exact same (nameBelow?_eq_some.mp below)
            simp [same, below, ih, different]

theorem namesIn_put (tree : FileTree) (place : Place) (name : Bytes) (item : Item) :
    (tree.put (place ++ [name]) item).namesIn place =
      name :: (tree.namesIn place).filter (· != name) := by
  have below : nameBelow? place (place ++ [name]) = some name := nameBelow?_eq_some.mpr rfl
  rw [← namesIn_erase, namesIn_eq, namesIn_eq, put, List.filterMap_cons, below, erase]

/-! ## A directory whose files change -/

theorem agreesOff_of_plain {spot : Place} (standing : tree.IsPlain spot)
    (same : ∀ other, other ≠ spot → after.at? other = tree.at? other) :
    AgreesOff spot after tree where
  same other h := (same other h).symm
  noDirectory := by
    intro directory
    obtain ⟨_, _, file⟩ := standing _ directory
    cases file
  noLink := by
    intro target link
    obtain ⟨_, _, file⟩ := standing _ link
    cases file

/-- A path still leads to a directory after a file was put in it. -/
theorem find_put (there : tree.find cwd dir = .ok (place, .directory))
    (standing : tree.IsPlain (place ++ [name])) (content : Bytes) (modified : Int) :
    (tree.put (place ++ [name]) (.file content modified)).find cwd dir =
      .ok (place, .directory) :=
  (agreesOff_of_plain standing fun _ h => at?_put_of_ne tree h _).find (by simp) there

/-- A path still leads to a directory after a file was taken out of it. -/
theorem find_erase (there : tree.find cwd dir = .ok (place, .directory))
    (standing : tree.IsPlain (place ++ [name])) :
    (tree.erase (place ++ [name])).find cwd dir = .ok (place, .directory) :=
  (agreesOff_of_plain standing fun _ h => at?_erase_of_ne tree h).find (by simp) there

end FileTree

end ScriptRoster.Files
