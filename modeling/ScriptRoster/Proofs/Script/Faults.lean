import ScriptRoster.Proofs.Script.Outermost
import ScriptRoster.Proofs.Script.Quotes

/-!
# The first fault of a script

The search for a fault enters flawed branches only. If the flags of a tree tell the truth, it finds
the first fault among all nodes, and finds one in every flawed tree. The line of that fault is the
one reported, and it is a line of the script as it was written, whatever quotes it has.

## Main definitions

* `Tree.preorder`: all nodes of a tree, each in front of those below it.
* `Tree.FlagsFaults`: the flawed nodes are those with a fault in them or below them.
* `definedNamesBy`: the names of a script, or the line of its first fault, with any parser.
-/

namespace ScriptRoster.Script

open Lexeme ScriptRoster.Text

namespace Tree

/-! ## All nodes of a tree -/

mutual

/-- The nodes of a tree, each in front of those below it, in the order of the text. -/
def preorder : Tree → List Tree
  | node mark children => node mark children :: preorderAmong children

/-- The nodes of trees that stand side by side. -/
def preorderAmong : List Tree → List Tree
  | [] => []
  | tree :: rest => preorder tree ++ preorderAmong rest

end

/-- Whether the node itself is a fault: a passage that fits no phrase, or a token put in. -/
def isFault (tree : Tree) : Bool := tree.mark.isFault

/-- A node is flawed if and only if it, or a node below it, is a fault. -/
def FlagsFaults (tree : Tree) : Prop :=
  ∀ inside ∈ tree.preorder,
    inside.isFlawed = true ↔ ∃ below ∈ inside.preorder, below.isFault = true

instance (tree : Tree) : Decidable tree.FlagsFaults :=
  inferInstanceAs (Decidable (∀ inside ∈ tree.preorder,
    inside.isFlawed = true ↔ ∃ below ∈ inside.preorder, below.isFault = true))

variable {tree part inside : Tree} {found : Mark}

theorem preorderAmong_eq_flatMap (children : List Tree) :
    preorderAmong children = children.flatMap preorder := by
  induction children with
  | nil => rfl
  | cons child rest ih => rw [preorderAmong, ih, List.flatMap_cons]

theorem preorder_eq_cons (tree : Tree) :
    tree.preorder = tree :: tree.children.flatMap preorder := by
  cases tree with
  | node mark children =>
      rw [preorder, preorderAmong_eq_flatMap]
      rfl

theorem self_mem_preorder (tree : Tree) : tree ∈ tree.preorder := by
  rw [preorder_eq_cons]
  exact List.mem_cons_self

theorem mem_preorder_of_child (member : part ∈ tree.children) (below : inside ∈ part.preorder) :
    inside ∈ tree.preorder := by
  rw [preorder_eq_cons]
  exact List.mem_cons_of_mem tree (List.mem_flatMap.mpr ⟨part, member, below⟩)

theorem FlagsFaults.of_child (flags : tree.FlagsFaults) (member : part ∈ tree.children) :
    part.FlagsFaults := by
  intro inside below
  exact flags inside (mem_preorder_of_child member below)

/-- Nothing is left out where a branch that is not flawed is passed over. -/
theorem FlagsFaults.find?_eq_none (flags : tree.FlagsFaults) (sound : tree.isFlawed ≠ true) :
    tree.preorder.find? isFault = none := by
  rw [List.find?_eq_none]
  intro below member fault
  apply sound
  exact (flags tree tree.self_mem_preorder).mpr ⟨below, member, fault⟩

/-! ## The search -/

theorem firstFaultAmong?_eq_findSome? (children : List Tree) :
    firstFaultAmong? children = children.findSome? firstFault? := by
  induction children with
  | nil => rfl
  | cons child rest ih =>
      rw [firstFaultAmong?, List.findSome?_cons, ih]
      cases child.firstFault? <;> rfl

theorem firstFault?_eq (tree : Tree) :
    tree.firstFault? =
      if tree.isFault then some tree.mark
      else if tree.isFlawed then tree.children.findSome? firstFault?
      else none := by
  cases tree with
  | node mark children =>
      rw [firstFault?, firstFaultAmong?_eq_findSome?]
      rfl

/-- Only a fault of the tree is found, whatever the flags. -/
theorem exists_fault_of_firstFault? (first : tree.firstFault? = some found) :
    ∃ inside ∈ tree.preorder, inside.isFault = true ∧ inside.mark = found := by
  induction tree using Tree.induction with
  | step tree ih =>
      rw [firstFault?_eq] at first
      split at first
      · next fault =>
          cases first
          exact ⟨tree, tree.self_mem_preorder, fault, rfl⟩
      split at first
      · obtain ⟨child, member, first⟩ := List.exists_of_findSome?_eq_some first
        obtain ⟨inside, below, fault⟩ := ih child member first
        exact ⟨inside, mem_preorder_of_child member below, fault⟩
      · cases first

/-- With true flags the search finds what a search through all nodes finds. -/
theorem FlagsFaults.firstFault?_eq_find? (flags : tree.FlagsFaults) :
    tree.firstFault? = (tree.preorder.find? isFault).map mark := by
  induction tree using Tree.induction with
  | step tree ih =>
      rw [firstFault?_eq]
      split
      · next fault =>
          rw [preorder_eq_cons, List.find?_cons_of_pos fault]
          rfl
      next other =>
      split
      · have each : tree.children.map firstFault? =
            tree.children.map fun child => (child.preorder.find? isFault).map mark := by
          apply List.map_congr_left
          intro child member
          exact ih child member (flags.of_child member)
        calc
          tree.children.findSome? firstFault?
              = (tree.children.map firstFault?).findSome? id := by rw [List.findSome?_map]; rfl
          _ = tree.children.findSome? fun child => (child.preorder.find? isFault).map mark := by
            rw [each, List.findSome?_map]
            rfl
          _ = (tree.preorder.find? isFault).map mark := by
            rw [preorder_eq_cons, List.find?_cons_of_neg other, List.find?_flatMap,
              List.map_findSome?]
            rfl
      · next sound =>
          rw [flags.find?_eq_none sound]
          rfl

-- A token that was put in stands in front of two passages that fit nothing.
example :
    let lacking : Tree := .node ⟨.phrase, "", 3, true, true⟩ []
    let tree : Tree := .branch .phrase
      [.leaf .keyword "if", .branch .phrase [.leaf .phrase "(", lacking, .fault 4], .fault 5]
    tree.firstFault?.map Mark.line = some 3 := by
  decide +kernel

/-- In a flawed tree with true flags there is a first fault, and it is found. -/
theorem FlagsFaults.exists_first (flags : tree.FlagsFaults) (flawed : tree.isFlawed = true) :
    ∃ before first after, tree.preorder = before ++ first :: after ∧
      (∀ earlier ∈ before, earlier.isFault = false) ∧ first.isFault = true ∧
      tree.firstFault? = some first.mark := by
  obtain ⟨below, member, fault⟩ := (flags tree tree.self_mem_preorder).mp flawed
  cases search : tree.preorder.find? isFault with
  | none =>
      rw [List.find?_eq_none] at search
      exact absurd fault (search below member)
  | some first =>
      obtain ⟨isFirst, before, after, nodes, none⟩ := List.find?_eq_some_iff_append.mp search
      refine ⟨before, first, after, nodes, ?_, isFirst, ?_⟩
      · intro earlier member
        exact Bool.not_eq_true' _ ▸ none earlier member
      · rw [flags.firstFault?_eq_find?, search]
        rfl

/-- A script that is not read to its end has one fault for its tree. -/
theorem ofText_of_halt {s : Text} {halt : Halt} (halts : script s = .error halt) :
    ofText s = .branch .phrase [.fault (halt.line s)] := by
  rw [ofText, halts]

end Tree

/-! ## The line that is reported -/

/-- The names of the runnable definitions of a script, or the line of its first fault, in the tree
that a parser gives for the script with plain quotes. -/
def definedNamesBy (parse : Text → Tree) (source : String) : Except Nat (List String) :=
  let tree := parse (source.toList.map plainQuote)
  if tree.isFlawed then .error ((tree.firstFault?.map Mark.line).getD 1)
  else .ok (Name.dedup tree.runnableNames)

theorem definedNamesBy_ofText : definedNamesBy Tree.ofText = definedNames := rfl

variable (parse : Text → Tree) (source : String)

theorem definedNamesBy_of_flawed (flawed : (parse (source.toList.map plainQuote)).isFlawed = true) :
    definedNamesBy parse source =
      .error (((parse (source.toList.map plainQuote)).firstFault?.map Mark.line).getD 1) := by
  simp only [definedNamesBy, flawed, if_true]

/-- A flaw that no node stands for, which true flags rule out, is reported on the first line. -/
theorem definedNamesBy_of_faultless
    (flawed : (parse (source.toList.map plainQuote)).isFlawed = true)
    (faultless : ∀ inside ∈ (parse (source.toList.map plainQuote)).preorder,
      inside.isFault = false) :
    definedNamesBy parse source = .error 1 := by
  rw [definedNamesBy_of_flawed parse source flawed]
  cases search : (parse (source.toList.map plainQuote)).firstFault? with
  | none => rfl
  | some found =>
      obtain ⟨inside, member, fault, -⟩ := Tree.exists_fault_of_firstFault? search
      rw [faultless inside member] at fault
      cases fault

-- The lack of a name flaws the tree, but no node stands for it.
example :
    let script := "1\nfunction \x7b \x7d"
    (Tree.ofSource script).firstFault?.isNone = true ∧ definedNames script = .error 1 := by
  decide +kernel

/-! ### Scripts that are not read to their end -/

theorem exists_place_of_lineAt (s rest : Text) :
    ∃ place, lineAt s rest = lineAt s (s.drop place) := by
  refine ⟨s.length - rest.length, ?_⟩
  rw [lineAt_drop]
  rfl

/-- A halt is reported on a line of the text, whichever rule finds it. -/
theorem Halt.exists_place (halt : Halt) (s : Text) :
    ∃ place, halt.line s = lineAt s (s.drop place) := by
  have item (start : Option Text) :
      ∃ place, (start.map (lineAt s)).getD (lineAt s halt.rest) = lineAt s (s.drop place) := by
    cases start with
    | none => exact exists_place_of_lineAt s halt.rest
    | some start => exact exists_place_of_lineAt s start
  -- each rule tells the line of an item, of what stands at the halt, or of the halt itself
  unfold Halt.line
  dsimp only
  repeat' split
  all_goals first
    | exact item _
    | exact exists_place_of_lineAt s _

/-- A script that is not read to its end is reported on a line of the script as it was written. -/
theorem definedNames_of_halt {halt : Halt}
    (halts : script (source.toList.map plainQuote) = .error halt) :
    ∃ place, definedNames source =
      .error (lineAt source.toList (source.toList.drop place)) := by
  obtain ⟨place, line⟩ := halt.exists_place (source.toList.map plainQuote)
  have reported : definedNames source = .error (halt.line (source.toList.map plainQuote)) := by
    rw [definedNames, Tree.ofSource, Tree.ofText_of_halt halts]
    rfl
  refine ⟨place, ?_⟩
  rw [reported, line, lineAt_map_plainQuote]

-- A brace behind typographic quotes that closes nothing.
example : definedNames "function A \x7b \u2018\x7d\u2019 \x7d\n\x7d" = .error 2 := by
  decide +kernel

end ScriptRoster.Script

namespace ScriptRoster

open Script Lexeme Text

/-- The text that is read is the script with plain quotes, one character for each, and its line
breaks stand where they stood. With true flags the search that passes over branches finds the first
fault of all nodes, and it finds one in every flawed tree, so that the line of that fault is
reported. A fault on the row of the byte that it begins with is therefore reported on the line that
its place is on in the script as it was written. -/
theorem first_fault_located (parse : Lexeme.Text → Tree) (source : String) :
    let text := source.toList.map plainQuote
    let tree := parse text
    KeepsLines source.toList text ∧
      (tree.FlagsFaults →
        tree.firstFault? = (tree.preorder.find? Tree.isFault).map Tree.mark ∧
        (tree.isFlawed = true →
          ∃ before first after, tree.preorder = before ++ first :: after ∧
            (∀ earlier ∈ before, earlier.isFault = false) ∧ first.isFault = true ∧
            tree.firstFault? = some first.mark ∧
            definedNamesBy parse source = .error first.mark.line ∧
            ∀ place,
              first.mark.line = rowAt (bytesOf text) (byteLength (text.take place)) + 1 →
                definedNamesBy parse source =
                  .error (lineAt source.toList (source.toList.drop place)))) := by
  intro text tree
  have keeps : KeepsLines source.toList text := keepsLines source.toList
  refine ⟨keeps, ?_⟩
  intro flags
  refine ⟨flags.firstFault?_eq_find?, ?_⟩
  intro flawed
  obtain ⟨before, first, after, nodes, none, fault, found⟩ := flags.exists_first flawed
  have reported : definedNamesBy parse source = .error first.mark.line := by
    rw [definedNamesBy_of_flawed parse source flawed, found]
    rfl
  refine ⟨before, first, after, nodes, none, fault, found, reported, ?_⟩
  intro place begins
  rw [reported, begins, (keeps.line_eq place).1]

/-- A definition with typographic quotes, one whose condition is never closed, and a brace that
closes nothing. -/
def openCondition : String :=
  "function A \x7b \u2018\x7d\u2019 \x7d\nfunction B \x7b if\n(1 \x7d\n\x7d"

/-- A tree for that script: a bracket is put in below the passage that fits nothing, and the brace
is a second such passage. -/
def openConditionTree : Tree :=
  let defined (name : String) (body : List Tree) : Tree := .branch .definition
    [.leaf .keyword "function", .leaf .definitionName name, .leaf .phrase "\x7b",
      .branch .body body, .leaf .phrase "\x7d"]
  let bracket : Tree := .node ⟨.phrase, "", 3, true, true⟩ []
  let condition : Tree := .node ⟨.fault, "", 2, false, true⟩
    [.leaf .keyword "if", .leaf .phrase "(", .leaf .phrase "1", bracket]
  .branch .phrase
    [.branch .phrase [defined "A" [.leaf .phrase "'\x7d'"], defined "B" [condition]],
      .node ⟨.fault, "", 4, false, true⟩ [.leaf .phrase "\x7d"]]

/-- The search passes over the first definition and enters the second; the passage comes before the
bracket below it and before the brace, which is nearer to the root. The passage is four bytes
further back in the script than in the text that is read, and it is reported on its line. -/
theorem first_fault_located_behind_quotes :
    let text := openCondition.toList.map plainQuote
    let rest := openCondition.toList.drop 32
    openConditionTree.FlagsFaults ∧ openConditionTree.isFlawed = true ∧
      (openConditionTree.preorder.filter Tree.isFault).map (·.mark.line) = [2, 3, 4] ∧
      openConditionTree.firstFault?.map Mark.line = some 2 ∧
      byteLength (openCondition.toList.take 32) = byteLength (text.take 32) + 4 ∧
      rest = "if\n(1 \x7d\n\x7d".toList ∧
      definedNamesBy (fun _ => openConditionTree) openCondition =
        .error (lineAt openCondition.toList rest) ∧
      lineAt openCondition.toList rest = 2 := by
  intro text rest
  have flags : openConditionTree.FlagsFaults := by decide +kernel
  have flawed : openConditionTree.isFlawed = true := by decide +kernel
  have search : openConditionTree.firstFault?.map Mark.line = some 2 := by decide +kernel
  obtain ⟨keeps, located⟩ := first_fault_located (fun _ => openConditionTree) openCondition
  obtain ⟨-, located⟩ := located flags
  obtain ⟨before, first, after, -, -, -, found, -, reported⟩ := located flawed
  have begins : first.mark.line = 2 := by
    rw [found] at search
    exact Option.some.inj search
  refine ⟨flags, flawed, by decide +kernel, search, ?_, by decide +kernel, ?_, by decide +kernel⟩
  · rw [keeps.moved 32]
    decide +kernel
  · apply reported 32
    rw [begins]
    decide +kernel

end ScriptRoster
