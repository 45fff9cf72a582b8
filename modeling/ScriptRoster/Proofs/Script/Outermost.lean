import Mathlib.Data.List.Forall2
import ScriptRoster.Script.Definition

/-!
# The outermost definitions of a tree

Where a definition stands in a tree that lies within no other one, and what it takes to be run
without arguments. The walk through a tree collects the names of these definitions in the order of
the text. It does not go into a definition, so whatever is put in place of a body leaves the names as
they are, as long as the body asks for parameters at its top, or does not, as before.
-/

namespace ScriptRoster.Script.Tree

/-- What each tree has if all its children have it, all trees have. -/
theorem induction {motive : Tree → Prop}
    (step : ∀ tree : Tree, (∀ child ∈ tree.children, motive child) → motive tree)
    (tree : Tree) : motive tree :=
  @Tree.rec motive (fun children => ∀ child ∈ children, motive child)
    (fun mark children => step (node mark children)) nofun
    (fun _ _ first others => List.forall_mem_cons.mpr ⟨first, others⟩) tree

/-! ## Definitions and their places -/

/-- The way down to a node: which child to take at each step. Of two addresses the smaller one, in
the order of a dictionary, is the one that comes first in the text. -/
abbrev Address := List Nat

/-- The node at an address. -/
def at? : Tree → Address → Option Tree
  | tree, [] => some tree
  | tree, index :: below => tree.children[index]?.bind fun child => child.at? below

/-- A definition at an address of a tree, without another definition above it. -/
structure Outermost (tree : Tree) (address : Address) (definition : Tree) : Prop where
  there : tree.at? address = some definition
  defines : definition.kind = .definition
  free : ∀ above ancestor, above <+: address → above ≠ address →
    tree.at? above = some ancestor → ancestor.kind ≠ .definition

/-- A list of parameters stands directly under the node. -/
def HoldsList (tree : Tree) : Prop := ∃ child ∈ tree.children, child.kind = .parameterList

/-- A block of parameters that holds a list stands directly in the body. -/
def AsksForParameters (body : Tree) : Prop :=
  ∃ block ∈ body.children, block.kind = .paramBlock ∧ block.HoldsList

/-- A definition that can be run without arguments, and its name. -/
structure Runnable (definition : Tree) (name : String) : Prop where
  introduced : ∃ keyword, definition.children.head? = some keyword ∧
    (Name.same keyword.text "function" = true ∨ Name.same keyword.text "filter" = true)
  named : ∃ part, definition.children.find? (·.kind == .definitionName) = some part ∧
    part.text = name
  plain : Name.isPlain name = true
  bare : ∀ part ∈ definition.children, part.kind = .parameters → ¬ part.HoldsList
  silent : ∀ part ∈ definition.children, part.kind = .body → ¬ part.AsksForParameters

variable {tree child definition : Tree} {address : Address} {name : String} {children : List Tree}

theorem listsParameters_iff : tree.listsParameters = true ↔ tree.HoldsList := by
  simp only [listsParameters, HoldsList, List.any_eq_true, beq_iff_eq]

theorem takesParameters_eq_false_iff :
    definition.takesParameters = false ↔
      ∀ part ∈ definition.children, part.kind = .parameters → ¬ part.HoldsList := by
  simp only [takesParameters, List.any_eq_false, Bool.and_eq_true, beq_iff_eq, listsParameters_iff,
    not_and]

theorem opensWithParameters_eq_false_iff :
    definition.opensWithParameters = false ↔
      ∀ part ∈ definition.children, part.kind = .body → ¬ part.AsksForParameters := by
  simp only [opensWithParameters, AsksForParameters, List.any_eq_false, List.any_eq_true,
    Bool.and_eq_true, beq_iff_eq, listsParameters_iff, not_and]

theorem introduced_iff :
    (Name.same definition.keyword "function" = true ∨
      Name.same definition.keyword "filter" = true) ↔
      ∃ keyword, definition.children.head? = some keyword ∧
        (Name.same keyword.text "function" = true ∨ Name.same keyword.text "filter" = true) := by
  unfold keyword
  cases definition.children.head? with
  | none => decide +kernel
  | some keyword => simp

/-- The list holds the name of a definition if and only if it can be run without arguments. -/
theorem runnableName?_eq_some_iff :
    definition.runnableName? = some name ↔ definition.Runnable name := by
  have introduced := @introduced_iff definition
  have bare := @takesParameters_eq_false_iff definition
  have silent := @opensWithParameters_eq_false_iff definition
  constructor
  · intro listed
    obtain ⟨verdict, given, ok⟩ := Option.bind_eq_some_iff.mp listed
    obtain ⟨spelling, named, rfl⟩ := Option.map_eq_some_iff.mp given
    split at ok
    · cases ok
    next word =>
    split at ok
    · cases ok
    next parameters =>
    split at ok
    · cases ok
    next block =>
    split at ok
    · next plain =>
        cases ok
        rw [Bool.not_eq_true', Bool.not_eq_false, Bool.or_eq_true] at word
        rw [Bool.not_eq_true] at parameters block
        exact ⟨introduced.mp word, Option.map_eq_some_iff.mp named, plain, bare.mp parameters,
          silent.mp block⟩
    · cases ok
  · rintro ⟨word, named, plain, parameters, block⟩
    have spelled : definition.name? = some name := Option.map_eq_some_iff.mpr named
    have word := introduced.mpr word
    rw [← Bool.or_eq_true] at word
    simp [runnableName?, runnable?, spelled, word, bare.mpr parameters, silent.mpr block, plain,
      Except.toOption]

/-! ## The walk -/

/-- The definitions that a walk meets first on its way into a node. -/
def met (tree : Tree) : List Tree :=
  if tree.kind = .definition then [tree] else tree.definitions

theorem met_of_definition (defines : tree.kind = .definition) : tree.met = [tree] := if_pos defines

theorem met_of_phrase (free : tree.kind ≠ .definition) : tree.met = tree.definitions := if_neg free

theorem definitionsAmong_eq_flatMap (children : List Tree) :
    definitionsAmong children = children.flatMap met := by
  induction children with
  | nil => rfl
  | cons child rest ih =>
      cases child with
      | node mark children => rw [definitionsAmong, ih, List.flatMap_cons, met]; rfl

theorem definitions_eq_flatMap (tree : Tree) : tree.definitions = tree.children.flatMap met := by
  cases tree with
  | node mark children => exact definitionsAmong_eq_flatMap children

theorem runnableNames_eq_flatMap (tree : Tree) :
    tree.runnableNames = tree.children.flatMap fun child => child.met.filterMap runnableName? := by
  rw [runnableNames, definitions_eq_flatMap, List.filterMap_flatMap]

theorem filterMap_met_of_phrase (free : tree.kind ≠ .definition) :
    tree.met.filterMap runnableName? = tree.runnableNames := by
  rw [met_of_phrase free, runnableNames]

/-! ## All outermost definitions -/

theorem outermost_nil_iff :
    tree.Outermost [] definition ↔ definition = tree ∧ tree.kind = .definition := by
  constructor
  · rintro ⟨there, defines, -⟩
    cases there
    exact ⟨rfl, defines⟩
  · rintro ⟨rfl, defines⟩
    refine ⟨rfl, defines, ?_⟩
    intro above ancestor before proper
    exact absurd (List.prefix_nil.mp before) proper

theorem outermost_cons_iff {index : Nat} :
    tree.Outermost (index :: address) definition ↔ tree.kind ≠ .definition ∧
      ∃ child, tree.children[index]? = some child ∧ child.Outermost address definition := by
  constructor
  · rintro ⟨there, defines, free⟩
    obtain ⟨child, taken, below⟩ := Option.bind_eq_some_iff.mp there
    refine ⟨free [] tree List.nil_prefix nofun rfl, child, taken, below, defines, ?_⟩
    intro above ancestor before proper found
    refine free (index :: above) ancestor (List.prefix_cons_inj index |>.mpr before) ?_ ?_
    · exact fun same => proper (List.cons.inj same).2
    · exact Option.bind_eq_some_iff.mpr ⟨child, taken, found⟩
  · rintro ⟨root, child, taken, below, defines, free⟩
    refine ⟨Option.bind_eq_some_iff.mpr ⟨child, taken, below⟩, defines, ?_⟩
    intro above ancestor before proper found
    cases above with
    | nil =>
        cases found
        exact root
    | cons first above =>
        obtain ⟨rfl, inside⟩ := List.cons_prefix_cons.mp before
        obtain ⟨other, same, found⟩ := Option.bind_eq_some_iff.mp found
        obtain rfl : child = other := Option.some.inj (taken.symm.trans same)
        exact free above ancestor inside (fun same => proper (congrArg _ same)) found

/-- All definitions of a tree that lie within no other one, in the order of the text. -/
structure Lists (tree : Tree) (found : List (Address × Tree)) : Prop where
  all : ∀ address definition, (address, definition) ∈ found ↔ tree.Outermost address definition
  ordered : found.Pairwise fun first second => first.1 < second.1

/-- The same for trees that stand side by side, the first of them at an index. -/
structure ListsAmong (index : Nat) (children : List Tree) (found : List (Address × Tree)) :
    Prop where
  all : ∀ address definition, (address, definition) ∈ found ↔
    ∃ offset child below, address = (index + offset) :: below ∧
      children[offset]? = some child ∧ child.Outermost below definition
  ordered : found.Pairwise fun first second => first.1 < second.1

theorem ListsAmong.cons {index : Nat} {inside behind : List (Address × Tree)}
    (first : child.Lists inside) (others : ListsAmong (index + 1) children behind) :
    ListsAmong index (child :: children)
      (inside.map (fun entry => (index :: entry.1, entry.2)) ++ behind) := by
  constructor
  · intro address definition
    rw [List.mem_append, others.all, List.mem_map]
    constructor
    · rintro (⟨⟨below, _⟩, member, same⟩ | ⟨offset, other, below, rfl, taken, outermost⟩)
      · cases same
        exact ⟨0, child, below, rfl, rfl, (first.all _ _).mp member⟩
      · exact ⟨offset + 1, other, below, by rw [Nat.add_right_comm]; rfl, taken, outermost⟩
    · rintro ⟨offset, other, below, rfl, taken, outermost⟩
      cases offset with
      | zero =>
          cases taken
          exact .inl ⟨(below, definition), (first.all _ _).mpr outermost, rfl⟩
      | succ offset =>
          exact .inr ⟨offset, other, below, by rw [Nat.add_right_comm]; rfl, taken, outermost⟩
  · rw [List.pairwise_append, List.pairwise_map]
    refine ⟨first.ordered.imp fun less => List.cons_lt_cons_iff.mpr (.inr ⟨rfl, less⟩),
      others.ordered, ?_⟩
    rintro _ member ⟨address, definition⟩ later
    obtain ⟨⟨below, _⟩, -, rfl⟩ := List.mem_map.mp member
    obtain ⟨offset, other, below, rfl, -⟩ := (others.all _ _).mp later
    exact List.cons_lt_cons_iff.mpr (.inl (by omega))

theorem exists_listsAmong (children : List Tree) (index : Nat)
    (each : ∀ child ∈ children, ∃ found, child.Lists found ∧ found.map Prod.snd = child.met) :
    ∃ found, ListsAmong index children found ∧ found.map Prod.snd = children.flatMap met := by
  induction children generalizing index with
  | nil => exact ⟨[], ⟨by simp, .nil⟩, rfl⟩
  | cons child rest ih =>
      obtain ⟨inside, first, here⟩ := each child List.mem_cons_self
      obtain ⟨behind, others, there⟩ :=
        ih (index + 1) fun other member => each other (List.mem_cons_of_mem child member)
      refine ⟨_, .cons first others, ?_⟩
      rw [List.map_append, List.map_map, List.flatMap_cons, ← here, ← there]
      rfl

/-- The walk meets all outermost definitions, in the order of the text. -/
theorem exists_lists (tree : Tree) :
    ∃ found, tree.Lists found ∧ found.map Prod.snd = tree.met := by
  induction tree using Tree.induction with
  | step tree ih =>
      by_cases defines : tree.kind = .definition
      · refine ⟨[([], tree)], ⟨?_, List.pairwise_singleton _ _⟩, (met_of_definition defines).symm⟩
        intro address definition
        cases address with
        | nil => simp [outermost_nil_iff, defines]
        | cons index below => simp [outermost_cons_iff, defines]
      · obtain ⟨found, among, names⟩ := exists_listsAmong tree.children 0 ih
        refine ⟨found, ⟨?_, among.ordered⟩, ?_⟩
        · intro address definition
          rw [among.all]
          cases address with
          | nil => simp [outermost_nil_iff, defines]
          | cons index below => simp [outermost_cons_iff, defines]
        · rw [names, met_of_phrase defines, definitions_eq_flatMap]

/-! ## Bodies that are replaced -/

/-- A part of a definition that is kept, or a body in place of another one that asks for parameters
if the other one does. -/
inductive Replaces : Tree → Tree → Prop
  | kept (part : Tree) : Replaces part part
  | body {part other : Tree} (part_body : part.kind = .body) (other_body : other.kind = .body)
      (asks : part.AsksForParameters ↔ other.AsksForParameters) : Replaces part other

/-- Two trees that differ in the bodies of their outermost definitions only. -/
inductive Revised : Tree → Tree → Prop
  | definition {tree other : Tree} (defines : tree.kind = .definition)
      (other_defines : other.kind = .definition)
      (keyword : tree.children.head? = other.children.head?)
      (parts : List.Forall₂ Replaces tree.children other.children) : Revised tree other
  | phrase {tree other : Tree} (free : tree.kind ≠ .definition) (other_free : other.kind ≠ .definition)
      (below : List.Forall₂ Revised tree.children other.children) : Revised tree other

section Revisions

variable {parts others : List Tree} {other revised : Tree}

theorem Replaces.symm (replaces : Replaces child other) : Replaces other child := by
  cases replaces with
  | kept => exact .kept child
  | body body otherBody asks => exact .body otherBody body asks.symm

/-- What is true of each part of a definition stays so where it does not rest on what is within a
body. -/
theorem forall_of_replaces {P : Tree → Prop}
    (step : ∀ part other, Replaces part other → P part → P other)
    (each : List.Forall₂ Replaces parts others) (all : ∀ part ∈ parts, P part) :
    ∀ part ∈ others, P part := by
  induction each with
  | nil => exact all
  | cons replaces _ ih =>
      rw [List.forall_mem_cons] at all ⊢
      exact ⟨step _ _ replaces all.1, ih all.2⟩

theorem find?_of_replaces (each : List.Forall₂ Replaces parts others) :
    others.find? (·.kind == .definitionName) = parts.find? (·.kind == .definitionName) := by
  induction each with
  | nil => rfl
  | cons replaces _ ih =>
      rw [List.find?_cons, List.find?_cons, ih]
      cases replaces with
      | kept => rfl
      | body body otherBody => rw [body, otherBody]; rfl

/-- A definition can be run without arguments whatever stands in its bodies, as long as they ask for
no parameters. -/
theorem Runnable.revise (runnable : definition.Runnable name)
    (keyword : definition.children.head? = other.children.head?)
    (parts : List.Forall₂ Replaces definition.children other.children) : other.Runnable name := by
  obtain ⟨introduced, named, plain, bare, silent⟩ := runnable
  refine ⟨?_, ?_, plain, ?_, ?_⟩
  · rw [← keyword]
    exact introduced
  · rw [find?_of_replaces parts]
    exact named
  · refine forall_of_replaces (P := fun part => part.kind = .parameters → ¬ part.HoldsList) ?_
      parts bare
    intro part other replaces holds
    cases replaces with
    | kept => exact holds
    | body body otherBody => simp [otherBody]
  · refine forall_of_replaces (P := fun part => part.kind = .body → ¬ part.AsksForParameters) ?_
      parts silent
    intro part other replaces holds
    cases replaces with
    | kept => exact holds
    | body body otherBody asks => exact fun _ => asks.not.mp (holds body)

theorem runnableName?_revise (keyword : definition.children.head? = other.children.head?)
    (parts : List.Forall₂ Replaces definition.children other.children) :
    definition.runnableName? = other.runnableName? := by
  ext name
  rw [runnableName?_eq_some_iff, runnableName?_eq_some_iff]
  constructor
  · exact fun runnable => runnable.revise keyword parts
  · exact fun runnable => runnable.revise keyword.symm (parts.imp fun _ _ => Replaces.symm).flip

theorem Revised.refl (tree : Tree) : tree.Revised tree := by
  induction tree using Tree.induction with
  | step tree ih =>
      by_cases defines : tree.kind = .definition
      · exact .definition defines defines rfl (List.forall₂_same.mpr fun part _ => .kept part)
      · exact .phrase defines defines (List.forall₂_same.mpr ih)

/-- The walk finds the same names in a tree and in a revised one. -/
theorem Revised.filterMap_met (change : Revised tree revised) :
    tree.met.filterMap runnableName? = revised.met.filterMap runnableName? := by
  induction tree using Tree.induction generalizing revised with
  | step tree ih =>
      cases change with
      | definition defines otherDefines keyword parts =>
          rw [met_of_definition defines, met_of_definition otherDefines, List.filterMap_cons,
            List.filterMap_cons, runnableName?_revise keyword parts]
      | phrase free otherFree below =>
          rw [filterMap_met_of_phrase free, filterMap_met_of_phrase otherFree,
            runnableNames_eq_flatMap, runnableNames_eq_flatMap, ← List.forall₂_eq_eq_eq]
          refine List.rel_flatMap ((List.forall₂_and_left _ _).mpr ⟨ih, below⟩) ?_
          rintro child other ⟨same, change⟩
          rw [List.forall₂_eq_eq_eq]
          exact same change

end Revisions

end ScriptRoster.Script.Tree

namespace ScriptRoster

open Script

/-- The names that are collected from a tree are those of its outermost definitions that can be run
without arguments, each at its place and in the order of the text. Whatever else is put into the
bodies of these definitions, the names stay as they are. -/
theorem walk_collects_outermost {tree : Tree} (root : tree.kind ≠ .definition) :
    (∃ found : List (Tree.Address × String),
      (∀ address name, (address, name) ∈ found ↔
        ∃ definition, tree.Outermost address definition ∧ definition.Runnable name) ∧
      (found.Pairwise fun first second => first.1 < second.1) ∧
      tree.runnableNames = found.map Prod.snd) ∧
    ∀ revised, tree.Revised revised → revised.runnableNames = tree.runnableNames := by
  constructor
  · obtain ⟨found, lists, met⟩ := tree.exists_lists
    refine ⟨found.filterMap fun entry => entry.2.runnableName?.map (entry.1, ·), ?_, ?_, ?_⟩
    · intro address name
      simp only [List.mem_filterMap, Option.map_eq_some_iff, Prod.exists, Prod.mk.injEq, lists.all,
        Tree.runnableName?_eq_some_iff]
      constructor
      · rintro ⟨_, definition, outermost, _, runnable, rfl, rfl⟩
        exact ⟨definition, outermost, runnable⟩
      · rintro ⟨definition, outermost, runnable⟩
        exact ⟨address, definition, outermost, name, runnable, rfl, rfl⟩
    · rw [List.pairwise_filterMap]
      refine lists.ordered.imp ?_
      intro first second less entry given other shown
      obtain ⟨_, -, rfl⟩ := Option.map_eq_some_iff.mp given
      obtain ⟨_, -, rfl⟩ := Option.map_eq_some_iff.mp shown
      exact less
    · rw [← Tree.filterMap_met_of_phrase root, ← met, List.filterMap_map, List.map_filterMap]
      refine congrArg (List.filterMap · found) (funext fun entry => ?_)
      simp [Function.comp_def]
  · intro revised change
    have free : revised.kind ≠ .definition := by
      cases change with
      | definition defines => exact absurd defines root
      | phrase _ free => exact free
    rw [← Tree.filterMap_met_of_phrase free, ← change.filterMap_met,
      Tree.filterMap_met_of_phrase root]

theorem walk_collects_outermost_nested :
    let define (word name : String) (parts : List Tree) : Tree :=
      .branch .definition (.leaf .keyword word :: .leaf .definitionName name :: parts)
    let asking : Tree := .branch .parameters [.branch .parameterList []]
    let script (inside : Tree) : Tree := .branch .phrase
      [define "function" "Outer" [.branch .body [inside]],
        .branch .phrase [define "filter" "Only" [.branch .body []]],
        define "function" "Asking" [asking]]
    let tree := script (define "function" "Inner" [.branch .body []])
    let revised := script (define "filter" "Other" [asking])
    tree.kind ≠ .definition ∧
    (∃ found : List (Tree.Address × String),
      (∀ address name, (address, name) ∈ found ↔
        ∃ definition, tree.Outermost address definition ∧ definition.Runnable name) ∧
      found.map Prod.snd = ["Outer", "Only"]) ∧
    revised.runnableNames = ["Outer", "Only"] := by
  intro define asking script tree revised
  have root : tree.kind ≠ .definition := nofun
  have names : tree.runnableNames = ["Outer", "Only"] := by decide +kernel
  have change : tree.Revised revised := by
    have silent : ∀ word name parts,
        ¬ (Tree.branch .body [define word name parts]).AsksForParameters := by
      rintro word name parts ⟨block, member, isBlock, -⟩
      rw [List.mem_singleton.mp member] at isBlock
      cases isBlock
    have body : Tree.Replaces (.branch .body [define "function" "Inner" [.branch .body []]])
        (.branch .body [define "filter" "Other" [asking]]) :=
      .body rfl rfl (iff_of_false (silent _ _ _) (silent _ _ _))
    refine .phrase nofun nofun (.cons ?_ (.cons (.refl _) (.cons (.refl _) .nil)))
    exact .definition rfl rfl rfl (.cons (.kept _) (.cons (.kept _) (.cons body .nil)))
  obtain ⟨⟨found, all, -, collected⟩, frame⟩ := walk_collects_outermost root
  exact ⟨root, ⟨found, all, collected.symm.trans names⟩, (frame revised change).trans names⟩

end ScriptRoster
