import ScriptRoster.Proofs.Script.Listing
import ScriptRoster.Script.Lexeme

/-!
# Definitions that are written out

A script of definitions with empty bodies, one a line. The scan of its text finds each definition
that is written without a parameter.
-/

namespace ScriptRoster.Script

open Lexeme

/-! ## Definitions as text -/

/-- How a definition with an empty body is written: as a function with or without empty brackets, as
a filter, or as a function with a parameter. -/
inductive Shape where
  | function
  | bracketed
  | filter
  | parameterized
  deriving DecidableEq, Repr

namespace Shape

def keyword : Shape → String
  | .filter => "filter"
  | _ => "function"

/-- What stands behind the name. -/
def ending : Shape → String
  | .function | .filter => " \x7b \x7d"
  | .bracketed => "() \x7b \x7d"
  | .parameterized => "($x) \x7b \x7d"

def takesParameters : Shape → Bool
  | .parameterized => true
  | _ => false

end Shape

/-- A definition of some shape with a plain name. -/
structure Written where
  shape : Shape
  name : String
  plain : Name.isPlain name = true

namespace Written

def text (definition : Written) : String :=
  definition.shape.keyword ++ " " ++ definition.name ++ definition.shape.ending

/-- The script of some definitions, one a line. -/
def script (definitions : List Written) : String := "\n".intercalate (definitions.map text)

/-- The names of the definitions without parameters, in order. -/
def runnableNames (definitions : List Written) : List String :=
  (definitions.filter fun definition => !definition.shape.takesParameters).map name

/-- The letters of a definition. -/
def letters (definition : Written) : Text :=
  definition.shape.keyword.toList ++
    ' ' :: (definition.name.toList ++ definition.shape.ending.toList)

/-- Lines with definitions behind another line. -/
def linesBehind : List Written → Text
  | [] => []
  | definition :: rest => '\n' :: (definition.letters ++ linesBehind rest)

/-- Lines with definitions. -/
def lines : List Written → Text
  | [] => []
  | definition :: rest => definition.letters ++ linesBehind rest

variable (definition : Written)

theorem toList_text : definition.text.toList = definition.letters := by
  simp [text, letters, String.toList_append]

theorem toList_script (definitions : List Written) :
    (script definitions).toList = lines definitions := by
  unfold script
  cases definitions with
  | nil => rfl
  | cons first rest =>
      induction rest generalizing first with
      | nil => simpa [lines, linesBehind] using first.toList_text
      | cons second rest ih =>
          have newline : "\n".toList = ['\n'] := rfl
          have later := ih second
          rw [List.map_cons] at later
          rw [List.map_cons, List.map_cons, String.intercalate_cons_cons, String.toList_append,
            String.toList_append, later, toList_text, newline, List.append_assoc]
          rfl

example : script [⟨.bracketed, "If", by decide⟩, ⟨.parameterized, "b", by decide⟩] =
    "function If() \x7b \x7d\nfunction b($x) \x7b \x7d" := by
  decide +kernel

theorem length_le_length_linesBehind (definitions : List Written) :
    definitions.length ≤ (linesBehind definitions).length := by
  induction definitions with
  | nil => exact Nat.le_refl 0
  | cons first rest ih =>
      simp only [linesBehind, List.length_cons, List.length_append]
      omega

theorem length_le_length_lines (definitions : List Written) :
    definitions.length ≤ (lines definitions).length := by
  cases definitions with
  | nil => exact Nat.le_refl 0
  | cons first rest =>
      have later := length_le_length_linesBehind rest
      have some : 0 < first.letters.length := by
        rw [letters, List.length_append, List.length_cons]
        omega
      rw [lines, List.length_cons, List.length_append]
      omega

/-! ### The letters of names -/

theorem exists_letters : ∃ head tail, definition.name.toList = head :: tail ∧
    Name.isHead head = true ∧ ∀ c ∈ tail, Name.isTail c = true := by
  have plain := definition.plain
  unfold Name.isPlain at plain
  cases named : definition.name.toList with
  | nil =>
      rw [named] at plain
      cases plain
  | cons head tail =>
      rw [named] at plain
      simp only [Bool.and_eq_true, List.all_eq_true] at plain
      exact ⟨head, tail, rfl, plain⟩

variable {c : Char}

theorem ne_of_isTail (tail : Name.isTail c = true) (d : Char) (odd : Name.isTail d = false) :
    (c == d) = false := by
  rw [beq_eq_false_iff_ne]
  rintro rfl
  rw [tail] at odd
  cases odd

/-- The characters of definitions that stand in no name. -/
def signs : List Char := [' ', '(', ')', '$', '{', '}']

theorem isTail_or_mem_signs (member : c ∈ definition.letters) :
    Name.isTail c = true ∨ c ∈ signs := by
  obtain ⟨head, tail, named, begins, goesOn⟩ := definition.exists_letters
  have keyword : definition.shape.keyword.toList.all Name.isTail = true := by
    cases definition.shape <;> decide
  have ending : definition.shape.ending.toList.all (fun c => Name.isTail c || c ∈ signs) = true := by
    cases definition.shape <;> decide
  rw [List.all_eq_true] at keyword ending
  rw [letters, named] at member
  rcases List.mem_append.mp member with member | member
  · exact .inl (keyword c member)
  rcases List.mem_cons.mp member with rfl | member
  · exact .inr List.mem_cons_self
  rcases List.mem_append.mp member with member | member
  · rcases List.mem_cons.mp member with rfl | member
    · exact .inl (Listing.isTail_of_isHead begins)
    · exact .inl (goesOn c member)
  · simpa only [Bool.or_eq_true, decide_eq_true_eq] using ending c member

theorem newline_not_mem_letters : '\n' ∉ definition.letters := by
  intro member
  have odd := definition.isTail_or_mem_signs member
  revert odd
  decide

/-! ## What the scan of the text finds -/

open Listing in
/-- The line of a definition opens one for the scan unless it takes parameters. -/
theorem definition?_letters (rest : Text) :
    definition? (definition.letters ++ rest) =
      if definition.shape.takesParameters then none
      else some (definition.name.toList, ' ' :: '}' :: rest) := by
  obtain ⟨head, tail, named, begins, goesOn⟩ := definition.exists_letters
  have keyword : keyword? ((definition.letters ++ rest).dropWhile isGap) =
      some (' ' :: head :: (tail ++ (definition.shape.ending.toList ++ rest))) := by
    rw [letters, named]
    cases definition.shape <;> simp only [List.append_assoc, List.cons_append] <;> rfl
  have gap : isGap head = false := by
    have other := ne_of_isTail (isTail_of_isHead begins)
    simp (disch := decide) only [isGap, other, Bool.or_self]
  have first : isNameHead head = true := (isNameHead_iff head).mpr (.inl begins)
  have later : ∀ c ∈ tail, isNameTail c = true := fun c member =>
    (isNameTail_iff c).mpr (.inl (goesOn c member))
  have behind : opening? (definition.shape.ending.toList ++ rest) =
      if definition.shape.takesParameters then none else some (' ' :: '}' :: rest) := by
    cases definition.shape <;> rfl
  have taken : (tail ++ (definition.shape.ending.toList ++ rest)).takeWhile isNameTail = tail := by
    have none : (definition.shape.ending.toList ++ rest).takeWhile isNameTail = [] := by
      cases definition.shape <;> rfl
    rw [List.takeWhile_append_of_pos later, none, List.append_nil]
  have dropped : (tail ++ (definition.shape.ending.toList ++ rest)).dropWhile isNameTail =
      definition.shape.ending.toList ++ rest := by
    rw [List.dropWhile_append_of_pos later]
    cases definition.shape <;> rfl
  have space : isGap ' ' = true := rfl
  simp only [definition?, keyword, space, if_true, List.dropWhile_cons, gap, Bool.false_eq_true,
    if_false, first, taken, dropped, behind, named]
  split <;> rfl

open Listing in
theorem nextLine_linesBehind {line : Text} (whole : '\n' ∉ line) (definitions : List Written) :
    nextLine (line ++ linesBehind definitions) = lines definitions := by
  have within : ∀ c ∈ line, (c != '\n') = true := by
    intro c member
    rw [bne_iff_ne]
    rintro rfl
    exact whole member
  rw [nextLine, List.dropWhile_append_of_pos within]
  cases definitions <;> rfl

open Listing in
/-- The scan finds the definitions without parameters, in order. -/
theorem namesWithin_lines (definitions : List Written) {fuel : Nat}
    (enough : definitions.length < fuel) :
    namesWithin fuel (lines definitions) = runnableNames definitions := by
  induction definitions generalizing fuel with
  | nil =>
      cases fuel with
      | zero => cases enough
      | succ fuel => rfl
  | cons first rest ih =>
      cases fuel with
      | zero => cases enough
      | succ fuel =>
          have later := ih (Nat.lt_of_succ_lt_succ enough)
          rw [lines, namesWithin, definition?_letters]
          by_cases takes : first.shape.takesParameters = true
          · have some : (first.letters ++ linesBehind rest).isEmpty = false := by
              rw [letters]
              cases first.shape <;> rfl
            simp only [takes, if_true, some, Bool.false_eq_true, if_false,
              nextLine_linesBehind first.newline_not_mem_letters, later, runnableNames,
              List.filter_cons, Bool.not_true]
          · have behind : ' ' :: '}' :: linesBehind rest = [' ', '}'] ++ linesBehind rest := rfl
            simp only [takes, Bool.false_eq_true, if_false, String.ofList_toList, behind,
              nextLine_linesBehind (show '\n' ∉ [' ', '}'] by decide), later, runnableNames,
              List.filter_cons, Bool.not_false, if_true, List.map_cons]

/-- The scan finds the definitions without parameters in a script, each name once. -/
theorem names_script (definitions : List Written) :
    Listing.names (script definitions) = Name.dedup (runnableNames definitions) := by
  have enough : definitions.length < (script definitions).length + 1 := by
    rw [← String.length_toList, toList_script]
    exact Nat.lt_succ_of_le (length_le_length_lines definitions)
  rw [Listing.names, toList_script, namesWithin_lines definitions enough]

end Written

end ScriptRoster.Script
