import ScriptRoster.Proofs.Script.Tokens
import ScriptRoster.Proofs.Script.Written
import ScriptRoster.Script.Definition

/-!
# Definitions that are read

The grammar reads a script of definitions that are written out as these definitions, one after
another. Each is a node with its keyword, its name and the parameters it takes.
-/

namespace ScriptRoster.Script

open Lexeme

namespace Written

variable (definition : Written) {c : Char}

/-! ## The letters of a name -/

theorem isBareChar_of_isTail (tail : Name.isTail c = true) : isBareChar c = true := by
  have other := ne_of_isTail tail
  simp (disch := decide) only [isBareChar, isBlank, other, Bool.or_self, Bool.not_false]

theorem isSolid_of_isHead (head : Name.isHead c = true) : isSolid c = true := by
  have other := ne_of_isTail (Listing.isTail_of_isHead head)
  simp (disch := decide) only [isSolid, isBlank, isMark, other, Bool.or_self, Bool.not_false]

theorem ne_hyphen_of_isHead (head : Name.isHead c = true) : c ≠ '-' := by
  rintro rfl
  revert head
  decide

/-! ## The keyword and the name -/

/-- The keyword of a definition as a token. -/
def lead (rest : Text) : Found where
  token := .word definition.shape.keyword
  start := definition.letters ++ rest
  rest := ' ' :: (definition.name.toList ++ (definition.shape.ending.toList ++ rest))

theorem letters_append (rest : Text) : definition.letters ++ rest =
    definition.shape.keyword.toList ++
      ' ' :: (definition.name.toList ++ (definition.shape.ending.toList ++ rest)) := by
  simp [letters]

/-- Where a statement may begin, a keyword of definitions stands and is a command name as well. -/
theorem scanned_keyword (shape : Shape) (rest : Text) :
    scanned statementTokens (shape.keyword.toList ++ ' ' :: rest) =
      [⟨.word shape.keyword, shape.keyword.toList ++ ' ' :: rest, ' ' :: rest⟩,
        ⟨.commandWord, shape.keyword.toList ++ ' ' :: rest, ' ' :: rest⟩] := by
  cases shape <;> rfl

theorem first?_letters (rest : Text) :
    Found.first? (scanned statementTokens (definition.letters ++ rest)) =
      some (definition.lead rest) := by
  rw [lead, letters_append, scanned_keyword]
  simp [Found.first?, Found.precedes, Token.isReserved, Token.rank]

theorem exists_stands (rest : Text) : ∃ c after, definition.letters ++ rest = c :: after ∧
    ∀ front : Text, (∀ d ∈ front, isBlank d = true) →
      Stands (front ++ (definition.letters ++ rest)) c after := by
  rw [letters_append]
  cases definition.shape <;> exact ⟨_, _, rfl, fun _ blank => (Stands.here rfl _).append blank⟩

variable {front : Text}

/-- The keyword of a definition comes next where a statement may begin. -/
theorem next?_statement (blank : ∀ d ∈ front, isBlank d = true) (rest : Text) :
    Fitting.next? ⟨false, statementTokens⟩ (front ++ (definition.letters ++ rest)) =
      some (definition.lead rest) := by
  obtain ⟨c, after, text, stands⟩ := definition.exists_stands rest
  rw [next?_eq (stands front blank) (by decide), ← text, first?_letters]

/-- The keyword of a definition comes next where a body may begin. -/
theorem next?_content (blank : ∀ d ∈ front, isBlank d = true) (rest : Text) :
    Fitting.next? ⟨false, .word "param" :: contentTokens⟩ (front ++ (definition.letters ++ rest)) =
      some (definition.lead rest) := by
  obtain ⟨c, after, text, stands⟩ := definition.exists_stands rest
  have named : scanned (.word "param" :: blockNames) (definition.letters ++ rest) = [] := by
    rw [letters_append]
    cases definition.shape <;> rfl
  have both : scanned (.word "param" :: contentTokens) (definition.letters ++ rest) =
      scanned statementTokens (definition.letters ++ rest) := by
    have split : Token.word "param" :: contentTokens =
        (.word "param" :: blockNames) ++ statementTokens := rfl
    rw [split, scanned, List.filterMap_append]
    rw [scanned] at named
    rw [named]
    rfl
  rw [next?_eq (stands front blank) (by decide), ← text, both, first?_letters]

theorem textBetween_append (front rest : Text) :
    textBetween (front ++ rest) rest = String.ofList front := by
  simp [textBetween]

theorem text_lead (rest : Text) : (definition.lead rest).text = definition.shape.keyword := by
  rw [lead, Found.text, letters_append, textBetween_append, String.ofList_toList]

/-- A name is a bare word up to what stands behind it. -/
theorem bareWord?_name (rest : Text) :
    bareWord? (definition.name.toList ++ (definition.shape.ending.toList ++ rest)) =
      some (definition.shape.ending.toList ++ rest) := by
  obtain ⟨head, tail, named, begins, goesOn⟩ := definition.exists_letters
  have tailed := Listing.isTail_of_isHead begins
  have other := ne_of_isTail tailed
  have dropped : (tail ++ (definition.shape.ending.toList ++ rest)).dropWhile isBareChar =
      definition.shape.ending.toList ++ rest := by
    rw [List.dropWhile_append_of_pos fun c member => isBareChar_of_isTail (goesOn c member)]
    cases definition.shape <;> rfl
  rw [named, List.cons_append]
  simp (disch := decide) only [bareWord?, headed?, isBareChar_of_isTail tailed, bne, other,
    Bool.not_false, Bool.and_self, if_true, dropped]

theorem scanned_name (rest : Text) :
    scanned [.bareWord, .sign '(', .sign '{']
        (definition.name.toList ++ (definition.shape.ending.toList ++ rest)) =
      [⟨.bareWord, definition.name.toList ++ (definition.shape.ending.toList ++ rest),
        definition.shape.ending.toList ++ rest⟩] := by
  obtain ⟨head, tail, named, begins, -⟩ := definition.exists_letters
  have bare := definition.bareWord?_name rest
  have unlike : ∀ d : Char, Name.isTail d = false → (d == head) = false := fun d odd => by
    rw [BEq.comm]
    exact ne_of_isTail (Listing.isTail_of_isHead begins) d odd
  rw [named, List.cons_append] at bare ⊢
  simp (disch := decide) only [scanned, List.filterMap_cons, Token.scan, bare, literal?, unlike,
    Bool.false_eq_true, if_false, Option.map_some, Option.map_none, List.filterMap_nil]

/-- The name of a definition is read behind its keyword. -/
theorem definitionName_lead (rest : Text) :
    definitionName (definition.lead rest).rest =
      .ok (.leaf .definitionName definition.name, definition.shape.ending.toList ++ rest) := by
  obtain ⟨head, tail, named, begins, -⟩ := definition.exists_letters
  have found := definition.scanned_name rest
  rw [named, List.cons_append] at found
  have stands : Stands (definition.lead rest).rest head
      (tail ++ (definition.shape.ending.toList ++ rest)) := by
    rw [lead, named]
    exact .behind rfl (.here (isSolid_of_isHead begins) _)
  have next : Fitting.next? ⟨false, [.bareWord, .sign '(', .sign '{']⟩
      (definition.lead rest).rest = some ⟨.bareWord,
        head :: (tail ++ (definition.shape.ending.toList ++ rest)),
          definition.shape.ending.toList ++ rest⟩ := by
    rw [next?_eq stands (by decide), found]
    rfl
  have text : textBetween (head :: (tail ++ (definition.shape.ending.toList ++ rest)))
      (definition.shape.ending.toList ++ rest) = definition.name := by
    rw [← List.cons_append, textBetween_append, ← named, String.ofList_toList]
  simp only [definitionName, next, List.head?_cons, Option.some.injEq, ne_hyphen_of_isHead begins,
    decide_false, Bool.false_and, Bool.false_eq_true, if_false, text]

/-! ## Definitions -/

/-- What stands between the braces of a definition is read as no body at all. -/
theorem definitionBody_empty (read : Reader) (rest : Text) :
    definitionBody read (' ' :: '}' :: rest) = .ok ([], ' ' :: '}' :: rest) := by
  have stands : Stands (' ' :: '}' :: rest) '}' rest := .behind rfl (.here rfl rest)
  have params : Fitting.next? ⟨false, .word "param" :: contentTokens⟩ (' ' :: '}' :: rest) =
      none := by
    rw [next?_eq stands (by decide)]
    rfl
  have next : Fitting.next? ⟨false, .sign '}' :: contentTokens⟩ (' ' :: '}' :: rest) =
      some ⟨.sign '}', '}' :: rest, rest⟩ := by
    rw [next?_eq stands (by decide)]
    rfl
  simp only [definitionBody, leadingParameters?, params, next]
  rfl

/-- A variable alone is read as parameters. -/
theorem parameterList_one (depth : Nat) (rest : Text) :
    reader (depth + 3) .parameterList ('$' :: 'x' :: ')' :: rest) =
      .ok ([.branch .parameterList []], ')' :: rest) := by
  have start : Stands ('$' :: 'x' :: ')' :: rest) '$' ('x' :: ')' :: rest) := .here rfl _
  have behind : Stands (')' :: rest) ')' rest := .here rfl _
  have untagged : tags (reader depth) ('$' :: 'x' :: ')' :: rest) =
      .ok ([], '$' :: 'x' :: ')' :: rest) := by
    simp only [tags, next?_upTo ['['] (by decide) start]
    rfl
  have named : one variableTokens ('$' :: 'x' :: ')' :: rest) =
      .ok ⟨.dollarVariable, '$' :: 'x' :: ')' :: rest, ')' :: rest⟩ := by
    rw [one, next?_eq start (by decide)]
    rfl
  have one : parameter (reader (depth + 1)) ('$' :: 'x' :: ')' :: rest) =
      .ok ([], ')' :: rest) := by
    simp only [parameter, reader, rule, untagged, named, bind, Except.bind,
      next?_upTo ['=', ',', ')'] (by decide) behind, next?_upTo [',', ')'] (by decide) behind]
    rfl
  simp only [reader, rule, parameterList] at one ⊢
  rw [one]
  rfl

/-- What the grammar reads of a definition: its keyword, its name, and the parameters it takes. -/
def parameters : Shape → List Tree
  | .function | .filter => []
  | .bracketed => [.branch .parameters []]
  | .parameterized => [.branch .parameters [.branch .parameterList []]]

def tree : Tree :=
  .branch .definition (.leaf .keyword definition.shape.keyword ::
    .leaf .definitionName definition.name :: parameters definition.shape)

section Headings

variable {read : Reader} {found : Found} {named : Tree} {s opened shut rest : Text}

/-- A definition without brackets is its keyword and its name. -/
theorem definition_braced {brace : Found} (name : definitionName found.rest = .ok (named, s))
    (next : one [.sign '(', .sign '{'] s = .ok brace) (token : brace.token = .sign '{')
    (opens : sign '{' s = .ok opened) (body : read .definitionBody opened = .ok ([], shut))
    (closes : closing '}' shut = .ok rest) :
    Script.definition read found =
      .ok ([.branch .definition [.leaf .keyword found.text, named]], rest) := by
  simp only [Script.definition, name, next, token, opens, body, closes, bind, Except.bind, if_true]
  rfl

/-- A definition with brackets is its keyword, its name and what is between the brackets. -/
theorem definition_bracketed {bracket : Found} {trees : List Tree} {inside behind : Text}
    (name : definitionName found.rest = .ok (named, s))
    (next : one [.sign '(', .sign '{'] s = .ok bracket) (token : bracket.token = .sign '(')
    (list : Script.definition.optionalParameters read bracket.rest = .ok (trees, inside))
    (ends : sign ')' inside = .ok behind)
    (opens : sign '{' behind = .ok opened) (body : read .definitionBody opened = .ok ([], shut))
    (closes : closing '}' shut = .ok rest) :
    Script.definition read found =
      .ok ([.branch .definition [.leaf .keyword found.text, named, .branch .parameters trees]],
        rest) := by
  have other : (Token.sign '(' = .sign '{') = False := by decide
  simp only [Script.definition, name, next, token, list, ends, opens, body, closes, other, bind,
    Except.bind, if_false]
  rfl

end Headings

/-- A definition is read behind its keyword, and nothing behind it. -/
theorem definition_lead (depth : Nat) (rest : Text) :
    Script.definition (reader (depth + 3)) (definition.lead rest) =
      .ok ([definition.tree], rest) := by
  have named := definition.definitionName_lead rest
  have opens : Stands (' ' :: '{' :: ' ' :: '}' :: rest) '{' (' ' :: '}' :: rest) :=
    .behind rfl (.here rfl _)
  have body : reader (depth + 3) .definitionBody (' ' :: '}' :: rest) =
      .ok ([], ' ' :: '}' :: rest) := definitionBody_empty _ rest
  have closes : closing '}' (' ' :: '}' :: rest) = .ok rest :=
    closing_eq (.behind rfl (.here rfl rest))
  have ends : Stands (')' :: ' ' :: '{' :: ' ' :: '}' :: rest) ')'
      (' ' :: '{' :: ' ' :: '}' :: rest) := .here rfl _
  rw [tree, ← definition.text_lead rest]
  cases shape : definition.shape with
  | function | filter =>
      rw [shape] at named
      exact definition_braced named
        (one_sign ['(', '{'] (by decide) (by decide) opens) rfl (sign_eq opens) body closes
  | bracketed =>
      have list : Script.definition.optionalParameters (reader (depth + 3))
          (')' :: ' ' :: '{' :: ' ' :: '}' :: rest) =
            .ok ([], ')' :: ' ' :: '{' :: ' ' :: '}' :: rest) := by
        simp only [Script.definition.optionalParameters, next?_upTo [')'] (by decide) ends]
        rfl
      rw [shape] at named
      exact definition_bracketed named (one_sign ['(', '{'] (by decide) (by decide) (.here rfl _))
        rfl list (sign_eq ends) (sign_eq opens) body closes
  | parameterized =>
      have dollar : Stands ('$' :: 'x' :: ')' :: ' ' :: '{' :: ' ' :: '}' :: rest) '$'
          ('x' :: ')' :: ' ' :: '{' :: ' ' :: '}' :: rest) := .here rfl _
      have list : Script.definition.optionalParameters (reader (depth + 3))
          ('$' :: 'x' :: ')' :: ' ' :: '{' :: ' ' :: '}' :: rest) =
            .ok ([.branch .parameterList []], ')' :: ' ' :: '{' :: ' ' :: '}' :: rest) := by
        simp only [Script.definition.optionalParameters, next?_upTo [')'] (by decide) dollar]
        exact parameterList_one depth _
      rw [shape] at named
      exact definition_bracketed named (one_sign ['(', '{'] (by decide) (by decide) (.here rfl _))
        rfl list (sign_eq ends) (sign_eq opens) body closes

/-! ## Statements -/

variable {depth : Nat}

theorem lead?_keyword (shape : Shape) :
    (Token.word shape.keyword).lead? = some .definition := by
  cases shape <;> rfl

/-- A definition is read as a statement of its own. -/
theorem statement_letters (blank : ∀ d ∈ front, isBlank d = true) (fitting : Fitting)
    (rest : Text) : statement (reader (depth + 3)) fitting (front ++ (definition.letters ++ rest)) =
      .ok ([definition.tree], rest) := by
  have next : one statementTokens (front ++ (definition.letters ++ rest)) =
      .ok (definition.lead rest) := by
    rw [one, definition.next?_statement blank]
  have token : (definition.lead rest).token = .word definition.shape.keyword := rfl
  simp only [statement, next, bind, Except.bind, token, lead?_keyword, led]
  exact definition.definition_lead depth rest

theorem statements_nil : reader (depth + 1) (.statements none) [] = .ok ([], []) := by
  have nothing : Fitting.next? ⟨false, statementTokens⟩ [] = none := by decide +kernel
  simp only [reader, rule, statements, Option.toList_none, List.map_nil, List.nil_append, nothing]
  rfl

/-- A definition is read in front of the statements behind it. -/
theorem statements_cons (blank : ∀ d ∈ front, isBlank d = true) {rest : Text} {trees : List Tree}
    (others : reader (depth + 4) (.statements none) rest = .ok (trees, [])) :
    reader (depth + 5) (.statements none) (front ++ (definition.letters ++ rest)) =
      .ok (definition.tree :: trees, []) := by
  have next := definition.next?_statement blank rest
  have first : reader (depth + 4) (.statement ⟨false, statementTokens⟩)
      (front ++ (definition.letters ++ rest)) = .ok ([definition.tree], rest) :=
    definition.statement_letters blank _ rest
  rw [reader, rule]
  simp only [statements, Option.toList_none, List.map_nil, List.nil_append, next, both, first,
    asItem, Except.mapError, others, bind, Except.bind]
  rfl

/-- Definitions on lines of their own are read one after another to the end of the text. -/
theorem statements_letters (blank : ∀ d ∈ front, isBlank d = true) (others : List Written)
    (enough : others.length + 5 ≤ depth) :
    reader depth (.statements none) (front ++ (definition.letters ++ linesBehind others)) =
      .ok ((definition :: others).map tree, []) := by
  induction others generalizing definition front depth with
  | nil =>
      obtain ⟨depth, rfl⟩ : ∃ inner, depth = inner + 5 := ⟨depth - 5, by omega⟩
      exact statements_cons definition blank statements_nil
  | cons second others ih =>
      obtain ⟨depth, rfl⟩ : ∃ inner, depth = inner + 5 := ⟨depth - 5, by omega⟩
      rw [List.length_cons] at enough
      -- the statements behind a statement are read one level deeper than it
      have lineBreak : ∀ d ∈ ['\n'], isBlank d = true := List.forall_mem_singleton.mpr rfl
      exact statements_cons definition blank (ih second lineBreak (by omega))

theorem withoutMark_letters (rest : Text) :
    withoutMark (definition.letters ++ rest) = definition.letters ++ rest := by
  rw [letters_append]
  cases definition.shape <;> rfl

/-- A script of definitions has no fault, and holds the definitions in order. -/
theorem script_lines (others : List Written) :
    Script.script (lines (definition :: others)) = .ok ((definition :: others).map tree) := by
  have unmarked : withoutMark (lines (definition :: others)) = lines (definition :: others) :=
    definition.withoutMark_letters _
  have blank : ∀ d ∈ ([] : Text), isBlank d = true := fun _ member => nomatch member
  have params (read : Reader) : leadingParameters? read (lines (definition :: others)) =
      .ok none := by
    have next := definition.next?_content blank (linesBehind others)
    rw [List.nil_append] at next
    rw [lines, leadingParameters?, next, lead]
    cases definition.shape <;> rfl
  have next : Fitting.next? ⟨false, statementTokens⟩ (lines (definition :: others)) =
      some (definition.lead (linesBehind others)) :=
    definition.next?_statement blank _
  have deep : others.length + 5 ≤ depthFor (lines (definition :: others)) := by
    have long := length_le_length_lines (definition :: others)
    rw [List.length_cons] at long
    rw [depthFor]
    omega
  have read : reader (depthFor (lines (definition :: others))) (.statements none)
      (lines (definition :: others)) = .ok ((definition :: others).map tree, []) :=
    definition.statements_letters blank others deep
  have ends : isAtEnd [] = true := rfl
  simp only [Script.script, unmarked, params, bind, Except.bind, Option.getD_none, next,
    Option.isNone_some, Bool.and_false, Bool.false_eq_true, if_false, read, ends, if_true]
  rfl

/-! ## The names in the tree -/

theorem plainQuote_of_isTail (tail : Name.isTail c = true) : plainQuote c = c := by
  have other := ne_of_isTail tail
  simp (disch := decide) only [plainQuote, other, Bool.or_self, Bool.false_eq_true, if_false]

/-- There are no typographic quotes in a definition. -/
theorem map_plainQuote_letters : definition.letters.map plainQuote = definition.letters := by
  have signs : signs.all (fun c => plainQuote c == c) = true := by decide
  simp only [List.all_eq_true, beq_iff_eq] at signs
  rw [List.map_congr_left fun c member => (definition.isTail_or_mem_signs member).elim
    plainQuote_of_isTail (signs c), List.map_id']

theorem map_plainQuote_linesBehind (definitions : List Written) :
    (linesBehind definitions).map plainQuote = linesBehind definitions := by
  induction definitions with
  | nil => rfl
  | cons first rest ih =>
      rw [linesBehind, List.map_cons, List.map_append, map_plainQuote_letters, ih]
      rfl

theorem map_plainQuote_lines (definitions : List Written) :
    (lines definitions).map plainQuote = lines definitions := by
  cases definitions with
  | nil => rfl
  | cons first rest =>
      rw [lines, List.map_append, map_plainQuote_letters, map_plainQuote_linesBehind]

theorem flawed_tree : definition.tree.mark.flawed = false := by
  rw [tree]
  cases definition.shape <;> rfl

theorem definitionsAmong_tree (definitions : List Written) :
    Tree.definitionsAmong (definitions.map tree) = definitions.map tree := by
  induction definitions with
  | nil => rfl
  | cons first rest ih =>
      rw [List.map_cons, tree, Tree.branch, Tree.definitionsAmong, ih]
      rfl

/-- A definition can be run without arguments unless it takes parameters. -/
theorem runnableName?_tree : definition.tree.runnableName? =
    if definition.shape.takesParameters then none else some definition.name := by
  have keyword : (Name.same definition.tree.keyword "function" ||
      Name.same definition.tree.keyword "filter") = true := by
    have keyword : definition.tree.keyword = definition.shape.keyword := rfl
    rw [keyword]
    cases definition.shape <;> decide +kernel
  have name : definition.tree.name? = some definition.name := by
    rw [tree]
    cases definition.shape <;> rfl
  have takes : definition.tree.takesParameters = definition.shape.takesParameters := by
    rw [tree]
    cases definition.shape <;> rfl
  have opens : definition.tree.opensWithParameters = false := by
    rw [tree]
    cases definition.shape <;> rfl
  simp only [Tree.runnableName?, Tree.runnable?, name, Option.map_some, keyword, takes, opens,
    definition.plain, Bool.not_true, Bool.false_eq_true, if_false, if_true, Option.bind_some]
  split <;> rfl

theorem runnableNames_tree (definitions : List Written) :
    (Tree.branch .phrase (definitions.map tree)).runnableNames = runnableNames definitions := by
  rw [Tree.runnableNames, Tree.branch, Tree.definitions, definitionsAmong_tree, runnableNames]
  induction definitions with
  | nil => rfl
  | cons first rest ih =>
      rw [List.map_cons, List.filterMap_cons, runnableName?_tree, ih, List.filter_cons]
      cases first.shape.takesParameters <;> rfl

/-- The grammar finds the definitions without parameters in a script, which has no fault unless it
is empty. -/
theorem definedNames_script (definitions : List Written) :
    definedNames (script definitions) =
      if definitions = [] then .error 1 else .ok (Name.dedup (runnableNames definitions)) := by
  cases definitions with
  | nil => decide +kernel
  | cons first rest =>
      have source : Tree.ofSource (script (first :: rest)) =
          .branch .phrase ((first :: rest).map tree) := by
        rw [Tree.ofSource, toList_script, map_plainQuote_lines, Tree.ofText, script_lines]
      have whole : (Tree.branch .phrase ((first :: rest).map tree)).isFlawed = false := by
        rw [Tree.branch, Tree.isFlawed, Tree.mark, List.any_map, List.any_eq_false]
        intro definition member
        simp only [Function.comp_apply, flawed_tree, Bool.false_eq_true, not_false_eq_true]
      simp only [definedNames, source, whole, runnableNames_tree, Bool.false_eq_true, if_false,
        reduceCtorEq]

end Written

end ScriptRoster.Script
