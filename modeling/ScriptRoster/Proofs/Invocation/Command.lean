import ScriptRoster.Invocation.Command
import ScriptRoster.Proofs.Name
import ScriptRoster.Proofs.Text.Utf8

/-!
# A command holds one literal and one name

Whatever the path of a script is, a reader of the command who takes two quotes in a row for one, of
whatever kinds they are, and a single one for the end of the literal, stops at the quote that was
put behind the path. What is left is the call of one plain name, so nothing in a path or a name can
add to the command.

The reader is defined on its own: it knows the quotes, not how a path is written.
-/

namespace ScriptRoster.Invocation

open Files Text

/-- The characters that an interpreter takes for a single quote. -/
def quotes : List Char := ['\'', '\u2018', '\u2019', '\u201a', '\u201b']

/-- Reads a literal from behind its opening quote on: what stands in it, as it is written there, and
what stands behind the quote that ends it. -/
def readLiteral? : List Char → Option (List Char × List Char)
  | [] => none
  | [c] => if c ∈ quotes then some ([], []) else none
  | c :: d :: rest =>
      if c ∈ quotes then
        if d ∈ quotes then (readLiteral? rest).map fun read => (c :: d :: read.1, read.2)
        else some ([], d :: rest)
      else (readLiteral? (d :: rest)).map fun read => (c :: read.1, read.2)

/-- Takes one of two equal quotes or backslashes in a row away. -/
def undouble : List Char → List Char
  | [] => []
  | [c] => [c]
  | c :: d :: rest =>
      if (c = '\\' ∨ c ∈ quotes) ∧ d = c then c :: undouble rest else c :: undouble (d :: rest)

variable {c d : Char} {s rest : List Char}

/-- All characters that the interpreter takes for single quotes are doubled. -/
theorem isQuote_iff (c : Char) : isQuote c = true ↔ c ∈ quotes := by
  simp [isQuote, quotes, or_assoc]

/-! ## The reader -/

theorem readLiteral?_one (c : Char) :
    readLiteral? [c] = if c ∈ quotes then some ([], []) else none := rfl

theorem readLiteral?_two (c d : Char) (rest : List Char) :
    readLiteral? (c :: d :: rest) =
      if c ∈ quotes then
        if d ∈ quotes then (readLiteral? rest).map fun read => (c :: d :: read.1, read.2)
        else some ([], d :: rest)
      else (readLiteral? (d :: rest)).map fun read => (c :: read.1, read.2) := rfl

theorem readLiteral?_cons (plain : c ∉ quotes) (s : List Char) :
    readLiteral? (c :: s) = (readLiteral? s).map fun read => (c :: read.1, read.2) := by
  cases s with
  | nil => exact if_neg plain
  | cons d rest => exact if_neg plain

theorem readLiteral?_pair (first : c ∈ quotes) (second : d ∈ quotes) (s : List Char) :
    readLiteral? (c :: d :: s) = (readLiteral? s).map fun read => (c :: d :: read.1, read.2) := by
  rw [readLiteral?_two, if_pos first, if_pos second]

theorem readLiteral?_end (quote : c ∈ quotes) (single : ∀ d, rest.head? = some d → d ∉ quotes) :
    readLiteral? (c :: rest) = some ([], rest) := by
  cases rest with
  | nil => rw [readLiteral?_one, if_pos quote]
  | cons d rest => rw [readLiteral?_two, if_pos quote, if_neg (single d rfl)]

/-! ## The writer -/

theorem escape_cons (c : Char) (s : List Char) :
    escape (c :: s) = if c == '\\' || isQuote c then c :: c :: escape s else c :: escape s := rfl

theorem escape_cons_quote (quote : c ∈ quotes) (s : List Char) :
    escape (c :: s) = c :: c :: escape s := by
  rw [escape_cons, (isQuote_iff c).mpr quote, Bool.or_true, if_pos rfl]

theorem escape_cons_backslash (s : List Char) :
    escape ('\\' :: s) = '\\' :: '\\' :: escape s := rfl

theorem escape_cons_plain (plain : c ∉ quotes) (other : c ≠ '\\') (s : List Char) :
    escape (c :: s) = c :: escape s := by
  have plain : isQuote c = false := by
    rw [← Bool.not_eq_true, isQuote_iff]
    exact plain
  rw [escape_cons, plain, beq_false_of_ne other, Bool.or_false, if_neg Bool.false_ne_true]

/-- The writer puts quotes down in pairs, so a reader finds none of them single. -/
theorem readLiteral?_escape (s : List Char) (quote : c ∈ quotes)
    (single : ∀ d, rest.head? = some d → d ∉ quotes) :
    readLiteral? (escape s ++ c :: rest) = some (escape s, rest) := by
  induction s with
  | nil => exact readLiteral?_end quote single
  | cons first s ih =>
      by_cases special : first ∈ quotes
      · rw [escape_cons_quote special]
        simp only [List.cons_append, readLiteral?_pair special special, ih, Option.map_some]
      · by_cases same : first = '\\'
        · subst same
          rw [escape_cons_backslash]
          simp only [List.cons_append, readLiteral?_cons special, ih, Option.map_some]
        · rw [escape_cons_plain special same]
          simp only [List.cons_append, readLiteral?_cons special, ih, Option.map_some]

example : readLiteral? ("it''s'; A".toList) = some ("it''s".toList, "; A".toList) := by
  decide +kernel

theorem undouble_two (c d : Char) (s : List Char) :
    undouble (c :: d :: s) =
      if (c = '\\' ∨ c ∈ quotes) ∧ d = c then c :: undouble s else c :: undouble (d :: s) := rfl

theorem undouble_pair (special : c = '\\' ∨ c ∈ quotes) (s : List Char) :
    undouble (c :: c :: s) = c :: undouble s := by
  rw [undouble_two, if_pos ⟨special, rfl⟩]

theorem undouble_cons (plain : c ∉ quotes) (other : c ≠ '\\') (s : List Char) :
    undouble (c :: s) = c :: undouble s := by
  cases s with
  | nil => rfl
  | cons d rest => exact if_neg fun special => special.1.elim other plain

/-- Undoubling takes back what escaping does. -/
theorem undouble_escape (s : List Char) : undouble (escape s) = s := by
  induction s with
  | nil => rfl
  | cons first s ih =>
      by_cases special : first ∈ quotes
      · rw [escape_cons_quote special, undouble_pair (.inr special), ih]
      · by_cases same : first = '\\'
        · subst same
          rw [escape_cons_backslash, undouble_pair (.inl rfl), ih]
        · rw [escape_cons_plain special same, undouble_cons special same, ih]

/-! ## Commands -/

variable {path name composed : String}

/-- A command for a path that is text is composed if and only if the name is plain. -/
theorem command_ofString (path name : String) :
    command (.ofString path) name =
      if Name.isPlain name then .ok (". '" ++ quoted path ++ "'; " ++ name)
      else .error (.invalidName name) := by
  rw [command, Path.text?, Path.ofString, decode?_encode]

/-- A command is the path between quotes and a plain name behind it. -/
theorem toList_command (ok : command (.ofString path) name = .ok composed) :
    Name.isPlain name = true ∧
      composed.toList =
        ". '".toList ++ (escape path.toList ++ '\'' :: ("; ".toList ++ name.toList)) := by
  rw [command_ofString] at ok
  split at ok
  · next plain =>
      cases ok
      refine ⟨plain, ?_⟩
      simp [String.toList_append, quoted, List.append_assoc]
  · cases ok

/-- The path and the name of a command can be read off it. -/
theorem readLiteral?_command (ok : command (.ofString path) name = .ok composed) :
    readLiteral? (composed.toList.drop 3) =
      some (escape path.toList, "; ".toList ++ name.toList) := by
  obtain ⟨-, letters⟩ := toList_command ok
  have front : (". '".toList).length = 3 := rfl
  rw [letters, ← front, List.drop_left]
  apply readLiteral?_escape
  · decide
  · intro d first
    have semicolon : d = ';' := by simpa [eq_comm] using first
    subst semicolon
    decide

/-- Different paths or names never make the same command. -/
theorem command_injective {other called : String}
    (ok : command (.ofString path) name = .ok composed)
    (same : command (.ofString other) called = .ok composed) : other = path ∧ called = name := by
  have read := readLiteral?_command ok
  rw [readLiteral?_command same] at read
  obtain ⟨literal, call⟩ := Prod.mk.inj (Option.some.inj read)
  constructor
  · have letters := congrArg undouble literal
    rw [undouble_escape, undouble_escape] at letters
    exact String.toList_injective letters
  · exact String.toList_injective (List.append_cancel_left call)

/-- A reader who starts behind the opening quote of a command stops at the quote that was put behind
the path, and neither earlier nor later. What it has read stands for the path, and what is left is
the call of one plain name. So a command tells of what path and name it was composed. -/
theorem nothing_leaves_the_literal (path name : String) {composed : String}
    (ok : command (.ofString path) name = .ok composed) :
    ∃ literal,
      composed.toList =
          ". '".toList ++ (literal ++ '\'' :: ("; ".toList ++ name.toList)) ∧
        readLiteral? (composed.toList.drop 3) = some (literal, "; ".toList ++ name.toList) ∧
        undouble literal = path.toList ∧
        (∃ head tail, name.toList = head :: tail ∧ Name.Begins head ∧
          ∀ c ∈ tail, Name.GoesOn c) ∧
        ∀ other called, command (.ofString other) called = .ok composed →
          other = path ∧ called = name := by
  obtain ⟨plain, letters⟩ := toList_command ok
  refine ⟨escape path.toList, letters, readLiteral?_command ok, undouble_escape _, ?_, ?_⟩
  · exact (Name.isPlain_iff name).mp plain
  · intro other called same
    exact command_injective ok same

/-- A path that ends in a backslash and two kinds of quotes, the last of them beside the closing
one. -/
theorem nothing_leaves_the_literal_quoted :
    command (.ofString "/it\u2019s\\\u201b'") "Get-A" =
        .ok ". '/it\u2019\u2019s\\\\\u201b\u201b'''; Get-A" ∧
      ∃ literal,
        readLiteral? "/it\u2019\u2019s\\\\\u201b\u201b'''; Get-A".toList =
            some (literal, "; Get-A".toList) ∧
          undouble literal = "/it\u2019s\\\u201b'".toList := by
  have ok : command (.ofString "/it\u2019s\\\u201b'") "Get-A" =
      .ok ". '/it\u2019\u2019s\\\\\u201b\u201b'''; Get-A" := by
    rw [command_ofString, if_pos (by decide +kernel)]
    exact congrArg Except.ok (by decide +kernel)
  obtain ⟨literal, -, read, path, -⟩ := nothing_leaves_the_literal _ _ ok
  exact ⟨ok, literal, by simpa using read, path⟩

end ScriptRoster.Invocation
