import ScriptRoster.Proofs.Invocation.Command

/-!
# What the literal of a command stands for

An interpreter takes two quotes in a row for one of them and every other character for itself, a
backslash too. Quotes are put down in pairs and so come back as they were; backslashes are put down
in pairs as well and come back doubled. The literal of a command therefore stands for the path if
and only if the path has no backslash.
-/

namespace ScriptRoster.Invocation

open Files Text

/-- Reads a literal from behind its opening quote on: the text that it stands for, and what stands
behind the quote that ends it. -/
def literalText? : List Char → Option (List Char × List Char)
  | [] => none
  | [c] => if c ∈ quotes then some ([], []) else none
  | c :: d :: rest =>
      if c ∈ quotes then
        if d ∈ quotes then (literalText? rest).map fun read => (d :: read.1, read.2)
        else some ([], d :: rest)
      else (literalText? (d :: rest)).map fun read => (c :: read.1, read.2)

/-- A text with each of its backslashes twice. -/
def doubleBackslashes : List Char → List Char
  | [] => []
  | c :: rest =>
      if c = '\\' then '\\' :: '\\' :: doubleBackslashes rest else c :: doubleBackslashes rest

variable {c d : Char} {s rest : List Char}

/-! ## The reader -/

theorem literalText?_one (c : Char) :
    literalText? [c] = if c ∈ quotes then some ([], []) else none := rfl

theorem literalText?_two (c d : Char) (rest : List Char) :
    literalText? (c :: d :: rest) =
      if c ∈ quotes then
        if d ∈ quotes then (literalText? rest).map fun read => (d :: read.1, read.2)
        else some ([], d :: rest)
      else (literalText? (d :: rest)).map fun read => (c :: read.1, read.2) := rfl

/-- A character that is no quote stands for itself. -/
theorem literalText?_cons (plain : c ∉ quotes) (s : List Char) :
    literalText? (c :: s) = (literalText? s).map fun read => (c :: read.1, read.2) := by
  cases s with
  | nil => exact if_neg plain
  | cons d rest => exact if_neg plain

/-- Two quotes side by side stand for the second of them. -/
theorem literalText?_pair (first : c ∈ quotes) (second : d ∈ quotes) (s : List Char) :
    literalText? (c :: d :: s) = (literalText? s).map fun read => (d :: read.1, read.2) := by
  rw [literalText?_two, if_pos first, if_pos second]

/-- A quote that stands alone ends the literal. -/
theorem literalText?_end (quote : c ∈ quotes) (single : ∀ d, rest.head? = some d → d ∉ quotes) :
    literalText? (c :: rest) = some ([], rest) := by
  cases rest with
  | nil => rw [literalText?_one, if_pos quote]
  | cons d rest => rw [literalText?_two, if_pos quote, if_neg (single d rfl)]

/-! ## The writer -/

theorem doubleBackslashes_cons (c : Char) (s : List Char) :
    doubleBackslashes (c :: s) =
      if c = '\\' then '\\' :: '\\' :: doubleBackslashes s else c :: doubleBackslashes s := rfl

/-- What is written inside a literal stands for the text with each backslash twice. -/
theorem literalText?_escape (s : List Char) (quote : c ∈ quotes)
    (single : ∀ d, rest.head? = some d → d ∉ quotes) :
    literalText? (escape s ++ c :: rest) = some (doubleBackslashes s, rest) := by
  induction s with
  | nil => exact literalText?_end quote single
  | cons first s ih =>
      by_cases special : first ∈ quotes
      · have other : first ≠ '\\' := by
          rintro rfl
          exact absurd special (by decide)
        rw [escape_cons_quote special, doubleBackslashes_cons, if_neg other]
        simp only [List.cons_append, literalText?_pair special special, ih, Option.map_some]
      · by_cases same : first = '\\'
        · subst same
          rw [escape_cons_backslash, doubleBackslashes_cons, if_pos rfl]
          simp only [List.cons_append, literalText?_cons special, ih, Option.map_some]
        · rw [escape_cons_plain special same, doubleBackslashes_cons, if_neg same]
          simp only [List.cons_append, literalText?_cons special, ih, Option.map_some]

example : literalText? "it''s\\'; A".toList = some ("it's\\".toList, "; A".toList) := by
  decide +kernel

theorem length_le_doubleBackslashes (s : List Char) :
    s.length ≤ (doubleBackslashes s).length := by
  induction s with
  | nil => exact Nat.le_refl 0
  | cons c s ih =>
      rw [doubleBackslashes_cons]
      split
      · simp only [List.length_cons]
        omega
      · simpa using ih

/-- Doubling leaves a text as it is if and only if there is nothing to double. -/
theorem doubleBackslashes_eq_self_iff : doubleBackslashes s = s ↔ '\\' ∉ s := by
  induction s with
  | nil => exact iff_of_true rfl List.not_mem_nil
  | cons c s ih =>
      by_cases same : c = '\\'
      · subst same
        refine iff_of_false ?_ (by simp)
        intro equal
        have atLeast := length_le_doubleBackslashes s
        have lengths := congrArg List.length equal
        rw [doubleBackslashes_cons, if_pos rfl] at lengths
        simp only [List.length_cons] at lengths
        omega
      · rw [doubleBackslashes_cons, if_neg same, List.cons.injEq, ih]
        simp [Ne.symm same]

/-! ## Commands -/

/-- An interpreter that reads the literal of a command has the path with each backslash twice. So it
has the path itself if and only if the path has no backslash. -/
theorem literal_doubles_backslashes (path name : String) (plain : Name.isPlain name = true) :
    ∃ composed, command (.ofString path) name = .ok composed ∧
      composed.toList.take 3 = ". '".toList ∧
      literalText? (composed.toList.drop 3) =
        some (doubleBackslashes path.toList, "; ".toList ++ name.toList) ∧
      ((∃ call, literalText? (composed.toList.drop 3) = some (path.toList, call)) ↔
        '\\' ∉ path.toList) := by
  obtain ⟨composed, ok⟩ : ∃ composed, command (.ofString path) name = .ok composed := by
    rw [command_ofString, if_pos plain]
    exact ⟨_, rfl⟩
  obtain ⟨-, letters⟩ := toList_command ok
  have front : (". '".toList).length = 3 := by decide +kernel
  have read : literalText? (composed.toList.drop 3) =
      some (doubleBackslashes path.toList, "; ".toList ++ name.toList) := by
    rw [letters, ← front, List.drop_left]
    apply literalText?_escape
    · decide
    · intro d first
      have semicolon : d = ';' := by simpa [eq_comm] using first
      subst semicolon
      decide
  refine ⟨composed, ok, ?_, read, ?_⟩
  · rw [letters, ← front, List.take_left]
  · rw [read, ← doubleBackslashes_eq_self_iff]
    simp [eq_comm]

/-- A path with quotes of two kinds and a space, and one with a backslash. -/
theorem literal_doubles_backslashes_quoted :
    (∃ composed call, command (.ofString "/it\u2019s O'B.ps1") "Get-A" = .ok composed ∧
      literalText? (composed.toList.drop 3) = some ("/it\u2019s O'B.ps1".toList, call)) ∧
    ∃ composed call, command (.ofString "/a\\'b") "Get-A" = .ok composed ∧
      literalText? (composed.toList.drop 3) = some ("/a\\\\'b".toList, call) := by
  have plain : Name.isPlain "Get-A" = true := by decide +kernel
  constructor
  · obtain ⟨composed, ok, -, -, stands⟩ :=
      literal_doubles_backslashes "/it\u2019s O'B.ps1" "Get-A" plain
    obtain ⟨call, read⟩ := stands.mpr (by decide +kernel)
    exact ⟨composed, call, ok, read⟩
  · obtain ⟨composed, ok, -, read, -⟩ := literal_doubles_backslashes "/a\\'b" "Get-A" plain
    have doubled : doubleBackslashes "/a\\'b".toList = "/a\\\\'b".toList := by decide +kernel
    rw [doubled] at read
    exact ⟨composed, _, ok, read⟩

/-- The literal of a command does not stand for every path. -/
theorem literal_misses_path :
    ¬ ∀ path name : String, Name.isPlain name = true →
      ∃ composed call, command (.ofString path) name = .ok composed ∧
        literalText? (composed.toList.drop 3) = some (path.toList, call) := by
  intro stands
  obtain ⟨composed, call, ok, read⟩ := stands "/a\\b" "A" (by decide +kernel)
  have written : command (.ofString "/a\\b") "A" = .ok ". '/a\\\\b'; A" := by
    rw [command_ofString, if_pos (by decide +kernel)]
    exact congrArg Except.ok (by decide +kernel)
  cases ok.symm.trans written
  have text : literalText? (". '/a\\\\b'; A".toList.drop 3) =
      some ("/a\\\\b".toList, "; A".toList) := by decide +kernel
  cases read.symm.trans text

end ScriptRoster.Invocation
