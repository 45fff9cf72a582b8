import ScriptRoster.Extraction
import ScriptRoster.Proofs.Script.Listing

/-!
# All definitions of a text are found

How a definition without parameters is written, letter by letter, and where one stands in a text. The
scan reads a text from left to right and goes on behind each definition that it finds, so it has to
be shown that it passes over none: a definition that is found may reach over several lines, but none
of these lines opens another one.
-/

namespace ScriptRoster.Script.Listing

open Text

/-! ## Definitions as they are written -/

/-- A letter or an underscore. Letters are those of ASCII and the two that are taken for one. -/
def BeginsName (c : Char) : Prop := Name.Begins c ∨ c = '\u017f' ∨ c = '\u212a'

/-- A letter, a digit, an underscore or a hyphen. -/
def GoesOnName (c : Char) : Prop := Name.GoesOn c ∨ c = '\u017f' ∨ c = '\u212a'

/-- The word that introduces a definition, in letters of any size. -/
def IsKeyword (word : List Char) : Prop :=
  word.map Char.toLower = "function".toList ∨ word.map Char.toLower = "filter".toList

def AreGaps (letters : List Char) : Prop := ∀ c ∈ letters, c = ' ' ∨ c = '\t'

def AreBlanks (letters : List Char) : Prop := ∀ c ∈ letters, isBlank c = true

/-- What may stand between a name and its brace: white space, and in it an empty pair of brackets. -/
inductive IsPassage : List Char → Prop
  | blank {blanks : List Char} (blank : AreBlanks blanks) : IsPassage blanks
  | bracketed {before inside behind : List Char} (before_blank : AreBlanks before)
      (inside_blank : AreBlanks inside) (behind_blank : AreBlanks behind) :
      IsPassage (before ++ '(' :: (inside ++ ')' :: behind))

/-- A definition without parameters as it is written, up to its brace. -/
structure Opening where
  indent : List Char
  keyword : List Char
  gap : List Char
  name : List Char
  passage : List Char
  indented : AreGaps indent
  introduced : IsKeyword keyword
  parted : gap ≠ []
  gapped : AreGaps gap
  named : ∃ head tail, name = head :: tail ∧ BeginsName head ∧ ∀ c ∈ tail, GoesOnName c
  passed : IsPassage passage

namespace Opening

/-- What stands in front of the brace and behind the name, with the brace. -/
def ending (opening : Opening) : List Char := opening.passage ++ ['\x7b']

/-- The letters of a definition up to its brace. -/
def letters (opening : Opening) : List Char :=
  opening.indent ++ opening.keyword ++ opening.gap ++ opening.name ++ opening.ending

end Opening

theorem isNameHead_iff_beginsName (c : Char) : isNameHead c = true ↔ BeginsName c := by
  rw [isNameHead_iff, Name.isHead_iff, BeginsName]

theorem isNameTail_iff_goesOnName (c : Char) : isNameTail c = true ↔ GoesOnName c := by
  rw [isNameTail_iff, Name.isTail_iff, GoesOnName]

theorem isGap_iff (c : Char) : isGap c = true ↔ c = ' ' ∨ c = '\t' := by
  simp [isGap]

variable {s rest name : List Char} {c d : Char}

/-! ## Keywords -/

theorem fold_eq_iff (plain : d ∉ ['s', 'k', '\u017f', '\u212a']) : fold c = d ↔ c.toLower = d := by
  simp only [List.mem_cons, List.not_mem_nil, or_false, not_or] at plain
  obtain ⟨notS, notK, notLong, notKelvin⟩ := plain
  by_cases long : c = '\u017f'
  · subst long
    exact ⟨fun same => absurd same.symm notS, fun same => absurd same.symm notLong⟩
  by_cases kelvin : c = '\u212a'
  · subst kelvin
    exact ⟨fun same => absurd same.symm notK, fun same => absurd same.symm notKelvin⟩
  · simp only [fold, beq_iff_eq, long, kelvin, if_false]

/-- A word without the letters that others fold to is found in letters of any size. -/
theorem map_fold_eq_iff {letters word : List Char}
    (plain : ∀ d ∈ word, d ∉ ['s', 'k', '\u017f', '\u212a']) :
    letters.map fold = word ↔ letters.map Char.toLower = word := by
  induction letters generalizing word with
  | nil => rfl
  | cons c letters ih =>
      cases word with
      | nil => simp
      | cons d word =>
          rw [List.map_cons, List.map_cons, List.cons.injEq, List.cons.injEq,
            fold_eq_iff (plain d List.mem_cons_self),
            ih fun d member => plain d (List.mem_cons_of_mem _ member)]

theorem isKeyword_iff (word : List Char) :
    IsKeyword word ↔ word.map fold = "function".toList ∨ word.map fold = "filter".toList := by
  rw [map_fold_eq_iff (by simp), map_fold_eq_iff (by simp), IsKeyword]

theorem word?_append {word letters : List Char} (spells : letters.map fold = word) :
    word? word (letters ++ rest) = some rest := by
  subst spells
  induction letters with
  | nil => rfl
  | cons c letters ih => simpa only [List.map_cons, List.cons_append, word?, beq_self_eq_true]

theorem exists_of_word? {word : List Char} (found : word? word s = some rest) :
    ∃ letters, letters.map fold = word ∧ s = letters ++ rest := by
  induction word generalizing s with
  | nil =>
      cases found
      exact ⟨[], rfl, rfl⟩
  | cons c word ih =>
      cases s with
      | nil => cases found
      | cons d s =>
          rw [word?] at found
          split at found
          · next same =>
              obtain ⟨letters, rfl, rfl⟩ := ih found
              exact ⟨d :: letters, by rw [List.map_cons, ← eq_of_beq same], rfl⟩
          · cases found

/-- The keywords differ in their second letters. -/
theorem word?_function_of_filter {letters : List Char}
    (spells : letters.map fold = "filter".toList) :
    word? "function".toList (letters ++ rest) = none := by
  have short : "filter".toList = 'f' :: 'i' :: "lter".toList := rfl
  have long : "function".toList = 'f' :: 'u' :: "nction".toList := rfl
  rw [short, List.map_eq_cons_iff] at spells
  obtain ⟨first, more, rfl, -, spells⟩ := spells
  obtain ⟨second, more, rfl, there, -⟩ := List.map_eq_cons_iff.mp spells
  rw [long, List.cons_append, List.cons_append, word?, word?, there]
  simp

theorem keyword?_eq_some_iff :
    keyword? s = some rest ↔ ∃ word, IsKeyword word ∧ s = word ++ rest := by
  simp only [isKeyword_iff]
  constructor
  · intro found
    unfold keyword? at found
    split at found
    · next long =>
        cases found
        obtain ⟨word, spells, same⟩ := exists_of_word? long
        exact ⟨word, .inl spells, same⟩
    · obtain ⟨word, spells, same⟩ := exists_of_word? found
      exact ⟨word, .inr spells, same⟩
  · rintro ⟨word, spells | spells, rfl⟩
    · rw [keyword?, word?_append spells]
    · rw [keyword?, word?_function_of_filter spells, word?_append spells]

/-! ## Up to the brace -/

theorem skipBlanks_append {blanks : List Char} (blank : AreBlanks blanks) (stop : isBlank c = false) :
    skipBlanks (blanks ++ c :: rest) = c :: rest := by
  rw [skipBlanks, List.dropWhile_append_of_pos blank, List.dropWhile_cons_of_neg (by simp [stop])]

theorem exists_of_skipBlanks (skipped : skipBlanks s = c :: rest) :
    ∃ blanks, AreBlanks blanks ∧ s = blanks ++ c :: rest := by
  refine ⟨s.takeWhile isBlank, ?_, ?_⟩
  · exact List.all_eq_true.mp List.all_takeWhile
  · rw [← skipped]
    exact List.takeWhile_append_dropWhile.symm

theorem opening?_eq_some_iff :
    opening? s = some rest ↔ ∃ passage, IsPassage passage ∧ s = passage ++ '\x7b' :: rest := by
  constructor
  · intro found
    unfold opening? at found
    split at found
    · next opened =>
        cases found
        obtain ⟨blanks, blank, rfl⟩ := exists_of_skipBlanks opened
        exact ⟨blanks, .blank blank, rfl⟩
    · next inside opened =>
        split at found
        · next behind closed =>
            split at found
            · next braced =>
                cases found
                obtain ⟨first, firstBlank, rfl⟩ := exists_of_skipBlanks opened
                obtain ⟨second, secondBlank, rfl⟩ := exists_of_skipBlanks closed
                obtain ⟨third, thirdBlank, rfl⟩ := exists_of_skipBlanks braced
                exact ⟨_, .bracketed firstBlank secondBlank thirdBlank, by simp⟩
            · cases found
        · cases found
    · cases found
  · rintro ⟨passage, passed, rfl⟩
    cases passed with
    | blank blank =>
        have braced := @skipBlanks_append rest '\x7b' _ blank rfl
        simp only [opening?, braced]
    | @bracketed before inside behind first second third =>
        have opened := @skipBlanks_append (inside ++ ')' :: (behind ++ '\x7b' :: rest)) '(' _ first rfl
        have closed := @skipBlanks_append (behind ++ '\x7b' :: rest) ')' _ second rfl
        have braced := @skipBlanks_append rest '\x7b' _ third rfl
        simp only [opening?, List.append_assoc, List.cons_append, opened, closed, braced]

/-! ## The definition that a line opens -/

theorem not_isGap_of_beginsName (begins : BeginsName c) : isGap c = false := by
  rw [← isNameHead_iff_beginsName] at begins
  rw [Bool.eq_false_iff]
  intro gap
  rcases (isGap_iff c).mp gap with rfl | rfl
  · cases begins
  · cases begins

/-- No letter of a name is white space. -/
theorem isBlank_of_goesOnName (goesOn : GoesOnName c) : isBlank c = false := by
  rcases goesOn with goesOn | rfl | rfl
  · have bounds : 0x2d ≤ c.toNat ∧ c.toNat ≤ 0x7a := by
      rcases goesOn with (upper | lower | rfl) | digit | rfl
      · exact ⟨Nat.le_trans (by decide) upper.1, Nat.le_trans upper.2 (by decide)⟩
      · exact ⟨Nat.le_trans (by decide) lower.1, Nat.le_trans lower.2 (by decide)⟩
      · decide
      · exact ⟨Nat.le_trans (by decide) digit.1, Nat.le_trans digit.2 (by decide)⟩
      · decide
    simp only [isBlank, Bool.or_eq_false_iff, Bool.and_eq_false_iff, decide_eq_false_iff_not,
      beq_eq_false_iff_ne]
    omega
  · decide
  · decide

/-- No keyword begins with a gap. -/
theorem IsKeyword.exists_cons {word : List Char} (introduced : IsKeyword word) :
    ∃ first more, word = first :: more ∧ first.toLower = 'f' := by
  have long : "function".toList = 'f' :: "unction".toList := rfl
  have short : "filter".toList = 'f' :: "ilter".toList := rfl
  unfold IsKeyword at introduced
  rw [long, short, List.map_eq_cons_iff, List.map_eq_cons_iff] at introduced
  rcases introduced with ⟨first, more, same, lower, -⟩ | ⟨first, more, same, lower, -⟩
  · exact ⟨first, more, same, lower⟩
  · exact ⟨first, more, same, lower⟩

theorem not_isGap_of_toLower (lower : c.toLower = 'f') : isGap c = false := by
  rw [Bool.eq_false_iff]
  intro gap
  rcases (isGap_iff c).mp gap with rfl | rfl
  · exact absurd lower (by decide)
  · exact absurd lower (by decide)

/-- What stands behind the name of a definition, up to its brace: white space, brackets and the
brace itself. -/
def IsSign (c : Char) : Prop := isBlank c = true ∨ c ∈ ['(', ')', '\x7b']

theorem not_goesOnName_of_isSign (sign : IsSign c) : ¬ GoesOnName c := by
  intro goesOn
  rcases sign with blank | member
  · rw [isBlank_of_goesOnName goesOn] at blank
    cases blank
  · rw [← isNameTail_iff_goesOnName] at goesOn
    simp only [List.mem_cons, List.not_mem_nil, or_false] at member
    rcases member with rfl | rfl | rfl <;> exact absurd goesOn (by decide)

theorem IsPassage.isSign {passage : List Char} (passed : IsPassage passage) :
    ∀ c ∈ passage, IsSign c := by
  intro c member
  cases passed with
  | blank blank => exact .inl (blank c member)
  | bracketed before inside behind =>
      simp only [List.mem_append, List.mem_cons] at member
      rcases member with member | rfl | member | rfl | member
      · exact .inl (before c member)
      · exact .inr (by decide)
      · exact .inl (inside c member)
      · exact .inr (by decide)
      · exact .inl (behind c member)

namespace Opening

theorem isSign_of_mem_ending (opening : Opening) : ∀ c ∈ opening.ending, IsSign c := by
  intro c member
  rcases List.mem_append.mp member with passed | brace
  · exact opening.passed.isSign c passed
  · exact .inr (by rw [List.mem_singleton.mp brace]; decide)

/-- The name of a definition does not go on behind it. -/
theorem name_maximal (opening : Opening) : ∀ c ∈ opening.ending.head?, ¬ GoesOnName c :=
  fun c first => not_goesOnName_of_isSign (opening.isSign_of_mem_ending c (List.mem_of_mem_head? first))

theorem exists_ending_cons (opening : Opening) :
    ∃ first more, opening.ending = first :: more ∧ isNameTail first = false := by
  obtain ⟨first, more, ending⟩ :=
    List.exists_cons_of_ne_nil (show opening.ending ≠ [] by simp [ending])
  refine ⟨first, more, ending, ?_⟩
  rw [Bool.eq_false_iff, Ne, isNameTail_iff_goesOnName]
  exact opening.name_maximal first (by rw [ending]; rfl)

/-- A definition that is written is found. -/
theorem definition?_letters (opening : Opening) (rest : List Char) :
    definition? (opening.letters ++ rest) = some (opening.name, rest) := by
  obtain ⟨first, more, word, lower⟩ := opening.introduced.exists_cons
  obtain ⟨head, tail, named, begins, goesOn⟩ := opening.named
  obtain ⟨stop, further, ending, stops⟩ := opening.exists_ending_cons
  obtain ⟨space, spaces, gap⟩ := List.exists_cons_of_ne_nil opening.parted
  have indent : ∀ c ∈ opening.indent, isGap c = true := fun c member =>
    (isGap_iff c).mpr (opening.indented c member)
  have gaps : ∀ c ∈ opening.gap, isGap c = true := fun c member =>
    (isGap_iff c).mpr (opening.gapped c member)
  have tails : ∀ c ∈ tail, isNameTail c = true := fun c member =>
    (isNameTail_iff_goesOnName c).mpr (goesOn c member)
  have lead : (opening.letters ++ rest).dropWhile isGap =
      opening.keyword ++ (opening.gap ++ (opening.name ++ (opening.ending ++ rest))) := by
    rw [letters]
    simp only [List.append_assoc]
    rw [List.dropWhile_append_of_pos indent, word, List.cons_append,
      List.dropWhile_cons_of_neg (by simp [not_isGap_of_toLower lower])]
  have keyword := keyword?_eq_some_iff.mpr ⟨_, opening.introduced, lead⟩
  have behind : (opening.gap ++ (opening.name ++ (opening.ending ++ rest))).dropWhile isGap =
      head :: (tail ++ (opening.ending ++ rest)) := by
    rw [List.dropWhile_append_of_pos gaps, named, List.cons_append,
      List.dropWhile_cons_of_neg (by simp [not_isGap_of_beginsName begins])]
  have taken : (tail ++ (opening.ending ++ rest)).takeWhile isNameTail = tail := by
    rw [List.takeWhile_append_of_pos tails, ending, List.cons_append,
      List.takeWhile_cons_of_neg (by simp [stops]), List.append_nil]
  have dropped : (tail ++ (opening.ending ++ rest)).dropWhile isNameTail =
      opening.ending ++ rest := by
    rw [List.dropWhile_append_of_pos tails, ending, List.cons_append,
      List.dropWhile_cons_of_neg (by simp [stops])]
  have braced : opening? (opening.ending ++ rest) = some rest :=
    opening?_eq_some_iff.mpr ⟨_, opening.passed, by simp [Opening.ending]⟩
  have starts : isNameHead head = true := (isNameHead_iff_beginsName head).mpr begins
  have spaced : isGap space = true := gaps space (by rw [gap]; exact List.mem_cons_self)
  rw [gap, List.cons_append] at keyword behind
  simp only [definition?, keyword, spaced, if_true, behind, starts, taken, dropped, braced,
    Option.map_some]
  rw [named]

end Opening

theorem definition?_eq_some_iff :
    definition? s = some (name, rest) ↔
      ∃ opening : Opening, opening.name = name ∧ s = opening.letters ++ rest := by
  constructor
  · intro found
    obtain ⟨behind, head, tail, keyword, parted, letters, begins, rfl, opened⟩ :=
      definition?_cases found
    obtain ⟨word, introduced, lead⟩ := keyword?_eq_some_iff.mp keyword
    obtain ⟨passage, passed, after⟩ := opening?_eq_some_iff.mp opened
    refine ⟨⟨s.takeWhile isGap, word, behind.takeWhile isGap, head :: tail.takeWhile isNameTail,
      passage, ?_, introduced, parted, ?_, ?_, passed⟩, rfl, ?_⟩
    · exact fun c member => (isGap_iff c).mp (List.all_eq_true.mp List.all_takeWhile c member)
    · exact fun c member => (isGap_iff c).mp (List.all_eq_true.mp List.all_takeWhile c member)
    · refine ⟨head, _, rfl, (isNameHead_iff_beginsName head).mp begins, ?_⟩
      exact fun c member =>
        (isNameTail_iff_goesOnName c).mp (List.all_eq_true.mp List.all_takeWhile c member)
    · calc
        s = s.takeWhile isGap ++ (word ++ behind) := by
          rw [← lead, List.takeWhile_append_dropWhile]
        _ = s.takeWhile isGap ++ (word ++ (behind.takeWhile isGap ++ head :: tail)) := by
          rw [← letters, List.takeWhile_append_dropWhile]
        _ = s.takeWhile isGap ++ (word ++ (behind.takeWhile isGap ++
              head :: (tail.takeWhile isNameTail ++ (passage ++ '\x7b' :: rest)))) := by
          rw [← after, List.takeWhile_append_dropWhile]
        _ = _ := by simp [Opening.letters, Opening.ending]
  · rintro ⟨opening, rfl, rfl⟩
    exact opening.definition?_letters rest

theorem Opening.length_letters_pos (opening : Opening) : 0 < opening.letters.length := by
  simp only [Opening.letters, Opening.ending, List.length_append, List.length_singleton]
  omega

/-! ## Where no definition begins -/

theorem goesOnName_of_beginsName (begins : BeginsName c) : GoesOnName c := by
  rcases begins with plain | odd
  · exact .inl (.inl plain)
  · exact .inr odd

theorem IsKeyword.newline_not_mem {word : List Char} (introduced : IsKeyword word) :
    '\n' ∉ word := by
  intro member
  have lowered : '\n' ∈ word.map Char.toLower := List.mem_map.mpr ⟨'\n', member, rfl⟩
  rcases introduced with long | short
  · rw [long] at lowered
    revert lowered
    decide
  · rw [short] at lowered
    revert lowered
    decide

/-- The first letter of a keyword may stand in a name. -/
theorem goesOnName_of_toLower (lower : c.toLower = 'f') : GoesOnName c := by
  unfold Char.toLower at lower
  split at lower
  · next upper => exact .inl (.inl (.inl upper))
  · exact .inl (.inl (.inr (.inl (by rw [lower]; decide))))

/-- Behind signs and a brace nothing is read as the start of a definition. -/
theorem definition?_signs {signs : List Char} (all : ∀ c ∈ signs, IsSign c) (rest : List Char) :
    definition? (signs ++ '\x7b' :: rest) = none := by
  rw [Option.eq_none_iff_forall_ne_some]
  rintro ⟨name, after⟩ found
  obtain ⟨opening, -, letters⟩ := definition?_eq_some_iff.mp found
  obtain ⟨first, more, word, lower⟩ := opening.introduced.exists_cons
  have odd : ¬ IsSign first := fun sign =>
    not_goesOnName_of_isSign sign (goesOnName_of_toLower lower)
  rw [Opening.letters, word] at letters
  simp only [List.append_assoc, List.cons_append] at letters
  rcases List.append_eq_append_iff.mp letters with
    ⟨between, before, behind⟩ | ⟨between, before, behind⟩
  · cases between with
    | nil =>
        cases behind
        exact odd (.inr (by decide))
    | cons c between =>
        obtain ⟨rfl, -⟩ := List.cons.inj behind
        have brace : '\x7b' ∈ opening.indent := by simp [before]
        exact absurd (opening.indented _ brace) (by decide)
  · cases between with
    | nil =>
        obtain ⟨rfl, -⟩ := List.cons.inj behind
        exact odd (.inr (by decide))
    | cons c between =>
        obtain ⟨rfl, -⟩ := List.cons.inj behind
        exact odd (all first (by simp [before]))

namespace Opening

/-- The letters of a definition up to the end of its name. -/
def lead (opening : Opening) : List Char :=
  opening.indent ++ opening.keyword ++ opening.gap ++ opening.name

theorem newline_not_mem_lead (opening : Opening) : '\n' ∉ opening.lead := by
  obtain ⟨head, tail, named, begins, goesOn⟩ := opening.named
  have odd : ¬ GoesOnName '\n' := not_goesOnName_of_isSign (.inl rfl)
  have gap : ¬ ('\n' = ' ' ∨ '\n' = '\t') := by decide
  intro member
  simp only [lead, named, List.mem_append, List.mem_cons] at member
  rcases member with ((indent | keyword) | space) | rfl | later
  · exact gap (opening.indented _ indent)
  · exact opening.introduced.newline_not_mem keyword
  · exact gap (opening.gapped _ space)
  · exact odd (goesOnName_of_beginsName begins)
  · exact odd (goesOn _ later)

end Opening

/-! ## The scan of a text -/

/-- A definition in a text: its place, the place behind its brace, and its name. -/
structure Found where
  start : Nat
  stop : Nat
  name : String
  deriving DecidableEq, Repr

/-- Whether a line begins at a place of a text. -/
def BeginsLine (text : List Char) (place : Nat) : Prop :=
  place = 0 ∨ ∃ before, place = before + 1 ∧ text[before]? = some '\n'

/-- Whether a definition stands in a text, from the start of a line on. -/
structure Found.Stands (text : List Char) (found : Found) : Prop where
  line : BeginsLine text found.start
  opens : ∃ (opening : Opening) (rest : List Char),
    text.drop found.start = opening.letters ++ rest ∧
      found.stop = found.start + opening.letters.length ∧
      found.name = String.ofList opening.name ∧
      ∀ c ∈ opening.ending.head?, ¬ GoesOnName c

/-- A line that begins within the letters of a definition opens none. -/
theorem Opening.definition?_drop (opening : Opening) (rest : List Char) {place : Nat}
    (line : opening.letters[place]? = some '\n') :
    definition? ((opening.letters ++ rest).drop (place + 1)) = none := by
  have split : opening.letters = opening.lead ++ (opening.passage ++ ['\x7b']) := rfl
  rw [split] at line
  rcases Nat.lt_or_ge place opening.lead.length with inside | beyond
  · rw [List.getElem?_append_left inside] at line
    exact absurd (List.mem_of_getElem? line) opening.newline_not_mem_lead
  obtain ⟨place, rfl⟩ := Nat.exists_eq_add_of_le beyond
  rw [List.getElem?_append_right (Nat.le_add_right _ _), Nat.add_sub_cancel_left] at line
  have within : place < opening.passage.length := by
    have bound := (List.getElem?_eq_some_iff.mp line).1
    rw [List.length_append, List.length_singleton] at bound
    refine Nat.lt_of_le_of_ne (Nat.le_of_lt_succ bound) ?_
    rintro rfl
    simp at line
  have dropped : (opening.letters ++ rest).drop (opening.lead.length + place + 1) =
      opening.passage.drop (place + 1) ++ '\x7b' :: rest := by
    rw [split, List.append_assoc, Nat.add_assoc, List.drop_append,
      List.drop_eq_nil_of_le (Nat.le_add_right _ _), List.nil_append, Nat.add_sub_cancel_left,
      List.append_assoc, List.drop_append_of_le_length within]
    rfl
  rw [dropped]
  exact definition?_signs (fun c member => opening.passed.isSign c (List.mem_of_mem_drop member)) rest

/-- The rest of a line ends with the only line break in it, and what the scan goes on with begins a
line, if there is anything. -/
theorem exists_line (s : List Char) :
    ∃ row, s = row ++ nextLine s ∧
      (∀ place, row[place]? = some '\n' → place + 1 = row.length) ∧
      (nextLine s = [] ∨ ∃ before, row.length = before + 1 ∧ row[before]? = some '\n') := by
  have within : '\n' ∉ s.takeWhile (· != '\n') := by
    intro member
    have differs := List.all_eq_true.mp List.all_takeWhile _ member
    simp at differs
  have parts : s.takeWhile (· != '\n') ++ s.dropWhile (· != '\n') = s :=
    List.takeWhile_append_dropWhile
  cases behind : s.dropWhile (· != '\n') with
  | nil =>
      have last : nextLine s = [] := by
        rw [nextLine, behind]
        rfl
      rw [behind, List.append_nil] at parts
      refine ⟨s, by rw [last, List.append_nil], ?_, .inl last⟩
      intro place newline
      rw [parts] at within
      exact absurd (List.mem_of_getElem? newline) within
  | cons c later =>
      obtain rfl : c = '\n' := by
        have stops := List.head_dropWhile_not (· != '\n') (l := s) (by simp [behind])
        simpa [behind] using stops
      have next : nextLine s = later := by rw [nextLine, behind, List.drop_one, List.tail_cons]
      refine ⟨s.takeWhile (· != '\n') ++ ['\n'], ?_, ?_, .inr ⟨_, List.length_append, ?_⟩⟩
      · rw [next, List.append_assoc, List.singleton_append, ← behind, parts]
      · intro place newline
        rcases Nat.lt_or_ge place (s.takeWhile (· != '\n')).length with before | after
        · rw [List.getElem?_append_left before] at newline
          exact absurd (List.mem_of_getElem? newline) within
        · have bound := (List.getElem?_eq_some_iff.mp newline).1
          rw [List.length_append, List.length_singleton] at bound ⊢
          omega
      · rw [List.getElem?_append_right (Nat.le_refl _), Nat.sub_self]
        rfl

theorem length_nextLine_le (s : List Char) : (nextLine s).length ≤ s.length :=
  (suffix_nextLine s).length_le

theorem length_nextLine_lt (some : s ≠ []) : (nextLine s).length < s.length := by
  obtain ⟨row, parts, -, last | ⟨before, length, -⟩⟩ := exists_line s
  · rw [last]
    exact List.length_pos_iff.mpr some
  · have total := congrArg List.length parts
    rw [List.length_append] at total
    omega

/-! ## All definitions of a text -/

namespace Found

variable {text : List Char} {found other : Found}

theorem Stands.exists_read (stands : found.Stands text) :
    ∃ name rest, definition? (text.drop found.start) = some (name, rest) := by
  obtain ⟨-, opening, rest, letters, -⟩ := stands
  exact ⟨opening.name, rest, by rw [letters, opening.definition?_letters]⟩

theorem Stands.start_lt (stands : found.Stands text) : found.start < text.length := by
  obtain ⟨name, rest, here⟩ := stands.exists_read
  rw [← Nat.not_le]
  intro beyond
  rw [List.drop_eq_nil_of_le beyond] at here
  cases here

/-- Only one definition begins at a place, and there is only one way to read it. -/
theorem Stands.unique (stands : found.Stands text) (too : other.Stands text)
    (same : found.start = other.start) : found = other := by
  obtain ⟨-, first, rest, letters, stop, name, -⟩ := stands
  obtain ⟨-, second, more, spelled, ends, named, -⟩ := too
  have both : first.letters ++ rest = second.letters ++ more := by
    rw [← letters, ← spelled, same]
  have read := first.definition?_letters rest
  rw [both, second.definition?_letters, Option.some.injEq, Prod.mk.injEq] at read
  obtain ⟨names, rfl⟩ := read
  have length : first.letters = second.letters := List.append_cancel_right both
  cases found
  cases other
  simp_all

end Found

/-- All definitions that stand in a text from a place on, in their order. None begins before the one
in front of it has been opened. -/
structure Lists (text : List Char) (place : Nat) (found : List Found) : Prop where
  all : ∀ definition : Found, definition ∈ found ↔
    definition.Stands text ∧ place ≤ definition.start
  apart : found.Pairwise fun first second => first.stop ≤ second.start

section Lines

variable {text chunk row later : List Char} {place : Nat} {found : List Found}

theorem lists_nil (none : text.drop place = []) : Lists text place [] := by
  constructor
  · intro definition
    constructor
    · intro member
      cases member
    · rintro ⟨stands, behind⟩
      have inside := stands.start_lt
      have outside := List.drop_eq_nil_iff.mp none
      omega
  · exact .nil

/-- A definition that stands at the start of a line or behind it stands there, or at the next start
of a line that the scan goes on with, or behind that. -/
theorem Found.Stands.start_cases {definition : Found} (stands : definition.Stands text)
    (parts : text.drop place = chunk ++ (row ++ later))
    (inside : ∀ offset, chunk[offset]? = some '\n' →
      definition? ((chunk ++ (row ++ later)).drop (offset + 1)) = none)
    (unbroken : ∀ offset, row[offset]? = some '\n' → offset + 1 = row.length)
    (behind : place ≤ definition.start) :
    definition.start = place ∨ place + chunk.length + row.length ≤ definition.start := by
  obtain ⟨name, rest, here⟩ := stands.exists_read
  rcases stands.line with first | ⟨before, start, newline⟩
  · omega
  rcases Nat.lt_or_ge before place with earlier | beyond
  · omega
  obtain ⟨offset, rfl⟩ := Nat.exists_eq_add_of_le beyond
  rw [← List.getElem?_drop, parts] at newline
  rcases Nat.lt_or_ge offset chunk.length with within | beyond
  · rw [List.getElem?_append_left within] at newline
    rw [start, Nat.add_assoc, ← List.drop_drop, parts, inside offset newline] at here
    cases here
  obtain ⟨offset, rfl⟩ := Nat.exists_eq_add_of_le beyond
  rw [List.getElem?_append_right (Nat.le_add_right _ _), Nat.add_sub_cancel_left] at newline
  rcases Nat.lt_or_ge offset row.length with within | after
  · rw [List.getElem?_append_left within] at newline
    have ends := unbroken offset newline
    omega
  · omega

/-- Where no definition opens the scan goes on at the next line. -/
theorem Lists.skip (lists : Lists text (place + row.length) found)
    (parts : text.drop place = row ++ later)
    (unbroken : ∀ offset, row[offset]? = some '\n' → offset + 1 = row.length)
    (none : definition? (text.drop place) = none) : Lists text place found := by
  refine ⟨?_, lists.apart⟩
  intro definition
  rw [lists.all]
  constructor
  · rintro ⟨stands, behind⟩
    exact ⟨stands, by omega⟩
  · rintro ⟨stands, behind⟩
    refine ⟨stands, ?_⟩
    have ahead : text.drop place = [] ++ (row ++ later) := parts
    rcases stands.start_cases ahead nofun unbroken behind with same | beyond
    · obtain ⟨name, rest, here⟩ := stands.exists_read
      rw [same, none] at here
      cases here
    · exact beyond

/-- Behind a definition the scan goes on at the next line. -/
theorem Lists.cons (opening : Opening)
    (lists : Lists text (place + opening.letters.length + row.length) found)
    (begins : BeginsLine text place) (parts : text.drop place = opening.letters ++ (row ++ later))
    (unbroken : ∀ offset, row[offset]? = some '\n' → offset + 1 = row.length) :
    Lists text place
      (⟨place, place + opening.letters.length, .ofList opening.name⟩ :: found) := by
  have stands : Found.Stands text
      ⟨place, place + opening.letters.length, .ofList opening.name⟩ :=
    ⟨begins, opening, row ++ later, parts, rfl, rfl, opening.name_maximal⟩
  constructor
  · intro definition
    rw [List.mem_cons, lists.all]
    constructor
    · rintro (rfl | ⟨further, behind⟩)
      · exact ⟨stands, Nat.le_refl _⟩
      · exact ⟨further, by omega⟩
    · rintro ⟨further, behind⟩
      rcases further.start_cases parts (fun _ => opening.definition?_drop (row ++ later)) unbroken
        behind with same | beyond
      · exact .inl (further.unique stands same)
      · exact .inr ⟨further, beyond⟩
  · refine .cons ?_ lists.apart
    intro later member
    have behind := ((lists.all later).mp member).2
    dsimp only
    omega

/-- Behind the end of a line another one begins. -/
theorem beginsLine_behind (parts : text.drop place = row ++ later)
    (ends : ∃ before, row.length = before + 1 ∧ row[before]? = some '\n') :
    BeginsLine text (place + row.length) := by
  obtain ⟨before, length, newline⟩ := ends
  refine .inr ⟨place + before, by omega, ?_⟩
  rw [← List.getElem?_drop, parts, List.getElem?_append_left (by omega), newline]

/-- From the start of a line on the scan finds all definitions that stand there. -/
theorem exists_lists {fuel : Nat} (enough : (text.drop place).length < fuel)
    (start : text.drop place = [] ∨ BeginsLine text place) :
    ∃ found, Lists text place found ∧
      namesWithin fuel (text.drop place) = found.map Found.name := by
  induction fuel generalizing place with
  | zero => cases enough
  | succ fuel ih =>
      by_cases none : text.drop place = []
      · exact ⟨[], lists_nil none, by rw [none]; rfl⟩
      have begins := start.resolve_left none
      cases here : definition? (text.drop place) with
      | none =>
          obtain ⟨row, parts, unbroken, goesOn⟩ := exists_line (text.drop place)
          have next : text.drop (place + row.length) = nextLine (text.drop place) := by
            rw [← List.drop_drop, parts, List.drop_left, ← parts]
          have shorter := length_nextLine_lt none
          obtain ⟨found, lists, names⟩ := @ih (place + row.length) (by rw [next]; omega)
            (by rw [next]; exact goesOn.imp_right (beginsLine_behind parts))
          refine ⟨found, lists.skip parts unbroken here, ?_⟩
          rw [namesWithin, here, ← names, next]
          simp [none]
      | some pair =>
          obtain ⟨name, rest⟩ := pair
          obtain ⟨opening, rfl, letters⟩ := definition?_eq_some_iff.mp here
          obtain ⟨row, parts, unbroken, goesOn⟩ := exists_line rest
          have behind : text.drop (place + opening.letters.length) = row ++ nextLine rest := by
            rw [← List.drop_drop, letters, List.drop_left, ← parts]
          have next : text.drop (place + opening.letters.length + row.length) = nextLine rest := by
            rw [← List.drop_drop, behind, List.drop_left]
          have shorter := length_nextLine_le rest
          have whole := opening.length_letters_pos
          rw [letters, List.length_append] at enough
          obtain ⟨found, lists, names⟩ :=
            @ih (place + opening.letters.length + row.length) (by rw [next]; omega)
              (by rw [next]; exact goesOn.imp_right (beginsLine_behind behind))
          refine ⟨_, lists.cons opening begins (by rw [letters, ← parts]) unbroken, ?_⟩
          rw [namesWithin, here, List.map_cons, ← names, next]

end Lines

end ScriptRoster.Script.Listing

namespace ScriptRoster

open Script.Listing

/-- The names that are found in the text of a script are those of the definitions that stand in it,
in the order of their places: each definition is found once, and none begins before the one in front
of it has been opened. Of names that are the same the first one is kept. -/
theorem scan_finds_definitions (source : String) :
    ∃ found : List Found,
      (∀ definition : Found, definition ∈ found ↔ definition.Stands source.toList) ∧
      (found.Pairwise fun first second => first.stop ≤ second.start) ∧
      Source.textual.extract source =
        .ok ((found.map Found.name).eraseDupsBy Name.same) := by
  obtain ⟨found, lists, names⟩ := @exists_lists source.toList 0 (source.length + 1)
    (by rw [List.drop_zero, String.length_toList]; exact Nat.lt_succ_self _) (.inr (.inl rfl))
  refine ⟨found, ?_, lists.apart, ?_⟩
  · intro definition
    rw [lists.all, and_iff_left (Nat.zero_le _)]
  · rw [← Name.dedup_eq_eraseDupsBy, ← names]
    rfl

end ScriptRoster
