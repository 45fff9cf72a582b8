import Mathlib.Data.List.Forall2
import Mathlib.Data.List.TakeWhile
import ScriptRoster.Proofs.Json.Grammar

/-!
# Values and lists in JSON

A value is put together from values, names and numbers, with brackets around its parts and commas
between them. A reader passes over values of any kind, and takes lists of strings, just where they
are put together so.
-/

namespace ScriptRoster.Json

/-- A text with white space around it. -/
structure Spaced where
  before : List Char
  inner : List Char
  after : List Char
  gapBefore : IsGap before
  gapAfter : IsGap after

/-- A text up to the white space behind it. -/
def Spaced.bare (item : Spaced) : List Char := item.inner ++ item.after

def Spaced.text (item : Spaced) : List Char := item.before ++ item.bare

/-- A field of an object: a name in quotes, a colon and the text of a value, with white space around
all of them. -/
structure Field where
  before : List Char
  name : List Char
  between : List Char
  value : Spaced
  gapBefore : IsGap before
  gapBetween : IsGap between

/-- A field up to the white space behind it. -/
def Field.bare (field : Field) : List Char :=
  '"' :: (field.name ++ '"' :: (field.between ++ ':' :: field.value.text))

def Field.text (field : Field) : List Char := field.before ++ field.bare

/-- Parts in brackets, with commas between them. -/
def enclosed (opening : Char) (gap : List Char) (parts : List (List Char)) (closing : Char) :
    List Char :=
  opening :: (gap ++ ([','].intercalate parts ++ [closing]))

/-- A value of any kind. -/
inductive IsValue : List Char → Prop
  | null : IsValue ['n', 'u', 'l', 'l']
  | yes : IsValue ['t', 'r', 'u', 'e']
  | no : IsValue ['f', 'a', 'l', 's', 'e']
  | number {s} (isNumber : IsNumber s) : IsValue s
  | string {body} (isBody : IsBody body) : IsValue ('"' :: (body ++ ['"']))
  | list {gap} {items : List Spaced} (isGap : IsGap gap)
      (values : ∀ item ∈ items, IsValue item.inner) :
      IsValue (enclosed '[' gap (items.map Spaced.text) ']')
  | object {gap} {fields : List Field} (isGap : IsGap gap)
      (names : ∀ field ∈ fields, IsBody field.name)
      (values : ∀ field ∈ fields, IsValue field.value.inner) :
      IsValue (enclosed '{' gap (fields.map Field.text) '}')

/-- A string in quotes, and what it spells. -/
inductive IsQuoted : List Char → String → Prop
  | mk {body cs} (spells : Spells body cs) : IsQuoted ('"' :: (body ++ ['"'])) (String.ofList cs)

/-- A list of strings, and what they spell. -/
inductive IsStrings : List Char → List String → Prop
  | mk {gap} {items : List Spaced} {names} (isGap : IsGap gap)
      (quoted : List.Forall₂ (fun item name => IsQuoted item.inner name) items names) :
      IsStrings (enclosed '[' gap (items.map Spaced.text) ']') names

section Gaps

variable {gap s rest : List Char}

theorem IsGap.append {other : List Char} (isGap : IsGap gap) (isOther : IsGap other) :
    IsGap (gap ++ other) :=
  List.forall_mem_append.mpr ⟨isGap, isOther⟩

theorem skipSpace_dark {c : Char} (isGap : IsGap gap) (dark : isSpace c = false) (s : List Char) :
    skipSpace (gap ++ c :: s) = c :: s :=
  (skipSpace_gap isGap _).trans (skipSpace_cons dark s)

/-- No number goes on into white space. -/
theorem Ends.behind_gap (isGap : IsGap gap) (ends : Ends rest) : Ends (gap ++ rest) := by
  cases gap with
  | nil => exact ends
  | cons c gap =>
      rintro _ ⟨⟩
      have space := isGap c (by simp)
      simp only [isSpace, Bool.or_eq_true, decide_eq_true_eq] at space
      obtain ((rfl | rfl) | rfl) | rfl := space <;> decide

theorem ends_cons {c : Char} (other : isDigit c = false ∧ c ≠ '.' ∧ c ≠ 'e' ∧ c ≠ 'E') :
    Ends (c :: rest) := by
  rintro _ ⟨⟩
  exact other

theorem readWord_eq_ok {word : List Char} :
    readWord word s = .ok rest ↔ s = word ++ rest := by
  induction word generalizing s with
  | nil => simp [readWord]
  | cons w word ih =>
      cases s with
      | nil => simp [readWord, fail]
      | cons c s =>
          rw [readWord]
          split
          · next same => simp [ih, same]
          · next other => simp [failNext, other]

theorem readColon_gap (isGap : IsGap gap) (rest : List Char) :
    readColon (gap ++ ':' :: rest) = .ok rest := by
  simp only [readColon, skipSpace_dark isGap (show isSpace ':' = false from rfl)]

theorem readColon_eq_ok :
    readColon s = .ok rest ↔ ∃ gap, IsGap gap ∧ s = gap ++ ':' :: rest := by
  constructor
  · intro read
    unfold readColon at read
    simp only at read
    split at read
    · cases read
    · next there =>
        cases read
        exact exists_gap_of_skipSpace there
    · cases read
  · rintro ⟨gap, isGap, rfl⟩
    exact readColon_gap isGap rest

/-- A string in quotes is read as what it spells, behind white space. -/
theorem IsQuoted.readString {quoted : List Char} {name : String} (isQuoted : IsQuoted quoted name)
    (isGap : IsGap gap) (rest : List Char) :
    readString (gap ++ (quoted ++ rest)) = .ok (name, rest) := by
  cases isQuoted with
  | mk spells =>
      simp only [List.cons_append, List.append_assoc, List.nil_append, Json.readString,
        skipSpace_dark isGap (show isSpace '"' = false from rfl), spells.readBody]
      rfl

/-- The strings that are read are those in quotes. -/
theorem readString_eq_ok {found : String} :
    readString s = .ok (found, rest) ↔
      ∃ gap quoted, IsGap gap ∧ IsQuoted quoted found ∧ s = gap ++ (quoted ++ rest) := by
  constructor
  · intro read
    unfold readString at read
    simp only at read
    split at read
    · cases read
    · next there =>
        obtain ⟨⟨cs, after⟩, inside, made⟩ := exists_of_map_eq_ok read
        cases made
        obtain ⟨body, spells, rfl⟩ := readBody_eq_ok.mp inside
        obtain ⟨gap, isGap, rfl⟩ := exists_gap_of_skipSpace there
        exact ⟨gap, _, isGap, .mk spells, by simp⟩
    · cases read
  · rintro ⟨gap, quoted, isGap, isQuoted, rfl⟩
    exact isQuoted.readString isGap rest

end Gaps

theorem enclosed_nil_append (opening : Char) (gap : List Char) (closing : Char) (rest : List Char) :
    enclosed opening gap [] closing ++ rest = opening :: (gap ++ closing :: rest) := by
  simp [enclosed]

theorem enclosed_cons_append (opening : Char) (gap part : List Char) (parts : List (List Char))
    (closing : Char) (rest : List Char) :
    enclosed opening gap (part :: parts) closing ++ rest =
      opening :: (gap ++ (part ++ (parts.flatMap (',' :: ·) ++ closing :: rest))) := by
  simp [enclosed, intercalate_comma]

/-! ## Values are passed over -/

section Values

variable {s rest gap value : List Char} {fuel : Nat}

/-- What is passed over where a value is expected. -/
def StartsWithValue (s rest : List Char) : Prop :=
  ∃ gap value, IsGap gap ∧ IsValue value ∧ s = gap ++ (value ++ rest)

/-- What is passed over where the items of a list are expected. -/
def StartsWithItems (s rest : List Char) : Prop :=
  ∃ item items, (∀ part ∈ item :: items, IsValue (Spaced.inner part)) ∧
    s = item.text ++ ((items.map Spaced.text).flatMap (',' :: ·) ++ ']' :: rest)

/-- What is passed over where the fields of an object are expected. -/
def StartsWithFields (s rest : List Char) : Prop :=
  ∃ field fields, (∀ part ∈ field :: fields, IsBody (Field.name part)) ∧
    (∀ part ∈ field :: fields, IsValue part.value.inner) ∧
      s = field.text ++ ((fields.map Field.text).flatMap (',' :: ·) ++ '}' :: rest)

theorem startsWithItems_of_skipItems
    (values : ∀ {s rest}, skipValue fuel s = .ok rest → StartsWithValue s rest)
    (more : ∀ {s rest}, skipItems fuel s = .ok rest → StartsWithItems s rest)
    (skipped : skipItems (fuel + 1) s = .ok rest) : StartsWithItems s rest := by
  rw [skipItems] at skipped
  split at skipped
  · cases skipped
  · next behind first =>
      obtain ⟨before, value, isBefore, isValue, rfl⟩ := values first
      simp only at skipped
      split at skipped
      · cases skipped
      · next there =>
          cases skipped
          obtain ⟨after, isAfter, rfl⟩ := exists_gap_of_skipSpace there
          refine ⟨⟨before, value, after, isBefore, isAfter⟩, [], by simpa using isValue, ?_⟩
          simp [Spaced.text, Spaced.bare]
      · next there =>
          obtain ⟨after, isAfter, rfl⟩ := exists_gap_of_skipSpace there
          obtain ⟨item, items, isItems, rfl⟩ := more skipped
          refine ⟨⟨before, value, after, isBefore, isAfter⟩, item :: items, ?_, ?_⟩
          · exact List.forall_mem_cons.mpr ⟨isValue, isItems⟩
          · simp [Spaced.text, Spaced.bare]
      · cases skipped

theorem startsWithFields_of_skipFields
    (values : ∀ {s rest}, skipValue fuel s = .ok rest → StartsWithValue s rest)
    (more : ∀ {s rest}, skipFields fuel s = .ok rest → StartsWithFields s rest)
    (skipped : skipFields (fuel + 1) s = .ok rest) : StartsWithFields s rest := by
  rw [skipFields] at skipped
  simp only at skipped
  split at skipped
  · cases skipped
  · next there =>
      obtain ⟨before, isBefore, rfl⟩ := exists_gap_of_skipSpace there
      split at skipped
      · cases skipped
      · next inside =>
          obtain ⟨name, isName, rfl⟩ := skipBody_eq_ok.mp inside
          split at skipped
          · cases skipped
          · next colon =>
              obtain ⟨between, isBetween, rfl⟩ := readColon_eq_ok.mp colon
              split at skipped
              · cases skipped
              · next behind first =>
                  obtain ⟨ahead, value, isAhead, isValue, rfl⟩ := values first
                  split at skipped
                  · cases skipped
                  · next there =>
                      cases skipped
                      obtain ⟨after, isAfter, rfl⟩ := exists_gap_of_skipSpace there
                      refine ⟨⟨before, name, between, ⟨ahead, value, after, isAhead, isAfter⟩,
                        isBefore, isBetween⟩, [], ?_, ?_, ?_⟩
                      · simpa using isName
                      · simpa using isValue
                      · simp [Field.text, Field.bare, Spaced.text, Spaced.bare]
                  · next there =>
                      obtain ⟨after, isAfter, rfl⟩ := exists_gap_of_skipSpace there
                      obtain ⟨field, fields, isNames, isValues, rfl⟩ := more skipped
                      refine ⟨⟨before, name, between, ⟨ahead, value, after, isAhead, isAfter⟩,
                        isBefore, isBetween⟩, field :: fields, ?_, ?_, ?_⟩
                      · exact List.forall_mem_cons.mpr ⟨isName, isNames⟩
                      · exact List.forall_mem_cons.mpr ⟨isValue, isValues⟩
                      · simp [Field.text, Field.bare, Spaced.text, Spaced.bare]
                  · cases skipped
  · cases skipped

/-- Where a value is passed over there is one, if that holds of all that is nested deeper. -/
theorem startsWithValue_of_skipValue
    (list : ∀ {s rest}, skipItems fuel s = .ok rest → StartsWithItems s rest)
    (object : ∀ {s rest}, skipFields fuel s = .ok rest → StartsWithFields s rest)
    (skipped : skipValue (fuel + 1) s = .ok rest) : StartsWithValue s rest := by
  obtain ⟨gap, isGap, whole⟩ := exists_gap s
  suffices found : ∃ value, IsValue value ∧ skipSpace s = value ++ rest by
    obtain ⟨value, isValue, there⟩ := found
    exact ⟨gap, value, isGap, isValue, by rw [← there]; exact whole⟩
  rw [skipValue] at skipped
  simp only at skipped
  split at skipped
  · cases skipped
  · next there => exact ⟨_, .null, by rw [there, readWord_eq_ok.mp skipped]; rfl⟩
  · next there => exact ⟨_, .yes, by rw [there, readWord_eq_ok.mp skipped]; rfl⟩
  · next there => exact ⟨_, .no, by rw [there, readWord_eq_ok.mp skipped]; rfl⟩
  · next there =>
      obtain ⟨number, isUnsigned, left⟩ := isUnsigned_of_skipNumber skipped
      exact ⟨_, .number (.negative isUnsigned), by rw [there, left]; rfl⟩
  · next there =>
      obtain ⟨body, isBody, left⟩ := skipBody_eq_ok.mp skipped
      exact ⟨_, .string isBody, by rw [there, left]; simp⟩
  · next tail there =>
      obtain ⟨inside, isInside, left⟩ := exists_gap tail
      split at skipped
      · cases skipped
      · next closed =>
          cases skipped
          refine ⟨_, .list isInside (List.forall_mem_nil _), ?_⟩
          rw [there, List.map_nil, enclosed_nil_append, ← closed, ← left]
      · obtain ⟨item, items, isItems, inner⟩ := list skipped
        refine ⟨_, .list isInside isItems, ?_⟩
        rw [there, List.map_cons, enclosed_cons_append, ← inner, ← left]
  · next tail there =>
      obtain ⟨inside, isInside, left⟩ := exists_gap tail
      split at skipped
      · cases skipped
      · next closed =>
          cases skipped
          refine ⟨_, .object isInside (List.forall_mem_nil _) (List.forall_mem_nil _), ?_⟩
          rw [there, List.map_nil, enclosed_nil_append, ← closed, ← left]
      · obtain ⟨field, fields, isNames, isValues, inner⟩ := object skipped
        refine ⟨_, .object isInside isNames isValues, ?_⟩
        rw [there, List.map_cons, enclosed_cons_append, ← inner, ← left]
  · split at skipped
    · next there _ =>
        obtain ⟨number, isUnsigned, left⟩ := isUnsigned_of_skipNumber skipped
        exact ⟨_, .number (.natural isUnsigned), left⟩
    · cases skipped

/-- What is passed over is put together as a value is. -/
theorem startsWith_of_skip (fuel : Nat) :
    (∀ {s rest}, skipValue fuel s = .ok rest → StartsWithValue s rest) ∧
    (∀ {s rest}, skipItems fuel s = .ok rest → StartsWithItems s rest) ∧
    (∀ {s rest}, skipFields fuel s = .ok rest → StartsWithFields s rest) := by
  -- the three readers call one another with less fuel, so they are taken together
  induction fuel with
  | zero => exact ⟨nofun, nofun, nofun⟩
  | succ fuel ih =>
      obtain ⟨values, items, fields⟩ := ih
      exact ⟨startsWithValue_of_skipValue items fields, startsWithItems_of_skipItems values items,
        startsWithFields_of_skipFields values fields⟩

theorem isSpace_digit {d : Char} (digit : isDigit d = true) : isSpace d = false := by
  cases space : isSpace d with
  | false => rfl
  | true =>
      simp only [isSpace, Bool.or_eq_true, decide_eq_true_eq] at space
      obtain ((rfl | rfl) | rfl) | rfl := space <;> cases digit

/-- A value begins with no white space, and with nothing that ends a list. -/
theorem IsValue.exists_cons (isValue : IsValue value) :
    ∃ c tail, value = c :: tail ∧ isSpace c = false ∧ c ≠ ']' := by
  cases isValue with
  | number isNumber =>
      cases isNumber with
      | negative => exact ⟨_, _, rfl, rfl, by decide⟩
      | natural isUnsigned =>
          obtain ⟨d, tail, digit, rfl⟩ := isUnsigned.exists_cons
          refine ⟨d, tail, rfl, isSpace_digit digit, ?_⟩
          rintro rfl
          cases digit
  | _ => exact ⟨_, _, rfl, rfl, by decide⟩

/-- Whether a text is passed over wherever it stands as a value. It takes two calls at most for each
of its characters. -/
def Skipped (value : List Char) : Prop :=
  ∀ {gap rest fuel}, IsGap gap → Ends rest → 2 * value.length < fuel →
    skipValue fuel (gap ++ (value ++ rest)) = .ok rest

theorem ends_comma (rest : List Char) : Ends (',' :: rest) := ends_cons (by decide)

theorem ends_bracket (rest : List Char) : Ends (']' :: rest) := ends_cons (by decide)

theorem ends_brace (rest : List Char) : Ends ('}' :: rest) := ends_cons (by decide)

/-- A value is passed over up to the white space behind it. -/
theorem Skipped.bare {item : Spaced} (skipped : Skipped item.inner) (isGap : IsGap gap)
    (ends : Ends rest) (enough : 2 * item.bare.length < fuel) :
    skipValue fuel (gap ++ (item.bare ++ rest)) = .ok (item.after ++ rest) := by
  rw [Spaced.bare, List.append_assoc]
  refine skipped isGap (ends.behind_gap item.gapAfter) ?_
  rw [Spaced.bare, List.length_append] at enough
  omega

section Item

variable {item : Spaced} (skipped : Skipped item.inner) (isGap : IsGap gap)
  (enough : 2 * item.bare.length < fuel)

include skipped isGap enough

theorem skipItems_last (rest : List Char) :
    skipItems (fuel + 1) (gap ++ (item.bare ++ ']' :: rest)) = .ok rest := by
  have first := skipped.bare isGap (ends_bracket rest) enough
  simp only [skipItems, first, skipSpace_dark item.gapAfter (show isSpace ']' = false from rfl)]

theorem skipItems_more (rest : List Char) :
    skipItems (fuel + 1) (gap ++ (item.bare ++ ',' :: rest)) = skipItems fuel rest := by
  have first := skipped.bare isGap (ends_comma rest) enough
  simp only [skipItems, first, skipSpace_dark item.gapAfter (show isSpace ',' = false from rfl)]

end Item

/-- Items are passed over up to the end of their list. -/
theorem skipItems_bare {item : Spaced} {items : List Spaced}
    (values : ∀ part ∈ item :: items, Skipped part.inner) (isGap : IsGap gap)
    (enough : 2 * (item.bare ++ (items.map Spaced.text).flatMap (',' :: ·)).length + 1 < fuel) :
    skipItems fuel (gap ++ (item.bare ++ ((items.map Spaced.text).flatMap (',' :: ·) ++
      ']' :: rest))) = .ok rest := by
  induction items generalizing item gap fuel with
  | nil =>
      obtain ⟨fuel, rfl⟩ := Nat.exists_eq_succ_of_ne_zero (Nat.ne_zero_of_lt enough)
      rw [List.map_nil, List.flatMap_nil, List.append_nil] at enough
      exact skipItems_last (values item (by simp)) isGap (by omega) rest
  | cons next items ih =>
      obtain ⟨fuel, rfl⟩ := Nat.exists_eq_succ_of_ne_zero (Nat.ne_zero_of_lt enough)
      obtain ⟨skipped, others⟩ := List.forall_mem_cons.mp values
      rw [List.map_cons, List.flatMap_cons, Spaced.text] at enough ⊢
      simp only [List.length_append, List.length_cons] at enough
      rw [List.cons_append, List.cons_append, List.append_assoc, List.append_assoc,
        skipItems_more skipped isGap (by omega)]
      refine ih others next.gapBefore ?_
      rw [List.length_append]
      omega

theorem Field.bare_append (field : Field) (rest : List Char) :
    field.bare ++ rest = '"' :: (field.name ++ '"' :: (field.between ++ ':' ::
      (field.value.before ++ (field.value.bare ++ rest)))) := by
  simp [Field.bare, Spaced.text]

section Field

variable {field : Field} (isName : IsBody field.name) (skipped : Skipped field.value.inner)
  (isGap : IsGap gap) (enough : 2 * field.bare.length < fuel)

include skipped enough in
theorem skipValue_field (ends : Ends rest) :
    skipValue fuel (field.value.before ++ (field.value.bare ++ rest)) =
      .ok (field.value.after ++ rest) := by
  refine skipped.bare field.value.gapBefore ends ?_
  simp only [Field.bare, Spaced.text, List.length_append, List.length_cons] at enough
  omega

include isName skipped isGap enough

theorem skipFields_last (rest : List Char) :
    skipFields (fuel + 1) (gap ++ (field.bare ++ '}' :: rest)) = .ok rest := by
  have first := skipValue_field skipped enough (ends_brace rest)
  simp only [field.bare_append, skipFields,
    skipSpace_dark isGap (show isSpace '"' = false from rfl), isName.skipBody,
    readColon_gap field.gapBetween, first,
    skipSpace_dark field.value.gapAfter (show isSpace '}' = false from rfl)]

theorem skipFields_more (rest : List Char) :
    skipFields (fuel + 1) (gap ++ (field.bare ++ ',' :: rest)) = skipFields fuel rest := by
  have first := skipValue_field skipped enough (ends_comma rest)
  simp only [field.bare_append, skipFields,
    skipSpace_dark isGap (show isSpace '"' = false from rfl), isName.skipBody,
    readColon_gap field.gapBetween, first,
    skipSpace_dark field.value.gapAfter (show isSpace ',' = false from rfl)]

end Field

/-- Fields are passed over up to the end of their object. -/
theorem skipFields_bare {field : Field} {fields : List Field}
    (names : ∀ part ∈ field :: fields, IsBody part.name)
    (values : ∀ part ∈ field :: fields, Skipped part.value.inner) (isGap : IsGap gap)
    (enough : 2 * (field.bare ++ (fields.map Field.text).flatMap (',' :: ·)).length + 1 < fuel) :
    skipFields fuel (gap ++ (field.bare ++ ((fields.map Field.text).flatMap (',' :: ·) ++
      '}' :: rest))) = .ok rest := by
  induction fields generalizing field gap fuel with
  | nil =>
      obtain ⟨fuel, rfl⟩ := Nat.exists_eq_succ_of_ne_zero (Nat.ne_zero_of_lt enough)
      rw [List.map_nil, List.flatMap_nil, List.append_nil] at enough
      exact skipFields_last (names field (by simp)) (values field (by simp)) isGap (by omega) rest
  | cons next fields ih =>
      obtain ⟨fuel, rfl⟩ := Nat.exists_eq_succ_of_ne_zero (Nat.ne_zero_of_lt enough)
      obtain ⟨isName, otherNames⟩ := List.forall_mem_cons.mp names
      obtain ⟨skipped, others⟩ := List.forall_mem_cons.mp values
      rw [List.map_cons, List.flatMap_cons, Field.text] at enough ⊢
      simp only [List.length_append, List.length_cons] at enough
      rw [List.cons_append, List.cons_append, List.append_assoc, List.append_assoc,
        skipFields_more isName skipped isGap (by omega)]
      refine ih otherNames others next.gapBefore ?_
      rw [List.length_append]
      omega

section Step

variable {tail : List Char} (isGap : IsGap gap)

include isGap

/-- A value is told by its first character. -/
theorem skipValue_dark {c : Char} (dark : isSpace c = false) (fuel : Nat) (tail : List Char) :
    skipValue (fuel + 1) (gap ++ c :: tail) = skipValue (fuel + 1) (c :: tail) := by
  simp only [skipValue, skipSpace_dark isGap dark, skipSpace_cons dark]

theorem skipValue_digit {d : Char} (digit : isDigit d = true) :
    skipValue (fuel + 1) (gap ++ d :: tail) = skipNumber (d :: tail) := by
  rw [skipValue]
  simp only [skipSpace_dark isGap (isSpace_digit digit)]
  split
  -- of the first characters that the reader tells apart, a digit is only the last one
  case h_9 begins =>
    cases begins
    rw [if_pos digit]
  case h_1 begins => cases begins
  all_goals
    next begins =>
      cases begins
      cases digit

end Step

theorem IsNumber.skipped (isNumber : IsNumber value) : Skipped value := by
  intro gap rest fuel isGap ends enough
  obtain ⟨fuel, rfl⟩ := Nat.exists_eq_succ_of_ne_zero (Nat.ne_zero_of_lt enough)
  cases isNumber with
  | natural isUnsigned =>
      obtain ⟨d, tail, digit, rfl⟩ := isUnsigned.exists_cons
      rw [List.cons_append, skipValue_digit isGap digit]
      exact isUnsigned.skipNumber ends
  | negative isUnsigned =>
      rw [List.cons_append, skipValue_dark isGap rfl]
      exact isUnsigned.skipNumber ends

theorem skipped_word {c : Char} {word : List Char} (dark : isSpace c = false)
    (reads : ∀ fuel rest,
      skipValue (fuel + 1) (c :: (word ++ rest)) = readWord word (word ++ rest)) :
    Skipped (c :: word) := by
  intro gap rest fuel isGap ends enough
  obtain ⟨fuel, rfl⟩ := Nat.exists_eq_succ_of_ne_zero (Nat.ne_zero_of_lt enough)
  rw [List.cons_append, skipValue_dark isGap dark, reads, readWord_eq_ok]

theorem IsBody.skipped {body : List Char} (isBody : IsBody body) :
    Skipped ('"' :: (body ++ ['"'])) := by
  intro gap rest fuel isGap ends enough
  obtain ⟨fuel, rfl⟩ := Nat.exists_eq_succ_of_ne_zero (Nat.ne_zero_of_lt enough)
  rw [List.cons_append, List.append_assoc, skipValue_dark isGap rfl]
  exact isBody.skipBody rest

/-- Inside the bracket of a list, the reader comes to the first item. -/
theorem skipValue_bracket {inside : List Char} {c : Char} (isGap : IsGap gap)
    (dark : isSpace c = false) (other : c ≠ ']') :
    skipValue (fuel + 1) ('[' :: (gap ++ c :: inside)) = skipItems fuel (c :: inside) := by
  rw [skipValue]
  simp only [skipSpace_cons (show isSpace '[' = false from rfl), skipSpace_dark isGap dark]
  split
  · next begins => cases begins
  · next begins =>
      cases begins
      exact absurd rfl other
  · rfl

/-- A value begins with something dark that closes no list. -/
theorem IsValue.exists_bare {item : Spaced} (isValue : IsValue item.inner) :
    ∃ c tail, item.bare = c :: tail ∧ isSpace c = false ∧ c ≠ ']' := by
  obtain ⟨c, tail, begins, dark, other⟩ := isValue.exists_cons
  exact ⟨c, tail ++ item.after, by rw [Spaced.bare, begins]; rfl, dark, other⟩

/-- A list is passed over if its items are. -/
theorem skipped_list {items : List Spaced} (isGap : IsGap gap)
    (isValue : ∀ item ∈ items, IsValue item.inner)
    (values : ∀ item ∈ items, Skipped item.inner) :
    Skipped (enclosed '[' gap (items.map Spaced.text) ']') := by
  intro ahead rest fuel isAhead ends enough
  obtain ⟨fuel, rfl⟩ := Nat.exists_eq_succ_of_ne_zero (Nat.ne_zero_of_lt enough)
  cases items with
  | nil =>
      rw [List.map_nil, enclosed_nil_append, skipValue_dark isAhead rfl]
      simp only [skipValue, skipSpace_cons (show isSpace '[' = false from rfl),
        skipSpace_dark isGap (show isSpace ']' = false from rfl)]
  | cons item items =>
      obtain ⟨c, tail, begins, dark, other⟩ := (isValue item (by simp)).exists_bare
      have inside : skipItems fuel (item.bare ++ ((items.map Spaced.text).flatMap (',' :: ·) ++
          ']' :: rest)) = .ok rest := by
        refine skipItems_bare values isGap_nil ?_
        simp only [enclosed, List.map_cons, intercalate_comma, Spaced.text, List.length_append,
          List.length_cons] at enough ⊢
        omega
      rw [begins] at inside
      rw [List.map_cons, enclosed_cons_append, skipValue_dark isAhead rfl, Spaced.text, begins,
        List.append_assoc, ← List.append_assoc gap, List.cons_append,
        skipValue_bracket (isGap.append item.gapBefore) dark other]
      exact inside

/-- An object is passed over if its values are. -/
theorem skipped_object {fields : List Field} (isGap : IsGap gap)
    (names : ∀ field ∈ fields, IsBody field.name)
    (values : ∀ field ∈ fields, Skipped field.value.inner) :
    Skipped (enclosed '{' gap (fields.map Field.text) '}') := by
  intro ahead rest fuel isAhead ends enough
  obtain ⟨fuel, rfl⟩ := Nat.exists_eq_succ_of_ne_zero (Nat.ne_zero_of_lt enough)
  cases fields with
  | nil =>
      rw [List.map_nil, enclosed_nil_append, skipValue_dark isAhead rfl]
      simp only [skipValue, skipSpace_cons (show isSpace '{' = false from rfl),
        skipSpace_dark isGap (show isSpace '}' = false from rfl)]
  | cons field fields =>
      have inside : skipFields fuel (field.bare ++ ((fields.map Field.text).flatMap (',' :: ·) ++
          '}' :: rest)) = .ok rest := by
        refine skipFields_bare names values isGap_nil ?_
        simp only [enclosed, List.map_cons, intercalate_comma, Field.text, List.length_append,
          List.length_cons] at enough ⊢
        omega
      rw [field.bare_append] at inside
      rw [List.map_cons, enclosed_cons_append, skipValue_dark isAhead rfl, Field.text,
        List.append_assoc, ← List.append_assoc gap, field.bare_append, skipValue]
      simp only [skipSpace_cons (show isSpace '{' = false from rfl),
        skipSpace_dark (isGap.append field.gapBefore) (show isSpace '"' = false from rfl)]
      exact inside

/-- Every value is passed over. -/
theorem IsValue.skipped (isValue : IsValue value) : Skipped value := by
  induction isValue with
  | null => exact skipped_word rfl fun _ _ => rfl
  | yes => exact skipped_word rfl fun _ _ => rfl
  | no => exact skipped_word rfl fun _ _ => rfl
  | number isNumber => exact isNumber.skipped
  | string isBody => exact isBody.skipped
  | list isGap isValue ih => exact skipped_list isGap isValue ih
  | object isGap names _ ih => exact skipped_object isGap names ih

theorem startsWithValue_of_skip (skipped : skip s = .ok rest) : StartsWithValue s rest :=
  (startsWith_of_skip _).1 skipped

/-- A value is passed over up to what follows it. -/
theorem IsValue.skip (isValue : IsValue value) (isGap : IsGap gap) (ends : Ends rest) :
    skip (gap ++ (value ++ rest)) = .ok rest := by
  refine isValue.skipped isGap ends ?_
  simp only [List.length_append]
  omega

end Values

/-! ## Lists of strings are read -/

section Strings

variable {s rest gap : List Char} {names : List String} {fuel : Nat}

theorem skipSpace_eq_nil_iff : skipSpace s = [] ↔ IsGap s := List.dropWhile_eq_nil_iff

/-- A whole text is read up to white space. -/
theorem document_eq_ok {α : Type} {read : List Char → Except Fault (α × List Char)} {text : String}
    {value : α} :
    document read text = .ok value ↔ ∃ rest, read text.toList = .ok (value, rest) ∧ IsGap rest := by
  unfold document
  constructor
  · intro done
    split at done
    · cases done
    · next found rest made =>
        simp only at done
        split at done
        · next nothing =>
            cases done
            exact ⟨rest, made, skipSpace_eq_nil_iff.mp nothing⟩
        · cases done
  · rintro ⟨rest, made, isGap⟩
    simp only [made, skipSpace_eq_nil_iff.mpr isGap]

/-- What is read behind white space is read from a text just if the text is that, with white space
around it. -/
theorem document_eq_ok_iff_framed {α : Type} {read : List Char → Except Fault (α × List Char)}
    {isRead : List Char → α → Prop} (reads : ∀ {s value rest}, read s = .ok (value, rest) ↔
      ∃ gap inner, IsGap gap ∧ isRead inner value ∧ s = gap ++ (inner ++ rest))
    {text : String} {value : α} :
    document read text = .ok value ↔
      ∃ whole : Spaced, text.toList = whole.text ∧ isRead whole.inner value := by
  rw [document_eq_ok]
  constructor
  · rintro ⟨after, done, isAfter⟩
    obtain ⟨before, inner, isBefore, isInner, whole⟩ := reads.mp done
    exact ⟨⟨before, inner, after, isBefore, isAfter⟩, whole, isInner⟩
  · rintro ⟨⟨before, inner, after, isBefore, isAfter⟩, whole, isInner⟩
    exact ⟨after, reads.mpr ⟨before, inner, isBefore, isInner, whole⟩, isAfter⟩

theorem endList_gap (isGap : IsGap gap) (rest : List Char) :
    endList (gap ++ ']' :: rest) = .ok rest := by
  simp only [endList, skipSpace_dark isGap (show isSpace ']' = false from rfl)]

theorem endList_eq_ok : endList s = .ok rest ↔ ∃ gap, IsGap gap ∧ s = gap ++ ']' :: rest := by
  constructor
  · intro ends
    unfold endList at ends
    simp only at ends
    split at ends
    · cases ends
    · next there =>
        cases ends
        exact exists_gap_of_skipSpace there
    · split at ends <;> cases ends
    · cases ends
  · rintro ⟨gap, isGap, rfl⟩
    exact endList_gap isGap rest

theorem IsQuoted.exists_bare {item : Spaced} {name : String} (isQuoted : IsQuoted item.inner name) :
    ∃ tail, item.bare = '"' :: tail := by
  obtain ⟨before, inner, after, gapBefore, gapAfter⟩ := item
  cases isQuoted
  exact ⟨_, rfl⟩

theorem IsQuoted.firstItem {item : Spaced} {name : String} (isQuoted : IsQuoted item.inner name)
    (isGap : IsGap gap) (rest : List Char) :
    firstItem (gap ++ (item.text ++ rest)) = .ok (.item (item.bare ++ rest)) := by
  obtain ⟨tail, begins⟩ := isQuoted.exists_bare
  rw [Spaced.text, begins, List.append_assoc, List.cons_append, ← List.append_assoc, Json.firstItem,
    skipSpace_dark (isGap.append item.gapBefore) rfl]
  rfl

theorem firstItem_end (isGap : IsGap gap) (rest : List Char) :
    firstItem (gap ++ ']' :: rest) = .ok (.stop (']' :: rest)) := by
  simp only [firstItem, skipSpace_dark isGap (show isSpace ']' = false from rfl)]

theorem IsQuoted.nextItem {item : Spaced} {name : String} (isQuoted : IsQuoted item.inner name)
    (isGap : IsGap gap) (rest : List Char) :
    nextItem (gap ++ ',' :: (item.text ++ rest)) = .ok (.item (item.bare ++ rest)) := by
  obtain ⟨tail, begins⟩ := isQuoted.exists_bare
  simp only [Json.nextItem, skipSpace_dark isGap (show isSpace ',' = false from rfl)]
  rw [Spaced.text, begins, List.append_assoc, List.cons_append, skipSpace_dark item.gapBefore rfl]
  rfl

theorem nextItem_end (isGap : IsGap gap) (rest : List Char) :
    nextItem (gap ++ ']' :: rest) = .ok (.stop (']' :: rest)) := by
  simp only [nextItem, skipSpace_dark isGap (show isSpace ']' = false from rfl)]

theorem firstItem_item (found : firstItem s = .ok (.item rest)) :
    ∃ gap, IsGap gap ∧ s = gap ++ rest := by
  unfold firstItem at found
  simp only at found
  split at found
  · cases found
  · cases found
  · cases found
    exact exists_gap s

theorem firstItem_stop (found : firstItem s = .ok (.stop rest)) :
    ∃ gap tail, IsGap gap ∧ rest = ']' :: tail ∧ s = gap ++ rest := by
  unfold firstItem at found
  simp only at found
  split at found
  · cases found
  · next there =>
      cases found
      obtain ⟨gap, isGap, whole⟩ := exists_gap s
      exact ⟨gap, _, isGap, there, whole⟩
  · cases found

theorem nextItem_item (found : nextItem s = .ok (.item rest)) :
    ∃ gap ahead, IsGap gap ∧ IsGap ahead ∧ s = gap ++ ',' :: (ahead ++ rest) := by
  unfold nextItem at found
  simp only at found
  split at found
  · cases found
  · cases found
  · next tail there =>
      obtain ⟨gap, isGap, rfl⟩ := exists_gap_of_skipSpace there
      obtain ⟨ahead, isAhead, whole⟩ := exists_gap tail
      split at found
      · cases found
      · cases found
      · cases found
        exact ⟨gap, ahead, isGap, isAhead, by rw [← whole]⟩
  · cases found

theorem nextItem_stop (found : nextItem s = .ok (.stop rest)) :
    ∃ gap tail, IsGap gap ∧ rest = ']' :: tail ∧ s = gap ++ rest := by
  unfold nextItem at found
  simp only at found
  split at found
  · cases found
  · next there =>
      cases found
      obtain ⟨gap, isGap, whole⟩ := exists_gap s
      exact ⟨gap, _, isGap, there, whole⟩
  · split at found <;> cases found
  · cases found

/-- What is read as the rest of a list are quoted strings behind commas. -/
theorem exists_of_readStrings_nextItem (read : readStrings nextItem fuel s = .ok (names, rest)) :
    ∃ gap items, IsGap gap ∧
      List.Forall₂ (fun item name => IsQuoted (Spaced.inner item) name) items names ∧
        s = gap ++ ((items.map Spaced.text).flatMap (',' :: ·) ++ ']' :: rest) := by
  induction fuel generalizing s names with
  | zero => cases read
  | succ fuel ih =>
      rw [readStrings] at read
      split at read
      · cases read
      · next found =>
          obtain ⟨gap, tail, isGap, rfl, rfl⟩ := nextItem_stop found
          obtain ⟨behind, ended, made⟩ := exists_of_map_eq_ok read
          cases made
          cases (endList_gap isGap_nil tail).symm.trans ended
          exact ⟨gap, [], isGap, .nil, rfl⟩
      · next found =>
          obtain ⟨gap, ahead, isGap, isAhead, rfl⟩ := nextItem_item found
          split at read
          · cases read
          · next first =>
              obtain ⟨before, quoted, isBefore, isQuoted, rfl⟩ := readString_eq_ok.mp first
              obtain ⟨⟨others, behind⟩, inner, made⟩ := exists_of_map_eq_ok read
              cases made
              obtain ⟨after, items, isAfter, areQuoted, rfl⟩ := ih inner
              let item : Spaced :=
                ⟨ahead ++ before, quoted, after, isAhead.append isBefore, isAfter⟩
              refine ⟨gap, item :: items, isGap, .cons isQuoted areQuoted, ?_⟩
              simp [item, Spaced.text, Spaced.bare]

/-- Only a list of strings is read as one. -/
theorem isStrings_of_readStrings (read : readStrings firstItem fuel s = .ok (names, rest)) :
    ∃ list, IsStrings list names ∧ '[' :: s = list ++ rest := by
  cases fuel with
  | zero => cases read
  | succ fuel =>
      rw [readStrings] at read
      split at read
      · cases read
      · next found =>
          obtain ⟨gap, tail, isGap, rfl, rfl⟩ := firstItem_stop found
          obtain ⟨behind, ended, made⟩ := exists_of_map_eq_ok read
          cases made
          cases (endList_gap isGap_nil tail).symm.trans ended
          exact ⟨_, .mk isGap .nil, by rw [List.map_nil, enclosed_nil_append]⟩
      · next found =>
          obtain ⟨gap, isGap, rfl⟩ := firstItem_item found
          split at read
          · cases read
          · next first =>
              obtain ⟨before, quoted, isBefore, isQuoted, rfl⟩ := readString_eq_ok.mp first
              obtain ⟨⟨others, behind⟩, inner, made⟩ := exists_of_map_eq_ok read
              cases made
              obtain ⟨after, items, isAfter, areQuoted, rfl⟩ := exists_of_readStrings_nextItem inner
              have areAll : List.Forall₂ (fun item name => IsQuoted (Spaced.inner item) name)
                  (⟨before, quoted, after, isBefore, isAfter⟩ :: items) _ :=
                .cons isQuoted areQuoted
              refine ⟨_, .mk isGap areAll, ?_⟩
              rw [List.map_cons, enclosed_cons_append]
              simp [Spaced.text, Spaced.bare]

theorem IsQuoted.readString_bare {item : Spaced} {name : String}
    (isQuoted : IsQuoted item.inner name) (rest : List Char) :
    Json.readString (item.bare ++ rest) = .ok (name, item.after ++ rest) := by
  rw [Spaced.bare, List.append_assoc]
  exact isQuoted.readString isGap_nil _

/-- A string in quotes is read in front of the strings behind it. -/
theorem IsQuoted.readStrings {item : Spaced} {name : String} {next : List Char → Except Fault Next}
    (isQuoted : IsQuoted item.inner name) (found : next s = .ok (.item (item.bare ++ rest)))
    (fuel : Nat) :
    readStrings next (fuel + 1) s =
      (readStrings Json.nextItem fuel (item.after ++ rest)).map fun items =>
        (name :: items.1, items.2) := by
  rw [Json.readStrings, found]
  simp only [isQuoted.readString_bare]

/-- Quoted strings behind commas are read as the rest of a list. -/
theorem readStrings_nextItem_quoted {items : List Spaced}
    (quoted : List.Forall₂ (fun item name => IsQuoted (Spaced.inner item) name) items names)
    (isGap : IsGap gap) (enough : items.length < fuel) (rest : List Char) :
    readStrings nextItem fuel (gap ++ ((items.map Spaced.text).flatMap (',' :: ·) ++ ']' :: rest)) =
      .ok (names, rest) := by
  induction quoted generalizing gap fuel with
  | nil =>
      obtain ⟨fuel, rfl⟩ := Nat.exists_eq_succ_of_ne_zero (Nat.ne_zero_of_lt enough)
      rw [List.map_nil, List.flatMap_nil, List.nil_append, readStrings, nextItem_end isGap]
      exact congrArg (Except.map _) (endList_gap isGap_nil rest)
  | @cons item name items names isQuoted _ ih =>
      obtain ⟨fuel, rfl⟩ := Nat.exists_eq_succ_of_ne_zero (Nat.ne_zero_of_lt enough)
      rw [List.map_cons, List.flatMap_cons, List.cons_append, List.cons_append, List.append_assoc,
        isQuoted.readStrings (isQuoted.nextItem isGap _),
        ih item.gapAfter (Nat.lt_of_succ_lt_succ enough)]
      rfl

theorem length_le_flatMap_comma (parts : List (List Char)) :
    parts.length ≤ (parts.flatMap (',' :: ·)).length := by
  induction parts with
  | nil => exact Nat.le_refl 0
  | cons part parts ih =>
      simp only [List.flatMap_cons, List.length_append, List.length_cons]
      omega

/-- Lists of strings are read, whatever follows them. -/
theorem IsStrings.readStringList {list : List Char} (isStrings : IsStrings list names)
    (isGap : IsGap gap) (rest : List Char) :
    readStringList (gap ++ (list ++ rest)) = .ok (names, rest) := by
  cases isStrings with
  | @mk inside items _ isInside quoted =>
      cases quoted with
      | nil =>
          rw [List.map_nil, enclosed_nil_append, Json.readStringList, skipSpace_dark isGap rfl]
          simp only [readStrings, firstItem_end isInside]
          exact congrArg (Except.map _) (endList_gap isGap_nil rest)
      | @cons item name items names isQuoted others =>
          have long := length_le_flatMap_comma (items.map Spaced.text)
          rw [List.length_map] at long
          rw [List.map_cons, enclosed_cons_append, Json.readStringList, skipSpace_dark isGap rfl]
          simp only
          rw [isQuoted.readStrings (isQuoted.firstItem isInside _),
            readStrings_nextItem_quoted others item.gapAfter]
          · rfl
          · simp only [List.length_cons, List.length_append]
            omega

/-- The lists of strings that are read. -/
theorem readStringList_eq_ok :
    readStringList s = .ok (names, rest) ↔
      ∃ gap list, IsGap gap ∧ IsStrings list names ∧ s = gap ++ (list ++ rest) := by
  constructor
  · intro read
    unfold readStringList at read
    simp only at read
    split at read
    · cases read
    · next there =>
        obtain ⟨gap, isGap, rfl⟩ := exists_gap_of_skipSpace there
        obtain ⟨list, isStrings, whole⟩ := isStrings_of_readStrings read
        exact ⟨gap, list, isGap, isStrings, by rw [whole]⟩
    · cases read
  · rintro ⟨gap, list, isGap, isStrings, rfl⟩
    exact isStrings.readStringList isGap rest

/-- A text holds a list of strings just if it is put together so, with white space around it. -/
theorem strings_eq_ok {text : String} :
    strings text = .ok names ↔
      ∃ whole : Spaced, text.toList = whole.text ∧ IsStrings whole.inner names :=
  document_eq_ok_iff_framed readStringList_eq_ok

end Strings

end ScriptRoster.Json
