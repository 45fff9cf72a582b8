import ScriptRoster.Proofs.Cache.Holding
import ScriptRoster.Proofs.Json.Values

/-!
# The texts of cache entries

An entry is read from an object that has the key and the payload among its fields, or from an array
of the two, and from nothing else. What other fields hold does not matter. So it is settled for each
content of an entry file which names are handed out, if any.
-/

namespace ScriptRoster.Cache.Entry

open Json

/-- Fields with the key and the payload of an entry among them, each once if it is there. Of fields
with other names, any value is passed over. -/
inductive Holds : List Field → Option String → Option String → Prop
  | nothing : Holds [] none none
  | key {field fields key payload} (named : Spells field.name "key".toList)
      (quoted : IsQuoted field.value.inner key) (others : Holds fields none payload) :
      Holds (field :: fields) (some key) payload
  | payload {field fields key payload} (named : Spells field.name "payload".toList)
      (quoted : IsQuoted field.value.inner payload) (others : Holds fields key none) :
      Holds (field :: fields) key (some payload)
  | other {field fields key payload name} (named : Spells field.name name)
      (notKey : name ≠ "key".toList) (notPayload : name ≠ "payload".toList)
      (isValue : IsValue field.value.inner) (others : Holds fields key payload) :
      Holds (field :: fields) key payload

/-- The texts of an entry: objects, and arrays of the key and the payload. -/
inductive IsEntry : List Char → Entry → Prop
  | object {gap fields entry} (isGap : IsGap gap)
      (holds : Holds fields (some entry.key) (some entry.payload)) :
      IsEntry (enclosed '{' gap (fields.map Field.text) '}') entry
  | array {gap entry} {key payload : Spaced} (isGap : IsGap gap)
      (quotedKey : IsQuoted key.inner entry.key)
      (quotedPayload : IsQuoted payload.inner entry.payload) :
      IsEntry (enclosed '[' gap [key.text, payload.text] ']') entry

/-! ## Looking for fields -/

section Fields

variable {s rest gap : List Char}

theorem firstField_stop (found : firstField s = .ok (.stop rest)) :
    ∃ gap tail, IsGap gap ∧ rest = '}' :: tail ∧ s = gap ++ rest := by
  unfold firstField at found
  simp only at found
  split at found
  · cases found
  · next there =>
      cases found
      obtain ⟨gap, isGap, whole⟩ := exists_gap s
      exact ⟨gap, _, isGap, there, whole⟩
  · cases found
  · cases found

theorem firstField_item (found : firstField s = .ok (.item rest)) :
    ∃ gap, IsGap gap ∧ s = gap ++ '"' :: rest := by
  unfold firstField at found
  simp only at found
  split at found
  · cases found
  · cases found
  · next there =>
      cases found
      exact exists_gap_of_skipSpace there
  · cases found

theorem nextField_stop (found : nextField s = .ok (.stop rest)) :
    ∃ gap tail, IsGap gap ∧ rest = '}' :: tail ∧ s = gap ++ rest := by
  unfold nextField at found
  simp only at found
  split at found
  · cases found
  · next there =>
      cases found
      obtain ⟨gap, isGap, whole⟩ := exists_gap s
      exact ⟨gap, _, isGap, there, whole⟩
  · split at found <;> cases found
  · cases found

/-- A further field stands behind a comma. -/
theorem nextField_item (found : nextField s = .ok (.item rest)) :
    ∃ gap ahead, IsGap gap ∧ IsGap ahead ∧ s = gap ++ ',' :: (ahead ++ '"' :: rest) := by
  unfold nextField at found
  simp only at found
  split at found
  · cases found
  · cases found
  · next there =>
      obtain ⟨gap, isGap, rfl⟩ := exists_gap_of_skipSpace there
      split at found
      · cases found
      · next behind =>
          cases found
          obtain ⟨ahead, isAhead, rfl⟩ := exists_gap_of_skipSpace behind
          exact ⟨gap, ahead, isGap, isAhead, rfl⟩
      · cases found
      · cases found
  · cases found

/-- What the reader stands at behind the quote of a field. -/
def inside (field : Field) (rest : List Char) : List Char :=
  field.name ++ '"' :: (field.between ++ ':' :: (field.value.before ++ (field.value.bare ++ rest)))

theorem bare_append (field : Field) (rest : List Char) :
    field.bare ++ rest = '"' :: inside field rest := field.bare_append rest

theorem firstField_text (isGap : IsGap gap) (field : Field) (rest : List Char) :
    firstField (gap ++ (field.text ++ rest)) = .ok (.item (inside field rest)) := by
  rw [Field.text, List.append_assoc, bare_append, ← List.append_assoc, firstField,
    skipSpace_dark (isGap.append field.gapBefore) rfl]
  rfl

theorem nextField_text (isGap : IsGap gap) (field : Field) (rest : List Char) :
    nextField (gap ++ ',' :: (field.text ++ rest)) = .ok (.item (inside field rest)) := by
  simp only [nextField, skipSpace_dark isGap (show isSpace ',' = false from rfl)]
  rw [Field.text, List.append_assoc, bare_append, skipSpace_dark field.gapBefore rfl]
  rfl

theorem nextField_end (isGap : IsGap gap) (rest : List Char) :
    nextField (gap ++ '}' :: rest) = .ok (.stop ('}' :: rest)) := by
  rw [nextField, skipSpace_dark isGap rfl]
  rfl

end Fields

/-! ## Objects -/

/-- What fields say of an entry where a key and a payload may have been read before. -/
def Completes (key payload : Option String) (fields : List Field) (entry : Entry) : Prop :=
  ∃ k p, Holds fields k p ∧ key.toList ++ k.toList = [entry.key] ∧
    payload.toList ++ p.toList = [entry.payload]

section Completes

variable {key payload : Option String} {value : String} {field : Field} {fields : List Field}
  {entry : Entry}

/-- Without further fields an entry is complete just if both its parts were read. -/
theorem completes_nil_iff : Completes key payload [] entry ↔
    key = some entry.key ∧ payload = some entry.payload := by
  constructor
  · rintro ⟨k, p, holds, first, second⟩
    cases holds
    cases key <;> cases payload <;> simp_all
  · rintro ⟨rfl, rfl⟩
    exact ⟨none, none, .nothing, rfl, rfl⟩

/-- The field of the key completes an entry whose key was not read yet. -/
theorem completes_key (completes : Completes (some value) payload fields entry)
    (named : Spells field.name "key".toList) (quoted : IsQuoted field.value.inner value) :
    Completes none payload (field :: fields) entry := by
  obtain ⟨k, p, holds, first, second⟩ := completes
  cases k with
  | some k => cases first
  | none => exact ⟨some value, p, .key named quoted holds, first, second⟩

theorem completes_payload (completes : Completes key (some value) fields entry)
    (named : Spells field.name "payload".toList) (quoted : IsQuoted field.value.inner value) :
    Completes key none (field :: fields) entry := by
  obtain ⟨k, p, holds, first, second⟩ := completes
  cases p with
  | some p => cases second
  | none => exact ⟨k, some value, .payload named quoted holds, first, second⟩

/-- A field with another name adds nothing to an entry. -/
theorem completes_other {name : List Char} (completes : Completes key payload fields entry)
    (named : Spells field.name name) (notKey : name ≠ "key".toList)
    (notPayload : name ≠ "payload".toList) (isValue : IsValue field.value.inner) :
    Completes key payload (field :: fields) entry := by
  obtain ⟨k, p, holds, first, second⟩ := completes
  exact ⟨k, p, .other named notKey notPayload isValue holds, first, second⟩

end Completes

section Objects

variable {s rest tail gap : List Char} {fuel : Nat} {entry : Entry} {key payload : Option String}
  {field : Field} {fields : List Field} {next : List Char → Except Fault Next}

theorem readFields_stop (found : next s = .ok (.stop ('}' :: tail))) :
    readFields next key payload (fuel + 1) s = .ok (entry, rest) ↔
      (key = some entry.key ∧ payload = some entry.payload) ∧ rest = tail := by
  rw [readFields, found]
  constructor
  · intro read
    simp only at read
    split at read
    · cases read
      exact ⟨⟨rfl, rfl⟩, rfl⟩
    · cases read
    · cases read
  · rintro ⟨⟨rfl, rfl⟩, rfl⟩
    rfl

theorem bind_readColon_eq_ok {α : Type} {read : List Char → Except Fault α} {value : α} :
    (readColon s).bind read = .ok value ↔
      ∃ gap rest, IsGap gap ∧ s = gap ++ ':' :: rest ∧ read rest = .ok value := by
  constructor
  · intro done
    cases colon : readColon s with
    | error fault =>
        rw [colon] at done
        cases done
    | ok rest =>
        rw [colon] at done
        obtain ⟨gap, isGap, rfl⟩ := readColon_eq_ok.mp colon
        exact ⟨gap, rest, isGap, rfl, done⟩
  · rintro ⟨gap, rest, isGap, rfl, done⟩
    rw [readColon_gap isGap]
    exact done

/-- A name, a value and the white space around them make a field. -/
theorem exists_field {before between ahead after : List Char} (isBefore : IsGap before)
    (isBetween : IsGap between) (isAhead : IsGap ahead) (isAfter : IsGap after)
    (name inner rest : List Char) :
    ∃ field : Field, field.name = name ∧ field.value.inner = inner ∧
      before ++ '"' :: (name ++ '"' :: (between ++ ':' :: (ahead ++ (inner ++ (after ++ rest))))) =
        field.text ++ rest :=
  ⟨⟨before, name, between, ⟨ahead, inner, after, isAhead, isAfter⟩, isBefore, isBetween⟩, rfl, rfl,
    by simp [Field.text, Field.bare, Spaced.text, Spaced.bare]⟩

/-- A field with a string, and the fields that are read behind it. -/
theorem exists_quoted_field {before behind : List Char} {value : String} (isBefore : IsGap before)
    (spelled : List Char) (read : (readColon s).bind readString = .ok (value, behind))
    (more : ∃ gap fields, IsGap gap ∧ Completes key payload fields entry ∧
      behind = gap ++ ((fields.map Field.text).flatMap (',' :: ·) ++ '}' :: rest)) :
    ∃ (field : Field) (fields : List Field), field.name = spelled ∧
      IsQuoted field.value.inner value ∧ Completes key payload fields entry ∧
      before ++ '"' :: (spelled ++ '"' :: s) =
        field.text ++ ((fields.map Field.text).flatMap (',' :: ·) ++ '}' :: rest) := by
  obtain ⟨between, _, isBetween, rfl, string⟩ := bind_readColon_eq_ok.mp read
  obtain ⟨ahead, quoted, isAhead, isQuoted, rfl⟩ := readString_eq_ok.mp string
  obtain ⟨after, fields, isAfter, completes, rfl⟩ := more
  obtain ⟨field, named, inner, whole⟩ :=
    exists_field isBefore isBetween isAhead isAfter spelled quoted _
  exact ⟨field, fields, named, inner ▸ isQuoted, completes, whole⟩

/-- What is read from a field on is a field and what is read from behind it on. -/
theorem completes_of_readFields {before : List Char} (isBefore : IsGap before)
    (more : ∀ {key payload s entry rest},
      readFields nextField key payload fuel s = .ok (entry, rest) →
        ∃ gap fields, IsGap gap ∧ Completes key payload fields entry ∧
          s = gap ++ ((fields.map Field.text).flatMap (',' :: ·) ++ '}' :: rest))
    (found : next s = .ok (.item tail))
    (read : readFields next key payload (fuel + 1) s = .ok (entry, rest)) :
    ∃ field fields, Completes key payload (field :: fields) entry ∧
      before ++ '"' :: tail =
        field.text ++ ((fields.map Field.text).flatMap (',' :: ·) ++ '}' :: rest) := by
  rw [readFields, found] at read
  simp only at read
  split at read
  · cases read
  -- the field is the key, the payload or another one, and what is behind its value is read on
  · next name behind body =>
      obtain ⟨spelled, spells, rfl⟩ := readBody_eq_ok.mp body
      split at read
      · next named =>
          split at read
          · cases read
          split at read
          · cases read
          · next nothing _ value behind string =>
              obtain ⟨field, fields, rfl, isQuoted, completes, whole⟩ :=
                exists_quoted_field isBefore spelled string (more read)
              obtain rfl : key = none := by simpa using nothing
              exact ⟨field, fields, completes_key completes (named ▸ spells) isQuoted, whole⟩
      split at read
      · next notKey named =>
          split at read
          · cases read
          split at read
          · cases read
          · next nothing _ value behind string =>
              obtain ⟨field, fields, rfl, isQuoted, completes, whole⟩ :=
                exists_quoted_field isBefore spelled string (more read)
              obtain rfl : payload = none := by simpa using nothing
              exact ⟨field, fields, completes_payload completes (named ▸ spells) isQuoted, whole⟩
      · next notKey notPayload =>
          split at read
          · cases read
          · next behind colon =>
              obtain ⟨between, _, isBetween, rfl, skipped⟩ := bind_readColon_eq_ok.mp colon
              obtain ⟨ahead, value, isAhead, isValue, rfl⟩ := startsWithValue_of_skip skipped
              obtain ⟨after, fields, isAfter, completes, rfl⟩ := more read
              obtain ⟨field, rfl, rfl, whole⟩ :=
                exists_field isBefore isBetween isAhead isAfter spelled value _
              have both := completes_other completes spells notKey notPayload isValue
              exact ⟨field, fields, both, whole⟩

/-- What is read as the rest of an object are fields that complete the entry. -/
theorem completes_of_readFields_nextField
    (read : readFields nextField key payload fuel s = .ok (entry, rest)) :
    ∃ gap fields, IsGap gap ∧ Completes key payload fields entry ∧
      s = gap ++ ((fields.map Field.text).flatMap (',' :: ·) ++ '}' :: rest) := by
  induction fuel generalizing key payload s entry rest with
  | zero => cases read
  | succ fuel ih =>
      cases found : nextField s with
      | error fault =>
          rw [readFields, found] at read
          cases read
      | ok next =>
          cases next with
          | stop behind =>
              obtain ⟨gap, tail, isGap, rfl, rfl⟩ := nextField_stop found
              obtain ⟨known, rfl⟩ := (readFields_stop found).mp read
              exact ⟨gap, [], isGap, completes_nil_iff.mpr known, rfl⟩
          | item tail =>
              obtain ⟨gap, before, isGap, isBefore, rfl⟩ := nextField_item found
              obtain ⟨field, fields, completes, whole⟩ :=
                completes_of_readFields isBefore ih found read
              exact ⟨gap, field :: fields, isGap, completes, by rw [whole]; simp⟩

theorem Completes.isEntry (completes : Completes none none fields entry) (isGap : IsGap gap) :
    IsEntry (enclosed '{' gap (fields.map Field.text) '}') entry := by
  obtain ⟨k, p, holds, first, second⟩ := completes
  cases k with
  | none => cases first
  | some k =>
      cases p with
      | none => cases second
      | some p =>
          cases first
          cases second
          exact .object isGap holds

/-- What is read as the fields of an entry is an object that tells it. -/
theorem isEntry_of_readFields
    (read : readFields firstField none none fuel s = .ok (entry, rest)) :
    ∃ object, IsEntry object entry ∧ '{' :: s = object ++ rest := by
  cases fuel with
  | zero => cases read
  | succ fuel =>
      cases found : firstField s with
      | error fault =>
          rw [readFields, found] at read
          cases read
      | ok next =>
          cases next with
          | stop behind =>
              obtain ⟨gap, tail, isGap, rfl, rfl⟩ := firstField_stop found
              obtain ⟨⟨known, -⟩, -⟩ := (readFields_stop found).mp read
              cases known
          | item tail =>
              obtain ⟨gap, isGap, rfl⟩ := firstField_item found
              obtain ⟨field, fields, completes, whole⟩ :=
                completes_of_readFields isGap_nil completes_of_readFields_nextField found read
              refine ⟨_, completes.isEntry isGap, ?_⟩
              rw [List.map_cons, enclosed_cons_append, ← whole]
              rfl

/-! ### Objects are read -/

section Field

variable {name : List Char} {value : String} (found : next s = .ok (.item (inside field rest)))
  (named : Spells field.name name)

include found named

theorem readFields_of_key (own : name = "key".toList) (quoted : IsQuoted field.value.inner value)
    (payload : Option String) (fuel : Nat) :
    readFields next none payload (fuel + 1) s =
      readFields nextField (some value) payload fuel (field.value.after ++ rest) := by
  have string := quoted.readString field.value.gapBefore (field.value.after ++ rest)
  rw [readFields, found]
  simp only [inside, named.readBody, own, if_true, Option.isSome_none, Bool.false_eq_true, if_false,
    readColon_gap field.gapBetween, Except.bind, Spaced.bare, List.append_assoc, string]

theorem readFields_of_payload (own : name = "payload".toList)
    (quoted : IsQuoted field.value.inner value) (key : Option String) (fuel : Nat) :
    readFields next key none (fuel + 1) s =
      readFields nextField key (some value) fuel (field.value.after ++ rest) := by
  have string := quoted.readString field.value.gapBefore (field.value.after ++ rest)
  have different : "payload".toList ≠ "key".toList := by decide
  rw [readFields, found]
  simp only [inside, named.readBody, own, different, if_true, Option.isSome_none,
    Bool.false_eq_true, if_false, readColon_gap field.gapBetween, Except.bind, Spaced.bare,
    List.append_assoc, string]

theorem readFields_of_other (notKey : name ≠ "key".toList) (notPayload : name ≠ "payload".toList)
    (isValue : IsValue field.value.inner) (ends : Ends rest) (key payload : Option String)
    (fuel : Nat) :
    readFields next key payload (fuel + 1) s =
      readFields nextField key payload fuel (field.value.after ++ rest) := by
  have skipped := isValue.skip field.value.gapBefore (ends.behind_gap field.value.gapAfter)
  rw [readFields, found]
  simp only [inside, named.readBody, notKey, notPayload, if_false, readColon_gap field.gapBetween,
    Except.bind, Spaced.bare, List.append_assoc, skipped]

end Field

/-- A field is read in front of the fields behind it. -/
theorem Completes.readFields_cons (completes : Completes key payload (field :: fields) entry)
    (found : next s = .ok (.item (inside field tail))) (ends : Ends tail)
    (more : ∀ {key payload}, Completes key payload fields entry →
      readFields nextField key payload fuel (field.value.after ++ tail) = .ok (entry, rest)) :
    readFields next key payload (fuel + 1) s = .ok (entry, rest) := by
  obtain ⟨k, p, holds, first, second⟩ := completes
  cases holds with
  | @key _ _ value _ named quoted others =>
      cases key with
      | some => simp at first
      | none =>
          rw [readFields_of_key found named rfl quoted]
          exact more ⟨none, p, others, first, second⟩
  | @payload _ _ _ value named quoted others =>
      cases payload with
      | some => simp at second
      | none =>
          rw [readFields_of_payload found named rfl quoted]
          exact more ⟨k, none, others, first, second⟩
  | other named notKey notPayload isValue others =>
      rw [readFields_of_other found named notKey notPayload isValue ends]
      exact more ⟨k, p, others, first, second⟩

theorem ends_flatMap (parts : List (List Char)) (rest : List Char) :
    Ends (parts.flatMap (',' :: ·) ++ '}' :: rest) := by
  cases parts with
  | nil => exact ends_brace rest
  | cons part parts => exact ends_comma _

/-- Fields that complete an entry are read as the rest of its object. -/
theorem Completes.readFields_nextField (completes : Completes key payload fields entry)
    (isGap : IsGap gap) (enough : fields.length < fuel) (rest : List Char) :
    readFields nextField key payload fuel
        (gap ++ ((fields.map Field.text).flatMap (',' :: ·) ++ '}' :: rest)) =
      .ok (entry, rest) := by
  induction fields generalizing key payload gap fuel with
  | nil =>
      obtain ⟨fuel, rfl⟩ := Nat.exists_eq_succ_of_ne_zero (Nat.ne_zero_of_lt enough)
      exact (readFields_stop (nextField_end isGap rest)).mpr ⟨completes_nil_iff.mp completes, rfl⟩
  | cons field fields ih =>
      obtain ⟨fuel, rfl⟩ := Nat.exists_eq_succ_of_ne_zero (Nat.ne_zero_of_lt enough)
      rw [List.map_cons, List.flatMap_cons, List.cons_append, List.cons_append, List.append_assoc]
      refine completes.readFields_cons (nextField_text isGap field _) (ends_flatMap _ rest) ?_
      exact fun behind => ih behind field.value.gapAfter (Nat.lt_of_succ_lt_succ enough)

end Objects

/-! ## Entries -/

section Entries

variable {s rest gap : List Char} {text : String} {entry : Entry}

theorem read_object {fields : List Field} (isGap : IsGap gap)
    (holds : Holds fields (some entry.key) (some entry.payload)) {ahead : List Char}
    (isAhead : IsGap ahead) (rest : List Char) :
    read (ahead ++ (enclosed '{' gap (fields.map Field.text) '}' ++ rest)) = .ok (entry, rest) := by
  have completes : Completes none none fields entry := ⟨_, _, holds, rfl, rfl⟩
  cases fields with
  | nil => cases holds
  | cons field fields =>
      have long := length_le_flatMap_comma (fields.map Field.text)
      rw [List.length_map] at long
      rw [List.map_cons, enclosed_cons_append, read, skipSpace_dark isAhead rfl]
      refine completes.readFields_cons (firstField_text isGap field _) (ends_flatMap _ rest) ?_
      refine fun behind => behind.readFields_nextField field.value.gapAfter ?_ rest
      simp only [List.length_cons, List.length_append]
      omega

section Array

variable {key payload : Spaced}

/-- An array of a key and a payload is read as their entry. -/
theorem readItems_array (isGap : IsGap gap) (quotedKey : IsQuoted key.inner entry.key)
    (quotedPayload : IsQuoted payload.inner entry.payload) (rest : List Char) :
    readItems (gap ++ (key.text ++ ',' :: (payload.text ++ ']' :: rest))) = .ok (entry, rest) := by
  simp only [readItems, quotedKey.firstItem isGap, quotedKey.readString_bare, bind, Except.bind,
    quotedPayload.nextItem key.gapAfter, quotedPayload.readString_bare,
    endList_gap payload.gapAfter]
  rfl

theorem isEntry_of_readItems (done : readItems s = .ok (entry, rest)) :
    ∃ array, IsEntry array entry ∧ '[' :: s = array ++ rest := by
  unfold readItems at done
  obtain ⟨first, found, readKey⟩ := exists_of_bind_eq_ok done
  cases first with
  | stop => cases readKey
  | item behind =>
      obtain ⟨gap, isGap, rfl⟩ := firstItem_item found
      simp only at readKey
      obtain ⟨⟨key, behind⟩, string, goesOn⟩ := exists_of_bind_eq_ok readKey
      obtain ⟨before, quotedKey, isBefore, isKey, rfl⟩ := readString_eq_ok.mp string
      obtain ⟨second, found, readPayload⟩ := exists_of_bind_eq_ok goesOn
      cases second with
      | stop => cases readPayload
      | item behind =>
          obtain ⟨between, ahead, isBetween, isAhead, rfl⟩ := nextItem_item found
          simp only at readPayload
          obtain ⟨⟨payload, behind⟩, string, readEnd⟩ := exists_of_bind_eq_ok readPayload
          obtain ⟨more, quotedPayload, isMore, isPayload, rfl⟩ := readString_eq_ok.mp string
          obtain ⟨behind, ended, made⟩ := exists_of_bind_eq_ok readEnd
          obtain ⟨after, isAfter, rfl⟩ := endList_eq_ok.mp ended
          cases made
          let first : Spaced := ⟨before, quotedKey, between, isBefore, isBetween⟩
          let second : Spaced :=
            ⟨ahead ++ more, quotedPayload, after, isAhead.append isMore, isAfter⟩
          have entry : IsEntry (enclosed '[' gap [first.text, second.text] ']') ⟨key, payload⟩ :=
            .array isGap isKey isPayload
          refine ⟨_, entry, ?_⟩
          rw [enclosed_cons_append]
          simp [first, second, Spaced.text, Spaced.bare]

end Array

/-- A text that is an entry is read as it. -/
theorem IsEntry.read {inner : List Char} (isEntry : IsEntry inner entry) (isGap : IsGap gap)
    (rest : List Char) : read (gap ++ (inner ++ rest)) = .ok (entry, rest) := by
  cases isEntry with
  | object isInside holds => exact read_object isInside holds isGap rest
  | array isInside isKey isPayload =>
      rw [enclosed_cons_append, Entry.read, skipSpace_dark isGap rfl]
      have done := readItems_array isInside isKey isPayload rest
      simpa using done

/-- Just the texts of an entry are read as it, behind white space. -/
theorem read_eq_ok :
    read s = .ok (entry, rest) ↔
      ∃ gap inner, IsGap gap ∧ IsEntry inner entry ∧ s = gap ++ (inner ++ rest) := by
  constructor
  · intro done
    unfold Entry.read at done
    simp only at done
    split at done
    · cases done
    · next there =>
        obtain ⟨gap, isGap, rfl⟩ := exists_gap_of_skipSpace there
        obtain ⟨array, isEntry, whole⟩ := isEntry_of_readItems done
        exact ⟨gap, array, isGap, isEntry, by rw [whole]⟩
    · next there =>
        obtain ⟨gap, isGap, rfl⟩ := exists_gap_of_skipSpace there
        obtain ⟨object, isEntry, whole⟩ := isEntry_of_readFields done
        exact ⟨gap, object, isGap, isEntry, by rw [whole]⟩
    · cases done
  · rintro ⟨gap, inner, isGap, isEntry, rfl⟩
    exact isEntry.read isGap rest

/-- A text holds an entry just if it is put together so, with white space around it. -/
theorem ofText_eq_ok :
    ofText text = .ok entry ↔
      ∃ whole : Spaced, text.toList = whole.text ∧ IsEntry whole.inner entry :=
  document_eq_ok_iff_framed read_eq_ok

end Entries

end ScriptRoster.Cache.Entry

namespace ScriptRoster.Cache

open Files Text

/-- The contents of an entry file that tell the names of a key: the bytes of a text that is an entry
of the key, whose payload is a list of the names. -/
inductive Tells : Bytes → String → List String → Prop
  | mk {whole list : Json.Spaced} {entry : Entry} {names}
      (isEntry : Entry.IsEntry whole.inner entry) (payload : entry.payload.toList = list.text)
      (isStrings : Json.IsStrings list.inner names) :
      Tells (encode (String.ofList whole.text)) entry.key names

variable {content : Bytes} {key : String} {names : List String}

/-- An entry file tells names if its bytes are text, its text an entry of the key and its payload a
list. -/
theorem tells_iff : Tells content key names ↔
    ∃ text payload, content = encode text ∧ Entry.ofText text = .ok ⟨key, payload⟩ ∧
      Json.strings payload = .ok names := by
  constructor
  · rintro @⟨whole, list, ⟨key, payload⟩, names, isEntry, same, isStrings⟩
    refine ⟨_, payload, rfl, Entry.ofText_eq_ok.mpr ⟨whole, String.toList_ofList, isEntry⟩, ?_⟩
    exact Json.strings_eq_ok.mpr ⟨list, same, isStrings⟩
  · rintro ⟨text, payload, rfl, parsed, listed⟩
    obtain ⟨whole, spelled, isEntry⟩ := Entry.ofText_eq_ok.mp parsed
    obtain ⟨list, same, isStrings⟩ := Json.strings_eq_ok.mp listed
    rw [← String.ofList_toList (s := text), spelled]
    exact .mk isEntry same isStrings

/-- From an entry file, just the names that its content tells are handed out. -/
theorem World.names?_eq_some_iff {world : World} {folder : Folder}
    (there : world.store = .folder folder) (obliging : world.Obliging)
    (read : world.host.files.read world.host.cwd (folder.entryPath key) = .ok content) :
    (world.names? key).1 = some names ↔ Tells content key names := by
  have held : (world.names? key).1 = some names ↔ world.HoldsNames key names := by
    constructor
    · cases asked : world.names? key with
      | mk found after =>
          rintro rfl
          exact holdsNames_of_names? asked
    · intro holds
      obtain ⟨after, asked⟩ := names?_of_holdsNames obliging holds
      rw [asked]
  rw [held, HoldsNames, there, tells_iff]
  constructor
  · rintro ⟨payload, holds, listed⟩
    obtain ⟨text, spelled, parsed⟩ := Folder.get_eq_some_iff.mp holds
    rw [FileTree.readText, read] at spelled
    simp only at spelled
    split at spelled
    · next decoded =>
        cases spelled
        exact ⟨_, payload, decode?_eq_some_iff.mp decoded, parsed, listed⟩
    · cases spelled
  · rintro ⟨text, payload, rfl, parsed, listed⟩
    refine ⟨payload, Folder.get_eq_some_iff.mpr ⟨text, ?_, parsed⟩, listed⟩
    rw [FileTree.readText, read]
    simp only [decode?_encode]

end ScriptRoster.Cache
