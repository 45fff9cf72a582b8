import ScriptRoster.Proofs.Toml.Value

/-!
# Documents are read as they were written

A document of lines, each a key with a value, is read as the entries of these lines in their order,
as long as no key stands there twice. Main statement: `read_document`.
-/

namespace ScriptRoster.Toml

open Text

variable {name : String} {kind : Kind} {piece rest : List Char} {input after : Input}
  {fuel start : Nat} {tail : List Token}

/-! ## Keys -/

/-- Whether a key can be written without quotes. -/
def isBareKey (name : String) : Bool := !name.toList.isEmpty && name.toList.all isKeyChar

/-- A key as a text: bare where that can be, else in quotes. -/
def keyText (name : String) : List Char :=
  if isBareKey name then name.toList else inQuoting .basic name.toList

/-- The quoting of a key as it is written. -/
def keyQuoting (name : String) : Option Quoting :=
  if isBareKey name then none else some .basic

/-- The kind of the token that a key is. -/
def keyKind (name : String) : Kind := if isBareKey name then .atom else .quoted .basic

theorem isKeyChar_solid {c : Char} (key : isKeyChar c = true) :
    endsAtom c = false ∧ c ≠ '\'' ∧ c ≠ '"' ∧ c ≠ '\ufeff' := by
  have other {d : Char} (none : isKeyChar d = false) : c ≠ d := by
    rintro rfl
    rw [none] at key
    exact absurd key (by decide)
  refine ⟨?_, other (by decide), other (by decide), other (by decide)⟩
  have signs : ['.', '=', ',', '[', ']', '\x7b', '\x7d', ' ', '\t', '#', '\r', '\n'].all
      (!isKeyChar ·) = true := by decide
  rw [endsAtom, List.contains_eq_mem, decide_eq_false_iff_not]
  intro member
  have none := List.all_eq_true.mp signs c member
  rw [key] at none
  exact absurd none (by decide)

theorem isBareKey_eq_true (bare : isBareKey name = true) :
    name.toList ≠ [] ∧ ∀ c ∈ name.toList, isKeyChar c = true := by
  simpa [isBareKey] using bare

/-- A key is cut off from the blank behind it. -/
theorem cuts_keyText (name : String) (rest : List Char) :
    Cuts (keyKind name) (keyText name) (' ' :: rest) := by
  unfold keyKind keyText
  split
  · next bare =>
      obtain ⟨nonempty, keys⟩ := isBareKey_eq_true bare
      refine IsAtom.cuts ⟨fun c member => (isKeyChar_solid (keys c member)).1, ?_⟩
        (follows_cons (by decide))
      cases same : name.toList with
      | nil => exact absurd same nonempty
      | cons c s =>
          have solid := isKeyChar_solid (keys c (by rw [same]; exact List.mem_cons_self))
          exact ⟨c, s, rfl, solid.2.1, solid.2.2.1⟩
  · exact cuts_inQuoting trivial (follows_cons (by decide))

theorem checkKey_of_all {s : List Char} (keys : ∀ c ∈ s, isKeyChar c = true) (place : Nat) :
    checkKey place s = .ok () := by
  induction s generalizing place with
  | nil => rfl
  | cons c s ih =>
      rw [checkKey, if_pos (keys c List.mem_cons_self)]
      exact ih (fun d member => keys d (List.mem_cons_of_mem c member)) _

/-- A key is read as the name that is written. -/
theorem name_keyText (name : String) (start : Nat) :
    Raw.name ⟨keyQuoting name, keyText name, start⟩ = .ok name := by
  unfold keyQuoting keyText
  split
  · next bare =>
      obtain ⟨nonempty, keys⟩ := isBareKey_eq_true bare
      have filled : name.toList.isEmpty = false := by simpa using nonempty
      simp only [Raw.name, filled, Bool.false_eq_true, if_false, checkKey_of_all keys,
        String.ofList_toList, bind, Except.bind, pure, Except.pure]
  · have holds : Holds .basic name.toList := trivial
    have read := readQuoted_inQuoting holds (some .basic) start
    simp [Raw.name, read, Except.map]

theorem readKey_keyText (name : String) (start : Nat) :
    ∃ key : Key, readKey [⟨keyQuoting name, keyText name, start⟩] = .ok ([], key) ∧
      key.name = name := by
  refine ⟨⟨name, start, Raw.stop ⟨keyQuoting name, keyText name, start⟩⟩, ?_, rfl⟩
  simp only [readKey, readKeyAfter, name_keyText, bind, Except.bind, pure, Except.pure]
  rfl

/-! ## Lines -/

/-- A key with a value, and what is known of what the value says. -/
structure Statement where
  name : String
  value : List Char
  means : Node → Prop
  reads : ReadsAs value means

/-- A key with a value on a line of its own. -/
def Statement.line (statement : Statement) : List Char :=
  keyText statement.name ++ ([' '] ++ (['='] ++ ([' '] ++ (statement.value ++ ['\n']))))

/-- Whether a line that was read says what was written. -/
def Statement.Told (statement : Statement) (line : Raw × Written) : Prop :=
  ∃ key node, readKey [line.1] = .ok ([], key) ∧ key.name = statement.name ∧
    line.2.node = .ok node ∧ statement.means node

theorem skipBlank_blank (first : input.tokens = ⟨.blank, piece, start⟩ :: tail) :
    input.skipBlank = input.after ⟨.blank, piece, start⟩ := by
  simp only [Input.skipBlank, Input.after, first, List.drop_succ_cons, List.drop_zero]

theorem readLineEnd_lineFeed (first : input.tokens = ⟨.lineEnd, ['\n'], start⟩ :: tail)
    (fuel : Nat) :
    readLineEnd (fuel + 1) input = .ok (input.after ⟨.lineEnd, ['\n'], start⟩) := by
  simp only [readLineEnd, first, checkSpace, bind, Except.bind, pure, Except.pure]
  rfl

/-- Behind its key, a line is read up to its end. -/
theorem readKeyed_statement (statement : Statement) {missing : Cause} {key : Raw}
    (before : input.Before
      ([' '] ++ (['='] ++ ([' '] ++ (statement.value ++ (['\n'] ++ rest)))))) :
    ∃ written after node, readKeyed missing key input = .ok (.entry [key] written, after) ∧
      after.Before rest ∧ after.tokens.length < input.tokens.length ∧
      written.node = .ok node ∧ statement.means node := by
  obtain ⟨c, t, same, solid⟩ := statement.reads.solid
  have visible : Follows (fun c => c ≠ ' ' ∧ c ≠ '\t') (statement.value ++ (['\n'] ++ rest)) := by
    rw [same]
    exact follows_cons solid
  obtain ⟨gap, first, before⟩ := before.next
    (cuts_spaces (by simp) (follows_cons (by decide)))
  obtain ⟨sign, second, before⟩ := before.next (cuts_equals _)
  obtain ⟨gap', third, before⟩ := before.next (cuts_spaces (by simp) visible)
  obtain ⟨written, after, node, read, behind, less, node_eq, meant⟩ :=
    statement.reads.read _ _ _ greatestDepth before (stops_cons (by decide) rest) (Nat.le_refl _)
      (by decide)
  obtain ⟨end_, fourth, stands⟩ := behind.next (cuts_lineEnd rest)
  have lengths := congrArg List.length first
  rw [second, third] at lengths
  have length := congrArg List.length fourth
  simp only [List.length_cons] at lengths length
  refine ⟨written, _, node, ?_, stands, by omega, node_eq, meant⟩
  -- no further part of the key: an equals sign follows, not a point
  have alone : readKeyTail input.tokens.length input = ([], input.after ⟨.blank, [' '], gap⟩) := by
    rw [lengths, readKeyTail, skipBlank_blank first]
    simp only [second]
    rfl
  have entry : readEntry [key] ((input.after ⟨.blank, [' '], gap⟩).after ⟨.equals, ['='], sign⟩) =
      .ok (.entry [key] written, after.after ⟨.lineEnd, ['\n'], end_⟩) := by
    simp only [readEntry, skipBlank_blank third, read, readLineEnd_lineFeed fourth, bind,
      Except.bind, pure, Except.pure]
  simp only [readKeyed, alone, second, if_true, entry]

/-- A line that begins with a key is an entry. -/
theorem readLines_key (name : String) {key : List Char} {missing : Line × Input}
    (first : input.tokens = ⟨keyKind name, key, start⟩ :: tail)
    (read : readKeyed .noValue ⟨keyQuoting name, key, start⟩
      (input.after ⟨keyKind name, key, start⟩) = .ok missing) :
    readLines (fuel + 1) input =
      (readLines fuel missing.2).map (missing.1 :: ·) := by
  unfold keyKind keyQuoting at *
  rw [readLines, first]
  by_cases bare : isBareKey name = true
  · simp only [bare, if_true] at read ⊢
    simp only [read, bind, Except.bind, pure, Except.pure]
    rfl
  · simp only [bare, if_false, Bool.false_eq_true] at read ⊢
    simp only [read, bind, Except.bind, pure, Except.pure]
    rfl

theorem readLines_nil (before : input.Before []) (fuel : Nat) : readLines fuel input = .ok [] := by
  obtain ⟨start, none⟩ := before
  rw [tokensFrom_nil] at none
  cases fuel with
  | zero => rfl
  | succ fuel => rw [readLines, none]

/-- The lines of a document are read one after the other. -/
theorem readLines_statements (statements : List Statement) (fuel : Nat)
    (before : input.Before (statements.flatMap Statement.line))
    (enough : input.tokens.length < fuel) :
    ∃ lines : List (Raw × Written),
      readLines fuel input = .ok (lines.map fun line => .entry [line.1] line.2) ∧
      List.Forall₂ Statement.Told statements lines := by
  induction statements generalizing input fuel with
  | nil => exact ⟨[], readLines_nil before fuel, .nil⟩
  | cons statement statements ih =>
      obtain ⟨fuel, rfl⟩ := Nat.exists_eq_succ_of_ne_zero (n := fuel) (by omega)
      simp only [List.flatMap_cons, Statement.line, List.append_assoc] at before
      obtain ⟨start, first, before⟩ := before.next (cuts_keyText statement.name _)
      obtain ⟨written, after, node, read, behind, less, node_eq, meant⟩ :=
        readKeyed_statement statement before
      have length := congrArg List.length first
      rw [List.length_cons] at length
      obtain ⟨lines, rest, told⟩ := ih fuel behind (by omega)
      obtain ⟨key, key_eq, named⟩ := readKey_keyText statement.name start
      refine ⟨(⟨keyQuoting statement.name, keyText statement.name, start⟩, written) :: lines, ?_,
        .cons ⟨key, node, key_eq, named, node_eq, meant⟩ told⟩
      rw [readLines_key statement.name first read, rest]
      rfl

/-! ## Tables -/

/-- Whether an entry says what was written. -/
def Statement.Holds (statement : Statement) (entry : Key × Node) : Prop :=
  entry.1.name = statement.name ∧ statement.means entry.2

theorem Entries.put_of_absent {key : Key} {node : Node} {entries : Entries}
    (free : ∀ entry ∈ entries, entry.1.name ≠ key.name) :
    entries.put key node = entries ++ [(key, node)] := by
  induction entries with
  | nil => rfl
  | cons entry entries ih =>
      rw [Entries.put, if_neg (free entry List.mem_cons_self),
        ih fun other member => free other (List.mem_cons_of_mem entry member), List.cons_append]

theorem Entries.add_of_absent {key : Key} {node : Node} {entries : Entries}
    (free : ∀ entry ∈ entries, entry.1.name ≠ key.name) :
    entries.addUnder false [] key node = .ok (entries ++ [(key, node)]) := by
  have absent : entries.find? key.name = none := by
    rw [Entries.find?, List.find?_eq_none]
    intro entry member
    simpa using free entry member
  simp only [Entries.addUnder, List.isEmpty_nil, if_true, Entries.add, absent, Option.isSome_none,
    Bool.false_eq_true, if_false, Entries.put_of_absent free]

/-- Lines with different keys are added one after the other. -/
theorem bodyEntries_told {statements : List Statement} {lines : List (Raw × Written)}
    (told : List.Forall₂ Statement.Told statements lines) (entries : Entries)
    (apart : (statements.map Statement.name).Nodup)
    (free : ∀ entry ∈ entries, ∀ statement ∈ statements, entry.1.name ≠ statement.name) :
    ∃ more, bodyEntries entries (lines.map fun line => ([line.1], line.2)) = .ok (entries ++ more) ∧
      List.Forall₂ Statement.Holds statements more := by
  induction told generalizing entries with
  | nil => exact ⟨[], by rw [List.append_nil]; rfl, .nil⟩
  | @cons statement line statements lines first _ ih =>
      obtain ⟨key, node, key_eq, named, node_eq, meant⟩ := first
      rw [List.map_cons, List.nodup_cons] at apart
      have added : entries.addUnder false [] key node = .ok (entries ++ [(key, node)]) := by
        apply Entries.add_of_absent
        intro entry member
        rw [named]
        exact free entry member statement List.mem_cons_self
      obtain ⟨more, rest, holds⟩ := ih (entries ++ [(key, node)]) apart.2 (by
        intro entry member other listed
        rcases List.mem_append.mp member with member | member
        · exact free entry member other (List.mem_cons_of_mem statement listed)
        · rw [List.mem_singleton.mp member, named]
          intro same
          exact apart.1 (same ▸ List.mem_map_of_mem listed))
      refine ⟨(key, node) :: more, ?_, .cons ⟨named, meant⟩ holds⟩
      rw [List.map_cons, bodyEntries]
      simp only [key_eq, node_eq, added, bind, Except.bind]
      rw [rest, List.append_assoc, List.singleton_append]

theorem sections_entries (lines : List (Raw × Written)) :
    sections (lines.map fun line => .entry [line.1] line.2) =
      (lines.map fun line => ([line.1], line.2), []) := by
  induction lines with
  | nil => rfl
  | cons line lines ih => rw [List.map_cons, sections, ih, List.map_cons]

theorem follows_keyText (name : String) (rest : List Char) :
    Follows (· ≠ '\ufeff') (keyText name ++ rest) := by
  unfold keyText
  split
  · next bare =>
      obtain ⟨nonempty, keys⟩ := isBareKey_eq_true bare
      cases same : name.toList with
      | nil => exact absurd same nonempty
      | cons c s =>
          rw [same] at keys
          exact follows_cons (isKeyChar_solid (keys c List.mem_cons_self)).2.2.2
  · exact follows_cons (by decide)

/-- No byte order mark stands at the start of a document. -/
theorem tokens_statements (statements : List Statement) :
    tokens (statements.flatMap Statement.line) =
      tokensFrom 0 (statements.flatMap Statement.line) := by
  have unmarked : Follows (· ≠ '\ufeff') (statements.flatMap Statement.line) := by
    cases statements with
    | nil => exact follows_nil
    | cons statement statements =>
        rw [List.flatMap_cons, Statement.line, List.append_assoc]
        exact follows_keyText statement.name _
  unfold tokens
  split
  · next rest same => exact absurd rfl (unmarked '\ufeff' (by rw [same]; rfl))
  · rfl

/-- A document in which no key stands twice is read as it was written. -/
theorem read_document {statements : List Statement} {source : String}
    (written : source.toList = statements.flatMap Statement.line)
    (apart : (statements.map Statement.name).Nodup) :
    ∃ entries, read source = .ok entries ∧ List.Forall₂ Statement.Holds statements entries := by
  have before : Input.Before ⟨tokensFrom 0 (statements.flatMap Statement.line), 0,
      byteLength (statements.flatMap Statement.line)⟩ (statements.flatMap Statement.line) :=
    ⟨0, rfl⟩
  obtain ⟨lines, read_lines, told⟩ :=
    readLines_statements statements _ before (Nat.lt_succ_self _)
  obtain ⟨entries, body, holds⟩ := bodyEntries_told told [] apart
    (fun entry member => absurd member List.not_mem_nil)
  refine ⟨entries, ?_, holds⟩
  simp only [read, linesOf, written, tokens_statements, read_lines, sections_entries, bind,
    Except.bind]
  rw [body]
  rfl

end ScriptRoster.Toml
