import Mathlib.Data.List.TakeWhile
import ScriptRoster.Toml.Quoted
import ScriptRoster.Toml.Writer

/-!
# Tokens of what was written

Signs, blanks, atoms and quoted texts are cut off the text that follows them as they were written,
whatever that text is, as long as it does not begin with something that would go on with the token.
Main statements: `IsAtom.cuts` for atoms, `cuts_inQuoting` for the four quotings, and
`holds_chooseQuoting`, by which every text can be written in the quoting that is chosen for it.
-/

namespace ScriptRoster.Toml

open Text

/-- A piece of text, with the rest of the text behind it, is the first token, of this kind. -/
def Cuts (kind : Kind) (piece rest : List Char) : Prop :=
  ∃ c s, piece = c :: s ∧ firstToken c (s ++ rest) = (kind, s.length)

variable {kind : Kind} {piece rest s : List Char} {c : Char}

/-- A text is cut into its first token and the tokens of the rest. -/
theorem Cuts.tokensFrom (cuts : Cuts kind piece rest) (start : Nat) :
    tokensFrom start (piece ++ rest) =
      ⟨kind, piece, start⟩ :: tokensFrom (start + byteLength piece) rest := by
  obtain ⟨c, s, rfl, first⟩ := cuts
  rw [List.cons_append, Toml.tokensFrom]
  simp only [first, List.take_left, List.drop_left, Token.stop]

theorem tokensFrom_nil (start : Nat) : tokensFrom start [] = [] := by rw [tokensFrom]

/-! ## Signs, blanks and atoms -/

theorem cuts_equals (rest : List Char) : Cuts .equals ['='] rest := ⟨'=', [], rfl, rfl⟩

theorem cuts_comma (rest : List Char) : Cuts .comma [','] rest := ⟨',', [], rfl, rfl⟩

theorem cuts_dot (rest : List Char) : Cuts .dot ['.'] rest := ⟨'.', [], rfl, rfl⟩

theorem cuts_openBracket (rest : List Char) : Cuts .openBracket ['['] rest := ⟨'[', [], rfl, rfl⟩

theorem cuts_closeBracket (rest : List Char) : Cuts .closeBracket [']'] rest := ⟨']', [], rfl, rfl⟩

theorem cuts_lineEnd (rest : List Char) : Cuts .lineEnd ['\n'] rest := ⟨'\n', [], rfl, rfl⟩

/-- The first character of what follows, if any, has a property. -/
def Follows (p : Char → Prop) (rest : List Char) : Prop := ∀ c, rest.head? = some c → p c

theorem follows_nil {p : Char → Prop} : Follows p [] := fun _ head => by cases head

theorem follows_cons {p : Char → Prop} (first : p c) : Follows p (c :: s) := by
  intro d head
  cases head
  exact first

theorem takeWhile_append_of_follows {p : Char → Bool} (all : ∀ c ∈ s, p c = true)
    (stops : Follows (p · = false) rest) : (s ++ rest).takeWhile p = s := by
  rw [List.takeWhile_append_of_pos all]
  cases rest with
  | nil => simp
  | cons d rest =>
      rw [List.takeWhile_cons_of_neg (by simp [stops d rfl]), List.append_nil]

theorem cuts_spaces (all : ∀ c ∈ s, c = ' ')
    (stops : Follows (fun c => c ≠ ' ' ∧ c ≠ '\t') rest) : Cuts .blank (' ' :: s) rest := by
  refine ⟨' ', s, rfl, ?_⟩
  have taken : (s ++ rest).takeWhile (fun c => c == ' ' || c == '\t') = s := by
    apply takeWhile_append_of_follows
    · intro c member
      simp [all c member]
    · intro c head
      have solid := stops c head
      simp [solid.1, solid.2]
  simp [firstToken, taken]

/-- A text that is one atom: none of its characters ends an atom, and the first is no quote. -/
structure IsAtom (piece : List Char) : Prop where
  bare : ∀ c ∈ piece, endsAtom c = false
  unquoted : ∃ c s, piece = c :: s ∧ c ≠ '\'' ∧ c ≠ '"'

/-- What begins like an atom goes on up to the first character that ends one. -/
theorem firstToken_of_atom (bare : endsAtom c = false) (single : c ≠ '\'') (double : c ≠ '"')
    (s : List Char) : firstToken c s = (.atom, (s.takeWhile fun c => !endsAtom c).length) := by
  simp only [endsAtom, List.contains_eq_mem, decide_eq_false_iff_not, List.mem_cons,
    List.not_mem_nil, or_false, not_or] at bare
  simp [firstToken, bare, single, double]

/-- An atom is cut where something ends it. -/
theorem IsAtom.cuts (atom : IsAtom piece) (stops : Follows (endsAtom · = true) rest) :
    Cuts .atom piece rest := by
  obtain ⟨c, s, rfl, single, double⟩ := atom.unquoted
  refine ⟨c, s, rfl, ?_⟩
  rw [firstToken_of_atom (atom.bare c List.mem_cons_self) single double,
    takeWhile_append_of_follows]
  · intro d member
    simp [atom.bare d (List.mem_cons_of_mem c member)]
  · intro d head
    simp [stops d head]

/-! ## Characters in basic texts -/

/-- Escapes of one letter, and the characters they stand for. -/
def shortEscapes : List (Char × Char) :=
  [('b', '\x08'), ('t', '\t'), ('n', '\n'), ('f', '\x0c'), ('r', '\r'), ('\\', '\\'), ('"', '"')]

/-- How a character may be written in a basic text or block: as it is, or as an escape. -/
inductive Spells (block : Bool) : List Char → Char → Prop
  | plain {c : Char} (visible : isPlainChar c = true ∨ (block = true ∧ c = '\n'))
      (double : c ≠ '"') (slash : c ≠ '\\') : Spells block [c] c
  | short {letter c : Char} (listed : (letter, c) ∈ shortEscapes) : Spells block ['\\', letter] c
  | code {c : Char} (hidden : c.toNat < 0x20 ∨ c.toNat = 0x7f) : Spells block (codeOf c) c

theorem spells_quote (block : Bool) : Spells block ['\\', '"'] '"' := .short (by decide)

theorem isPlainChar_of_visible (hidden : ¬(c.toNat < 0x20 ∨ c.toNat = 0x7f)) :
    isPlainChar c = true := by
  simp only [isPlainChar, Bool.or_eq_true, Bool.and_eq_true, decide_eq_true_eq, bne_iff_ne]
  exact .inr ⟨by omega, fun delete => hidden (.inr delete)⟩

/-- Every character but a quote is written in one of the ways, whatever stands around it. -/
theorem exists_spells (block : Bool) (double : c ≠ '"') :
    ∃ chunk, Spells block chunk c ∧
      ∀ quotes rest, escaped block quotes (c :: rest) = chunk ++ escaped block 0 rest := by
  by_cases backspace : c = '\x08'
  · subst backspace
    exact ⟨['\\', 'b'], .short (by decide), fun _ _ => rfl⟩
  by_cases tab : c = '\t'
  · subst tab
    exact ⟨['\\', 't'], .short (by decide), fun _ _ => rfl⟩
  by_cases feed : c = '\n'
  · subst feed
    cases block with
    | false => exact ⟨['\\', 'n'], .short (by decide), fun _ _ => rfl⟩
    | true => exact ⟨['\n'], .plain (.inr ⟨rfl, rfl⟩) (by decide) (by decide), fun _ _ => rfl⟩
  by_cases form : c = '\x0c'
  · subst form
    exact ⟨['\\', 'f'], .short (by decide), fun _ _ => rfl⟩
  by_cases back : c = '\r'
  · subst back
    exact ⟨['\\', 'r'], .short (by decide), fun _ _ => rfl⟩
  by_cases slash : c = '\\'
  · subst slash
    exact ⟨['\\', '\\'], .short (by decide), fun _ _ => rfl⟩
  by_cases hidden : c.toNat < 0x20 ∨ c.toNat = 0x7f
  · refine ⟨codeOf c, .code hidden, fun quotes rest => ?_⟩
    simp [escaped, double, backspace, tab, feed, form, back, slash, hidden]
  · refine ⟨[c], .plain (.inl (isPlainChar_of_visible hidden)) double slash, fun quotes rest => ?_⟩
    simp [escaped, double, backspace, tab, feed, form, back, slash, hidden]

theorem escaped_quote (quotes : Nat) (rest : List Char) :
    escaped false quotes ('"' :: rest) = '\\' :: '"' :: escaped false 0 rest := by
  simp [escaped]

/-- The third of three quotes in a row is an escape in a block. -/
theorem escaped_block_quote (quotes : Nat) (rest : List Char) :
    escaped true quotes ('"' :: rest) =
      if 2 ≤ quotes then '\\' :: '"' :: escaped true 0 rest
      else '"' :: escaped true (quotes + 1) rest := by
  by_cases many : 2 ≤ quotes
  · simp [escaped, many, show 2 < quotes + 1 by omega]
  · simp [escaped, many, show ¬2 < quotes + 1 by omega]

/-- A length that counts escapes as a whole, and other characters one by one. -/
structure Counts (block : Bool) (length : List Char → Nat) : Prop where
  slashes : ∀ s, length ('\\' :: '\\' :: s) = length s + 2
  quote : ∀ s, length ('\\' :: '"' :: s) = length s + 2
  slash : ∀ d s, d ≠ '\\' → d ≠ '"' → length ('\\' :: d :: s) = length (d :: s) + 1
  other : ∀ c s, c ≠ '"' → c ≠ '\\' → (c = '\n' → block = true) → length (c :: s) = length s + 1

theorem capitalDigit_plain : ∀ n < 16,
    capitalDigit n ≠ '"' ∧ capitalDigit n ≠ '\\' ∧ capitalDigit n ≠ '\n' := by decide

theorem ne_lineFeed_of_isPlainChar (visible : isPlainChar c = true) : c ≠ '\n' := by
  rintro rfl
  exact absurd visible (by decide)

/-- However a character is written, it is counted whole. -/
theorem Spells.length_append {block : Bool} {length : List Char → Nat} {chunk : List Char}
    (spells : Spells block chunk c) (counts : Counts block length) (s : List Char) :
    length (chunk ++ s) = chunk.length + length s := by
  cases spells with
  | plain visible double slash =>
      rw [List.singleton_append, counts.other c s double slash, List.length_singleton, Nat.add_comm]
      rintro rfl
      rcases visible with visible | ⟨block, -⟩
      · exact absurd rfl (ne_lineFeed_of_isPlainChar visible)
      · exact block
  | @short letter _ listed =>
      have known : ∀ pair ∈ shortEscapes, pair.1 ≠ '\n' := by decide
      by_cases slash : letter = '\\'
      · subst slash
        simp [counts.slashes, Nat.add_comm]
      · by_cases double : letter = '"'
        · subst double
          simp [counts.quote, Nat.add_comm]
        · have step := counts.other letter s double slash
            fun broken => absurd broken (known _ listed)
          simp [counts.slash letter s slash double, step]
          omega
  | code hidden =>
      obtain ⟨double, slash, broken⟩ := capitalDigit_plain (c.toNat / 16) (by omega)
      obtain ⟨double', slash', broken'⟩ := capitalDigit_plain (c.toNat % 16) (by omega)
      simp only [codeOf, List.cons_append, List.nil_append, List.length_cons, List.length_nil]
      rw [counts.slash _ _ (by decide) (by decide),
        counts.other 'u' _ (by decide) (by decide) (absurd · (by decide)),
        counts.other '0' _ (by decide) (by decide) (absurd · (by decide)),
        counts.other '0' _ (by decide) (by decide) (absurd · (by decide)),
        counts.other _ _ double slash (absurd · broken),
        counts.other _ _ double' slash' (absurd · broken')]
      omega

/-! ## Basic texts and blocks -/

theorem counts_basicLength : Counts false basicLength where
  slashes s := by rw [basicLength]
  quote s := by rw [basicLength]
  slash d s slash double := by
    rw [basicLength]
    · simp
    · rintro rest - same
      exact slash (List.cons.inj same).1
    · rintro rest - same
      exact double (List.cons.inj same).1
  other c s double slash broken := by
    have broken : c ≠ '\n' := fun feed => Bool.false_ne_true (broken feed)
    rw [basicLength]
    · simp [double, broken]
    · exact fun rest same _ => slash same
    · exact fun rest same _ => slash same

theorem counts_basicBlockLength : Counts true basicBlockLength where
  slashes s := by rw [basicBlockLength]
  quote s := by rw [basicBlockLength]
  slash d s slash double := by
    rw [basicBlockLength]
    · rintro rest - same
      exact slash (List.cons.inj same).1
    · rintro rest - same
      exact double (List.cons.inj same).1
    · rintro rest same -
      exact absurd same (by decide)
  other c s double slash _ := by
    rw [basicBlockLength]
    · exact fun rest same _ => slash same
    · exact fun rest same _ => slash same
    · exact fun rest same _ => double same

theorem basicLength_escaped (quotes : Nat) (s rest : List Char) :
    basicLength (escaped false quotes s ++ '"' :: rest) = (escaped false quotes s).length + 1 := by
  induction s generalizing quotes with
  | nil =>
      rw [escaped, List.nil_append, basicLength]
      · simp
      · exact fun _ same _ => absurd same (by decide)
      · exact fun _ same _ => absurd same (by decide)
  | cons c s ih =>
      by_cases double : c = '"'
      · subst double
        rw [escaped_quote, List.cons_append, List.cons_append, counts_basicLength.quote, ih]
        simp
      · obtain ⟨chunk, spells, same⟩ := exists_spells false double
        rw [same, List.append_assoc, spells.length_append counts_basicLength, ih,
          List.length_append]
        omega

/-- Fewer than three quotes in a row do not end a block. -/
theorem basicBlockLength_replicate {quotes : Nat} (few : quotes ≤ 2) (other : c ≠ '"')
    (s : List Char) :
    basicBlockLength (List.replicate quotes '"' ++ c :: s) =
      quotes + basicBlockLength (c :: s) := by
  have one (t : List Char) (open_ : ∀ rest, t ≠ '"' :: '"' :: rest) :
      basicBlockLength ('"' :: t) = 1 + basicBlockLength t := by
    rw [basicBlockLength, Nat.add_comm]
    · exact fun _ same _ => absurd same (by decide)
    · exact fun _ same _ => absurd same (by decide)
    · exact fun rest _ same => open_ rest same
  match quotes, few with
  | 0, _ => simp
  | 1, _ =>
      rw [show List.replicate 1 '"' ++ c :: s = '"' :: c :: s from rfl, one]
      exact fun rest same => other (List.cons.inj same).1
  | 2, _ =>
      rw [show List.replicate 2 '"' ++ c :: s = '"' :: '"' :: c :: s from rfl, one, one]
      · omega
      · exact fun rest same => other (List.cons.inj same).1
      · exact fun rest same => other (List.cons.inj (List.cons.inj same).2).1

/-- Quotes in front of the closing quotes of a block belong to it. -/
theorem extraQuotes_replicate {quote : Char} {quotes : Nat} (few : quotes ≤ 2)
    (stops : Follows (· ≠ quote) rest) :
    extraQuotes quote (List.replicate quotes quote ++ rest) = quotes := by
  match quotes, few with
  | 0, _ =>
      match rest with
      | [] => rfl
      | [a] => simp [extraQuotes, stops a rfl]
      | a :: b :: _ => simp [extraQuotes, stops a rfl]
  | 1, _ =>
      match rest with
      | [] => simp [extraQuotes]
      | a :: _ => simp [extraQuotes, stops a rfl]
  | 2, _ => simp [List.replicate_succ, extraQuotes]

theorem replicate_append_closing (quote : Char) (quotes : Nat) (rest : List Char) :
    List.replicate quotes quote ++ quote :: quote :: quote :: rest =
      quote :: quote :: quote :: (List.replicate quotes quote ++ rest) := by
  have closing : quote :: quote :: quote :: rest = List.replicate 3 quote ++ rest := rfl
  rw [closing, ← List.append_assoc, List.replicate_append_replicate, Nat.add_comm,
    ← List.replicate_append_replicate, List.append_assoc]
  rfl

theorem ne_return_of_isPlainChar (visible : isPlainChar c = true) : c ≠ '\r' := by
  rintro rfl
  exact absurd visible (by decide)

/-- What is written for a character does not begin with a quote, nor with another line end. -/
theorem Spells.exists_cons {block : Bool} {chunk : List Char} (spells : Spells block chunk c) :
    ∃ d t, chunk = d :: t ∧ d ≠ '"' ∧ d ≠ '\r' ∧ (d = '\n' → c = '\n') := by
  cases spells with
  | plain visible double _ =>
      refine ⟨c, [], rfl, double, ?_, id⟩
      rcases visible with visible | ⟨-, rfl⟩
      · exact ne_return_of_isPlainChar visible
      · decide
  | short _ => exact ⟨'\\', _, rfl, by decide, by decide, (absurd · (by decide))⟩
  | code _ => exact ⟨'\\', _, rfl, by decide, by decide, (absurd · (by decide))⟩

/-- The length of what is left of a basic block that has just written so many quotes. -/
theorem basicBlockLength_escaped {quotes : Nat} (few : quotes ≤ 2) (stops : Follows (· ≠ '"') rest)
    (s : List Char) :
    basicBlockLength (List.replicate quotes '"' ++
        (escaped true quotes s ++ '"' :: '"' :: '"' :: rest)) =
      quotes + (escaped true quotes s).length + 3 := by
  induction s generalizing quotes with
  | nil =>
      rw [escaped, List.nil_append, replicate_append_closing, basicBlockLength,
        extraQuotes_replicate few stops, List.length_nil, Nat.add_zero]
  | cons c s ih =>
      by_cases double : c = '"'
      · subst double
        rw [escaped_block_quote]
        split
        · have rest := ih (Nat.zero_le 2)
          rw [List.replicate_zero, List.nil_append] at rest
          rw [List.cons_append, List.cons_append, basicBlockLength_replicate few (by decide),
            counts_basicBlockLength.quote, rest, List.length_cons, List.length_cons]
          omega
        · have more : quotes + 1 ≤ 2 := by omega
          have rest := ih more
          rw [List.replicate_succ', List.append_assoc, List.singleton_append] at rest
          rw [List.cons_append, rest, List.length_cons]
          omega
      · obtain ⟨chunk, spells, same⟩ := exists_spells true double
        obtain ⟨d, t, rfl, other, -⟩ := spells.exists_cons
        have rest := ih (Nat.zero_le 2)
        rw [List.replicate_zero, List.nil_append] at rest
        rw [same, List.append_assoc, List.cons_append, basicBlockLength_replicate few other,
          ← List.cons_append, spells.length_append counts_basicBlockLength, rest,
          List.length_append]
        omega

/-! ## Literal texts and blocks -/

theorem literalLength_append (plain : ∀ c ∈ s, c ≠ '\'' ∧ c ≠ '\n') (rest : List Char) :
    literalLength (s ++ '\'' :: rest) = s.length + 1 := by
  induction s with
  | nil => simp [literalLength]
  | cons c s ih =>
      have first := plain c List.mem_cons_self
      simp [literalLength, first, ih fun d member => plain d (List.mem_cons_of_mem c member)]

theorem literalBlockLength_cons (open_ : ∀ rest, c :: s ≠ '\'' :: '\'' :: '\'' :: rest) :
    literalBlockLength (c :: s) = 1 + literalBlockLength s := by
  rw [literalBlockLength, Nat.add_comm]
  rintro rest rfl rfl
  exact open_ rest rfl

/-- Up to two quotes in front of another character end no literal block. -/
theorem literalBlockLength_replicate {quotes : Nat} (few : quotes ≤ 2) (other : c ≠ '\'')
    (s : List Char) :
    literalBlockLength (List.replicate quotes '\'' ++ c :: s) =
      quotes + 1 + literalBlockLength s := by
  have last : literalBlockLength (c :: s) = 1 + literalBlockLength s :=
    literalBlockLength_cons fun rest same => other (List.cons.inj same).1
  match quotes, few with
  | 0, _ => simpa using last
  | 1, _ =>
      rw [show List.replicate 1 '\'' ++ c :: s = '\'' :: c :: s from rfl, literalBlockLength_cons,
        last]
      · omega
      · simp [other]
  | 2, _ =>
      rw [show List.replicate 2 '\'' ++ c :: s = '\'' :: '\'' :: c :: s from rfl,
        literalBlockLength_cons, literalBlockLength_cons, last]
      · omega
      · simp [other]
      · simp [other]

theorem le_longestRun (c : Char) (run : Nat) (s : List Char) : run ≤ longestRun c run s := by
  induction s generalizing run with
  | nil => exact Nat.le_refl run
  | cons d s ih =>
      rw [longestRun]
      split
      · exact Nat.le_of_succ_le (ih (run + 1))
      · exact Nat.le_max_left ..

theorem not_mem_of_longestRun (none : longestRun c 0 s = 0) : c ∉ s := by
  induction s with
  | nil => exact List.not_mem_nil
  | cons d s ih =>
      rw [longestRun] at none
      split at none
      · have := le_longestRun c (0 + 1) s
        omega
      · next other =>
          rw [Nat.zero_max] at none
          exact List.not_mem_cons_of_ne_of_not_mem (Ne.symm other) (ih none)

/-- The length of what is left of a literal block that has just written so many quotes. -/
theorem literalBlockLength_append {quotes : Nat} (few : longestRun '\'' quotes s ≤ 2)
    (stops : Follows (· ≠ '\'') rest) :
    literalBlockLength (List.replicate quotes '\'' ++ (s ++ '\'' :: '\'' :: '\'' :: rest)) =
      quotes + s.length + 3 := by
  induction s generalizing quotes with
  | nil =>
      rw [longestRun] at few
      rw [List.nil_append, replicate_append_closing, literalBlockLength,
        extraQuotes_replicate few stops, List.length_nil, Nat.add_zero]
  | cons c s ih =>
      rw [longestRun] at few
      split at few
      · next single =>
          subst single
          have rest := ih few
          rw [List.replicate_succ', List.append_assoc, List.singleton_append] at rest
          rw [List.cons_append, rest, List.length_cons]
          omega
      · next other =>
          rw [Nat.max_le] at few
          have rest := ih few.2
          rw [List.replicate_zero, List.nil_append] at rest
          rw [List.cons_append, literalBlockLength_replicate few.1 other, rest, List.length_cons]
          omega

/-! ## The four quotings -/

/-- Whether a text can be written in a quoting. Basic texts and blocks have escapes, literal ones
do not. -/
def Holds (quoting : Quoting) (s : List Char) : Prop :=
  match quoting with
  | .literal => ∀ c ∈ s, isPlainChar c = true ∧ c ≠ '\''
  | .literalBlock => (∀ c ∈ s, isPlainChar c = true ∨ c = '\n') ∧ longestRun '\'' 0 s ≤ 2
  | .basic => True
  | .basicBlock => True

theorem isPlainChar_of_needsCode (free : needsCode c = false) :
    isPlainChar c = true ∨ c = '\n' := by
  by_cases feed : c = '\n'
  · exact .inr feed
  · left
    by_cases tab : c = '\t'
    · subst tab
      rfl
    · apply isPlainChar_of_visible
      simpa [needsCode, feed, tab] using free

/-- A text can be written in the quoting that is chosen for it. -/
theorem holds_chooseQuoting (s : List Char) : Holds (chooseQuoting s) s := by
  have free (uncoded : s.any needsCode = false) (c : Char) (member : c ∈ s) :
      isPlainChar c = true ∨ c = '\n' := by
    apply isPlainChar_of_needsCode
    simpa using List.any_eq_false.mp uncoded c member
  simp only [chooseQuoting]
  split
  · trivial
  split
  · next literal =>
      simp only [Bool.and_eq_true, Bool.not_eq_true', decide_eq_true_eq] at literal
      obtain ⟨⟨uncoded, singles⟩, unbroken⟩ := literal
      intro c member
      constructor
      · apply (free uncoded c member).resolve_right
        rintro rfl
        simp [member] at unbroken
      · rintro rfl
        exact not_mem_of_longestRun singles member
  split
  · trivial
  split
  · next block =>
      simp only [Bool.and_eq_true, Bool.not_eq_true', decide_eq_true_eq] at block
      exact ⟨free block.1, block.2⟩
  split
  · trivial
  · trivial

theorem firstToken_double (one : ∀ t, s ≠ '"' :: '"' :: t) :
    firstToken '"' s = (.quoted .basic, basicLength s) := by
  simp only [firstToken, Char.reduceEq, if_false, if_true, Bool.or_self, decide_false,
    Bool.false_eq_true]

theorem firstToken_single (one : ∀ t, s ≠ '\'' :: '\'' :: t) :
    firstToken '\'' s = (.quoted .literal, literalLength s) := by
  simp only [firstToken, Char.reduceEq, if_false, if_true, Bool.or_self, decide_false,
    Bool.false_eq_true]

/-- Only an empty text has its two quotes next to each other, and no third one follows them. -/
theorem closed_ne_quotes {quote : Char} {body : List Char} (stops : Follows (· ≠ quote) rest)
    (first : Follows (· ≠ quote) body) (t : List Char) :
    body ++ quote :: rest ≠ quote :: quote :: t := by
  intro same
  cases body with
  | nil => exact stops quote (by rw [(List.cons.inj same).2]; rfl) rfl
  | cons c body => exact first c rfl (List.cons.inj same).1

theorem follows_escaped (quotes : Nat) (s : List Char) :
    Follows (· ≠ '"') (escaped false quotes s) := by
  intro c head
  cases s with
  | nil => cases head
  | cons d s =>
      by_cases double : d = '"'
      · subst double
        rw [escaped_quote] at head
        cases head
        decide
      · obtain ⟨chunk, spells, same⟩ := exists_spells false double
        obtain ⟨e, t, rfl, other, -⟩ := spells.exists_cons
        rw [same, List.cons_append, List.head?_cons, Option.some.injEq] at head
        rwa [← head]

/-- A line feed at the start of a block that holds others. -/
def leading (s : List Char) : List Char := if s.contains '\n' then ['\n'] else []

theorem leading_eq (s : List Char) : leading s = ['\n'] ∨ leading s = [] := by
  unfold leading
  split
  · exact .inl rfl
  · exact .inr rfl

/-- A quoted text is cut off from what follows, unless a further quote does. -/
theorem cuts_inQuoting {quoting : Quoting} (holds : Holds quoting s)
    (stops : Follows (fun c => c ≠ '"' ∧ c ≠ '\'') rest) :
    Cuts (.quoted quoting) (inQuoting quoting s) rest := by
  have double : Follows (· ≠ '"') rest := fun c head => (stops c head).1
  have single : Follows (· ≠ '\'') rest := fun c head => (stops c head).2
  cases quoting with
  | basic =>
      refine ⟨'"', escaped false 0 s ++ ['"'], rfl, ?_⟩
      rw [List.append_assoc, List.singleton_append,
        firstToken_double (closed_ne_quotes double (follows_escaped 0 s)), basicLength_escaped]
      simp
  | literal =>
      refine ⟨'\'', s ++ ['\''], rfl, ?_⟩
      rw [List.append_assoc, List.singleton_append, firstToken_single, literalLength_append]
      · simp
      · exact fun c member => ⟨(holds c member).2, ne_lineFeed_of_isPlainChar (holds c member).1⟩
      · exact closed_ne_quotes single fun c head => (holds c (List.mem_of_head? head)).2
  | basicBlock =>
      refine ⟨'"', '"' :: '"' :: (leading s ++ escaped true 0 s ++ ['"', '"', '"']), rfl, ?_⟩
      have whole := basicBlockLength_escaped (Nat.zero_le 2) double s
      rw [List.replicate_zero, List.nil_append] at whole
      have first : basicBlockLength
          (leading s ++ (escaped true 0 s ++ '"' :: '"' :: '"' :: rest)) =
            (leading s).length + ((escaped true 0 s).length + 3) := by
        rcases leading_eq s with lead | lead
        · rw [lead, List.singleton_append, counts_basicBlockLength.other _ _ (by decide) (by decide)
            fun _ => rfl, whole, List.length_singleton]
          omega
        · rw [lead, List.nil_append, whole, List.length_nil]
          omega
      simp only [List.cons_append, List.append_assoc, List.nil_append]
      simp only [firstToken, Char.reduceEq, if_false, if_true, Bool.or_self, decide_false,
        Bool.false_eq_true, first, List.length_cons, List.length_append, List.length_nil]
  | literalBlock =>
      refine ⟨'\'', '\'' :: '\'' :: (leading s ++ s ++ ['\'', '\'', '\'']), rfl, ?_⟩
      have whole := literalBlockLength_append holds.2 single
      rw [List.replicate_zero, List.nil_append] at whole
      have first : literalBlockLength (leading s ++ (s ++ '\'' :: '\'' :: '\'' :: rest)) =
          (leading s).length + (s.length + 3) := by
        rcases leading_eq s with lead | lead
        · rw [lead, List.singleton_append, literalBlockLength_cons (by simp), whole,
            List.length_singleton]
          omega
        · rw [lead, List.nil_append, whole, List.length_nil]
          omega
      simp only [List.cons_append, List.append_assoc, List.nil_append]
      simp only [firstToken, Char.reduceEq, if_false, if_true, Bool.or_self, decide_false,
        Bool.false_eq_true, first, List.length_cons, List.length_append, List.length_nil]

end ScriptRoster.Toml
