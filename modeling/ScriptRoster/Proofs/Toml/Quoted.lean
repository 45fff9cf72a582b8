import ScriptRoster.Proofs.Toml.Token

/-!
# Quoted texts are read as they were written

Each character of a basic text takes one step of the reader, escaped or not, and literal texts are
what they hold. Main statement: `readQuoted_inQuoting`, for the four quotings.
-/

namespace ScriptRoster.Toml

open Text

variable {block : Bool} {chunk rest s t : List Char} {c : Char} {fuel place : Nat}

/-! ## Escapes -/

theorem hexValue?_capitalDigit : ∀ n < 16, hexValue? (capitalDigit n) = some n := by decide

/-- The code of a control character is read as the character. -/
theorem readEscape_code (hidden : c.toNat < 0x20 ∨ c.toNat = 0x7f) (place : Nat)
    (rest : List Char) :
    readEscape place ('u' :: '0' :: '0' :: capitalDigit (c.toNat / 16) ::
      capitalDigit (c.toNat % 16) :: rest) = .ok (c, rest) := by
  have high := hexValue?_capitalDigit (c.toNat / 16) (by omega)
  have low := hexValue?_capitalDigit (c.toNat % 16) (by omega)
  have zero : hexValue? '0' = some 0 := by decide
  have number : hexNumber ['0', '0', capitalDigit (c.toNat / 16), capitalDigit (c.toNat % 16)] =
      c.toNat := by
    simp only [hexNumber, List.foldl_cons, List.foldl_nil, zero, high, low, Option.getD_some]
    omega
  have valid : c.toNat.isValidChar := c.valid
  simp [readEscape, readHex, zero, high, low, number, valid]

theorem readEscape_short {letter : Char} (listed : (letter, c) ∈ shortEscapes) (place : Nat)
    (rest : List Char) : readEscape place (letter :: rest) = .ok (c, rest) := by
  simp only [shortEscapes, List.mem_cons, Prod.mk.injEq, List.not_mem_nil, or_false] at listed
  rcases listed with ⟨rfl, rfl⟩ | ⟨rfl, rfl⟩ | ⟨rfl, rfl⟩ | ⟨rfl, rfl⟩ | ⟨rfl, rfl⟩ |
    ⟨rfl, rfl⟩ | ⟨rfl, rfl⟩
  all_goals rfl

/-- An escape takes one step, unless it stands for nothing. -/
theorem readBasicWithin_slash {letter : Char} (solid : letter ∉ [' ', '\t', '\r', '\n'])
    (escape : ∀ place, readEscape place (letter :: t) = .ok (c, rest))
    (next : ∀ place, readBasicWithin block fuel place rest = .ok s) (place : Nat) :
    readBasicWithin block (fuel + 1) place ('\\' :: letter :: t) = .ok (c :: s) := by
  have gap : (List.head? (letter :: t)).any (fun c => [' ', '\t', '\r', '\n'].contains c) =
      false := by
    simpa using solid
  simp only [readBasicWithin, gap, Bool.and_false, if_true, if_false, Bool.false_eq_true, escape,
    next, bind, Except.bind, pure, Except.pure]

theorem readBasicWithin_visible
    (fits : (isPlainChar c = true ∧ (block = true ∨ c ≠ '"')) ∨ (block = true ∧ c = '\n'))
    (slash : c ≠ '\\') (next : ∀ place, readBasicWithin block fuel place rest = .ok s)
    (place : Nat) : readBasicWithin block (fuel + 1) place (c :: rest) = .ok (c :: s) := by
  have back : c ≠ '\r' := by
    rcases fits with ⟨visible, -⟩ | ⟨-, rfl⟩
    · exact ne_return_of_isPlainChar visible
    · decide
  have visible :
      ((isPlainChar c && (block || c != '"')) || (block && decide (c = '\n'))) = true := by
    simpa using fits
  simp only [readBasicWithin, slash, back, decide_false, Bool.and_false, if_false,
    Bool.false_eq_true, visible, if_true, next, Except.map]

/-- However a character is written, it takes one step to read. -/
theorem Spells.readBasicWithin (spells : Spells block chunk c)
    (next : ∀ place, readBasicWithin block fuel place rest = .ok s) (place : Nat) :
    readBasicWithin block (fuel + 1) place (chunk ++ rest) = .ok (c :: s) := by
  cases spells with
  | plain visible double slash =>
      refine readBasicWithin_visible ?_ slash next place
      exact visible.imp (fun visible => ⟨visible, .inr double⟩) id
  | short listed =>
      have solid : ∀ pair ∈ shortEscapes, pair.1 ∉ [' ', '\t', '\r', '\n'] := by decide
      exact readBasicWithin_slash (solid _ listed) (readEscape_short listed · rest) next place
  | code hidden =>
      exact readBasicWithin_slash (by decide) (readEscape_code hidden · rest) next place

/-- The inside of a basic text or block is read as it was written. -/
theorem readBasicWithin_escaped (quotes : Nat) (s : List Char) {fuel : Nat}
    (enough : s.length ≤ fuel) (place : Nat) :
    readBasicWithin block fuel place (escaped block quotes s) = .ok s := by
  induction s generalizing quotes fuel place with
  | nil => cases fuel <;> rfl
  | cons c s ih =>
      have positive : 0 < fuel := Nat.lt_of_lt_of_le (Nat.succ_pos s.length) enough
      obtain ⟨fuel, rfl⟩ := Nat.exists_eq_succ_of_ne_zero (Nat.ne_of_gt positive)
      have next (quotes place : Nat) := ih quotes (Nat.le_of_succ_le_succ enough) place
      by_cases double : c = '"'
      · subst double
        have escape := (spells_quote block).readBasicWithin (next 0) place
        cases block with
        | false =>
            rw [escaped_quote]
            exact escape
        | true =>
            rw [escaped_block_quote]
            split
            · exact escape
            · exact readBasicWithin_visible (.inl ⟨by decide, .inl rfl⟩) (by decide)
                (next (quotes + 1)) place
      · obtain ⟨chunk, spells, same⟩ := exists_spells block double
        rw [same]
        exact spells.readBasicWithin (next 0) place

theorem length_le_escaped (quotes : Nat) (s : List Char) :
    s.length ≤ (escaped block quotes s).length := by
  induction s generalizing quotes with
  | nil => exact Nat.zero_le _
  | cons c s ih =>
      by_cases double : c = '"'
      · subst double
        have escape := ih 0
        have plain := ih (quotes + 1)
        cases block with
        | false =>
            rw [escaped_quote]
            simp only [List.length_cons]
            omega
        | true =>
            rw [escaped_block_quote]
            split
            all_goals simp only [List.length_cons]
            all_goals omega
      · obtain ⟨chunk, spells, same⟩ := exists_spells block double
        obtain ⟨d, t, rfl, -⟩ := spells.exists_cons
        have rest := ih 0
        rw [same]
        simp only [List.length_append, List.length_cons]
        omega

theorem readBasic_escaped (quotes place : Nat) (s : List Char) :
    readBasic block place (escaped block quotes s) = .ok s :=
  readBasicWithin_escaped quotes s (Nat.le_succ_of_le (length_le_escaped quotes s)) place

/-! ## Literal texts -/

theorem readLiteral_of_plain (plain : ∀ c ∈ s, isPlainChar c = true ∧ c ≠ '\'') (place : Nat) :
    readLiteral place s = .ok s := by
  induction s generalizing place with
  | nil => rfl
  | cons c s ih =>
      have next := ih (fun d member => plain d (List.mem_cons_of_mem c member))
      simp [readLiteral, plain c List.mem_cons_self, next, Except.map]

theorem readLiteralBlock_of_plain (plain : ∀ c ∈ s, isPlainChar c = true ∨ c = '\n')
    (place : Nat) : readLiteralBlock place s = .ok s := by
  induction s generalizing place with
  | nil => rfl
  | cons c s ih =>
      have next := ih (fun d member => plain d (List.mem_cons_of_mem c member))
      have first := plain c List.mem_cons_self
      rw [readLiteralBlock]
      · simp [first, next, Except.map]
      · rintro rfl
        simp [isPlainChar] at first

/-! ## Between the quotes -/

/-- What stands between the quotes of a text. -/
def bodyOf (quoting : Quoting) (s : List Char) : List Char :=
  match quoting with
  | .literal => s
  | .basic => escaped false 0 s
  | .literalBlock => leading s ++ s
  | .basicBlock => leading s ++ escaped true 0 s

theorem inQuoting_eq (quoting : Quoting) (s : List Char) :
    inQuoting quoting s = quoting.mark.toList ++ bodyOf quoting s ++ quoting.mark.toList := by
  cases quoting with
  | literal => rfl
  | basic => rfl
  | literalBlock => simp [inQuoting, bodyOf, leading]
  | basicBlock => simp [inQuoting, bodyOf, leading]

theorem inside_inQuoting (quoting : Quoting) (s : List Char) :
    inside quoting (inQuoting quoting s) = some (bodyOf quoting s) := by
  have opened : (inQuoting quoting s).drop quoting.mark.length =
      bodyOf quoting s ++ quoting.mark.toList := by
    rw [inQuoting_eq, List.append_assoc, ← String.length_toList, List.drop_left]
  have closed : quoting.mark.toList.isSuffixOf (bodyOf quoting s ++ quoting.mark.toList) = true :=
    List.isSuffixOf_iff_suffix.mpr (List.suffix_append ..)
  simp only [inside, opened, closed, if_true, List.length_append, String.length_toList,
    Nat.add_sub_cancel, List.take_left]

theorem dropLineEnd_of_follows (solid : Follows (fun c => c ≠ '\n' ∧ c ≠ '\r') s) :
    dropLineEnd s = s := by
  unfold dropLineEnd
  split
  · next rest => exact absurd rfl (solid '\n' rfl).1
  · next rest => exact absurd rfl (solid '\r' rfl).2
  · rfl

/-- A block loses the line feed that was put in front of it, and no other. -/
theorem dropLineEnd_leading {body : List Char}
    (first : '\n' ∉ s → Follows (fun c => c ≠ '\n' ∧ c ≠ '\r') body) :
    dropLineEnd (leading s ++ body) = body := by
  unfold leading
  split
  · rfl
  · next unbroken => exact dropLineEnd_of_follows (first (by simpa using unbroken))

theorem follows_escaped_block (unbroken : '\n' ∉ s) :
    Follows (fun c => c ≠ '\n' ∧ c ≠ '\r') (escaped true 0 s) := by
  intro d head
  cases s with
  | nil => cases head
  | cons c s =>
      by_cases double : c = '"'
      · subst double
        cases head
        decide
      · obtain ⟨chunk, spells, same⟩ := exists_spells true double
        obtain ⟨e, t, rfl, -, back, feed⟩ := spells.exists_cons
        rw [same, List.cons_append, List.head?_cons, Option.some.injEq] at head
        subst head
        refine ⟨fun broken => ?_, back⟩
        rw [feed broken] at unbroken
        exact unbroken List.mem_cons_self

/-- A quoted text is read as it was written. -/
theorem readQuoted_inQuoting {quoting : Quoting} (holds : Holds quoting s)
    (marked : Option Quoting) (start : Nat) :
    readQuoted quoting ⟨marked, inQuoting quoting s, start⟩ = .ok s := by
  simp only [readQuoted, inside_inQuoting]
  cases quoting with
  | literal => exact readLiteral_of_plain holds _
  | basic => exact readBasic_escaped 0 _ s
  | literalBlock =>
      simp only [bodyOf]
      rw [dropLineEnd_leading]
      · exact readLiteralBlock_of_plain holds.1 _
      · intro unbroken c head
        have member := List.mem_of_head? head
        have visible := (holds.1 c member).resolve_right fun feed => unbroken (feed ▸ member)
        exact ⟨ne_lineFeed_of_isPlainChar visible, ne_return_of_isPlainChar visible⟩
  | basicBlock =>
      simp only [bodyOf]
      rw [dropLineEnd_leading follows_escaped_block]
      exact readBasic_escaped 0 _ s

end ScriptRoster.Toml
