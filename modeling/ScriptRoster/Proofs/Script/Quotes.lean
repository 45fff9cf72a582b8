import ScriptRoster.Proofs.Text.Utf8
import ScriptRoster.Script.Definition

/-!
# Lines behind plain quotes

A script is read with plain quotes in place of its typographic ones. A typographic quote takes up
three bytes and a plain one takes up one, so what stands behind it moves among the bytes. No line
break does: it is a byte of its own, and characters are replaced one for one. Every place is
therefore on the line it was on, and every line is the line it was with its quotes made plain.

## Main definitions

* `rowAt`: the row of a byte, as a parser of bytes counts it.
* `KeepsLines`: a text is another one with plain quotes, and its lines are the lines of that one.
-/

namespace ScriptRoster.Script

open Lexeme ScriptRoster.Text

/-- The quotes that the grammar does not know, each with the one it is read as. -/
def quoteVariants : List (Char × Char) :=
  [('\u2018', '\''), ('\u2019', '\''), ('\u201a', '\''), ('\u201b', '\''), ('\u201c', '"'),
    ('\u201d', '"'), ('\u201e', '"')]

/-- Whether a character is a quote that the grammar does not know. -/
def isVariant (c : Char) : Bool := quoteVariants.any fun pair => c == pair.1

/-- The bytes of a text. -/
abbrev bytesOf (s : Text) : Bytes := encode (.ofList s)

/-- The row of a byte: the line breaks in front of it. -/
def rowAt (bytes : Bytes) (offset : Nat) : Nat := (bytes.take offset).count 0x0a

variable {c : Char}

/-! ## One character for another -/

theorem plainQuote_of_mem {variant plain : Char} (pair : (variant, plain) ∈ quoteVariants) :
    plainQuote variant = plain := by
  have all : ∀ pair ∈ quoteVariants, plainQuote pair.1 = pair.2 := by decide
  exact all _ pair

theorem plainQuote_of_not_isVariant (other : isVariant c = false) : plainQuote c = c := by
  simp only [isVariant, quoteVariants, List.any_cons, List.any_nil, Bool.or_eq_false_iff] at other
  simp only [plainQuote, other, Bool.or_self, Bool.false_eq_true, if_false]

theorem exists_of_isVariant (variant : isVariant c = true) :
    ∃ plain, (c, plain) ∈ quoteVariants := by
  obtain ⟨⟨first, plain⟩, member, same⟩ := List.any_eq_true.mp variant
  obtain rfl : c = first := beq_iff_eq.mp same
  exact ⟨plain, member⟩

/-- No other character is read as a line break, and a line break is read as itself. -/
theorem plainQuote_eq_lineBreak_iff : plainQuote c = '\n' ↔ c = '\n' := by
  constructor
  · intro broken
    cases variant : isVariant c with
    | false =>
        rw [← broken]
        exact (plainQuote_of_not_isVariant variant).symm
    | true =>
        obtain ⟨plain, pair⟩ := exists_of_isVariant variant
        have visible : ∀ pair ∈ quoteVariants, pair.2 ≠ '\n' := by decide
        rw [plainQuote_of_mem pair] at broken
        exact absurd broken (visible _ pair)
  · rintro rfl
    rfl

theorem count_map_plainQuote (s : Text) : (s.map plainQuote).count '\n' = s.count '\n' := by
  rw [List.count_eq_countP, List.countP_map, List.count_eq_countP]
  apply List.countP_congr
  intro c _
  simp only [Function.comp_apply, beq_iff_eq, plainQuote_eq_lineBreak_iff]

/-- The lines of a text with plain quotes are its lines, each with plain quotes. -/
theorem splitOn_map_plainQuote (s : Text) :
    (s.map plainQuote).splitOn '\n' = (s.splitOn '\n').map (List.map plainQuote) := by
  unfold List.splitOn
  induction s with
  | nil => rfl
  | cons c rest ih =>
      rw [List.map_cons, List.splitOnP_cons_eq_if_modifyHead,
        List.splitOnP_cons_eq_if_modifyHead, ih]
      simp only [beq_iff_eq, plainQuote_eq_lineBreak_iff]
      split
      · rfl
      · cases List.splitOnP (fun c => c == '\n') rest <;> rfl

/-! ## Bytes -/

theorem byte_ne_lineBreak {n : Nat} (high : 128 ≤ n) (small : n < 256) :
    UInt8.ofNat n ≠ 0x0a := by
  intro same
  have value : (UInt8.ofNat n).toNat = 10 := by rw [same]; rfl
  rw [toNat_byte small] at value
  omega

/-- The byte of a line break is in no other character. -/
theorem lineBreak_mem_utf8EncodeChar_iff : 0x0a ∈ String.utf8EncodeChar c ↔ c = '\n' := by
  constructor
  · intro member
    rw [String.utf8EncodeChar] at member
    have top := c.val.toNat_lt
    have tail (n : Nat) : 0x0a ≠ UInt8.ofNat (n % 64 + 128) :=
      (byte_ne_lineBreak (by omega) (by omega)).symm
    split at member
    · have same := congrArg UInt8.toNat (List.mem_singleton.mp member)
      rw [toNat_byte (by omega)] at same
      exact Char.ext (UInt32.toNat_inj.mp same.symm)
    split at member
    · have lead := byte_ne_lineBreak (n := c.val.toNat / 64 % 32 + 192) (by omega) (by omega)
      simp only [List.mem_cons, lead.symm, tail, List.not_mem_nil, or_self] at member
    split at member
    · have lead := byte_ne_lineBreak (n := c.val.toNat / 4096 % 16 + 224) (by omega) (by omega)
      simp only [List.mem_cons, lead.symm, tail, List.not_mem_nil, or_self] at member
    · have lead := byte_ne_lineBreak (n := c.val.toNat / 262144 % 8 + 240) (by omega) (by omega)
      simp only [List.mem_cons, lead.symm, tail, List.not_mem_nil, or_self] at member
  · rintro rfl
    decide

theorem count_utf8EncodeChar (c : Char) :
    (String.utf8EncodeChar c).count 0x0a = if c = '\n' then 1 else 0 := by
  split
  · next broken =>
      rw [broken]
      rfl
  · next other => exact List.count_eq_zero.mpr (mt lineBreak_mem_utf8EncodeChar_iff.mp other)

theorem bytesOf_cons (c : Char) (s : Text) :
    bytesOf (c :: s) = String.utf8EncodeChar c ++ bytesOf s := by
  simp only [bytesOf, encode, String.toList_ofList, List.flatMap_cons]

theorem bytesOf_append (s rest : Text) : bytesOf (s ++ rest) = bytesOf s ++ bytesOf rest := by
  simp only [bytesOf, encode, String.toList_ofList, List.flatMap_append]

theorem length_bytesOf (s : Text) : (bytesOf s).length = byteLength s := by
  induction s with
  | nil => rfl
  | cons c rest ih =>
      rw [bytesOf_cons, List.length_append, String.length_utf8EncodeChar, ih, byteLength]

theorem count_bytesOf (s : Text) : (bytesOf s).count 0x0a = s.count '\n' := by
  induction s with
  | nil => rfl
  | cons c rest ih =>
      rw [bytesOf_cons, List.count_append, count_utf8EncodeChar, ih, List.count_cons, Nat.add_comm]
      simp only [beq_iff_eq]

/-- The row of the byte where a character begins is told by the characters in front of it. -/
theorem rowAt_bytesOf (s : Text) (place : Nat) :
    rowAt (bytesOf s) (byteLength (s.take place)) = (s.take place).count '\n' := by
  have whole : bytesOf s = bytesOf (s.take place) ++ bytesOf (s.drop place) := by
    rw [← bytesOf_append, List.take_append_drop]
  rw [rowAt, whole, List.take_left' (length_bytesOf _), count_bytesOf]

/-- A place is on the line behind as many line breaks as stand in front of it. -/
theorem lineAt_drop (s : Text) (place : Nat) :
    lineAt s (s.drop place) = (s.take place).count '\n' + 1 := by
  rw [lineAt, List.length_drop]
  rcases Nat.le_total place s.length with inside | behind
  · rw [Nat.sub_sub_self inside]
  · rw [Nat.sub_eq_zero_of_le behind, Nat.sub_zero, List.take_length, List.take_of_length_le behind]

/-- A place is on the line that is told by the row of its first byte. -/
theorem rowAt_eq_lineAt (s : Text) (place : Nat) :
    rowAt (bytesOf s) (byteLength (s.take place)) + 1 = lineAt s (s.drop place) := by
  rw [rowAt_bytesOf, lineAt_drop]

/-- No place changes its line where quotes are made plain. -/
theorem lineAt_map_plainQuote (s : Text) (place : Nat) :
    lineAt (s.map plainQuote) ((s.map plainQuote).drop place) = lineAt s (s.drop place) := by
  rw [lineAt_drop, lineAt_drop, ← List.map_take, count_map_plainQuote]

/-- Each quote that is made plain takes two bytes off. -/
theorem byteLength_map_plainQuote (s : Text) :
    byteLength s = byteLength (s.map plainQuote) + 2 * s.countP isVariant := by
  induction s with
  | nil => rfl
  | cons c rest ih =>
      rw [List.map_cons, byteLength, byteLength, List.countP_cons, ih]
      cases variant : isVariant c with
      | false =>
          rw [plainQuote_of_not_isVariant variant]
          simp only [Bool.false_eq_true, if_false]
          omega
      | true =>
          obtain ⟨plain, pair⟩ := exists_of_isVariant variant
          have sizes : ∀ pair ∈ quoteVariants, pair.1.utf8Size = pair.2.utf8Size + 2 := by decide
          have size : c.utf8Size = plain.utf8Size + 2 := sizes _ pair
          rw [plainQuote_of_mem pair]
          simp only [if_true]
          omega

/-! ## Lines -/

/-- A text has plain quotes where another one has typographic ones and is the same otherwise; line
breaks stand where they stood, and every place is on the line where it was. -/
structure KeepsLines (original text : Text) : Prop where
  length_eq : text.length = original.length
  replaced : ∀ (place : Nat) (variant plain : Char), (variant, plain) ∈ quoteVariants →
    original[place]? = some variant → text[place]? = some plain
  unchanged : ∀ (place : Nat) (c : Char), isVariant c = false → original[place]? = some c →
    text[place]? = some c
  lineBreak_iff : ∀ place : Nat, text[place]? = some '\n' ↔ original[place]? = some '\n'
  /-- Bytes behind typographic quotes move. -/
  moved : ∀ place, byteLength (original.take place) =
    byteLength (text.take place) + 2 * (original.take place).countP isVariant
  /-- The row of a byte tells the line of the place in either text. -/
  line_eq : ∀ place, rowAt (bytesOf text) (byteLength (text.take place)) + 1 =
      lineAt original (original.drop place) ∧
    rowAt (bytesOf original) (byteLength (original.take place)) + 1 =
      lineAt original (original.drop place)
  lines_eq : text.splitOn '\n' = (original.splitOn '\n').map (List.map plainQuote)

theorem keepsLines (s : Text) : KeepsLines s (s.map plainQuote) where
  length_eq := List.length_map _
  replaced place variant plain pair there := by
    rw [List.getElem?_map, there, Option.map_some, plainQuote_of_mem pair]
  unchanged place c other there := by
    rw [List.getElem?_map, there, Option.map_some, plainQuote_of_not_isVariant other]
  lineBreak_iff place := by
    cases there : s[place]? with
    | none => simp [there]
    | some c => simp [there, plainQuote_eq_lineBreak_iff]
  moved place := by
    rw [← List.map_take]
    exact byteLength_map_plainQuote (s.take place)
  line_eq place := by
    rw [rowAt_eq_lineAt, rowAt_eq_lineAt]
    exact ⟨lineAt_map_plainQuote s place, rfl⟩
  lines_eq := splitOn_map_plainQuote s

end ScriptRoster.Script
