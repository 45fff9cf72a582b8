import ScriptRoster.Text.Utf8

/-!
# Reading back what was encoded

The bytes of a text fall into the pieces of its characters, whatever follows them. Strict and lossy
decoding therefore both give an encoded text back. Strict decoding gives nothing else: bytes that it
accepts are the bytes of the text it gives.
-/

namespace ScriptRoster.Text

/-- A byte made from a small number carries that number. -/
theorem toNat_byte {n : Nat} (h : n < 256) : (UInt8.ofNat n).toNat = n :=
  UInt8.toNat_ofNat_of_lt' h

theorem isTail_byte (n : Nat) : isTail (UInt8.ofNat (n % 64 + 128)) = true := by
  have h := toNat_byte (n := n % 64 + 128) (by omega)
  simp only [isTail, Bool.and_eq_true, decide_eq_true_eq, UInt8.le_iff_toNat_le, h]
  constructor
  · change 128 ≤ _
    omega
  · change _ ≤ 191
    omega

theorem bits_byte (n : Nat) : bits (UInt8.ofNat (n % 64 + 128)) = n % 64 := by
  rw [bits, toNat_byte (by omega)]
  omega

theorem firstPiece_of_lt {a : UInt8} (h : a.toNat < 0x80) (s : Bytes) :
    firstPiece a s = .char (Char.ofNat a.toNat) 1 := by
  have ha : a < 0x80 := UInt8.lt_iff_toNat_lt.mpr h
  simp only [firstPiece, ha, if_true]

theorem firstPiece_two {a b : UInt8} (h : 0xc2 ≤ a.toNat ∧ a.toNat ≤ 0xdf)
    (hb : isTail b = true) (s : Bytes) :
    firstPiece a (b :: s) = .char (Char.ofNat (a.toNat % 32 * 64 + bits b)) 2 := by
  have h₁ : ¬ a.toNat < 128 := by omega
  simp only [firstPiece, UInt8.lt_iff_toNat_lt, UInt8.le_iff_toNat_le, Bool.and_eq_true,
    decide_eq_true_eq, UInt8.reduceToNat, h₁, h, hb, if_false, if_true, and_self]

theorem firstPiece_three {a b c : UInt8} (h : 0xe0 ≤ a.toNat ∧ a.toNat ≤ 0xef)
    (hb : beginsThree a b = true) (hc : isTail c = true) (s : Bytes) :
    firstPiece a (b :: c :: s) =
      .char (Char.ofNat ((a.toNat % 16 * 64 + bits b) * 64 + bits c)) 3 := by
  have h₁ : ¬ a.toNat < 128 := by omega
  have h₂ : ¬ (194 ≤ a.toNat ∧ a.toNat ≤ 223) := by omega
  simp only [firstPiece, UInt8.lt_iff_toNat_lt, UInt8.le_iff_toNat_le, Bool.and_eq_true,
    decide_eq_true_eq, UInt8.reduceToNat, h₁, h₂, h, hb, hc, if_false, if_true, and_self]

theorem firstPiece_four {a b c d : UInt8} (h : 0xf0 ≤ a.toNat ∧ a.toNat ≤ 0xf4)
    (hb : beginsFour a b = true) (hc : isTail c = true) (hd : isTail d = true) (s : Bytes) :
    firstPiece a (b :: c :: d :: s) =
      .char (Char.ofNat (((a.toNat % 8 * 64 + bits b) * 64 + bits c) * 64 + bits d)) 4 := by
  have h₁ : ¬ a.toNat < 128 := by omega
  have h₂ : ¬ (194 ≤ a.toNat ∧ a.toNat ≤ 223) := by omega
  have h₃ : ¬ (224 ≤ a.toNat ∧ a.toNat ≤ 239) := by omega
  simp only [firstPiece, UInt8.lt_iff_toNat_lt, UInt8.le_iff_toNat_le, Bool.and_eq_true,
    decide_eq_true_eq, UInt8.reduceToNat, h₁, h₂, h₃, h, hb, hc, hd, if_false, if_true, and_self]

/-- The first two bytes of a character of three, which is no surrogate. -/
theorem beginsThree_bytes {v : Nat} (low : 0x7ff < v) (high : v ≤ 0xffff)
    (valid : v < 0xd800 ∨ 0xdfff < v) :
    beginsThree (UInt8.ofNat (v / 4096 % 16 + 224)) (UInt8.ofNat (v / 64 % 64 + 128)) = true := by
  have ha := toNat_byte (n := v / 4096 % 16 + 224) (by omega)
  have hb := toNat_byte (n := v / 64 % 64 + 128) (by omega)
  have tail := isTail_byte (v / 64)
  simp only [beginsThree, beq_iff_eq, ← UInt8.toNat_inj, UInt8.le_iff_toNat_le,
    UInt8.reduceToNat, ha, hb]
  split
  · simp only [Bool.and_eq_true, decide_eq_true_eq]
    omega
  · split
    · simp only [Bool.and_eq_true, decide_eq_true_eq]
      omega
    · exact tail

/-- The first two bytes of a character of four. -/
theorem beginsFour_bytes {v : Nat} (low : 0xffff < v) (high : v < 0x110000) :
    beginsFour (UInt8.ofNat (v / 262144 % 8 + 240)) (UInt8.ofNat (v / 4096 % 64 + 128)) = true := by
  have ha := toNat_byte (n := v / 262144 % 8 + 240) (by omega)
  have hb := toNat_byte (n := v / 4096 % 64 + 128) (by omega)
  have tail := isTail_byte (v / 4096)
  simp only [beginsFour, beq_iff_eq, ← UInt8.toNat_inj, UInt8.le_iff_toNat_le,
    UInt8.reduceToNat, ha, hb]
  split
  · simp only [Bool.and_eq_true, decide_eq_true_eq]
    omega
  · split
    · simp only [Bool.and_eq_true, decide_eq_true_eq]
      omega
    · exact tail

/-- The first piece of an encoded character is that character. -/
theorem firstPiece_utf8EncodeChar (c : Char) :
    ∃ a t, String.utf8EncodeChar c = a :: t ∧
      ∀ s, firstPiece a (t ++ s) = .char c (t.length + 1) := by
  let v := c.toNat
  have valid : v < 0xd800 ∨ 0xdfff < v ∧ v < 0x110000 := c.valid
  have back {n : Nat} (h : n = v) : Char.ofNat n = c := by rw [h, Char.ofNat_toNat]
  by_cases h₁ : v ≤ 0x7f
  · refine ⟨UInt8.ofNat v, [], if_pos h₁, fun s => ?_⟩
    have ha := toNat_byte (n := v) (by omega)
    rw [List.nil_append, firstPiece_of_lt (by omega), back ha]
    rfl
  by_cases h₂ : v ≤ 0x7ff
  · refine ⟨UInt8.ofNat (v / 64 % 32 + 192), [UInt8.ofNat (v % 64 + 128)],
      (if_neg h₁).trans (if_pos h₂), fun s => ?_⟩
    have ha := toNat_byte (n := v / 64 % 32 + 192) (by omega)
    rw [List.singleton_append, firstPiece_two (by omega) (isTail_byte _), ha, bits_byte, back]
    · rfl
    · omega
  by_cases h₃ : v ≤ 0xffff
  · refine ⟨UInt8.ofNat (v / 4096 % 16 + 224),
      [UInt8.ofNat (v / 64 % 64 + 128), UInt8.ofNat (v % 64 + 128)],
      (if_neg h₁).trans ((if_neg h₂).trans (if_pos h₃)), fun s => ?_⟩
    have ha := toNat_byte (n := v / 4096 % 16 + 224) (by omega)
    have begins := beginsThree_bytes (v := v) (by omega) h₃ (by omega)
    rw [List.cons_append, List.singleton_append,
      firstPiece_three (by omega) begins (isTail_byte _), ha, bits_byte, bits_byte, back]
    · rfl
    · omega
  · refine ⟨UInt8.ofNat (v / 262144 % 8 + 240),
      [UInt8.ofNat (v / 4096 % 64 + 128), UInt8.ofNat (v / 64 % 64 + 128),
        UInt8.ofNat (v % 64 + 128)],
      (if_neg h₁).trans ((if_neg h₂).trans (if_neg h₃)), fun s => ?_⟩
    have ha := toNat_byte (n := v / 262144 % 8 + 240) (by omega)
    have begins := beginsFour_bytes (v := v) (by omega) (by omega)
    rw [List.cons_append, List.cons_append, List.singleton_append,
      firstPiece_four (by omega) begins (isTail_byte _) (isTail_byte _),
      ha, bits_byte, bits_byte, bits_byte, back]
    · rfl
    · omega

/-- The pieces of an encoded character and of what follows it. -/
theorem pieces_utf8EncodeChar (c : Char) (s : Bytes) :
    ∃ n, pieces (String.utf8EncodeChar c ++ s) = .char c n :: pieces s := by
  obtain ⟨a, t, encoded, first⟩ := firstPiece_utf8EncodeChar c
  refine ⟨t.length + 1, ?_⟩
  rw [encoded, List.cons_append, pieces, first]
  simp [Piece.size]

/-- Encoded characters fall into pieces that are these characters. -/
theorem charsFrom_pieces (cs : List Char) (index : Nat) :
    charsFrom index (pieces (cs.flatMap String.utf8EncodeChar)) = .ok cs := by
  induction cs generalizing index with
  | nil => simp [pieces, charsFrom]
  | cons c cs ih =>
      obtain ⟨n, h⟩ := pieces_utf8EncodeChar c (cs.flatMap String.utf8EncodeChar)
      rw [List.flatMap_cons, h, charsFrom, ih]
      rfl

theorem shown_pieces (cs : List Char) :
    (pieces (cs.flatMap String.utf8EncodeChar)).map Piece.shown = cs := by
  induction cs with
  | nil => simp [pieces]
  | cons c cs ih =>
      obtain ⟨n, h⟩ := pieces_utf8EncodeChar c (cs.flatMap String.utf8EncodeChar)
      rw [List.flatMap_cons, h, List.map_cons, ih]
      rfl

/-- Strict decoding gives an encoded text back. -/
@[simp] theorem decode_encode (s : String) : decode (encode s) = .ok s := by
  rw [decode, encode, charsFrom_pieces]
  exact congrArg Except.ok String.ofList_toList

@[simp] theorem decode?_encode (s : String) : decode? (encode s) = some s := by
  rw [decode?, decode_encode]
  rfl

/-- Lossy decoding gives an encoded text back. -/
@[simp] theorem decodeLossy_encode (s : String) : decodeLossy (encode s) = s := by
  rw [decodeLossy, encode, shown_pieces, String.ofList_toList]

/-! ## What is decoded was encoded -/

theorem toNat_val_ofNat {v : Nat} (valid : v < 0xd800 ∨ 0xdfff < v ∧ v < 0x110000) :
    (Char.ofNat v).val.toNat = v := by
  have isValid : v.isValidChar := valid
  rw [Char.ofNat, dif_pos isValid]
  exact UInt32.toNat_ofNatLT

theorem ofNat_eq_byte {n : Nat} {b : UInt8} (same : n = b.toNat) : UInt8.ofNat n = b := by
  rw [same]
  exact UInt8.ofNat_toNat

theorem isTail_iff {b : UInt8} : isTail b = true ↔ 0x80 ≤ b.toNat ∧ b.toNat ≤ 0xbf := by
  simp only [isTail, Bool.and_eq_true, decide_eq_true_eq, UInt8.le_iff_toNat_le,
    UInt8.reduceToNat]

/-- What two bytes that begin a character of three have to do with each other. -/
theorem beginsThree_iff {a b : UInt8} :
    beginsThree a b = true ↔ isTail b = true ∧ (a.toNat = 0xe0 → 0xa0 ≤ b.toNat) ∧
      (a.toNat = 0xed → b.toNat ≤ 0x9f) := by
  simp only [beginsThree, isTail, beq_iff_eq, ← UInt8.toNat_inj, UInt8.le_iff_toNat_le,
    UInt8.reduceToNat]
  split
  · simp only [Bool.and_eq_true, decide_eq_true_eq]
    omega
  · split
    · simp only [Bool.and_eq_true, decide_eq_true_eq]
      omega
    · simp only [Bool.and_eq_true, decide_eq_true_eq]
      omega

theorem beginsFour_iff {a b : UInt8} :
    beginsFour a b = true ↔ isTail b = true ∧ (a.toNat = 0xf0 → 0x90 ≤ b.toNat) ∧
      (a.toNat = 0xf4 → b.toNat ≤ 0x8f) := by
  simp only [beginsFour, isTail, beq_iff_eq, ← UInt8.toNat_inj, UInt8.le_iff_toNat_le,
    UInt8.reduceToNat]
  split
  · simp only [Bool.and_eq_true, decide_eq_true_eq]
    omega
  · split
    · simp only [Bool.and_eq_true, decide_eq_true_eq]
      omega
    · simp only [Bool.and_eq_true, decide_eq_true_eq]
      omega

section Bytes

variable {a b c d : UInt8}

theorem utf8EncodeChar_one (first : a.toNat < 0x80) :
    String.utf8EncodeChar (Char.ofNat a.toNat) = [a] := by
  rw [String.utf8EncodeChar, toNat_val_ofNat (by omega), if_pos (by omega), ofNat_eq_byte rfl]

theorem utf8EncodeChar_two (first : 0xc2 ≤ a.toNat ∧ a.toNat ≤ 0xdf) (second : isTail b = true) :
    String.utf8EncodeChar (Char.ofNat (a.toNat % 32 * 64 + bits b)) = [a, b] := by
  have tail := isTail_iff.mp second
  unfold bits
  rw [String.utf8EncodeChar, toNat_val_ofNat (by omega), if_neg (by omega), if_pos (by omega),
    ofNat_eq_byte (b := a) (by omega), ofNat_eq_byte (b := b) (by omega)]

theorem utf8EncodeChar_three (first : 0xe0 ≤ a.toNat ∧ a.toNat ≤ 0xef)
    (second : beginsThree a b = true) (third : isTail c = true) :
    String.utf8EncodeChar (Char.ofNat ((a.toNat % 16 * 64 + bits b) * 64 + bits c)) =
      [a, b, c] := by
  obtain ⟨middle, low, high⟩ := beginsThree_iff.mp second
  have middle := isTail_iff.mp middle
  have tail := isTail_iff.mp third
  unfold bits
  rw [String.utf8EncodeChar, toNat_val_ofNat (by omega), if_neg (by omega), if_neg (by omega),
    if_pos (by omega), ofNat_eq_byte (b := a) (by omega), ofNat_eq_byte (b := b) (by omega),
    ofNat_eq_byte (b := c) (by omega)]

theorem utf8EncodeChar_four (first : 0xf0 ≤ a.toNat ∧ a.toNat ≤ 0xf4)
    (second : beginsFour a b = true) (third : isTail c = true) (fourth : isTail d = true) :
    String.utf8EncodeChar
        (Char.ofNat (((a.toNat % 8 * 64 + bits b) * 64 + bits c) * 64 + bits d)) =
      [a, b, c, d] := by
  obtain ⟨middle, low, high⟩ := beginsFour_iff.mp second
  have middle := isTail_iff.mp middle
  have next := isTail_iff.mp third
  have tail := isTail_iff.mp fourth
  unfold bits
  rw [String.utf8EncodeChar, toNat_val_ofNat (by omega), if_neg (by omega), if_neg (by omega),
    if_neg (by omega), ofNat_eq_byte (b := a) (by omega), ofNat_eq_byte (b := b) (by omega),
    ofNat_eq_byte (b := c) (by omega), ofNat_eq_byte (b := d) (by omega)]

end Bytes

/-- A first piece that is a character is made of the bytes of the character. -/
theorem eq_of_firstPiece {a : UInt8} {s : Bytes} {c : Char} {n : Nat}
    (first : firstPiece a s = .char c n) :
    a :: s = String.utf8EncodeChar c ++ s.drop (n - 1) := by
  simp only [firstPiece, UInt8.lt_iff_toNat_lt, UInt8.le_iff_toNat_le, Bool.and_eq_true,
    decide_eq_true_eq, UInt8.reduceToNat] at first
  split at first
  · next one =>
      cases first
      rw [utf8EncodeChar_one one]
      rfl
  split at first
  · next two =>
      split at first
      · cases first
      split at first
      · next b _ tail =>
          cases first
          rw [utf8EncodeChar_two two tail]
          rfl
      · cases first
  split at first
  · next three =>
      split at first
      · cases first
      split at first
      · next begins =>
          split at first
          · cases first
          split at first
          · next tail =>
              cases first
              rw [utf8EncodeChar_three three begins tail]
              rfl
          · cases first
      · cases first
  split at first
  · next four =>
      split at first
      · cases first
      split at first
      · next begins =>
          split at first
          · cases first
          split at first
          · next next =>
              split at first
              · cases first
              split at first
              · next tail =>
                  cases first
                  rw [utf8EncodeChar_four four begins next tail]
                  rfl
              · cases first
          · cases first
      · cases first
  · cases first

/-- Bytes whose pieces are characters are the bytes of these characters. -/
theorem eq_of_charsFrom {index : Nat} {cs : List Char} :
    ∀ bytes : Bytes, charsFrom index (pieces bytes) = .ok cs →
      bytes = cs.flatMap String.utf8EncodeChar
  | [], read => by
      rw [pieces] at read
      cases read
      rfl
  | a :: s, read => by
      rw [pieces] at read
      cases first : firstPiece a s with
      | broken n cut =>
          rw [first] at read
          cases read
      | char c n =>
          simp only [first, Piece.size, charsFrom] at read
          cases rest : charsFrom (index + n) (pieces (s.drop (n - 1))) with
          | error fault =>
              rw [rest] at read
              cases read
          | ok chars =>
              rw [rest] at read
              cases read
              rw [List.flatMap_cons, ← eq_of_charsFrom (s.drop (n - 1)) rest]
              exact eq_of_firstPiece first
  termination_by bytes => bytes.length

/-- Text that is decoded strictly was encoded as the bytes. -/
theorem encode_of_decode? {bytes : Bytes} {s : String} (read : decode? bytes = some s) :
    encode s = bytes := by
  unfold decode? decode at read
  cases chars : charsFrom 0 (pieces bytes) with
  | error fault =>
      rw [chars] at read
      cases read
  | ok cs =>
      rw [chars] at read
      cases read
      rw [encode, String.toList_ofList]
      exact (eq_of_charsFrom bytes chars).symm

theorem decode?_eq_some_iff {bytes : Bytes} {s : String} :
    decode? bytes = some s ↔ bytes = encode s := by
  constructor
  · exact fun read => (encode_of_decode? read).symm
  · rintro rfl
    exact decode?_encode s

end ScriptRoster.Text
