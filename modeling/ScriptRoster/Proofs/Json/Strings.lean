import ScriptRoster.Json.Reader

/-!
# Reading back lists of strings

Each character of a string takes one step of the reader, escaped or not, so a quoted text is read
back whole, and a list of quoted texts item by item.
-/

namespace ScriptRoster.Json

theorem hexValue?_hexDigit : ∀ n < 16, hexValue? (hexDigit n) = some n := by decide

theorem four_le_byteLength (a b c d : Char) (rest : List Char) :
    4 ≤ Text.byteLength (a :: b :: c :: d :: rest) := by
  have := a.utf8Size_pos
  have := b.utf8Size_pos
  have := c.utf8Size_pos
  have := d.utf8Size_pos
  simp only [Text.byteLength]
  omega

/-- The two hexadecimal digits of a control character, after two zeros, are read as its number. -/
theorem readUnit_control {n : Nat} (h : n < 0x20) (rest : List Char) :
    readUnit ('0' :: '0' :: hexDigit (n / 16) :: hexDigit (n % 16) :: rest) = .ok (n, rest) := by
  have long := four_le_byteLength '0' '0' (hexDigit (n / 16)) (hexDigit (n % 16)) rest
  have zero : hexValue? '0' = some 0 := hexValue?_hexDigit 0 (by decide)
  have value : ((0 * 16 + 0) * 16 + n / 16) * 16 + n % 16 = n := by omega
  rw [readUnit, if_neg (by omega)]
  simp only [zero, hexValue?_hexDigit (n / 16) (by omega), hexValue?_hexDigit (n % 16) (by omega),
    value]

/-- The escape of a control character is read as the character. -/
theorem readEscape_control {c : Char} (h : c.toNat < 0x20) (rest : List Char) :
    readEscape ('u' :: '0' :: '0' :: hexDigit (c.toNat / 16) :: hexDigit (c.toNat % 16) :: rest) =
      .ok (c, rest) := by
  have trailing : isTrailing c.toNat = false := by simp [isTrailing]; omega
  have leading : isLeading c.toNat = false := by simp [isLeading]; omega
  simp only [readEscape, readUnit_control h, trailing, leading, Char.ofNat_toNat, if_false,
    Bool.false_eq_true]

/-- A written character takes one step to read. -/
theorem readBodyWithin_escapeChar (c : Char) (fuel : Nat) (rest : List Char) :
    readBodyWithin (fuel + 1) (escapeChar c ++ rest) =
      (readBodyWithin fuel rest).map fun body => (c :: body.1, body.2) := by
  unfold escapeChar
  split
  · subst c; rfl
  split
  · subst c; rfl
  split
  · subst c; rfl
  split
  · subst c; rfl
  split
  · subst c; rfl
  split
  · subst c; rfl
  split
  · subst c; rfl
  split
  case isTrue control =>
    simp only [List.cons_append, List.nil_append, readBodyWithin, readEscape_control control]
  case isFalse quote slash _ _ _ _ _ control =>
    simp only [List.singleton_append, readBodyWithin, control, if_false]

/-- A quoted text is read up to its closing quote. -/
theorem readBodyWithin_flatMap (cs : List Char) (fuel : Nat) (h : cs.length < fuel)
    (rest : List Char) :
    readBodyWithin fuel (cs.flatMap escapeChar ++ '"' :: rest) = .ok (cs, rest) := by
  induction cs generalizing fuel with
  | nil =>
      obtain ⟨fuel, rfl⟩ := Nat.exists_eq_succ_of_ne_zero (Nat.ne_of_gt h)
      rfl
  | cons c cs ih =>
      obtain ⟨fuel, rfl⟩ := Nat.exists_eq_succ_of_ne_zero (n := fuel) (by omega)
      rw [List.flatMap_cons, List.append_assoc, readBodyWithin_escapeChar,
        ih fuel (by simpa using h)]
      rfl

theorem length_le_flatMap_escapeChar (cs : List Char) :
    cs.length ≤ (cs.flatMap escapeChar).length := by
  induction cs with
  | nil => exact Nat.le_refl 0
  | cons c cs ih =>
      have : 0 < (escapeChar c).length := by
        unfold escapeChar
        repeat' split
        all_goals simp
      simp only [List.flatMap_cons, List.length_append, List.length_cons]
      omega

/-- A quoted text is read back, whatever follows it. -/
theorem readString_quote (s : String) (rest : List Char) :
    readString (quote s.toList ++ rest) = .ok (s, rest) := by
  have shape : quote s.toList ++ rest = '"' :: (s.toList.flatMap escapeChar ++ '"' :: rest) := by
    simp [quote]
  have long : s.toList.length < (s.toList.flatMap escapeChar ++ '"' :: rest).length + 1 := by
    have := length_le_flatMap_escapeChar s.toList
    simp only [List.length_append, List.length_cons]
    omega
  rw [shape]
  change (readBody _).map _ = _
  rw [readBody, readBodyWithin_flatMap _ _ long]
  exact congrArg (fun text => Except.ok (text, rest)) String.ofList_toList

theorem length_le_flatMap_quote (items : List String) :
    items.length ≤ (items.flatMap fun item => ',' :: quote item.toList).length := by
  induction items with
  | nil => exact Nat.le_refl 0
  | cons item items ih =>
      simp only [List.flatMap_cons, List.length_append, List.length_cons]
      omega

theorem readStringList_bracket (rest : List Char) :
    readStringList ('[' :: rest) = readStrings firstItem (rest.length + 1 + 1) rest := rfl

theorem firstItem_quote (s rest : List Char) :
    firstItem (quote s ++ rest) = .ok (.item (quote s ++ rest)) := rfl

theorem nextItem_quote (s rest : List Char) :
    nextItem (',' :: (quote s ++ rest)) = .ok (.item (quote s ++ rest)) := rfl

/-- A quoted item goes in front of the items read behind it. -/
theorem readStrings_quote {next : List Char → Except Fault Next} {s rest : List Char}
    {item : String} (h : next s = .ok (.item (quote item.toList ++ rest))) (fuel : Nat) :
    readStrings next (fuel + 1) s =
      (readStrings nextItem fuel rest).map fun items => (item :: items.1, items.2) := by
  rw [readStrings, h]
  simp only [readString_quote]

/-- Items after the first, each behind a comma, are read up to the end of their list. -/
theorem readStrings_nextItem (items : List String) (fuel : Nat) (h : items.length < fuel)
    (rest : List Char) :
    readStrings nextItem fuel
        (items.flatMap (fun item => ',' :: quote item.toList) ++ ']' :: rest) =
      .ok (items, rest) := by
  induction items generalizing fuel with
  | nil =>
      obtain ⟨fuel, rfl⟩ := Nat.exists_eq_succ_of_ne_zero (Nat.ne_of_gt h)
      rfl
  | cons item items ih =>
      obtain ⟨fuel, rfl⟩ := Nat.exists_eq_succ_of_ne_zero (n := fuel) (by omega)
      rw [List.flatMap_cons, List.append_assoc, List.cons_append,
        readStrings_quote (nextItem_quote _ _), ih fuel (by simpa using h)]
      rfl

theorem intercalate_comma (item : List Char) (items : List (List Char)) :
    [','].intercalate (item :: items) = item ++ items.flatMap (',' :: ·) := by
  induction items generalizing item with
  | nil => simp
  | cons next items ih => simp [List.intercalate_cons_cons, ih]

/-- A written list of strings is read back. -/
theorem readStringList_quote (items : List String) (rest : List Char) :
    readStringList ('[' :: ([','].intercalate (items.map fun item => quote item.toList) ++
      ']' :: rest)) = .ok (items, rest) := by
  cases items with
  | nil => rfl
  | cons item items =>
      have long : items.length < (quote item.toList ++
          (items.flatMap (fun item => ',' :: quote item.toList) ++ ']' :: rest)).length + 1 := by
        have := length_le_flatMap_quote items
        simp only [List.length_append, List.length_cons]
        omega
      rw [List.map_cons, intercalate_comma, List.flatMap_map, List.append_assoc,
        readStringList_bracket, readStrings_quote (firstItem_quote _ _),
        readStrings_nextItem items _ long]
      rfl

/-- The text of a list of strings holds these strings. -/
@[simp] theorem strings_listText (items : List String) : strings (listText items) = .ok items := by
  rw [strings, document, listText, String.toList_ofList, List.cons_append, readStringList_quote]
  rfl

end ScriptRoster.Json
