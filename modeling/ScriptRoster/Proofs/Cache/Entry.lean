import ScriptRoster.Cache.Entry
import ScriptRoster.Proofs.Json.Strings

/-!
# Reading back cache entries

A written entry is read back, with its key and its payload as they were.
-/

namespace ScriptRoster.Cache.Entry

open Json

/-- The characters of an entry: two fields, each a quoted name and a quoted text. -/
theorem toList_text (entry : Entry) :
    entry.text.toList = '{' :: '"' :: ("key".toList.flatMap escapeChar ++ '"' :: ':' ::
      (quote entry.key.toList ++ ',' :: '"' :: ("payload".toList.flatMap escapeChar ++ '"' :: ':' ::
        (quote entry.payload.toList ++ ['}'])))) := by
  have first : "\x7b\"key\":".toList = '{' :: '"' :: ("key".toList.flatMap escapeChar ++
      ['"', ':']) := by decide
  have second : ",\"payload\":".toList = ',' :: '"' :: ("payload".toList.flatMap escapeChar ++
      ['"', ':']) := by decide
  have last : "\x7d".toList = ['}'] := by decide
  calc
    entry.text.toList = "\x7b\"key\":".toList ++ quote entry.key.toList ++ ",\"payload\":".toList
        ++ quote entry.payload.toList ++ "\x7d".toList := String.toList_ofList
    _ = _ := by
      rw [first, second, last]
      simp only [List.append_assoc, List.cons_append, List.nil_append]

theorem firstField_quote (rest : List Char) : firstField ('"' :: rest) = .ok (.item rest) := rfl

theorem nextField_quote (rest : List Char) :
    nextField (',' :: '"' :: rest) = .ok (.item rest) := rfl

/-- A text that was escaped is read as it was. -/
theorem readBody_flatMap (cs rest : List Char) :
    readBody (cs.flatMap escapeChar ++ '"' :: rest) = .ok (cs, rest) := by
  have := length_le_flatMap_escapeChar cs
  refine readBodyWithin_flatMap cs _ ?_ rest
  simp only [List.length_append, List.length_cons]
  omega

theorem readColon_quote (s : String) (rest : List Char) :
    (readColon (':' :: (quote s.toList ++ rest))).bind readString = .ok (s, rest) :=
  readString_quote s rest

/-- The field for the key is read first. -/
theorem readFields_key (key : String) (fuel : Nat) (rest : List Char) :
    readFields firstField none none (fuel + 1)
        ('"' :: ("key".toList.flatMap escapeChar ++ '"' :: ':' :: (quote key.toList ++ rest))) =
      readFields nextField (some key) none fuel rest := by
  rw [readFields, firstField_quote]
  simp only [readBody_flatMap, readColon_quote, if_true]
  rfl

/-- The field for the payload is read behind it. -/
theorem readFields_payload (key payload : String) (fuel : Nat) (rest : List Char) :
    readFields nextField (some key) none (fuel + 1)
        (',' :: '"' :: ("payload".toList.flatMap escapeChar ++ '"' :: ':' ::
          (quote payload.toList ++ rest))) =
      readFields nextField (some key) (some payload) fuel rest := by
  rw [readFields, nextField_quote]
  simp only [readBody_flatMap, readColon_quote, if_true]
  rfl

theorem read_brace (rest : List Char) :
    read ('{' :: rest) = readFields firstField none none (rest.length + 1 + 1) rest := rfl

/-- The text of an entry holds the entry. -/
@[simp] theorem ofText_text (entry : Entry) : ofText entry.text = .ok entry := by
  have read_text : read entry.text.toList = .ok (entry, []) := by
    rw [toList_text, read_brace, List.length_cons, readFields_key, List.length_append,
      List.length_cons]
    exact readFields_payload entry.key entry.payload _ _
  rw [ofText, document, read_text]
  rfl

end ScriptRoster.Cache.Entry
