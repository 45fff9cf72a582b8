import Mathlib.Data.List.DropRight
import ScriptRoster.Text.Blank

/-!
# Trimming

A trimmed text stands in the whole one with nothing but white space around it, and begins and ends
with something else. There is one such text for each, and it is empty exactly if the whole text is
white space.
-/

namespace ScriptRoster.Text

/-- All characters are white space. -/
def AreBlank (letters : List Char) : Prop := ∀ c ∈ letters, isBlank c = true

/-- A text is another one without the white space at its end. -/
structure TrimmedEnd (s t : String) : Prop where
  rest : ∃ blanks, AreBlank blanks ∧ s.toList = t.toList ++ blanks
  last : ∀ some : t.toList ≠ [], isBlank (t.toList.getLast some) = false

/-- A text is another one without the white space at both ends. -/
structure Trimmed (s t : String) : Prop where
  rest : ∃ front blanks, AreBlank front ∧ AreBlank blanks ∧ s.toList = front ++ (t.toList ++ blanks)
  first : ∀ some : t.toList ≠ [], isBlank (t.toList.head some) = false
  last : ∀ some : t.toList ≠ [], isBlank (t.toList.getLast some) = false

variable {s t : String} {letters blanks : List Char}

theorem rdropWhile_append (blank : AreBlank blanks)
    (solid : ∀ some : letters ≠ [], isBlank (letters.getLast some) = false) :
    (letters ++ blanks).rdropWhile isBlank = letters := by
  rw [List.rdropWhile, List.reverse_append,
    List.dropWhile_append_of_pos fun c member => blank c (List.mem_reverse.mp member)]
  exact List.rdropWhile_eq_self_iff.mpr fun some => by rw [solid some]; exact Bool.false_ne_true

theorem toList_trimEnd (s : String) : (trimEnd s).toList = s.toList.rdropWhile isBlank :=
  String.toList_ofList

theorem toList_trim (s : String) :
    (trim s).toList = (s.toList.dropWhile isBlank).rdropWhile isBlank := by
  rw [trim, toList_trimEnd, String.toList_ofList]

theorem trimEnd_eq_iff : trimEnd s = t ↔ TrimmedEnd s t := by
  constructor
  · rintro rfl
    constructor
    · refine ⟨s.toList.rtakeWhile isBlank, fun c => List.mem_rtakeWhile_imp, ?_⟩
      rw [toList_trimEnd, List.rdropWhile_append_rtakeWhile]
    · rw [toList_trimEnd]
      exact fun some => eq_false_of_ne_true (List.rdropWhile_last_not _ _ some)
  · rintro ⟨⟨blanks, blank, whole⟩, last⟩
    rw [← String.toList_inj, toList_trimEnd, whole, rdropWhile_append blank last]

/-- Blanks in front are dropped up to a letter that is none. -/
theorem dropWhile_append {front : List Char} (blank : AreBlank front) (some : letters ≠ [])
    (solid : isBlank (letters.head some) = false) :
    (front ++ (letters ++ blanks)).dropWhile isBlank = letters ++ blanks := by
  rw [List.dropWhile_append_of_pos blank]
  cases letters with
  | nil => exact absurd rfl some
  | cons c letters =>
      rw [List.head_cons] at solid
      exact List.dropWhile_cons_of_neg (by rw [solid]; exact Bool.false_ne_true)

theorem trim_eq_iff : trim s = t ↔ Trimmed s t := by
  constructor
  · rintro rfl
    constructor
    · refine ⟨s.toList.takeWhile isBlank, (s.toList.dropWhile isBlank).rtakeWhile isBlank,
        fun c => List.mem_takeWhile_imp, fun c => List.mem_rtakeWhile_imp, ?_⟩
      rw [toList_trim, List.rdropWhile_append_rtakeWhile, List.takeWhile_append_dropWhile]
    · rw [toList_trim]
      intro some
      rw [(List.rdropWhile_prefix isBlank _).head some]
      exact List.head_dropWhile_not isBlank _
    · rw [toList_trim]
      exact fun some => eq_false_of_ne_true (List.rdropWhile_last_not _ _ some)
  · rintro ⟨⟨front, blanks, frontBlank, blank, whole⟩, first, last⟩
    rw [← String.toList_inj, toList_trim, whole]
    by_cases empty : t.toList = []
    · rw [empty, List.nil_append, List.dropWhile_append_of_pos frontBlank,
        List.dropWhile_eq_nil_iff.mpr blank, List.rdropWhile_nil]
    · rw [dropWhile_append frontBlank empty (first empty), rdropWhile_append blank last]

theorem trim_eq_empty_iff : trim s = "" ↔ AreBlank s.toList := by
  rw [trim_eq_iff]
  constructor
  · rintro ⟨⟨front, blanks, frontBlank, blank, whole⟩, -, -⟩
    rw [whole]
    exact List.forall_mem_append.mpr ⟨frontBlank, blank⟩
  · intro blank
    exact ⟨⟨s.toList, [], blank, fun _ member => absurd member List.not_mem_nil,
      (List.append_nil _).symm⟩, fun some => absurd rfl some, fun some => absurd rfl some⟩

end ScriptRoster.Text
