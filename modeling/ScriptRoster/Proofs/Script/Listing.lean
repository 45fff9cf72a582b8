import Mathlib.Tactic.Tauto
import ScriptRoster.Proofs.Name
import ScriptRoster.Script.Listing

/-!
# Names found by text

Every name that the scan of a text finds stands in the text and is spelled with the letters that the
scan takes for letters of a name. Two of them are not ASCII, the long s and the kelvin sign, and a
name that was found is plain if and only if it does without these.
-/

namespace ScriptRoster.Script.Listing

/-- Without the two letters outside of ASCII that count as letters here. -/
def IsOrdinary (letters : List Char) : Prop := '\u017f' ∉ letters ∧ '\u212a' ∉ letters

instance (letters : List Char) : Decidable (IsOrdinary letters) :=
  inferInstanceAs (Decidable (_ ∧ _))

/-- Spelled with the letters that count as letters of a name here. -/
def IsSpelled (letters : List Char) : Prop :=
  ∃ head tail, letters = head :: tail ∧ isNameHead head = true ∧
    ∀ c ∈ tail, isNameTail c = true

/-! ## Letters -/

theorem isNameHead_iff (c : Char) :
    isNameHead c = true ↔ Name.isHead c = true ∨ c = '\u017f' ∨ c = '\u212a' := by
  simp only [isNameHead, isLetter, Name.isHead, Bool.or_eq_true, beq_iff_eq]
  tauto

theorem isNameTail_iff (c : Char) :
    isNameTail c = true ↔ Name.isTail c = true ∨ c = '\u017f' ∨ c = '\u212a' := by
  simp only [isNameTail, isLetter, Name.isTail, Char.isAlphanum, Bool.or_eq_true, beq_iff_eq]
  tauto

theorem isTail_of_isHead {c : Char} (head : Name.isHead c = true) : Name.isTail c = true := by
  simp only [Name.isHead, Bool.or_eq_true] at head
  simp only [Name.isTail, Char.isAlphanum, Bool.or_eq_true]
  tauto

/-- The letters of a plain name are all ASCII. -/
theorem isOrdinary_of_isPlain {name : String} (plain : Name.isPlain name = true) :
    IsOrdinary name.toList := by
  have tails : ∀ c ∈ name.toList, Name.isTail c = true := by
    unfold Name.isPlain at plain
    intro c member
    cases letters : name.toList with
    | nil =>
        rw [letters] at member
        cases member
    | cons head tail =>
        rw [letters] at member plain
        simp only [Bool.and_eq_true, List.all_eq_true] at plain
        rcases List.mem_cons.mp member with rfl | later
        · exact isTail_of_isHead plain.1
        · exact plain.2 c later
  constructor
  · intro member
    have odd := tails _ member
    revert odd
    decide
  · intro member
    have odd := tails _ member
    revert odd
    decide

/-- What is spelled as a name here is plain if it does without the two letters. -/
theorem isPlain_of_isSpelled {name : String} (spelled : IsSpelled name.toList)
    (ordinary : IsOrdinary name.toList) : Name.isPlain name = true := by
  obtain ⟨head, tail, letters, first, others⟩ := spelled
  have stray : ∀ c ∈ name.toList, ¬ (c = '\u017f' ∨ c = '\u212a') := by
    rintro c member (rfl | rfl)
    · exact ordinary.1 member
    · exact ordinary.2 member
  rw [letters] at stray
  have begins : Name.isHead head = true :=
    ((isNameHead_iff head).mp first).resolve_right (stray head List.mem_cons_self)
  have goesOn : ∀ c ∈ tail, Name.isTail c = true := fun c member =>
    ((isNameTail_iff c).mp (others c member)).resolve_right
      (stray c (List.mem_cons_of_mem head member))
  simp only [Name.isPlain, letters, begins, List.all_eq_true.mpr goesOn, Bool.and_self]

/-! ## The scan -/

variable {s rest name : List Char}

theorem suffix_of_word? {word : List Char} (found : word? word s = some rest) : rest <:+ s := by
  induction word generalizing s with
  | nil =>
      cases found
      exact List.suffix_refl _
  | cons c cs ih =>
      cases s with
      | nil => cases found
      | cons d s =>
          rw [word?] at found
          split at found
          · exact (ih found).trans (List.suffix_cons d s)
          · cases found

theorem suffix_of_keyword? (found : keyword? s = some rest) : rest <:+ s := by
  unfold keyword? at found
  split at found
  · next long =>
      cases found
      exact suffix_of_word? long
  · exact suffix_of_word? found

theorem suffix_skipBlanks {c : Char} (skipped : skipBlanks s = c :: rest) : rest <:+ s := by
  have behind : c :: rest <:+ s := by
    rw [← skipped]
    exact List.dropWhile_suffix _
  exact (List.suffix_cons c rest).trans behind

theorem suffix_of_opening? (found : opening? s = some rest) : rest <:+ s := by
  unfold opening? at found
  split at found
  · next opened =>
      cases found
      exact suffix_skipBlanks opened
  · next inside opened =>
      split at found
      · next behind closed =>
          split at found
          · next braced =>
              cases found
              exact (suffix_skipBlanks braced).trans
                ((suffix_skipBlanks closed).trans (suffix_skipBlanks opened))
          · cases found
      · cases found
  · cases found

/-- The parts of a definition that is found. -/
theorem definition?_cases (found : definition? s = some (name, rest)) :
    ∃ behind head tail, keyword? (s.dropWhile isGap) = some behind ∧
      behind.takeWhile isGap ≠ [] ∧ behind.dropWhile isGap = head :: tail ∧
      isNameHead head = true ∧
      name = head :: tail.takeWhile isNameTail ∧
      opening? (tail.dropWhile isNameTail) = some rest := by
  unfold definition? at found
  split at found
  · cases found
  next keyword =>
  split at found
  · split at found
    · next gap =>
        split at found
        · next head tail letters =>
            split at found
            · next begins =>
                obtain ⟨after, opened, same⟩ := Option.map_eq_some_iff.mp found
                cases same
                exact ⟨_, head, tail, keyword, by simp [gap], letters, begins, rfl, opened⟩
            · cases found
        · cases found
    · cases found
  · cases found

/-- A definition that is found has its name in the text, and the text goes on behind it. -/
theorem definition?_eq_some (found : definition? s = some (name, rest)) :
    IsSpelled name ∧ name ⊆ s ∧ rest <:+ s := by
  obtain ⟨behind, head, tail, keyword, -, letters, begins, rfl, opened⟩ := definition?_cases found
  have named : behind <:+ s := (suffix_of_keyword? keyword).trans (List.dropWhile_suffix _)
  have inside : head :: tail <:+ s := by
    rw [← letters]
    exact (List.dropWhile_suffix _).trans named
  have after : tail.dropWhile isNameTail <:+ s :=
    (List.dropWhile_suffix _).trans ((List.suffix_cons head tail).trans inside)
  refine ⟨⟨head, _, rfl, begins, List.all_eq_true.mp List.all_takeWhile⟩, ?_, ?_⟩
  · intro c member
    apply inside.subset
    rcases List.mem_cons.mp member with rfl | later
    · exact List.mem_cons_self
    · exact List.mem_cons_of_mem head ((List.takeWhile_prefix _).subset later)
  · exact (suffix_of_opening? opened).trans after

theorem suffix_nextLine (s : List Char) : nextLine s <:+ s :=
  (List.drop_suffix 1 _).trans (List.dropWhile_suffix _)

theorem spelled_of_mem_namesWithin {fuel : Nat} {found : String}
    (member : found ∈ namesWithin fuel s) : IsSpelled found.toList ∧ found.toList ⊆ s := by
  induction fuel generalizing s with
  | zero => cases member
  | succ fuel ih =>
      rw [namesWithin] at member
      split at member
      · next name rest here =>
          obtain ⟨spelled, inside, behind⟩ := definition?_eq_some here
          rcases List.mem_cons.mp member with rfl | later
          · rw [String.toList_ofList]
            exact ⟨spelled, inside⟩
          · obtain ⟨spelled, inside⟩ := ih later
            exact ⟨spelled, List.Subset.trans inside ((suffix_nextLine rest).trans behind).subset⟩
      · split at member
        · cases member
        · obtain ⟨spelled, inside⟩ := ih member
          exact ⟨spelled, List.Subset.trans inside (suffix_nextLine s).subset⟩

/-- A name that is found in a text is spelled as a name, and its letters are in the text. -/
theorem spelled_of_mem_names {source found : String} (member : found ∈ names source) :
    IsSpelled found.toList ∧ found.toList ⊆ source.toList :=
  spelled_of_mem_namesWithin (Name.mem_of_mem_dedup member)

end ScriptRoster.Script.Listing
