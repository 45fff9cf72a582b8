import ScriptRoster.Name

/-!
# Plain names, and lists of names without doubles

A plain name is spelled with an ASCII letter or an underscore, and then with ASCII letters, digits,
underscores and hyphens. A list that was cleared of doubles holds names of the list it came from,
and no two of them are the same.
-/

namespace ScriptRoster.Name

/-- An ASCII letter or the underscore. -/
def Begins (c : Char) : Prop := ('A' ≤ c ∧ c ≤ 'Z') ∨ ('a' ≤ c ∧ c ≤ 'z') ∨ c = '_'

/-- An ASCII letter or digit, the underscore or the hyphen. -/
def GoesOn (c : Char) : Prop := Begins c ∨ ('0' ≤ c ∧ c ≤ '9') ∨ c = '-'

theorem isHead_iff (c : Char) : isHead c = true ↔ Begins c := by
  have letter : c.isAlpha = (c.isUpper || c.isLower) := rfl
  have upper : c.isUpper = decide ('A' ≤ c ∧ c ≤ 'Z') := rfl
  have lower : c.isLower = (decide ('a' ≤ c) && decide (c ≤ 'z')) := rfl
  simp only [isHead, letter, upper, lower, Bool.or_eq_true, Bool.and_eq_true, decide_eq_true_eq,
    beq_iff_eq, Begins, or_assoc]

theorem isTail_iff (c : Char) : isTail c = true ↔ GoesOn c := by
  have head := isHead_iff c
  simp only [isHead, Bool.or_eq_true, beq_iff_eq] at head
  simp only [isTail, Char.isAlphanum, Bool.or_eq_true, beq_iff_eq, GoesOn, ← head, Char.isDigit,
    Bool.and_eq_true, decide_eq_true_eq]
  constructor
  · rintro (((letter | digit) | same) | same)
    · exact .inl (.inl letter)
    · exact .inr (.inl digit)
    · exact .inl (.inr same)
    · exact .inr (.inr same)
  · rintro ((letter | same) | digit | same)
    · exact .inl (.inl (.inl letter))
    · exact .inl (.inr same)
    · exact .inl (.inl (.inr digit))
    · exact .inr same

/-- A plain name spelled out. -/
theorem isPlain_iff (name : String) :
    isPlain name = true ↔
      ∃ head tail, name.toList = head :: tail ∧ Begins head ∧ ∀ c ∈ tail, GoesOn c := by
  unfold isPlain
  cases letters : name.toList with
  | nil => simp
  | cons head tail =>
      simp only [Bool.and_eq_true, List.all_eq_true, isHead_iff, isTail_iff]
      constructor
      · rintro ⟨begins, goesOn⟩
        exact ⟨head, tail, rfl, begins, goesOn⟩
      · rintro ⟨_, _, same, begins, goesOn⟩
        cases same
        exact ⟨begins, goesOn⟩

/-! ## Lists without doubles -/

variable {name : String}

theorem mem_of_mem_unseen {seen names : List String} (member : name ∈ unseen seen names) :
    name ∈ names ∧ fold name ∉ seen := by
  induction names generalizing seen with
  | nil => cases member
  | cons first rest ih =>
      rw [unseen] at member
      split at member
      · obtain ⟨later, fresh⟩ := ih member
        exact ⟨List.mem_cons_of_mem first later, fresh⟩
      · next fresh =>
          rcases List.mem_cons.mp member with rfl | member
          · exact ⟨List.mem_cons_self, fresh⟩
          · obtain ⟨later, fresh⟩ := ih member
            exact ⟨List.mem_cons_of_mem first later,
              fun seen => fresh (List.mem_cons_of_mem _ seen)⟩

/-- Nothing is added to a list when repetitions are left out. -/
theorem mem_of_mem_dedup {names : List String} (member : name ∈ dedup names) : name ∈ names :=
  (mem_of_mem_unseen member).1

/-- No two names that are left are the same but for case. -/
theorem pairwise_unseen (seen names : List String) :
    (unseen seen names).Pairwise fun a b => same a b = false := by
  induction names generalizing seen with
  | nil => exact .nil
  | cons first rest ih =>
      rw [unseen]
      split
      · exact ih seen
      · refine .cons ?_ (ih _)
        intro other member
        have fresh := (mem_of_mem_unseen member).2
        rw [same, beq_eq_false_iff_ne]
        intro equal
        apply fresh
        rw [equal]
        exact List.mem_cons_self

/-- No name is in a list without doubles twice, in whatever spelling. -/
theorem pairwise_dedup (names : List String) :
    (dedup names).Pairwise fun a b => same a b = false :=
  pairwise_unseen [] names

theorem loop_eq_append_unseen (names kept : List String) :
    List.eraseDupsBy.loop same names kept = kept.reverse ++ unseen (kept.map fold) names := by
  induction names generalizing kept with
  | nil => rw [List.eraseDupsBy.loop, unseen, List.append_nil]
  | cons name rest ih =>
      have among : kept.any (same name) = decide (fold name ∈ kept.map fold) := by
        rw [Bool.eq_iff_iff, List.any_eq_true, decide_eq_true_iff, List.mem_map]
        simp only [same, beq_iff_eq]
        exact exists_congr fun _ => and_congr_right fun _ => eq_comm
      rw [List.eraseDupsBy.loop, among, unseen]
      by_cases known : fold name ∈ kept.map fold
      · simp only [known, decide_true, if_true, ih]
      · simp only [known, decide_false, if_false, ih, List.reverse_cons, List.map_cons,
          List.append_assoc, List.singleton_append]

/-- Of the names that are the same the first one is kept. -/
theorem dedup_eq_eraseDupsBy (names : List String) : dedup names = names.eraseDupsBy same := by
  rw [List.eraseDupsBy, loop_eq_append_unseen]
  rfl

end ScriptRoster.Name
