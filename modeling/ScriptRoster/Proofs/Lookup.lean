import Mathlib.Data.List.Basic

/-!
# Tables as lists of pairs

What is found in a table after the pairs of one key were taken out of it.
-/

namespace ScriptRoster

variable {α β : Type*} [BEq α] [LawfulBEq α]

theorem lookup_filter_self (entries : List (α × β)) (key : α) :
    (entries.filter (·.1 != key)).lookup key = none := by
  rw [List.lookup_eq_none_iff]
  intro entry member
  have kept : (entry.1 != key) = true := (List.mem_filter.mp member).2
  exact bne_iff_ne.mpr (Ne.symm (bne_iff_ne.mp kept))

theorem lookup_filter_ne (entries : List (α × β)) {key other : α} (h : other ≠ key) :
    (entries.filter (·.1 != key)).lookup other = entries.lookup other := by
  induction entries with
  | nil => rfl
  | cons entry entries ih =>
      obtain ⟨k, value⟩ := entry
      by_cases same : k = key
      · subst same
        simp [List.lookup_cons, ih, beq_false_of_ne h]
      · simp [List.lookup_cons, same, ih]

end ScriptRoster
