import Mathlib.Data.List.Infix
import Mathlib.Tactic.IntervalCases
import ScriptRoster.Proofs.Text.Blank
import ScriptRoster.Text.Lowercase
import ScriptRoster.Text.Within

/-!
# Small letters of a part

The small form of a character hangs on those around it for the capital sigma only. So a part of a
text has the same small letters by itself and within the text, as long as each capital sigma of it
stands at the end of a word in the part if and only if it does in the text. The size of ASCII
letters makes no difference to anything.
-/

namespace ScriptRoster.Text

theorem isWithin_iff {part whole : List Char} : isWithin part whole = true ↔ part <:+: whole := by
  induction whole with
  | nil => simp [isWithin]
  | cons c rest ih =>
      rw [isWithin, Bool.or_eq_true, List.isPrefixOf_iff_prefix, ih, List.infix_cons_iff]

/-! ## The end of a word -/

/-- Whether a capital sigma between characters, those in front last first, stands at the end of a
word. -/
def endsWord (before rest : List Char) : Bool := meetsCased before && !meetsCased rest

/-- The small forms of characters that stand between others, those in front last first. -/
def formsWithin (before : List Char) (after : List Char) : List Char → List Char
  | [] => []
  | c :: rest =>
      (if c = '\u03a3' then if endsWord before (rest ++ after) then ['\u03c2'] else ['\u03c3']
        else smallForm c) ++ formsWithin (c :: before) after rest

/-- Each capital sigma of a part stands at the end of a word in the part if and only if it does
where the part stands between other characters. -/
def KeepsWordEnds (before part after : List Char) : Prop :=
  ∀ front back, part = front ++ '\u03a3' :: back →
    endsWord front.reverse back = endsWord (front.reverse ++ before.reverse) (back ++ after)

variable {before part after front back s : List Char} {c : Char}

theorem smallForms_append (before s after : List Char) :
    smallForms before (s ++ after) =
      formsWithin before after s ++ smallForms (s.reverse ++ before) after := by
  induction s generalizing before with
  | nil => rfl
  | cons c rest ih =>
      rw [List.cons_append, smallForms, formsWithin, ih, List.reverse_cons]
      simp only [endsWord, List.append_assoc, List.singleton_append]
      rfl

theorem smallForms_eq_formsWithin (before s : List Char) :
    smallForms before s = formsWithin before [] s := by
  have whole := smallForms_append before s []
  rwa [List.append_nil, smallForms, List.append_nil] at whole

theorem formsWithin_congr {other later : List Char}
    (same : ∀ front back, s = front ++ '\u03a3' :: back →
      endsWord (front.reverse ++ before) (back ++ after) =
        endsWord (front.reverse ++ other) (back ++ later)) :
    formsWithin before after s = formsWithin other later s := by
  induction s generalizing before other with
  | nil => rfl
  | cons c rest ih =>
      have tail : formsWithin (c :: before) after rest = formsWithin (c :: other) later rest := by
        apply ih
        intro front back split
        have here := same (c :: front) back (by rw [split, List.cons_append])
        rwa [List.reverse_cons, List.append_assoc, List.append_assoc] at here
      rw [formsWithin, formsWithin, tail]
      congr 1
      by_cases sigma : c = '\u03a3'
      · have here := same [] rest (by rw [sigma, List.nil_append])
        rw [List.reverse_nil, List.nil_append, List.nil_append] at here
        rw [if_pos sigma, if_pos sigma, here]
      · rw [if_neg sigma, if_neg sigma]

/-- A part that keeps its ends of words has its small letters within those of the whole. -/
theorem KeepsWordEnds.within (keeps : KeepsWordEnds before part after) :
    smallForms [] part <:+: smallForms [] (before ++ (part ++ after)) := by
  have same : formsWithin [] [] part = formsWithin before.reverse after part := by
    apply formsWithin_congr
    intro front back split
    rw [List.append_nil, List.append_nil]
    exact keeps front back split
  refine ⟨formsWithin [] (part ++ after) before,
    smallForms (part.reverse ++ before.reverse) after, ?_⟩
  calc
    formsWithin [] (part ++ after) before ++ smallForms [] part ++
          smallForms (part.reverse ++ before.reverse) after
        = formsWithin [] (part ++ after) before ++ (formsWithin before.reverse after part ++
            smallForms (part.reverse ++ before.reverse) after) := by
          rw [smallForms_eq_formsWithin, same, List.append_assoc]
    _ = formsWithin [] (part ++ after) before ++ smallForms before.reverse (part ++ after) := by
          rw [smallForms_append]
    _ = smallForms [] (before ++ (part ++ after)) := by
          rw [smallForms_append [] before, List.append_nil]

/-- Without a capital sigma there is nothing to keep. -/
theorem keepsWordEnds_of_not_mem (plain : '\u03a3' ∉ part) : KeepsWordEnds before part after := by
  intro front back split
  exact absurd (split ▸ List.mem_append_right front List.mem_cons_self) plain

/-! ## White space around a part -/

/-- White space ends a word: it is not passed over and has no case. -/
theorem not_passed_of_isBlank (blank : isBlank c = true) :
    isPassed c = false ∧ isCased c = false := by
  have table : ∀ n ∈ [9, 10, 11, 12, 13, 0x20, 0x85, 0xa0, 0x1680, 0x2000, 0x2001, 0x2002, 0x2003,
      0x2004, 0x2005, 0x2006, 0x2007, 0x2008, 0x2009, 0x200a, 0x2028, 0x2029, 0x202f, 0x205f,
      0x3000], inRanges passedRanges n 20 0 passedRanges.size = false ∧
        inRanges casedRanges n 20 0 casedRanges.size = false := by
    decide +kernel
  apply table
  simp only [isBlank, Bool.or_eq_true, Bool.and_eq_true, decide_eq_true_eq, beq_iff_eq] at blank
  simp only [List.mem_cons, List.not_mem_nil, or_false]
  omega

/-- Nothing that stands behind white space is looked at. -/
theorem meetsCased_append_blank {blanks : List Char} (blank : AreBlank blanks) (some : blanks ≠ [])
    (s more : List Char) : meetsCased (s ++ (blanks ++ more)) = meetsCased s := by
  obtain ⟨c, rest, rfl⟩ := List.exists_cons_of_ne_nil some
  obtain ⟨solid, small⟩ := not_passed_of_isBlank (blank c List.mem_cons_self)
  have stops : (c :: rest ++ more).dropWhile isPassed = c :: rest ++ more :=
    List.dropWhile_cons_of_neg (by simp [solid])
  unfold meetsCased
  rw [List.dropWhile_append, stops]
  cases left : s.dropWhile isPassed with
  | nil => simp [small]
  | cons d more => simp

theorem meetsCased_append_blanks {blanks : List Char} (blank : AreBlank blanks) (s : List Char) :
    meetsCased (s ++ blanks) = meetsCased s := by
  by_cases empty : blanks = []
  · rw [empty, List.append_nil]
  · have same := meetsCased_append_blank blank empty s []
    rwa [List.append_nil] at same

/-- White space around a part makes no difference to the ends of its words. -/
theorem endsWord_append_blanks {lead trail : List Char} (leadBlank : AreBlank lead)
    (trailBlank : AreBlank trail) (front back : List Char) :
    endsWord (front ++ lead) (back ++ trail) = endsWord front back := by
  rw [endsWord, endsWord, meetsCased_append_blanks leadBlank, meetsCased_append_blanks trailBlank]

/-- A part that keeps its ends of words keeps them without the white space at its own ends. -/
theorem KeepsWordEnds.trim {lead trail : List Char} (leadBlank : AreBlank lead)
    (trailBlank : AreBlank trail) (keeps : KeepsWordEnds before (lead ++ (part ++ trail)) after) :
    KeepsWordEnds (before ++ lead) part (trail ++ after) := by
  intro front back split
  have reversed : AreBlank lead.reverse := fun c member => leadBlank c (List.mem_reverse.mp member)
  calc
    endsWord front.reverse back
        = endsWord (front.reverse ++ lead.reverse) (back ++ trail) :=
          (endsWord_append_blanks reversed trailBlank front.reverse back).symm
    _ = endsWord ((lead ++ front).reverse ++ before.reverse) ((back ++ trail) ++ after) := by
          rw [← List.reverse_append]
          apply keeps
          rw [split]
          simp only [List.append_assoc, List.cons_append]
    _ = endsWord (front.reverse ++ (before ++ lead).reverse) (back ++ (trail ++ after)) := by
          simp only [List.reverse_append, List.append_assoc]

/-! ## The size of ASCII letters -/

/-- An ASCII capital and its small letter are alike in all that counts. -/
theorem toLower_facts (c : Char) :
    smallForm c.toLower = smallForm c ∧ isPassed c.toLower = isPassed c ∧
      isCased c.toLower = isCased c ∧ isBlank c.toLower = isBlank c ∧
      (c.toLower = '\u03a3' ↔ c = '\u03a3') := by
  by_cases capital : 65 ≤ c.toNat ∧ c.toNat ≤ 90
  · have table : ∀ n ∈ List.range 26, (fun c : Char =>
        smallForm c.toLower = smallForm c ∧ isPassed c.toLower = isPassed c ∧
          isCased c.toLower = isCased c ∧ isBlank c.toLower = isBlank c ∧
          (c.toLower = '\u03a3' ↔ c = '\u03a3')) (Char.ofNat (65 + n)) := by
      decide +kernel
    have here := table (c.toNat - 65) (List.mem_range.mpr (by omega))
    rwa [show 65 + (c.toNat - 65) = c.toNat by omega, Char.ofNat_toNat] at here
  · have same : c.toLower = c := by
      unfold Char.toLower
      exact dif_neg capital
    simp only [same, true_and]

theorem meetsCased_map_toLower (s : List Char) :
    meetsCased (s.map Char.toLower) = meetsCased s := by
  have passed : isPassed ∘ Char.toLower = isPassed := by
    funext c
    rw [Function.comp_apply, (toLower_facts c).2.1]
  rw [meetsCased, meetsCased, List.dropWhile_map, passed]
  cases s.dropWhile isPassed with
  | nil => rfl
  | cons c rest => exact (toLower_facts c).2.2.1

theorem smallForms_map_toLower (before s : List Char) :
    smallForms (before.map Char.toLower) (s.map Char.toLower) = smallForms before s := by
  induction s generalizing before with
  | nil => rfl
  | cons c rest ih =>
      have tail := ih (c :: before)
      rw [List.map_cons] at tail
      rw [List.map_cons, smallForms, smallForms, tail, meetsCased_map_toLower,
        meetsCased_map_toLower, (toLower_facts c).1]
      simp only [(toLower_facts c).2.2.2.2]

theorem dropWhile_isBlank_map_toLower (s : List Char) :
    (s.map Char.toLower).dropWhile isBlank = (s.dropWhile isBlank).map Char.toLower := by
  have blank : isBlank ∘ Char.toLower = isBlank := funext fun c => (toLower_facts c).2.2.2.1
  rw [List.dropWhile_map, blank]

theorem toList_trim_map_toLower (s : String) :
    (trim (s.map Char.toLower)).toList = (trim s).toList.map Char.toLower := by
  rw [toList_trim, toList_trim, String.toList_map, dropWhile_isBlank_map_toLower]
  simp only [List.rdropWhile, ← List.map_reverse, dropWhile_isBlank_map_toLower]

/-- The small spelling of a text is that of the text with its ASCII capitals made small. -/
theorem lowercase_trim_map_toLower (s : String) :
    lowercase (trim (s.map Char.toLower)) = lowercase (trim s) := by
  rw [lowercase, lowercase, toList_trim_map_toLower]
  exact congrArg String.ofList (smallForms_map_toLower [] _)

end ScriptRoster.Text
