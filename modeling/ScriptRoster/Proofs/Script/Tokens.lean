import Mathlib.Data.List.Basic
import ScriptRoster.Script.Grammar.Basic

/-!
# Tokens behind blanks

Behind blanks, where something solid stands, all kinds of tokens are sought from the same character
on. What comes next there is the token that is taken among those that scan from it.
-/

namespace ScriptRoster.Script

open Lexeme

namespace Lexeme

/-- Whether a character begins nothing that may stand between tokens. -/
def isSolid (c : Char) : Bool :=
  !(isBlank c || isMark c || c == '\x60' || c == '#' || c == '<')

/-- Whether something solid stands in a text behind blanks. -/
structure Stands (s : Text) (c : Char) (rest : Text) : Prop where
  solid : isSolid c = true
  skips : ∀ mark join, skipUpTo false mark join s = c :: rest

variable {s rest : Text} {c : Char}

/-- Where no lines are joined, blanks and marks are passed over one by one. -/
theorem skipUpTo_cons (unjoined : c ≠ '\x60') (mark join : Bool) (rest : Text) :
    skipUpTo false mark join (c :: rest) =
      if isBlank c || isMark c && !mark then skipUpTo false mark join rest else c :: rest := by
  conv_lhs => unfold skipUpTo
  split
  · next same => exact absurd (List.cons.inj same).1 unjoined
  · next same => exact absurd (List.cons.inj same).1 unjoined
  · next d other _ _ same =>
      obtain ⟨rfl, rfl⟩ := List.cons.inj same
      simp
  · next same => cases same

theorem skipUpTo_of_solid (solid : isSolid c = true) (mark join : Bool) (rest : Text) :
    skipUpTo false mark join (c :: rest) = c :: rest := by
  simp only [isSolid, Bool.not_eq_true', Bool.or_eq_false_iff, beq_eq_false_iff_ne] at solid
  obtain ⟨⟨⟨⟨blank, unmarked⟩, unjoined⟩, -⟩, -⟩ := solid
  rw [skipUpTo_cons unjoined, if_neg (by simp [blank, unmarked])]

theorem skipUpTo_blank (blank : isBlank c = true) (mark join : Bool) (rest : Text) :
    skipUpTo false mark join (c :: rest) = skipUpTo false mark join rest := by
  have unjoined : c ≠ '\x60' := by
    rintro rfl
    revert blank
    decide
  rw [skipUpTo_cons unjoined, if_pos (by simp [blank])]

theorem Stands.here (solid : isSolid c = true) (rest : Text) : Stands (c :: rest) c rest :=
  ⟨solid, fun mark join => skipUpTo_of_solid solid mark join rest⟩

theorem Stands.behind {d : Char} (blank : isBlank d = true) (stands : Stands s c rest) :
    Stands (d :: s) c rest :=
  ⟨stands.solid, fun mark join => (skipUpTo_blank blank mark join s).trans (stands.skips mark join)⟩

theorem Stands.append {front : Text} (blank : ∀ d ∈ front, isBlank d = true)
    (stands : Stands s c rest) : Stands (front ++ s) c rest := by
  induction front with
  | nil => exact stands
  | cons d front ih =>
      exact (ih fun other member => blank other (List.mem_cons_of_mem d member)).behind
        (blank d List.mem_cons_self)

theorem comment?_of_solid (solid : isSolid c = true) (rest : Text) :
    comment? (c :: rest) = none := by
  simp only [isSolid, Bool.not_eq_true', Bool.or_eq_false_iff, beq_eq_false_iff_ne] at solid
  unfold comment?
  split
  · next same => exact absurd (List.cons.inj same).1 solid.1.2
  · next same => exact absurd (List.cons.inj same).1 solid.2
  · rfl

theorem length_headed?_lt {isHead isTail : Char → Bool}
    (read : headed? isHead isTail s = some rest) : rest.length < s.length := by
  cases s with
  | nil => cases read
  | cons c s =>
      rw [headed?] at read
      split at read
      · cases read
        exact Nat.lt_succ_of_le (List.dropWhile_suffix _).length_le
      · cases read

end Lexeme

/-! ## The token that is taken -/

namespace Found

variable {found : List Found} {taken : Found}

theorem mem_of_first? (first : first? found = some taken) : taken ∈ found := by
  induction found generalizing taken with
  | nil => cases first
  | cons one others ih =>
      rw [first?] at first
      split at first
      · next other rest =>
          split at first
          · cases first
            exact List.mem_cons_of_mem _ (ih rest)
          · cases first
            exact List.mem_cons_self
      · cases first
        exact List.mem_cons_self

end Found

/-- The tokens of some kinds that stand at the beginning of a text. -/
def scanned (tokens : List Token) (start : Text) : List Found :=
  tokens.filterMap fun token => (token.scan start).map (Found.mk token start)

variable {tokens : List Token} {s rest : Text} {c : Char} {found : Found}

theorem mem_scanned {start : Text} : found ∈ scanned tokens start ↔
    found.token ∈ tokens ∧ found.start = start ∧ found.token.scan start = some found.rest := by
  simp only [scanned, List.mem_filterMap, Option.map_eq_some_iff]
  constructor
  · rintro ⟨token, member, rest, scanned, rfl⟩
    exact ⟨member, rfl, scanned⟩
  · rintro ⟨member, rfl, scanned⟩
    exact ⟨_, member, _, scanned, rfl⟩

/-- Whether tokens of a kind may have blanks in front of them and do not begin with one. -/
def Token.isFree (token : Token) : Bool := !token.isAttached && token != .sign ' '

/-- What may consist of what is passed over is a word with a first character. -/
theorem Token.length_lt_of_holdsGaps {token : Token} (unattached : token.isAttached = false)
    (gaps : token.holdsGaps = true) (scanned : token.scan s = some rest) :
    rest.length < s.length := by
  cases token with
  | commandWord | bareWord | bareArgument => exact length_headed?_lt scanned
  | commandTail => cases unattached
  | _ => cases gaps

/-- Behind blanks, the token is taken that is taken among those that stand there. -/
theorem nearest?_eq (stands : Stands s c rest) (free : tokens.all Token.isFree = true) :
    nearest? tokens s = Found.first? (scanned tokens (c :: rest)) := by
  have free : ∀ token ∈ tokens, token.isAttached = false ∧ token ≠ .sign ' ' := by
    intro token member
    have both := List.all_eq_true.mp free token member
    simpa [Token.isFree] using both
  have spaceless : tokens.contains (.sign ' ') = false := by
    rw [Bool.eq_false_iff, ne_eq, List.contains_iff_mem]
    exact fun member => (free _ member).2 rfl
  have unbroken : tokens.contains (.attached "\n") = false := by
    rw [Bool.eq_false_iff, ne_eq, List.contains_iff_mem]
    exact fun member => nomatch (free _ member).1
  have solid : c ≠ ' ' := by
    rintro rfl
    exact absurd stands.solid (by decide)
  have listed : tokens.filterMap (fun token => (token.scan (if token.isAttached then s
      else if token.takesMarks then c :: rest else c :: rest)).map fun rest' =>
        Found.mk token (if token.isAttached then s else if token.takesMarks then
          c :: rest else c :: rest) rest') = scanned tokens (c :: rest) := by
    refine List.filterMap_congr fun token member => ?_
    simp only [(free token member).1, Bool.false_eq_true, if_false, ite_self]
  simp only [nearest?, spaceless, unbroken, skip, stands.skips, listed, Bool.and_false,
    Bool.false_eq_true, if_false]
  split
  · next held first =>
      -- a word that may hold gaps begins with the solid character, as all that is scanned
      obtain ⟨member, gaps⟩ := List.mem_filter.mp (Found.mem_of_first? first)
      obtain ⟨among, start, read⟩ := mem_scanned.mp member
      have shorter := Token.length_lt_of_holdsGaps (free _ among).1 gaps read
      rw [decide_eq_false (Nat.not_le.mpr shorter), if_neg (Nat.ne_of_gt shorter)]
      simp only [Bool.false_and, Bool.false_eq_true, if_false, Option.map_none,
        Option.toList_none, List.nil_append, start]
      cases taken : Found.first? (scanned tokens (c :: rest)) with
      | none => rfl
      | some other =>
          obtain ⟨-, begins, -⟩ := mem_scanned.mp (Found.mem_of_first? taken)
          rw [Option.map_some, ← begins]
  · next same => exact absurd (List.cons.inj same).1 solid
  · rfl

/-- What comes next behind blanks is the token that is taken among those that stand there. -/
theorem next?_eq (stands : Stands s c rest) (free : tokens.all Token.isFree = true) :
    Fitting.next? ⟨false, tokens⟩ s = Found.first? (scanned tokens (c :: rest)) := by
  have none : Token.comment.scan (c :: rest) = none := comment?_of_solid stands.solid rest
  have listed : scanned (.comment :: tokens) (c :: rest) = scanned tokens (c :: rest) := by
    simp only [scanned, List.filterMap_cons, none, Option.map_none]
  have nearest : nearest? (.comment :: tokens) s = Found.first? (scanned tokens (c :: rest)) := by
    rw [← listed]
    exact nearest?_eq stands (by rw [List.all_cons, free]; rfl)
  simp only [Fitting.next?, Fitting.nextWithin, nearest, Bool.false_and, Bool.false_eq_true,
    if_false]
  split
  · next taken first =>
      rw [first, if_neg]
      intro comment
      have read := (mem_scanned.mp (Found.mem_of_first? first)).2
      rw [comment, none] at read
      exact nomatch read.2
  · next first => exact first.symm

/-! ## Signs -/

theorem first?_signs (signs : List Char) (c : Char) (rest : Text) :
    Found.first? (scanned (signs.map Token.sign) (c :: rest)) =
      if c ∈ signs then some ⟨.sign c, c :: rest, rest⟩ else none := by
  induction signs with
  | nil => rfl
  | cons d signs ih =>
      have read : (Token.sign d).scan (c :: rest) = if d == c then some rest else none := rfl
      simp only [scanned, List.map_cons, List.filterMap_cons, read] at ih ⊢
      by_cases same : d = c
      · subst same
        simp only [beq_self_eq_true, if_true, Option.map_some, Found.first?, ih,
          List.mem_cons_self]
        by_cases again : d ∈ signs
        · simp only [again, if_true, ite_self]
        · simp only [again, if_false]
      · simp only [beq_false_of_ne same, Bool.false_eq_true, if_false, Option.map_none, ih,
          List.mem_cons, Ne.symm same, false_or]

/-- Of some signs, the one comes next that stands behind blanks. -/
theorem next?_upTo (signs : List Char) (visible : ' ' ∉ signs) (stands : Stands s c rest) :
    (Fitting.upTo signs).next? s = if c ∈ signs then some ⟨.sign c, c :: rest, rest⟩ else none := by
  rw [← first?_signs]
  refine next?_eq stands (List.all_eq_true.mpr fun token member => ?_)
  obtain ⟨d, among, rfl⟩ := List.mem_map.mp member
  have other : d ≠ ' ' := fun same => visible (same ▸ among)
  simp [Token.isFree, Token.isAttached, other]

theorem one_sign (signs : List Char) (visible : ' ' ∉ signs) (among : c ∈ signs)
    (stands : Stands s c rest) :
    one (signs.map Token.sign) s = .ok ⟨.sign c, c :: rest, rest⟩ := by
  have next := next?_upTo signs visible stands
  rw [if_pos among] at next
  rw [Fitting.upTo] at next
  rw [one, next]

theorem sign_eq (stands : Stands s c rest) : sign c s = .ok rest := by
  have visible : ' ' ∉ [c] := by
    intro member
    obtain rfl := List.mem_singleton.mp member
    exact absurd stands.solid (by decide)
  have read := one_sign [c] visible List.mem_cons_self stands
  rw [List.map_singleton] at read
  rw [sign, read]
  rfl

theorem closing_eq (stands : Stands s c rest) : closing c s = .ok rest := by
  rw [closing, sign_eq stands]
  rfl

end ScriptRoster.Script
