import Mathlib.Data.List.Forall2
import ScriptRoster.Proofs.Name
import ScriptRoster.Proofs.Session.OneScript

/-!
# First spellings

Two spellings are alike if, letter by letter, they are equal or the two sizes of one ASCII letter.
Of a list of names the first spelling of each is kept, and a name that is asked for in whatever
letters of the list is found under that one spelling.
-/

namespace ScriptRoster

namespace Name

/-- An ASCII capital and its small letter. -/
def IsCapitalOf (big small : Char) : Prop :=
  ('A' ≤ big ∧ big ≤ 'Z') ∧ small.toNat = big.toNat + 32

/-- Two characters that are equal, or an ASCII letter in both sizes. -/
def LetterAlike (c d : Char) : Prop := c = d ∨ IsCapitalOf c d ∨ IsCapitalOf d c

/-- Two spellings that have as many characters, alike at each place. -/
def Alike (a b : String) : Prop := List.Forall₂ LetterAlike a.toList b.toList

theorem isCapitalOf_iff (big small : Char) :
    IsCapitalOf big small ↔ (65 ≤ big.toNat ∧ big.toNat ≤ 90) ∧ small.toNat = big.toNat + 32 :=
  Iff.rfl

theorem toNat_toLower (c : Char) :
    c.toLower.toNat = if 65 ≤ c.toNat ∧ c.toNat ≤ 90 then c.toNat + 32 else c.toNat := by
  have range : (c.val ≥ 'A'.val ∧ c.val ≤ 'Z'.val) ↔ 65 ≤ c.toNat ∧ c.toNat ≤ 90 := Iff.rfl
  unfold Char.toLower
  split
  · next capital =>
      have bounds := range.mp capital
      rw [if_pos bounds]
      have size : c.toNat = c.val.toNat := rfl
      change (c.val + ('a'.val - 'A'.val)).toNat = c.val.toNat + 32
      have step : ('a'.val - 'A'.val).toNat = 32 := by decide
      rw [UInt32.toNat_add, step]
      omega
  · next other => rw [if_neg fun bounds => other (range.mpr bounds)]

/-- Characters are alike if they have the same small letter. -/
theorem letterAlike_iff (c d : Char) : LetterAlike c d ↔ c.toLower = d.toLower := by
  have equal (a b : Char) : a = b ↔ a.toNat = b.toNat := Char.toNat_inj.symm
  rw [LetterAlike, isCapitalOf_iff, isCapitalOf_iff, equal c d, equal c.toLower, toNat_toLower,
    toNat_toLower]
  split <;> split <;> omega

/-- Names are compared letter by letter. -/
theorem same_iff (a b : String) : same a b = true ↔ Alike a b := by
  rw [same, beq_iff_eq, fold, fold, ← String.toList_inj, String.toList_map, String.toList_map,
    ← List.forall₂_eq_eq_eq, List.forall₂_map_left_iff, List.forall₂_map_right_iff]
  constructor
  · exact List.Forall₂.imp fun c d => (letterAlike_iff c d).mpr
  · exact List.Forall₂.imp fun c d => (letterAlike_iff c d).mp

instance (a b : String) : Decidable (Alike a b) := decidable_of_iff _ (same_iff a b)

/-- The entries of a list that no earlier entry is alike to, in the order of the list. -/
def firsts (names : List String) : List String :=
  (names.zipIdx.filter fun (entry : String × Nat) =>
    decide (∀ earlier ∈ names.take entry.2, ¬ Alike earlier entry.1)).map Prod.fst

variable {name asked : String} {seen names before rest : List String}

/-! ## What is kept -/

theorem fold_mem_map_fold : fold name ∈ names.map fold ↔ ∃ other ∈ names, Alike other name := by
  simp only [List.mem_map, ← same_iff, same, beq_iff_eq]

/-- The names that were seen stand for the part of the list that was passed. -/
theorem unseen_eq_filter (passed : ∀ folded, folded ∈ seen ↔ folded ∈ before.map fold) :
    unseen seen rest =
      ((rest.zipIdx before.length).filter fun (entry : String × Nat) =>
        decide (∀ earlier ∈ (before ++ rest).take entry.2, ¬ Alike earlier entry.1)).map
          Prod.fst := by
  induction rest generalizing before seen with
  | nil => rfl
  | cons name rest ih =>
      have split : before ++ name :: rest = (before ++ [name]) ++ rest := by simp
      have next : before.length + 1 = (before ++ [name]).length := by simp
      have known : fold name ∈ seen ↔ ∃ other ∈ before, Alike other name :=
        (passed (fold name)).trans fold_mem_map_fold
      rw [unseen, List.zipIdx_cons, List.filter_cons]
      simp only [List.take_left]
      by_cases there : fold name ∈ seen
      · have doubled : ¬ ∀ earlier ∈ before, ¬ Alike earlier name := by
          simpa using known.mp there
        rw [if_pos there, if_neg (by simpa using doubled), split, next]
        apply ih
        intro folded
        rw [passed, List.map_append, List.mem_append]
        refine ⟨.inl, ?_⟩
        rintro (earlier | last)
        · exact earlier
        · rw [List.mem_singleton.mp last]
          exact (passed _).mp there
      · have fresh : ∀ earlier ∈ before, ¬ Alike earlier name := by
          intro earlier member alike
          exact there (known.mpr ⟨earlier, member, alike⟩)
        rw [if_neg there, if_pos (by simpa using fresh), split, next, List.map_cons]
        congr 1
        apply ih
        intro folded
        rw [List.mem_cons, passed, List.map_append, List.mem_append]
        simp [or_comm]

theorem dedup_eq_firsts (names : List String) : dedup names = firsts names :=
  @unseen_eq_filter [] [] names fun _ => Iff.rfl

theorem unseen_sublist (seen names : List String) : (unseen seen names).Sublist names := by
  induction names generalizing seen with
  | nil => exact .slnil
  | cons name rest ih =>
      rw [unseen]
      split
      · exact (ih seen).cons name
      · exact (ih _).cons_cons name

/-- What was kept of the first part is what counts as seen in the second. -/
theorem unseen_append (seen a b : List String) :
    unseen seen (a ++ b) =
      unseen seen a ++ unseen ((unseen seen a).reverse.map fold ++ seen) b := by
  induction a generalizing seen with
  | nil => rfl
  | cons name rest ih =>
      rw [List.cons_append, unseen, unseen]
      split
      · exact ih seen
      · rw [ih]
        simp

theorem unseen_eq_self (fresh : ∀ name ∈ names, fold name ∉ seen)
    (apart : names.Pairwise fun a b => same a b = false) : unseen seen names = names := by
  induction names generalizing seen with
  | nil => rfl
  | cons name rest ih =>
      obtain ⟨others, apart⟩ := List.pairwise_cons.mp apart
      rw [unseen, if_neg (fresh name List.mem_cons_self)]
      congr 1
      refine ih ?_ apart
      intro other member known
      rcases List.mem_cons.mp known with equal | known
      · have differs := others other member
        rw [same, beq_eq_false_iff_ne] at differs
        exact differs equal.symm
      · exact fresh other (List.mem_cons_of_mem name member) known

theorem dedup_dedup (names : List String) : dedup (dedup names) = dedup names :=
  unseen_eq_self (fun _ _ => List.not_mem_nil) (pairwise_dedup names)

/-- A list may be cleared of doubles before more names are added to it. -/
theorem dedup_append (a b : List String) : dedup (a ++ b) = dedup (dedup a ++ b) := by
  have kept : unseen [] (dedup a) = unseen [] a := dedup_dedup a
  calc
    dedup (a ++ b) = unseen [] a ++ unseen ((unseen [] a).reverse.map fold ++ []) b :=
      unseen_append [] a b
    _ = unseen [] (dedup a) ++ unseen ((unseen [] (dedup a)).reverse.map fold ++ []) b := by
      rw [kept]
    _ = dedup (dedup a ++ b) := (unseen_append [] (dedup a) b).symm

/-! ## What is found -/

/-- Of the spellings of one name the first is kept and no other. -/
theorem filter_unseen (seen names : List String) (asked : String) :
    (unseen seen names).filter (same · asked) =
      if fold asked ∈ seen then [] else (names.find? (same · asked)).toList := by
  induction names generalizing seen with
  | nil => simp [unseen]
  | cons name rest ih =>
      have alike : same name asked = decide (fold name = fold asked) := rfl
      rw [unseen]
      by_cases equal : fold name = fold asked
      · rw [List.find?_cons_of_pos (by simp [alike, equal]), equal]
        by_cases known : fold asked ∈ seen
        · simp only [known, if_true, ih]
        · rw [if_neg known, List.filter_cons_of_pos (by simp [alike, equal]), ih,
            if_pos List.mem_cons_self, if_neg known]
          rfl
      · rw [List.find?_cons_of_neg (by simp [alike, equal])]
        by_cases known : fold name ∈ seen
        · rw [if_pos known, ih]
        · rw [if_neg known, List.filter_cons_of_neg (by simp [alike, equal]), ih]
          simp only [List.mem_cons, Ne.symm equal, false_or]

/-- A name that a list holds has a first spelling there, and it is the one that is found in the
list without doubles. -/
theorem filter_dedup {entry : String} (member : entry ∈ names) (alike : Alike asked entry) :
    ∃ before first after, names = before ++ first :: after ∧ Alike first entry ∧
      (∀ other ∈ before, ¬ Alike other entry) ∧
      (dedup names).filter (same · asked) = [first] := by
  have equal : fold asked = fold entry := by simpa [same] using (same_iff asked entry).mpr alike
  have turn (other : String) : same other asked = same other entry := by rw [same, same, equal]
  cases found : names.find? (same · asked) with
  | none =>
      have none := List.find?_eq_none.mp found entry member
      rw [turn] at none
      exact absurd (by simp [same]) none
  | some first =>
      obtain ⟨holds, before, after, split, others⟩ := List.find?_eq_some_iff_append.mp found
      refine ⟨before, first, after, split, ?_, ?_, ?_⟩
      · rw [← same_iff, ← turn]
        exact holds
      · intro other earlier like
        have differs := others other earlier
        rw [turn, (same_iff other entry).mpr like] at differs
        cases differs
      · have kept := filter_unseen [] names asked
        rw [if_neg List.not_mem_nil, found] at kept
        exact kept

end Name

open Name

/-- Of a list of names exactly the entries are kept that no earlier entry is alike to, in their
order. Clearing a list again changes nothing, nor does clearing its first part before the whole. And
whoever asks for an entry, in letters of whatever size, finds one name, the first spelling of that
entry, which is the one that is called. -/
theorem first_spelling_found :
    (∀ names, dedup names = firsts names ∧ (dedup names).Sublist names ∧
      dedup (dedup names) = dedup names) ∧
    (∀ a b, dedup (a ++ b) = dedup (dedup a ++ b)) ∧
    ∀ names, ∀ entry ∈ names, ∀ asked, Alike asked entry →
      ∃ before first after, names = before ++ first :: after ∧ Alike first entry ∧
        (∀ other ∈ before, ¬ Alike other entry) ∧
        (dedup names).filter (Alike · asked) = [first] ∧
        ∀ scene : Scene, scene.session.names = dedup names →
          scene.session.listed? asked = some first ∧
          ∀ location, scene.session.location? = some location →
            (scene.startRun asked).2 = .spawn location.resolved first := by
  refine ⟨fun names => ⟨dedup_eq_firsts names, unseen_sublist [] names, dedup_dedup names⟩,
    dedup_append, ?_⟩
  intro names entry member asked alike
  obtain ⟨before, first, after, split, like, others, found⟩ := filter_dedup member alike
  refine ⟨before, first, after, split, like, others, ?_, ?_⟩
  · rw [← found]
    congr 1
    funext other
    exact Bool.eq_iff_iff.mpr (by rw [decide_eq_true_iff, same_iff])
  · intro scene names
    have listed : scene.session.listed? asked = some first := by
      rw [Session.listed?, names, ← List.head?_filter, found]
      rfl
    refine ⟨listed, ?_⟩
    intro location ready
    simp only [Scene.startRun, ready, listed]

/-- A session that lists names, each once, as the functions of a script. -/
def Scene.listing (names : List String) : Scene where
  session :=
    { Session.start (.ofSettings .defaults) with
      path := .ready ⟨"/s", onlyScript⟩
      load := .loaded
      names := dedup names }
  world := .bare .withoutScript

/-- A list with three spellings of one name, the second of which is asked for in capitals. -/
theorem first_spelling_found_thrice :
    "build" ∈ ["Deploy", "Build", "build", "BUILD"] ∧ Alike "BUILD" "build" ∧
      ∃ first, (dedup ["Deploy", "Build", "build", "BUILD"]).filter (Alike · "BUILD") = [first] ∧
        Alike first "build" ∧
        ((Scene.listing ["Deploy", "Build", "build", "BUILD"]).startRun "BUILD").2 =
          .spawn onlyScript first := by
  have member : "build" ∈ ["Deploy", "Build", "build", "BUILD"] := by simp
  have alike : Alike "BUILD" "build" := by simp [Alike, letterAlike_iff]
  obtain ⟨before, first, after, split, like, others, found, lookup⟩ :=
    first_spelling_found.2.2 ["Deploy", "Build", "build", "BUILD"] "build" member "BUILD" alike
  obtain ⟨listed, starts⟩ := lookup (.listing ["Deploy", "Build", "build", "BUILD"]) rfl
  exact ⟨member, alike, first, found, like, starts ⟨"/s", onlyScript⟩ rfl⟩

end ScriptRoster
