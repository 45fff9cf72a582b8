import Mathlib.Data.List.Basic
import ScriptRoster.Extraction
import ScriptRoster.Proofs.Invocation.Command
import ScriptRoster.Proofs.Script.Listing

/-!
# What is listed and what can be called

An extraction that succeeds gives the names of one of its sources. The names of both default sources
differ from each other by more than the case of ASCII letters. All names that are found by structure
can be called. Of the names that are found by text those cannot that are spelled with the long s or
the kelvin sign, and no others.
-/

namespace ScriptRoster

open Script

variable {sources : List Source} {preference : Preference} {content : String} {found : Extracted}

namespace Extraction

/-- The names that are found are those of a source that was tried. -/
theorem exists_source_of_tryEach {failures : List (Strategy × SourceError)}
    (ok : (tryEach preference content failures sources).outcome = .ok found) :
    ∃ source ∈ sources, source.extract content = .ok found.names ∧
      source.strategy = found.strategy := by
  induction sources generalizing failures with
  | nil =>
      rw [tryEach] at ok
      cases ok
  | cons source rest ih =>
      rw [tryEach] at ok
      split at ok
      · next names extracted =>
          cases ok
          exact ⟨source, List.mem_cons_self, extracted, rfl⟩
      · obtain ⟨later, member, extracted, strategy⟩ := ih ok
        exact ⟨later, List.mem_cons_of_mem source member, extracted, strategy⟩

/-- The names that are found are those of a source that the preference allows. -/
theorem exists_source (ok : (ofText sources preference content).outcome = .ok found) :
    ∃ source ∈ sources, preference.allows source.strategy = true ∧
      source.extract content = .ok found.names ∧ source.strategy = found.strategy := by
  obtain ⟨source, member, extracted, strategy⟩ := exists_source_of_tryEach ok
  obtain ⟨member, allowed⟩ := List.mem_filter.mp member
  exact ⟨source, member, allowed, extracted, strategy⟩

end Extraction

/-! ## The default sources -/

variable {name : String} {names : List String}

theorem Script.Tree.isPlain_of_runnableName? {definition : Tree}
    (runnable : definition.runnableName? = some name) : Name.isPlain name = true := by
  obtain ⟨verdict, given, verdictOk⟩ := Option.bind_eq_some_iff.mp runnable
  obtain ⟨named, -, rfl⟩ := Option.map_eq_some_iff.mp given
  split at verdictOk
  · cases verdictOk
  split at verdictOk
  · cases verdictOk
  split at verdictOk
  · cases verdictOk
  split at verdictOk
  · next plain =>
      cases verdictOk
      exact plain
  · cases verdictOk

theorem Script.definedNames_eq_ok (defined : definedNames content = .ok names) :
    (∀ name ∈ names, Name.isPlain name = true) ∧
      names.Pairwise fun a b => Name.same a b = false := by
  unfold definedNames at defined
  dsimp only at defined
  split at defined
  · cases defined
  · cases defined
    refine ⟨?_, Name.pairwise_dedup _⟩
    intro name member
    obtain ⟨definition, -, runnable⟩ := List.mem_filterMap.mp (Name.mem_of_mem_dedup member)
    exact Tree.isPlain_of_runnableName? runnable

theorem Source.structural_eq_ok (ok : Source.structural.extract content = .ok names) :
    definedNames content = .ok names := by
  simp only [Source.structural] at ok
  split at ok
  · next defined =>
      cases ok
      exact defined
  · cases ok

/-- With the default sources the names are found by structure or by text. -/
theorem Extraction.default_cases
    (ok : (ofText Source.defaults preference content).outcome = .ok found) :
    (found.strategy = .structural ∧ definedNames content = .ok found.names) ∨
      (found.strategy = .textual ∧ found.names = Listing.names content) := by
  obtain ⟨source, member, -, extracted, strategy⟩ := exists_source ok
  rw [Source.defaults, List.mem_cons, List.mem_singleton] at member
  rcases member with rfl | rfl
  · exact .inl ⟨strategy.symm, Source.structural_eq_ok extracted⟩
  · exact .inr ⟨strategy.symm, (Except.ok.inj extracted).symm⟩

/-- A name that a default source has found is plain unless it is spelled with one of the two letters
outside of ASCII. -/
theorem Extraction.isPlain_iff
    (ok : (ofText Source.defaults preference content).outcome = .ok found)
    (member : name ∈ found.names) :
    Name.isPlain name = true ↔ Listing.IsOrdinary name.toList := by
  constructor
  · exact Listing.isOrdinary_of_isPlain
  · intro ordinary
    rcases default_cases ok with ⟨-, defined⟩ | ⟨-, listed⟩
    · exact (definedNames_eq_ok defined).1 name member
    · rw [listed] at member
      exact Listing.isPlain_of_isSpelled (Listing.spelled_of_mem_names member).1 ordinary

/-- A command can be composed for every path that is text if and only if the name is plain. -/
theorem Invocation.exists_command_iff (path name : String) :
    (∃ composed, command (.ofString path) name = .ok composed) ↔ Name.isPlain name = true := by
  rw [command_ofString]
  by_cases plain : Name.isPlain name = true
  · rw [if_pos plain]
    exact ⟨fun _ => plain, fun _ => ⟨_, rfl⟩⟩
  · rw [if_neg plain]
    exact ⟨nofun, fun same => absurd same plain⟩

/-- No two names that are listed are the same. A name that is listed is plain, and can be called from
every path, if and only if it is spelled without the long s and the kelvin sign. So all names can be
called that are found by structure, or in a text without these letters. -/
theorem listed_names_callable (preference : Preference) (content : String) {found : Extracted}
    (ok : (Extraction.ofText Source.defaults preference content).outcome = .ok found) :
    found.names.Pairwise (fun a b => Name.same a b = false) ∧
      (∀ name ∈ found.names,
        (Name.isPlain name = true ↔ Listing.IsOrdinary name.toList) ∧
          ∀ path, (∃ composed, Invocation.command (.ofString path) name = .ok composed) ↔
            Listing.IsOrdinary name.toList) ∧
      (found.strategy = .structural ∨ Listing.IsOrdinary content.toList →
        ∀ name ∈ found.names, Name.isPlain name = true) := by
  refine ⟨?_, ?_, ?_⟩
  · rcases Extraction.default_cases ok with ⟨-, defined⟩ | ⟨-, listed⟩
    · exact (definedNames_eq_ok defined).2
    · rw [listed]
      exact Name.pairwise_dedup _
  · intro name member
    have plain := Extraction.isPlain_iff ok member
    refine ⟨plain, fun path => ?_⟩
    rw [Invocation.exists_command_iff, plain]
  · intro harmless name member
    rcases Extraction.default_cases ok with ⟨-, defined⟩ | ⟨textual, listed⟩
    · exact (definedNames_eq_ok defined).1 name member
    · apply (Extraction.isPlain_iff ok member).mpr
      rw [textual] at harmless
      have ordinary := harmless.resolve_left nofun
      rw [listed] at member
      have inside := (Listing.spelled_of_mem_names member).2
      exact ⟨fun odd => ordinary.1 (inside odd), fun odd => ordinary.2 (inside odd)⟩

/-- A script with a name that is spelled with a long s. -/
def twoSpellings : String := "function A \x7b\x7d\nfunction \u017fet \x7b\x7d"

theorem Extraction.outcome_twoSpellings :
    (ofText Source.defaults .textual twoSpellings).outcome = .ok ⟨["A", "\u017fet"], .textual⟩ := by
  decide +kernel

/-- A name with a long s is listed beside another one, and is the one that cannot be called. -/
theorem listed_names_callable_long_s :
    ∃ found,
      (Extraction.ofText Source.defaults .textual twoSpellings).outcome = .ok found ∧
        found.names = ["A", "\u017fet"] ∧
        (∃ composed, Invocation.command (.ofString "/s") "A" = .ok composed) ∧
        ¬ ∃ composed, Invocation.command (.ofString "/s") "\u017fet" = .ok composed := by
  have ok := Extraction.outcome_twoSpellings
  obtain ⟨-, callable, -⟩ := listed_names_callable _ _ ok
  refine ⟨_, ok, rfl, ?_, ?_⟩
  · rw [(callable "A" (by decide)).2]
    decide +kernel
  · rw [(callable "\u017fet" (by decide)).2]
    decide +kernel

/-- A name that is listed need not be plain. -/
theorem listed_names_not_all_plain :
    ¬ ∀ (preference : Preference) (content : String) (found : Extracted),
      (Extraction.ofText Source.defaults preference content).outcome = .ok found →
        (∀ name ∈ found.names, Name.isPlain name = true) ∧
          found.names.Pairwise fun a b => Name.same a b = false := by
  intro claim
  obtain ⟨plain, -⟩ := claim _ _ _ Extraction.outcome_twoSpellings
  have odd := plain "\u017fet" (by decide)
  revert odd
  decide +kernel

end ScriptRoster
