import ScriptRoster.Proofs.Extraction

/-!
# Falling back

The sources that a preference allows are called one after another until one succeeds, and none
behind that one. A source that fails adds its message to those of the sources before it, and the
messages come out only if all of them fail. Main statement: an extraction gives the names of the
first allowed source that succeeds, and otherwise the messages of all allowed sources.
-/

namespace ScriptRoster

variable {preference : Preference} {content : String} {source : Source}
  {sources before rest : List Source} {names : List String}

/-- The sources that a preference lets be tried, in order. -/
def Preference.allowed (preference : Preference) (sources : List Source) : List Source :=
  sources.filter fun source => preference.allows source.strategy

/-- All sources fail on a text, each with an error of its own. -/
def AllFail (content : String) (sources : List Source) (errors : List SourceError) : Prop :=
  sources.map (·.extract content) = errors.map Except.error

/-- The failures of sources, in order. -/
def failuresOf (sources : List Source) (errors : List SourceError) :
    List (Strategy × SourceError) :=
  (sources.map Source.strategy).zip errors

/-- The text of failures has, for each source, its strategy and its message. -/
theorem failuresText_failuresOf (sources : List Source) (errors : List SourceError) :
    failuresText (failuresOf sources errors) =
      "; ".intercalate
        (sources.zipWith (fun source error => source.strategy.name ++ ": " ++ error.message)
          errors) := by
  rw [failuresText, failuresOf, List.map_zip_eq_zipWith, List.zipWith_map_left]
  rfl

theorem message_exhausted (sources : List Source) (errors : List SourceError) :
    (ExtractionError.exhausted (failuresOf sources errors)).message =
      "Could not extract function names (" ++
        "; ".intercalate
          (sources.zipWith (fun source error => source.strategy.name ++ ": " ++ error.message)
            errors) ++ ")" := by
  rw [← failuresText_failuresOf]
  rfl

namespace AllFail

theorem nil : AllFail content [] [] := rfl

theorem cons {error : SourceError} {errors : List SourceError}
    (failed : source.extract content = .error error) (others : AllFail content sources errors) :
    AllFail content (source :: sources) (error :: errors) :=
  congrArg₂ List.cons failed others

theorem exists_error {errors : List SourceError} (failed : AllFail content sources errors)
    (member : source ∈ sources) : ∃ error, source.extract content = .error error := by
  have answer : source.extract content ∈ sources.map (·.extract content) :=
    List.mem_map_of_mem member
  rw [failed] at answer
  obtain ⟨error, -, same⟩ := List.mem_map.mp answer
  exact ⟨error, same.symm⟩

theorem isEmpty_failuresOf {errors : List SourceError} (failed : AllFail content sources errors)
    (some : sources ≠ []) : (failuresOf sources errors).isEmpty = false := by
  cases sources with
  | nil => exact absurd rfl some
  | cons source sources =>
      cases errors with
      | nil => exact absurd failed (List.cons_ne_nil _ _)
      | cons error errors => rfl

end AllFail

/-- Either one of the sources succeeds, and those before it fail, or all of them fail. -/
theorem splits_or_allFail (content : String) (sources : List Source) :
    (∃ before source rest errors names, sources = before ++ source :: rest ∧
        AllFail content before errors ∧ source.extract content = .ok names) ∨
      ∃ errors, AllFail content sources errors := by
  induction sources with
  | nil => exact .inr ⟨[], .nil⟩
  | cons source sources ih =>
      cases extracted : source.extract content with
      | ok names => exact .inl ⟨[], source, sources, [], names, rfl, .nil, extracted⟩
      | error error =>
          rcases ih with ⟨before, first, rest, errors, names, rfl, failed, found⟩ | ⟨errors, failed⟩
          · exact .inl ⟨source :: before, first, rest, error :: errors, names, rfl,
              .cons extracted failed, found⟩
          · exact .inr ⟨error :: errors, .cons extracted failed⟩

theorem exists_allFail
    (failed : ∀ source ∈ sources, ∃ error, source.extract content = .error error) :
    ∃ errors, AllFail content sources errors := by
  refine (splits_or_allFail content sources).resolve_left ?_
  rintro ⟨before, source, rest, errors, names, rfl, -, found⟩
  obtain ⟨error, broken⟩ := failed source (List.mem_append_right before List.mem_cons_self)
  rw [found] at broken
  cases broken

namespace Extraction

/-- An extraction calls sources in vain before it goes on as another one. -/
structure GoesOn (vain : List Source) (extraction next : Extraction) : Prop where
  outcome : extraction.outcome = next.outcome
  called : extraction.called = vain ++ next.called

theorem GoesOn.trans {vain more : List Source} {extraction next last : Extraction}
    (first : GoesOn vain extraction next) (second : GoesOn more next last) :
    GoesOn (vain ++ more) extraction last where
  outcome := first.outcome.trans second.outcome
  called := by rw [first.called, second.called, List.append_assoc]

theorem ofText_eq (sources : List Source) (preference : Preference) (content : String) :
    ofText sources preference content =
      tryEach preference content [] (preference.allowed sources) := rfl

/-- The first source that succeeds ends the search with its names. -/
theorem tryEach_of_ok (preference : Preference) (failures : List (Strategy × SourceError))
    (rest : List Source) (found : source.extract content = .ok names) :
    (tryEach preference content failures (source :: rest)).outcome = .ok ⟨names, source.strategy⟩ ∧
      (tryEach preference content failures (source :: rest)).called = [source] := by
  rw [tryEach, found]
  exact ⟨rfl, rfl⟩

/-- After a source that fails the search goes on, with one failure more. -/
theorem goesOn_cons (preference : Preference) (failures : List (Strategy × SourceError))
    (rest : List Source) {error : SourceError} (failed : source.extract content = .error error) :
    GoesOn [source] (tryEach preference content failures (source :: rest))
      (tryEach preference content (failures ++ [(source.strategy, error)]) rest) := by
  rw [tryEach, failed]
  exact ⟨rfl, rfl⟩

/-- Sources that all fail are called, each once, and their failures join those before them. -/
theorem goesOn_append (preference : Preference) (failures : List (Strategy × SourceError))
    (rest : List Source) {errors : List SourceError} (failed : AllFail content before errors) :
    GoesOn before (tryEach preference content failures (before ++ rest))
      (tryEach preference content (failures ++ failuresOf before errors) rest) := by
  induction before generalizing failures errors with
  | nil =>
      rw [failuresOf, List.map_nil, List.zip_nil_left, List.append_nil]
      exact ⟨rfl, rfl⟩
  | cons source before ih =>
      cases errors with
      | nil => exact absurd failed (List.cons_ne_nil _ _)
      | cons error errors =>
          obtain ⟨first, others⟩ := List.cons.inj failed
          have later := ih (failures ++ [(source.strategy, error)]) others
          rw [List.append_assoc] at later
          exact (goesOn_cons preference failures (before ++ rest) first).trans later

/-- The first allowed source that succeeds gives its names, and no source behind it is called. -/
theorem ofText_of_ok {errors : List SourceError}
    (split : preference.allowed sources = before ++ source :: rest)
    (failed : AllFail content before errors) (found : source.extract content = .ok names) :
    (ofText sources preference content).outcome = .ok ⟨names, source.strategy⟩ ∧
      (ofText sources preference content).called = before ++ [source] := by
  rw [ofText_eq, split]
  have goesOn := goesOn_append preference [] (source :: rest) failed
  have last := tryEach_of_ok preference ([] ++ failuresOf before errors) rest found
  exact ⟨goesOn.outcome.trans last.1, goesOn.called.trans (congrArg (before ++ ·) last.2)⟩

/-- Without an allowed source nothing is called. -/
theorem ofText_of_none (none : preference.allowed sources = []) :
    (ofText sources preference content).outcome = .error (.noStrategy preference) ∧
      (ofText sources preference content).called = [] := by
  rw [ofText_eq, none]
  exact ⟨rfl, rfl⟩

/-- If all allowed sources fail, all of them are called and their failures are what comes out. -/
theorem ofText_of_allFail {errors : List SourceError} (some : preference.allowed sources ≠ [])
    (failed : AllFail content (preference.allowed sources) errors) :
    (ofText sources preference content).outcome =
        .error (.exhausted (failuresOf (preference.allowed sources) errors)) ∧
      (ofText sources preference content).called = preference.allowed sources := by
  have goesOn := goesOn_append preference [] [] failed
  rw [List.append_nil, List.nil_append] at goesOn
  refine ⟨goesOn.outcome.trans ?_, goesOn.called.trans (List.append_nil _)⟩
  rw [tryEach, failed.isEmpty_failuresOf some]
  rfl

/-- An extraction succeeds if and only if an allowed source does. -/
theorem exists_ok_iff :
    (∃ found, (ofText sources preference content).outcome = .ok found) ↔
      ∃ source ∈ preference.allowed sources, ∃ names, source.extract content = .ok names := by
  constructor
  · rintro ⟨found, ok⟩
    obtain ⟨source, member, allowed, extracted, -⟩ := exists_source ok
    exact ⟨source, List.mem_filter.mpr ⟨member, allowed⟩, found.names, extracted⟩
  · rintro ⟨source, member, names, extracted⟩
    rcases splits_or_allFail content (preference.allowed sources) with
      ⟨before, first, rest, errors, firstNames, split, failed, found⟩ | ⟨errors, failed⟩
    · exact ⟨_, (ofText_of_ok split failed found).1⟩
    · obtain ⟨error, broken⟩ := failed.exists_error member
      cases extracted.symm.trans broken

/-- It is said that no strategy applies just if no source is allowed. -/
theorem outcome_eq_noStrategy_iff :
    (ofText sources preference content).outcome = .error (.noStrategy preference) ↔
      preference.allowed sources = [] := by
  constructor
  · intro outcome
    by_contra some
    rcases splits_or_allFail content (preference.allowed sources) with
      ⟨before, source, rest, errors, names, split, failed, found⟩ | ⟨errors, failed⟩
    · cases outcome.symm.trans (ofText_of_ok split failed found).1
    · cases outcome.symm.trans (ofText_of_allFail some failed).1
  · intro none
    exact (ofText_of_none none).1

theorem called_of_allFail {errors : List SourceError}
    (failed : AllFail content (preference.allowed sources) errors) :
    (ofText sources preference content).called = preference.allowed sources := by
  by_cases none : preference.allowed sources = []
  · rw [(ofText_of_none none).2, none]
  · exact (ofText_of_allFail none failed).2

/-- With the default sources, all strategies together give what the structural one gives, and what
the textual one gives where the structural one fails. -/
theorem ofText_defaults_auto (content : String) :
    (ofText Source.defaults .auto content).outcome =
      match (ofText Source.defaults .structural content).outcome with
      | .ok found => .ok found
      | .error _ => (ofText Source.defaults .textual content).outcome := by
  change (tryEach .auto content [] [Source.structural, Source.textual]).outcome =
    match (tryEach .structural content [] [Source.structural]).outcome with
    | .ok found => .ok found
    | .error _ => (tryEach .textual content [] [Source.textual]).outcome
  cases extracted : Source.structural.extract content with
  | ok names =>
      rw [(tryEach_of_ok .auto [] _ extracted).1, (tryEach_of_ok .structural [] _ extracted).1]
  | error error =>
      rw [(goesOn_cons .auto [] _ extracted).outcome,
        (goesOn_cons .structural [] _ extracted).outcome]
      rfl

/-- The textual source never fails, so the default sources never fail together. -/
theorem exists_ofText_defaults_auto (content : String) :
    ∃ found, (ofText Source.defaults .auto content).outcome = .ok found := by
  rw [ofText_defaults_auto]
  cases (ofText Source.defaults .structural content).outcome with
  | ok found => exact ⟨found, rfl⟩
  | error error => exact ⟨⟨Script.Listing.names content, .textual⟩, rfl⟩

end Extraction

/-- An extraction succeeds if and only if an allowed source does. The first one that succeeds, with
any list of names, gives the names and the strategy, and only it and the allowed sources before it
are called, each once. If none succeeds, all allowed sources are called, and the error names each
with its message, unless there are none. By default all strategies together never fail: the
structural one gives the result if it succeeds, and otherwise the textual one does. -/
theorem first_success_decides (sources : List Source) (preference : Preference)
    (content : String) :
    ((∃ found, (Extraction.ofText sources preference content).outcome = .ok found) ↔
        ∃ source ∈ preference.allowed sources, ∃ names, source.extract content = .ok names) ∧
      (∀ before source rest names,
        preference.allowed sources = before ++ source :: rest →
        (∀ earlier ∈ before, ∃ error, earlier.extract content = .error error) →
        source.extract content = .ok names →
          (Extraction.ofText sources preference content).outcome =
              .ok ⟨names, source.strategy⟩ ∧
            (Extraction.ofText sources preference content).called = before ++ [source]) ∧
      ((Extraction.ofText sources preference content).outcome = .error (.noStrategy preference) ↔
        preference.allowed sources = []) ∧
      ((∀ source ∈ preference.allowed sources, ∃ error, source.extract content = .error error) →
        (Extraction.ofText sources preference content).called = preference.allowed sources ∧
          (preference.allowed sources ≠ [] →
            ∃ errors error,
              (preference.allowed sources).map (·.extract content) = errors.map Except.error ∧
                (Extraction.ofText sources preference content).outcome = .error error ∧
                error = .exhausted (((preference.allowed sources).map (·.strategy)).zip errors) ∧
                error.message = "Could not extract function names (" ++
                  "; ".intercalate ((preference.allowed sources).zipWith
                    (fun source error => source.strategy.name ++ ": " ++ error.message) errors)
                  ++ ")")) ∧
      (∃ found, (Extraction.ofText Source.defaults .auto content).outcome = .ok found ∧
        ((Extraction.ofText Source.defaults .structural content).outcome = .ok found ∨
          (∃ error,
            (Extraction.ofText Source.defaults .structural content).outcome = .error error) ∧
          (Extraction.ofText Source.defaults .textual content).outcome = .ok found)) := by
  refine ⟨Extraction.exists_ok_iff, ?_, Extraction.outcome_eq_noStrategy_iff, ?_, ?_⟩
  · intro before source rest names split failed found
    obtain ⟨errors, failed⟩ := exists_allFail failed
    exact Extraction.ofText_of_ok split failed found
  · intro failed
    obtain ⟨errors, failed⟩ := exists_allFail failed
    refine ⟨Extraction.called_of_allFail failed, ?_⟩
    intro some
    exact ⟨errors, .exhausted (failuresOf (preference.allowed sources) errors), failed,
      (Extraction.ofText_of_allFail some failed).1, rfl, message_exhausted _ errors⟩
  · obtain ⟨found, ok⟩ := Extraction.exists_ofText_defaults_auto content
    refine ⟨found, ok, ?_⟩
    rw [Extraction.ofText_defaults_auto] at ok
    split at ok
    · next structural => exact .inl (structural.trans ok)
    · next error failed => exact .inr ⟨⟨error, failed⟩, ok⟩

/-- What the structural source cannot read the textual one lists. -/
example : (Extraction.ofText Source.defaults .auto "function A\x7b").outcome =
    .ok ⟨["A"], .textual⟩ := by decide +kernel

end ScriptRoster
