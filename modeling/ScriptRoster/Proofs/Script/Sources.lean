import ScriptRoster.Extraction
import ScriptRoster.Proofs.Name
import ScriptRoster.Proofs.Script.Grammar

/-!
# What the sources find in definitions

In a script of definitions that are written out, the syntax and the text give the same names. Where
there is no definition at all the syntax is at fault, and the text stands in for it.
-/

namespace ScriptRoster

open Script

/-- With the default sources the text is scanned if it is preferred, or if the syntax is at fault
and not insisted on. -/
theorem Extraction.outcome_defaults (preference : Preference) (content : String) :
    (ofText Source.defaults preference content).outcome =
      match preference, definedNames content with
      | .textual, _ => .ok ⟨Listing.names content, .textual⟩
      | _, .ok names => .ok ⟨names, .structural⟩
      | .auto, .error _ => .ok ⟨Listing.names content, .textual⟩
      | .structural, .error line => .error (.exhausted [(.structural, .fault line)]) := by
  have auto : ofText Source.defaults .auto content =
      tryEach .auto content [] [Source.structural, Source.textual] := rfl
  have structural : ofText Source.defaults .structural content =
      tryEach .structural content [] [Source.structural] := rfl
  cases defined : definedNames content with
  | ok names =>
      have extracted : Source.structural.extract content = .ok names := by
        simp only [Source.structural, defined]
      cases preference with
      | textual => rfl
      | auto =>
          rw [auto, tryEach, extracted]
          rfl
      | structural =>
          rw [structural, tryEach, extracted]
          rfl
  | error line =>
      have failed : Source.structural.extract content = .error (.fault line) := by
        simp only [Source.structural, defined]
      cases preference with
      | textual => rfl
      | auto =>
          rw [auto, tryEach, failed]
          rfl
      | structural =>
          rw [structural, tryEach, failed]
          rfl

/-- The names found in definitions that are written out are those of the definitions without a
parameter, in order. Of names that are the same the first one is kept. The syntax gives them unless
there is no definition, which is a fault of the syntax on the first line; the text always does. -/
theorem written_names_extracted (definitions : List Written) :
    let content := Written.script definitions
    let names := (Written.runnableNames definitions).eraseDupsBy Name.same
    (Extraction.ofText Source.defaults .auto content).outcome =
        .ok ⟨names, if definitions = [] then .textual else .structural⟩ ∧
      (Extraction.ofText Source.defaults .textual content).outcome = .ok ⟨names, .textual⟩ ∧
      (Extraction.ofText Source.defaults .structural content).outcome =
        if definitions = [] then .error (.exhausted [(.structural, .fault 1)])
        else .ok ⟨names, .structural⟩ := by
  intro content names
  have listed : Listing.names content = names := by
    rw [Written.names_script, Name.dedup_eq_eraseDupsBy]
  have defined : definedNames content = if definitions = [] then .error 1 else .ok names := by
    rw [Written.definedNames_script, Name.dedup_eq_eraseDupsBy]
  simp only [Extraction.outcome_defaults, listed, defined]
  by_cases none : definitions = []
  · simp only [none, if_true, and_self]
  · simp only [none, if_false, and_self]

end ScriptRoster
