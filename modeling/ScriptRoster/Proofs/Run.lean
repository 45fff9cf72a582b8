import Mathlib.Data.List.Basic

/-!
# Runs

A run is a list of events, each of which takes one state to the next. What holds at the start and is
kept by every event that may happen holds at the end of every run.
-/

namespace ScriptRoster

variable {σ ε : Type*}

/-- Every event of a run may happen in the state that it finds. -/
def Along (next : σ → ε → σ) (may : σ → ε → Prop) : σ → List ε → Prop
  | _, [] => True
  | state, event :: rest => may state event ∧ Along next may (next state event) rest

variable {next : σ → ε → σ} {may : σ → ε → Prop}

theorem along_append {state : σ} {first later : List ε} :
    Along next may state (first ++ later) ↔
      Along next may state first ∧ Along next may (first.foldl next state) later := by
  induction first generalizing state with
  | nil => simp [Along]
  | cons event first ih => simp [Along, ih, and_assoc]

/-- A run along which something holds is one along which anything weaker holds. -/
theorem Along.mono {might : σ → ε → Prop}
    (h : ∀ state event, may state event → might state event) {state : σ} {events : List ε}
    (run : Along next may state events) : Along next might state events := by
  induction events generalizing state with
  | nil => trivial
  | cons event events ih => exact ⟨h state event run.1, ih run.2⟩

/-- What may happen in every state may happen again and again. -/
theorem along_replicate {event : ε} (always : ∀ state, may state event) (state : σ) (n : Nat) :
    Along next may state (List.replicate n event) := by
  induction n generalizing state with
  | zero => trivial
  | succ n ih => exact ⟨always state, ih (next state event)⟩

/-- An invariant holds at the end of every run. -/
theorem invariant_run {good : σ → Prop}
    (step : ∀ state event, good state → may state event → good (next state event))
    {state : σ} (start : good state) {events : List ε} (run : Along next may state events) :
    good (events.foldl next state) := by
  induction events generalizing state with
  | nil => exact start
  | cons event events ih =>
      obtain ⟨allowed, rest⟩ := run
      exact ih (step state event start allowed) rest

end ScriptRoster
