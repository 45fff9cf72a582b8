import ScriptRoster.Invocation.Outcome

/-!
# Watching a process

A process that was started is watched until it has exited and both of its streams have ended. From
time to time the watcher polls: it stops the process if a stop was asked for, or else if the time
is up. A stream may outlast the process, since others may hold it open, so the polls go on for as
long as one of the three is missing. The three are looked at one after the other, and the first that
cannot be observed ends the watching.
-/

namespace ScriptRoster.Invocation

open Text

/-- Something that was observed, or the reason why it could not be. -/
inductive Observed (α : Type) where
  | seen (value : α)
  | lost (reason : String)
  deriving DecidableEq, Repr

/-- What a watcher learns of. -/
inductive Event where
  | exited (exit : Observed Exit)
  | outputEnded (content : Observed Bytes)
  | errorsEnded (content : Observed Bytes)
  | stopAsked
  /-- A poll, so many nanoseconds after the start. -/
  | poll (elapsed : Nat)
  deriving DecidableEq, Repr

/-- Why a process is stopped. -/
inductive Stop where
  | cancelled
  | timedOut (limit : Duration)
  deriving DecidableEq, Repr

/-- The failure that a stop makes. -/
def Stop.failure : Stop → Failure
  | .cancelled => .cancelled
  | .timedOut limit => .timedOut limit

/-- What a watcher knows. -/
structure Watch where
  exit? : Option (Observed Exit)
  output? : Option (Observed Bytes)
  errors? : Option (Observed Bytes)
  stopAsked : Bool
  deriving DecidableEq, Repr

namespace Watch

/-- Nothing is known yet. -/
def start : Watch := ⟨none, none, none, false⟩

/-- What the process left behind, once it has exited and both streams have ended. Its exit, its
output and its error stream are waited for in this order, and the first that cannot be observed is
waited for in vain. -/
def captured? (watch : Watch) : Option (Observed Captured) :=
  match watch.exit?, watch.output?, watch.errors? with
  | some (.lost reason), _, _ => some (.lost reason)
  | some (.seen _), some (.lost reason), _ => some (.lost reason)
  | some (.seen _), some (.seen _), some (.lost reason) => some (.lost reason)
  | some (.seen exit), some (.seen output), some (.seen errors) =>
      some (.seen ⟨exit, output, errors⟩)
  | _, _, _ => none

/-- What is known after an event. -/
def learn (watch : Watch) : Event → Watch
  | .exited exit => { watch with exit? := some exit }
  | .outputEnded content => { watch with output? := some content }
  | .errorsEnded content => { watch with errors? := some content }
  | .stopAsked => { watch with stopAsked := true }
  | .poll _ => watch

/-- What a poll decides, so long after the start. -/
def poll (limit : Option Duration) (watch : Watch) (elapsed : Nat) : Option Stop :=
  if watch.stopAsked then some .cancelled
  else
    match limit with
    | some limit => if limit.nanoseconds ≤ elapsed then some (.timedOut limit) else none
    | none => none

end Watch

/-- How far the watching has come. -/
inductive Progress where
  | watching (watch : Watch)
  | completed (captured : Captured)
  | lost (reason : String)
  | stopped (reason : Stop)
  deriving DecidableEq, Repr

namespace Progress

/-- Where an event leads. Once a process is complete, lost or stopped, nothing matters any more. -/
def next (limit : Option Duration) (event : Event) : Progress → Progress
  | .watching watch =>
      let watch := watch.learn event
      match watch.captured? with
      | some (.seen captured) => .completed captured
      | some (.lost reason) => .lost reason
      | none =>
          match event with
          | .poll elapsed =>
              match watch.poll limit elapsed with
              | some reason => .stopped reason
              | none => .watching watch
          | _ => .watching watch
  | finished => finished

/-- Where events lead, in their order. -/
def follow (limit : Option Duration) (progress : Progress) (events : List Event) : Progress :=
  events.foldl (fun progress event => progress.next limit event) progress

/-- The outcome of a call, once it is over. -/
def outcome? (function : String) : Progress → Option Outcome
  | .watching _ => none
  | .completed captured => some (.ofCaptured function captured)
  | .lost reason => some (.unfinished function (.unobserved reason))
  | .stopped reason => some (.unfinished function reason.failure)

end Progress

end ScriptRoster.Invocation
