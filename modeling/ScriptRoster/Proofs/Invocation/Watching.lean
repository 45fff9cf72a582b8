import Mathlib.Data.List.Induction
import ScriptRoster.Invocation.Watch

/-!
# What a watcher comes to

A watcher learns of the exit of a process, the ends of its streams, the request to stop and the polls
in any order. Main statements: it completes if the exit and both ends come before any poll has a
reason to stop, and only then; it stops at the first poll with a reason, if something is missing
there.
-/

namespace ScriptRoster.Invocation

open Text

/-! ## What events tell -/

/-- All that a watcher knows it has learned from events. -/
structure Watch.LearnedFrom (events : List Event) (watch : Watch) : Prop where
  exit : ∀ exit, watch.exit? = some exit → .exited exit ∈ events
  output : ∀ content, watch.output? = some content → .outputEnded content ∈ events
  errors : ∀ content, watch.errors? = some content → .errorsEnded content ∈ events

/-- What a process left behind was learned from events. -/
structure Captured.LearnedFrom (events : List Event) (captured : Captured) : Prop where
  exit : .exited (.seen captured.exit) ∈ events
  output : .outputEnded (.seen captured.output) ∈ events
  errors : .errorsEnded (.seen captured.errors) ∈ events

/-- Events tell of one exit and of one end of each stream, be it several times. -/
structure Captured.ToldBy (events : List Event) (captured : Captured) : Prop where
  exit : ∀ exit, .exited exit ∈ events ↔ exit = .seen captured.exit
  output : ∀ content, .outputEnded content ∈ events ↔ content = .seen captured.output
  errors : ∀ content, .errorsEnded content ∈ events ↔ content = .seen captured.errors

/-- Events tell of an exit and of the ends of both streams. -/
structure Ended (events : List Event) : Prop where
  exit : ∃ exit, .exited exit ∈ events
  output : ∃ content, .outputEnded content ∈ events
  errors : ∃ content, .errorsEnded content ∈ events

/-- Whatever events tell of was observed. -/
structure Observable (events : List Event) : Prop where
  exit : ∀ reason, .exited (.lost reason) ∉ events
  output : ∀ reason, .outputEnded (.lost reason) ∉ events
  errors : ∀ reason, .errorsEnded (.lost reason) ∉ events

/-- A poll, so long after the start, has a reason to stop the run: a stop was asked for before, or
else the limit has passed. -/
inductive Due (limit : Option Duration) (earlier : List Event) (elapsed : Nat) : Stop → Prop
  | cancelled (asked : .stopAsked ∈ earlier) : Due limit earlier elapsed .cancelled
  | timedOut {most : Duration} (limited : limit = some most) (passed : most.nanoseconds ≤ elapsed)
      (unasked : .stopAsked ∉ earlier) : Due limit earlier elapsed (.timedOut most)

/-- A run is not complete: its exit is missing, or it was not lost and the end of the output is
missing, or neither was lost and the end of the error stream is missing. -/
inductive Waits (events : List Event) : Prop
  | exit (missing : ∀ exit, .exited exit ∉ events)
  | output (observed : ∀ reason, .exited (.lost reason) ∉ events)
      (missing : ∀ content, .outputEnded content ∉ events)
  | errors (observed : ∀ reason, .exited (.lost reason) ∉ events)
      (readable : ∀ reason, .outputEnded (.lost reason) ∉ events)
      (missing : ∀ content, .errorsEnded content ∉ events)

/-- No poll among events had a reason to stop the run. -/
def Undisturbed (limit : Option Duration) (events : List Event) : Prop :=
  ∀ earlier elapsed later stop, events = earlier ++ .poll elapsed :: later →
    ¬ Due limit earlier elapsed stop

variable {limit : Option Duration} {events earlier later : List Event} {event : Event}
  {elapsed : Nat} {watch : Watch} {progress : Progress} {stop : Stop} {captured other : Captured}
  {reason : String}

theorem Captured.ToldBy.observable (told : captured.ToldBy events) : Observable events where
  exit reason member := by cases (told.exit _).mp member
  output reason member := by cases (told.output _).mp member
  errors reason member := by cases (told.errors _).mp member

theorem Captured.ToldBy.ended (told : captured.ToldBy events) : Ended events where
  exit := ⟨_, (told.exit _).mpr rfl⟩
  output := ⟨_, (told.output _).mpr rfl⟩
  errors := ⟨_, (told.errors _).mpr rfl⟩

/-- What is learned from events that tell of one exit and one end of each stream is just that. -/
theorem Captured.ToldBy.unique (told : captured.ToldBy events) (learned : other.LearnedFrom events) :
    other = captured := by
  obtain ⟨exit, output, errors⟩ := other
  have sameExit := (told.exit _).mp learned.exit
  have sameOutput := (told.output _).mp learned.output
  have sameErrors := (told.errors _).mp learned.errors
  cases sameExit
  cases sameOutput
  cases sameErrors
  rfl

theorem Captured.LearnedFrom.ended (learned : captured.LearnedFrom events) : Ended events :=
  ⟨⟨_, learned.exit⟩, ⟨_, learned.output⟩, ⟨_, learned.errors⟩⟩

theorem Captured.LearnedFrom.append (learned : captured.LearnedFrom events) (later : List Event) :
    captured.LearnedFrom (events ++ later) :=
  ⟨List.mem_append_left later learned.exit, List.mem_append_left later learned.output,
    List.mem_append_left later learned.errors⟩

theorem Observable.of_append (observable : Observable (events ++ later)) : Observable events where
  exit reason member := observable.exit reason (List.mem_append_left later member)
  output reason member := observable.output reason (List.mem_append_left later member)
  errors reason member := observable.errors reason (List.mem_append_left later member)

theorem Waits.of_append (waits : Waits (events ++ later)) : Waits events := by
  have kept {event : Event} (missing : event ∉ events ++ later) : event ∉ events :=
    fun member => missing (List.mem_append_left later member)
  cases waits with
  | exit missing => exact .exit fun exit => kept (missing exit)
  | output observed missing =>
      exact .output (fun reason => kept (observed reason)) fun content => kept (missing content)
  | errors observed readable missing =>
      exact .errors (fun reason => kept (observed reason)) (fun reason => kept (readable reason))
        fun content => kept (missing content)

theorem Undisturbed.of_append (undisturbed : Undisturbed limit (events ++ later)) :
    Undisturbed limit events := by
  intro earlier elapsed between stop split
  refine undisturbed earlier elapsed (between ++ later) stop ?_
  rw [split, List.append_assoc, List.cons_append]

theorem undisturbed_nil (limit : Option Duration) : Undisturbed limit [] := by
  intro earlier elapsed later stop split
  exact absurd split (by simp)

/-- One more event has to be no poll, or a poll without a reason. -/
theorem Undisturbed.append_singleton (undisturbed : Undisturbed limit events)
    (idle : ∀ elapsed stop, event = .poll elapsed → ¬ Due limit events elapsed stop) :
    Undisturbed limit (events ++ [event]) := by
  intro earlier elapsed later stop split due
  rcases List.eq_nil_or_concat later with rfl | ⟨between, last, rfl⟩
  · obtain ⟨rfl, same⟩ := List.append_inj' split rfl
    exact idle elapsed stop (List.cons.inj same).1 due
  · rw [List.concat_eq_append, ← List.cons_append, ← List.append_assoc] at split
    obtain ⟨same, -⟩ := List.append_inj' split rfl
    exact undisturbed earlier elapsed between stop same due

/-! ## What a watcher knows -/

namespace Watch

/-- A watcher that has learned of one more event knows nothing from elsewhere. -/
theorem learnedFrom_learn (learned : watch.LearnedFrom earlier) (event : Event) :
    (watch.learn event).LearnedFrom (earlier ++ [event]) := by
  have kept : ∀ {other}, other ∈ earlier → other ∈ earlier ++ [event] :=
    List.mem_append_left [event]
  have last : event ∈ earlier ++ [event] :=
    List.mem_append_right earlier (List.mem_singleton_self _)
  obtain ⟨exit, output, errors⟩ := learned
  cases event with
  | exited found =>
      refine ⟨?_, fun _ known => kept (output _ known), fun _ known => kept (errors _ known)⟩
      intro _ known
      cases known
      exact last
  | outputEnded found =>
      refine ⟨fun _ known => kept (exit _ known), ?_, fun _ known => kept (errors _ known)⟩
      intro _ known
      cases known
      exact last
  | errorsEnded found =>
      refine ⟨fun _ known => kept (exit _ known), fun _ known => kept (output _ known), ?_⟩
      intro _ known
      cases known
      exact last
  | stopAsked | poll =>
      exact ⟨fun _ known => kept (exit _ known), fun _ known => kept (output _ known),
        fun _ known => kept (errors _ known)⟩

theorem stopAsked_learn (watch : Watch) (event : Event) :
    (watch.learn event).stopAsked = true ↔ watch.stopAsked = true ∨ event = .stopAsked := by
  cases event <;> simp [learn]

theorem isSome_exit?_learn (watch : Watch) (event : Event) :
    (watch.learn event).exit?.isSome = true ↔
      watch.exit?.isSome = true ∨ ∃ exit, event = .exited exit := by
  cases event <;> simp [learn]

theorem isSome_output?_learn (watch : Watch) (event : Event) :
    (watch.learn event).output?.isSome = true ↔
      watch.output?.isSome = true ∨ ∃ content, event = .outputEnded content := by
  cases event <;> simp [learn]

theorem isSome_errors?_learn (watch : Watch) (event : Event) :
    (watch.learn event).errors?.isSome = true ↔
      watch.errors?.isSome = true ∨ ∃ content, event = .errorsEnded content := by
  cases event <;> simp [learn]

/-- What a watcher takes for the whole was learned, each part for itself. -/
theorem LearnedFrom.of_captured (learned : watch.LearnedFrom events)
    (whole : watch.captured? = some (.seen captured)) : captured.LearnedFrom events := by
  unfold captured? at whole
  split at whole
  · cases whole
  · cases whole
  · cases whole
  · next exit output errors =>
      cases whole
      exact ⟨learned.exit _ exit, learned.output _ output, learned.errors _ errors⟩
  · cases whole

/-- A watcher gives up on the whole only if it has learned that a part was lost. -/
theorem LearnedFrom.not_observable (learned : watch.LearnedFrom events)
    (gone : watch.captured? = some (.lost reason)) : ¬ Observable events := by
  intro observable
  unfold captured? at gone
  split at gone
  · next exit => exact observable.exit _ (learned.exit _ exit)
  · next output => exact observable.output _ (learned.output _ output)
  · next errors => exact observable.errors _ (learned.errors _ errors)
  · cases gone
  · cases gone

/-- A watcher that knows of every part misses nothing. -/
theorem captured?_ne_none (exited : watch.exit?.isSome = true)
    (wrote : watch.output?.isSome = true) (failed : watch.errors?.isSome = true) :
    watch.captured? ≠ none := by
  obtain ⟨exit?, output?, errors?, stopAsked⟩ := watch
  obtain ⟨exit, rfl⟩ := Option.isSome_iff_exists.mp exited
  obtain ⟨output, rfl⟩ := Option.isSome_iff_exists.mp wrote
  obtain ⟨errors, rfl⟩ := Option.isSome_iff_exists.mp failed
  cases exit with
  | lost => exact Option.some_ne_none _
  | seen =>
      cases output with
      | lost => exact Option.some_ne_none _
      | seen => cases errors <;> exact Option.some_ne_none _

end Watch

/-- A poll stops a watch just if a stop is due. -/
theorem poll_eq_some_iff (asked : watch.stopAsked = true ↔ .stopAsked ∈ earlier) :
    watch.poll limit elapsed = some stop ↔ Due limit earlier elapsed stop := by
  unfold Watch.poll
  constructor
  · intro decided
    split at decided
    · next stops =>
        cases decided
        exact .cancelled (asked.mp stops)
    · next goesOn =>
        have unasked : .stopAsked ∉ earlier := fun member => goesOn (asked.mpr member)
        cases limit with
        | none => cases decided
        | some most =>
            dsimp only at decided
            split at decided
            · next passed =>
                cases decided
                exact .timedOut rfl passed unasked
            · cases decided
  · intro due
    cases due with
    | cancelled member => rw [if_pos (asked.mpr member)]
    | timedOut limited passed unasked =>
        rw [if_neg fun stops => unasked (asked.mp stops), limited]
        exact if_pos passed

/-- While a run waits, what a watcher has learned does not make it complete. -/
theorem Waits.captured?_eq_none (waits : Waits events) (learned : watch.LearnedFrom events) :
    watch.captured? = none := by
  obtain ⟨exit?, output?, errors?, stopAsked⟩ := watch
  cases waits with
  | exit missing =>
      cases exit? with
      | none => cases output? <;> cases errors? <;> rfl
      | some exit => exact absurd (learned.exit exit rfl) (missing exit)
  | output observed missing =>
      cases output? with
      | some content => exact absurd (learned.output content rfl) (missing content)
      | none =>
          cases exit? with
          | none => cases errors? <;> rfl
          | some exit =>
              cases exit with
              | seen => cases errors? <;> rfl
              | lost reason => exact absurd (learned.exit _ rfl) (observed reason)
  | errors observed readable missing =>
      cases errors? with
      | some content => exact absurd (learned.errors content rfl) (missing content)
      | none =>
          cases exit? with
          | none => cases output? <;> rfl
          | some exit =>
              cases exit with
              | lost reason => exact absurd (learned.exit _ rfl) (observed reason)
              | seen =>
                  cases output? with
                  | none => rfl
                  | some content =>
                      cases content with
                      | seen => rfl
                      | lost reason => exact absurd (learned.output _ rfl) (readable reason)

/-! ## One event -/

namespace Progress

/-- All that an event can do to a watch: it completes it with what the process left behind, ends it
since something was lost, stops it if it is a poll with a reason, or leaves it with what it learns. -/
theorem next_watching_cases (limit : Option Duration) (event : Event) (watch : Watch) :
    (∃ captured, (watch.learn event).captured? = some (.seen captured) ∧
        (watching watch).next limit event = .completed captured) ∨
      (∃ reason, (watch.learn event).captured? = some (.lost reason) ∧
        (watching watch).next limit event = .lost reason) ∨
      (∃ elapsed stop, event = .poll elapsed ∧ watch.poll limit elapsed = some stop ∧
        (watching watch).next limit event = .stopped stop) ∨
      (watch.learn event).captured? = none ∧
        (∀ elapsed, event = .poll elapsed → watch.poll limit elapsed = none) ∧
        (watching watch).next limit event = .watching (watch.learn event) := by
  unfold next
  dsimp only
  split
  · next captured complete => exact .inl ⟨captured, complete, rfl⟩
  · next reason gone => exact .inr (.inl ⟨reason, gone, rfl⟩)
  · next incomplete =>
      cases event with
      | poll elapsed =>
          cases decided : watch.poll limit elapsed with
          | some stop =>
              refine .inr (.inr (.inl ⟨elapsed, stop, rfl, decided, ?_⟩))
              simp only [Watch.learn, decided]
          | none =>
              refine .inr (.inr (.inr ⟨incomplete, ?_, ?_⟩))
              · rintro _ ⟨⟩
                exact decided
              · simp only [Watch.learn, decided]
      | exited | outputEnded | errorsEnded | stopAsked =>
          exact .inr (.inr (.inr ⟨incomplete, nofun, rfl⟩))

theorem next_poll_eq_of_incomplete (incomplete : watch.captured? = none)
    (decided : watch.poll limit elapsed = some stop) :
    (watching watch).next limit (.poll elapsed) = .stopped stop := by
  simp only [next, Watch.learn, incomplete, decided]

/-! ## All events -/

theorem follow_append (limit : Option Duration) (progress : Progress) (events later : List Event) :
    progress.follow limit (events ++ later) = (progress.follow limit events).follow limit later :=
  List.foldl_append ..

/-- What has come to an end stays as it is. -/
theorem follow_of_ended (function : String) {outcome : Outcome}
    (ended : progress.outcome? function = some outcome) (events : List Event) :
    progress.follow limit events = progress := by
  induction events with
  | nil => rfl
  | cons event events ih =>
      cases progress with
      | watching => cases ended
      | completed | lost | stopped => exact ih

end Progress

open Progress

/-- What is so of a watcher that has followed events and watches on: it knows what they told and no
more, it misses something, and no poll had a reason to stop. -/
structure Watch.Follows (limit : Option Duration) (events : List Event) (watch : Watch) : Prop where
  learned : watch.LearnedFrom events
  exit : ∀ exit, .exited exit ∈ events → watch.exit?.isSome = true
  output : ∀ content, .outputEnded content ∈ events → watch.output?.isSome = true
  errors : ∀ content, .errorsEnded content ∈ events → watch.errors?.isSome = true
  stopAsked : watch.stopAsked = true ↔ .stopAsked ∈ events
  incomplete : watch.captured? = none
  undisturbed : Undisturbed limit events

theorem follows_start (limit : Option Duration) : Watch.start.Follows limit [] where
  learned := ⟨nofun, nofun, nofun⟩
  exit := nofun
  output := nofun
  errors := nofun
  stopAsked := iff_of_false Bool.false_ne_true List.not_mem_nil
  incomplete := rfl
  undisturbed := undisturbed_nil limit

/-- One more event leaves it so if the watcher watches on. -/
theorem Watch.Follows.learn (follows : watch.Follows limit events)
    (incomplete : (watch.learn event).captured? = none)
    (unpolled : ∀ elapsed, event = .poll elapsed → watch.poll limit elapsed = none) :
    (watch.learn event).Follows limit (events ++ [event]) where
  learned := watch.learnedFrom_learn follows.learned event
  exit exit member := by
    rw [isSome_exit?_learn]
    rcases List.mem_append.mp member with before | last
    · exact .inl (follows.exit exit before)
    · exact .inr ⟨exit, (List.mem_singleton.mp last).symm⟩
  output content member := by
    rw [isSome_output?_learn]
    rcases List.mem_append.mp member with before | last
    · exact .inl (follows.output content before)
    · exact .inr ⟨content, (List.mem_singleton.mp last).symm⟩
  errors content member := by
    rw [isSome_errors?_learn]
    rcases List.mem_append.mp member with before | last
    · exact .inl (follows.errors content before)
    · exact .inr ⟨content, (List.mem_singleton.mp last).symm⟩
  stopAsked := by
    rw [stopAsked_learn, follows.stopAsked, List.mem_append, List.mem_singleton, eq_comm]
  incomplete := incomplete
  undisturbed := by
    apply follows.undisturbed.append_singleton
    intro elapsed stop poll due
    have decided := (poll_eq_some_iff follows.stopAsked).mpr due
    rw [unpolled elapsed poll] at decided
    cases decided

/-- What a watcher has come to after events, and what stood among them. It completes or gives up on
what it had learned by some moment, no poll before which had a reason to stop, and it is stopped by
a poll with a reason. -/
inductive Comes (limit : Option Duration) (events : List Event) : Progress → Prop
  | goesOn {watch : Watch} (follows : watch.Follows limit events) :
      Comes limit events (.watching watch)
  | completed {earlier later : List Event} {watch : Watch} {captured : Captured}
      (split : events = earlier ++ later) (learned : watch.LearnedFrom earlier)
      (whole : watch.captured? = some (.seen captured)) (undisturbed : Undisturbed limit earlier) :
      Comes limit events (.completed captured)
  | lost {earlier later : List Event} {watch : Watch} {reason : String}
      (split : events = earlier ++ later) (learned : watch.LearnedFrom earlier)
      (gone : watch.captured? = some (.lost reason)) : Comes limit events (.lost reason)
  | stopped {earlier later : List Event} {elapsed : Nat} {stop : Stop}
      (split : events = earlier ++ .poll elapsed :: later) (due : Due limit earlier elapsed stop) :
      Comes limit events (.stopped stop)

/-- What the next event does to a watcher that goes on. -/
theorem Watch.Follows.comes_next (follows : watch.Follows limit events) (event : Event) :
    Comes limit (events ++ [event]) ((Progress.watching watch).next limit event) := by
  have learned := watch.learnedFrom_learn follows.learned event
  have all : events ++ [event] = (events ++ [event]) ++ [] := (List.append_nil _).symm
  rcases next_watching_cases limit event watch with
    ⟨captured, whole, same⟩ | ⟨reason, gone, same⟩ | ⟨elapsed, stop, rfl, decided, same⟩ |
    ⟨incomplete, unpolled, same⟩ <;> rw [same]
  · refine .completed all learned whole (follows.undisturbed.append_singleton ?_)
    rintro elapsed stop rfl
    -- a poll teaches nothing, and something was missing before it
    cases follows.incomplete.symm.trans whole
  · exact .lost all learned gone
  · exact .stopped rfl ((poll_eq_some_iff follows.stopAsked).mp decided)
  · exact .goesOn (follows.learn incomplete unpolled)

/-- One more event takes a watcher from what it has come to on, unless it had come to an end. -/
theorem Comes.next (comes : Comes limit events progress) (event : Event) :
    Comes limit (events ++ [event]) (progress.next limit event) := by
  cases comes with
  | goesOn follows => exact follows.comes_next event
  | @completed earlier later _ _ split learned whole undisturbed =>
      have longer : events ++ [event] = earlier ++ (later ++ [event]) := by
        rw [split, List.append_assoc]
      exact .completed longer learned whole undisturbed
  | @lost earlier later _ _ split learned gone =>
      have longer : events ++ [event] = earlier ++ (later ++ [event]) := by
        rw [split, List.append_assoc]
      exact .lost longer learned gone
  | @stopped earlier later elapsed _ split due =>
      have longer : events ++ [event] = earlier ++ .poll elapsed :: (later ++ [event]) := by
        rw [split, List.append_assoc, List.cons_append]
      exact .stopped longer due

theorem comes_follow (limit : Option Duration) (events : List Event) :
    Comes limit events (follow limit (.watching .start) events) := by
  induction events using List.reverseRecOn with
  | nil => exact .goesOn (follows_start limit)
  | append_singleton events event ih =>
      rw [follow_append]
      exact ih.next event

/-- A watch that goes on knows just what it was told. -/
theorem follows_of_watching (goesOn : follow limit (.watching .start) events = .watching watch) :
    watch.Follows limit events := by
  have comes := comes_follow limit events
  rw [goesOn] at comes
  cases comes with
  | goesOn follows => exact follows

/-- Whatever completes a run comes after the exit and both ends, and before any poll with a reason to
stop. -/
theorem exists_of_completed
    (complete : follow limit (.watching .start) events = .completed captured) :
    ∃ earlier later, events = earlier ++ later ∧ captured.LearnedFrom earlier ∧
      Undisturbed limit earlier := by
  have comes := comes_follow limit events
  rw [complete] at comes
  cases comes with
  | completed split learned whole undisturbed =>
      exact ⟨_, _, split, learned.of_captured whole, undisturbed⟩

/-- Whatever stops a run is a poll with a reason to do so. -/
theorem exists_due_of_stopped (ends : follow limit (.watching .start) events = .stopped stop) :
    ∃ earlier elapsed later, events = earlier ++ .poll elapsed :: later ∧
      Due limit earlier elapsed stop := by
  have comes := comes_follow limit events
  rw [ends] at comes
  cases comes with
  | stopped split due => exact ⟨_, _, _, split, due⟩

/-- If the exit and both ends are observed before any poll has a reason to stop, the run completes
with what was learned of them. -/
theorem exists_completed (observable : Observable events) (ended : Ended events)
    (undisturbed : Undisturbed limit events) :
    ∃ captured, follow limit (.watching .start) events = .completed captured ∧
      captured.LearnedFrom events := by
  have comes := comes_follow limit events
  generalize follow limit (.watching .start) events = progress at comes ⊢
  cases comes with
  | goesOn follows =>
      obtain ⟨⟨exit, exits⟩, ⟨output, outputs⟩, ⟨errors, fails⟩⟩ := ended
      exact absurd follows.incomplete (Watch.captured?_ne_none (follows.exit exit exits)
        (follows.output output outputs) (follows.errors errors fails))
  | completed split learned whole =>
      rw [split]
      exact ⟨_, rfl, (learned.of_captured whole).append _⟩
  | lost split learned gone =>
      rw [split] at observable
      exact absurd observable.of_append (learned.not_observable gone)
  | stopped split due => exact absurd due (undisturbed _ _ _ _ split)

/-- What events tell in time is what the run completes with, whatever comes later. -/
theorem completed_of_told (told : captured.ToldBy earlier) (undisturbed : Undisturbed limit earlier)
    (later : List Event) :
    follow limit (.watching .start) (earlier ++ later) = .completed captured := by
  obtain ⟨found, complete, learned⟩ := exists_completed told.observable told.ended undisturbed
  rw [told.unique learned] at complete
  rw [follow_append, complete]
  exact follow_of_ended "" rfl later

/-- A run goes on for as long as it waits and no poll has a reason to stop it. -/
theorem exists_watching (waits : Waits events) (undisturbed : Undisturbed limit events) :
    ∃ watch, follow limit (.watching .start) events = .watching watch ∧
      watch.Follows limit events := by
  have missing {earlier later : List Event} {watch : Watch} (split : events = earlier ++ later)
      (learned : watch.LearnedFrom earlier) : watch.captured? = none := by
    rw [split] at waits
    exact waits.of_append.captured?_eq_none learned
  have comes := comes_follow limit events
  generalize follow limit (.watching .start) events = progress at comes ⊢
  cases comes with
  | goesOn follows => exact ⟨_, rfl, follows⟩
  | completed split learned whole => cases (missing split learned).symm.trans whole
  | lost split learned gone => cases (missing split learned).symm.trans gone
  | stopped split due => exact absurd due (undisturbed _ _ _ _ split)

/-- The first poll with a reason stops a run that waits. -/
theorem stopped_of_due (waits : Waits earlier) (undisturbed : Undisturbed limit earlier)
    (due : Due limit earlier elapsed stop) (later : List Event) :
    follow limit (.watching .start) (earlier ++ .poll elapsed :: later) = .stopped stop := by
  obtain ⟨watch, goesOn, follows⟩ := exists_watching waits undisturbed
  have decided := (poll_eq_some_iff follows.stopAsked).mpr due
  calc
    follow limit (.watching .start) (earlier ++ .poll elapsed :: later)
        = ((watching watch).next limit (.poll elapsed)).follow limit later := by
          rw [follow_append, goesOn]
          rfl
    _ = (Progress.stopped stop).follow limit later := by
          rw [next_poll_eq_of_incomplete follows.incomplete decided]
    _ = .stopped stop := follow_of_ended "" rfl later

end ScriptRoster.Invocation
