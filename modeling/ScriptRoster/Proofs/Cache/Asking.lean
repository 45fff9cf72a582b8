import ScriptRoster.Proofs.Cache.Holding

/-!
# What a store is asked for

A store is asked for one thing at a time, and each call is recorded, whether it is refused or not.
What it answers depends on the calls before and on what it holds, but not on what has been noted in
the meantime.
-/

namespace ScriptRoster.Cache

open Files

/-- The key that a call is for. -/
def Call.key : Call → String
  | .get key | .set key _ | .remove key => key

namespace World

variable {before middle after : World} {these more : List Call} {key : String}

/-- Between two worlds the store was asked for this, call by call. -/
def Asked (these : List Call) (before after : World) : Prop :=
  ∃ calls, after.calls = before.calls ++ calls ∧ calls.map Prod.fst = these

theorem asked_of_calls_eq (same : after.calls = before.calls) : Asked [] before after :=
  ⟨[], same.trans (List.append_nil _).symm, rfl⟩

theorem Asked.of_calls_eq (first : Asked these before middle)
    (same : after.calls = middle.calls) : Asked these before after := by
  obtain ⟨calls, grown, told⟩ := first
  exact ⟨calls, same.trans grown, told⟩

/-- What was asked first comes first. -/
theorem Asked.trans (first : Asked these before middle) (second : Asked more middle after) :
    Asked (these ++ more) before after := by
  obtain ⟨calls, grown, told⟩ := first
  obtain ⟨others, later, also⟩ := second
  refine ⟨calls ++ others, ?_, ?_⟩
  · rw [later, grown, List.append_assoc]
  · rw [List.map_append, told, also]

theorem Unasked.asked (aside : Unasked before middle) (later : Asked these middle after) :
    Asked these before after := by
  obtain ⟨calls, grown, told⟩ := later
  exact ⟨calls, grown.trans (by rw [aside.calls]), told⟩

theorem asked_record (world : World) (call : Call) : Asked [call] world (world.record call).2 :=
  ⟨[(call, world.refuses world.calls.length call)], rfl, rfl⟩

theorem calls_settle (world : World) (made : Except StoreError (Store × Host)) :
    (world.settle made).2.calls = world.calls := by
  cases made <;> rfl

theorem asked_fetch (world : World) (key : String) :
    Asked [.get key] world (world.fetch key).2 := by
  refine (world.asked_record (.get key)).of_calls_eq ?_
  rw [fetch_eq]
  split <;> rfl

/-- Asking for names is one call, whatever it finds. -/
theorem asked_names? (world : World) (key : String) :
    Asked [.get key] world (world.names? key).2 :=
  (world.asked_fetch key).of_calls_eq (world.unasked_names? key).calls

theorem asked_of_names? {found : Option (List String)}
    (told : before.names? key = (found, after)) : Asked [.get key] before after := by
  have asked := before.asked_names? key
  rw [told] at asked
  exact asked

/-- Keeping names is one call with their text, whether it is refused or not. -/
theorem asked_keep (world : World) (key : String) (names : List String) :
    Asked [.set key (Json.listText names)] world (world.keep key names).2 := by
  refine (world.asked_record (.set key (Json.listText names))).of_calls_eq ?_
  rw [keep_eq]
  split
  · rfl
  · exact calls_settle _ _

theorem asked_forget (world : World) (key : String) :
    Asked [.remove key] world (world.forget key).2 := by
  refine (world.asked_record (.remove key)).of_calls_eq ?_
  rw [forget_eq]
  split
  · rfl
  · exact calls_settle _ _

/-! ## Notices make no difference -/

/-- A store of which nothing was asked meanwhile answers the same. -/
theorem Unasked.fetch_fst (aside : Unasked before after) (key : String) :
    (after.fetch key).1 = (before.fetch key).1 := by
  rw [fetch_eq, fetch_eq, aside.refuses, aside.calls, aside.store, aside.host]
  split <;> rfl

theorem Unasked.record (aside : Unasked before after) (call : Call) :
    Unasked (before.record call).2 (after.record call).2 where
  host := aside.host
  store := aside.store
  refuses := aside.refuses
  calls := by simp only [World.record, aside.refuses, aside.calls]

theorem Unasked.fetch_snd (aside : Unasked before after) (key : String) :
    Unasked (before.fetch key).2 (after.fetch key).2 := by
  have recorded := aside.record (.get key)
  rw [fetch_eq, fetch_eq, aside.refuses, aside.calls]
  split
  · exact recorded
  · exact ⟨⟨recorded.host, recorded.store⟩, recorded.refuses, recorded.calls⟩

theorem Unasked.names?_fst (aside : Unasked before after) (key : String) :
    (after.names? key).1 = (before.names? key).1 := by
  rw [World.names?_fst, World.names?_fst, aside.fetch_fst]

theorem Unasked.names?_snd (aside : Unasked before after) (key : String) :
    Unasked (before.names? key).2 (after.names? key).2 :=
  (before.unasked_names? key).symm.trans
    ((aside.fetch_snd key).trans (after.unasked_names? key))

/-- Dropping names does the same to the host if nothing was asked meanwhile. -/
theorem Unasked.host_forget (aside : Unasked before after) (key : String) :
    (after.forget key).2.host = (before.forget key).2.host := by
  rw [forget_eq, forget_eq, aside.refuses, aside.calls]
  split
  · exact aside.host
  · rw [aside.store, aside.host]
    cases before.store.remove before.host key with
    | ok left => rfl
    | error error => exact aside.host

end World

end ScriptRoster.Cache
