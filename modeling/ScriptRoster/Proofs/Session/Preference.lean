import ScriptRoster.Proofs.Session.Alone
import ScriptRoster.Proofs.Session.OneScript

/-!
# Preferences over a common store

Keys do not tell how a list was made. Where sessions with different preferences share a store, the
one that loads second is handed what the first one found, and extracts the script itself only if
there is nothing to hand out.
-/

namespace ScriptRoster

open Cache Files

section Relay

variable {first second : Profile} {path : Path} {kind : LoadKind} {key content : String}
  {before between middle after : World} {result final : Except ExtractionError Report}

theorem drawAt_of_read (profile : Profile) {host : Host}
    (read : readScript host.files host.cwd path = .ok content) :
    profile.drawAt host path = profile.draw content := by
  rw [Profile.drawAt, read]
  rfl

theorem keyOf_congr (keyPrefix : second.keyPrefix = first.keyPrefix)
    (keyMode : second.keyMode = first.keyMode) (host : Host) (path : Path) :
    second.keyOf host path = first.keyOf host path := by
  rw [Profile.keyOf, Profile.keyOf, keyPrefix, keyMode]

/-- Who asks the cache after another load of the script finds what is in the script, or is handed
what the other found, or what was there before. -/
theorem relay_cases (keyOf : second.keyOf middle.host path = first.keyOf before.host path)
    (read : readScript before.host.files before.host.cwd path = .ok content)
    (still : readScript middle.host.files middle.host.cwd path = .ok content)
    (apart : kind = .reload → ∀ key, first.keyOf before.host path = .ok key →
      before.store.Apart before.host key path)
    (loads : Loads first path kind before result between) (same : World.SameStock between middle)
    (again : Loads second path .cached middle final after) :
    final = second.draw content ∨
      ∃ names, final = .ok ⟨names, .cache⟩ ∧
        ((first.draw content).map Report.names = .ok names ∨
          ∃ key, first.keyOf before.host path = .ok key ∧ before.HoldsNames key names) := by
  rcases again.result_or_held with drawn | ⟨key, names, made, held, handed⟩
  · rw [drawAt_of_read second still] at drawn
    exact .inl drawn
  · refine .inr ⟨names, handed, ?_⟩
    rw [keyOf] at made
    rcases loads.holdsNames read apart (same.holdsNames_iff.mp held) with earlier | ⟨-, drawn⟩
    · exact .inr ⟨key, made, earlier⟩
    · exact .inl drawn

/-- Over a store in memory that refuses nothing and held nothing for the script, who asks the cache
second is handed what the first one found, if it found anything. -/
theorem relay_exact (keyOf : second.keyOf middle.host path = first.keyOf before.host path)
    (read : readScript before.host.files before.host.cwd path = .ok content)
    (still : readScript middle.host.files middle.host.cwd path = .ok content)
    (memory : before.InMemory) (obliging : before.Obliging)
    (made : first.keyOf before.host path = .ok key)
    (nothing : ∀ names, ¬ before.HoldsNames key names)
    (loads : Loads first path kind before result between)
    (aside : World.Unasked between middle)
    (again : Loads second path .cached middle final after) :
    final =
      match first.draw content with
      | .ok report => .ok ⟨report.names, .cache⟩
      | .error _ => second.draw content := by
  have apart : kind = .reload → ∀ key, first.keyOf before.host path = .ok key →
      before.store.Apart before.host key path := by
    obtain ⟨entries, store⟩ := memory
    intro _ key _
    rw [store]
    trivial
  have drawn := drawAt_of_read first read
  cases found : first.draw content with
  | ok report =>
      have stored := loads.stores memory obliging made nothing (drawn.trans found)
      have willing := (obliging.of_refuses loads.refuses).of_refuses aside.refuses
      exact again.result_of_held willing (keyOf.trans made) (aside.holdsNames_iff.mpr stored)
  | error error =>
      rcases relay_cases keyOf read still apart loads aside.toSameStock again with
        fresh | ⟨names, -, inScript | ⟨other, known, held⟩⟩
      · exact fresh
      · rw [found] at inScript
        cases inScript
      · cases made.symm.trans known
        exact absurd held (nothing names)

end Relay

/-- The default profile, but for the preference. -/
def Profile.preferring (preference : Preference) : Profile :=
  { Profile.ofSettings .defaults with preference }

theorem exists_keyOf_withScript (profile : Profile) (content : String) (modified : Int) :
    ∃ key, profile.keyOf (.withScript content modified) onlyScript = .ok key := by
  rw [Profile.keyOf]
  cases profile.keyMode with
  | fixed => exact ⟨_, scriptKey_fixed _ _ _ 0⟩
  | modified =>
      rw [scriptKey_modified, Host.scriptTime_withScript]
      exact ⟨_, rfl⟩

/-- Two new sessions configure the only script over an empty store, one after the other: what the
second one finds. -/
theorem second_configure (content : String) (modified : Int) (preference other : Preference)
    {left : Session} {world after : World} {answer : Option Answer}
    (bare : world = .bare (.withScript content modified))
    (performed : Scene.perform ⟨.start (.preferring preference), world⟩ (.configure "/s" false)
      false = (⟨left, after⟩, answer)) :
    (Scene.perform ⟨.start (.preferring other), after⟩ (.configure "/s" false) false).2 =
      some (.loaded (Except.mapError .extraction
        (match (Profile.preferring preference).draw (dropMark content) with
          | .ok report => .ok ⟨report.names, .cache⟩
          | .error _ => (Profile.preferring other).draw (dropMark content)))) := by
  have host : world.host = .withScript content modified := by rw [bare]; rfl
  have memory : world.InMemory := ⟨[], by rw [bare]; rfl⟩
  have obliging : world.Obliging := by
    intro count call
    rw [bare]
    rfl
  obtain ⟨found, start, ended, promises, aside, loads, performs⟩ :=
    Scene.perform_asks ⟨.start (.preferring preference), world⟩ false rfl
      (Session.asks_withScript _ content modified false host)
  obtain rfl : after = ended := by
    rw [performed] at performs
    simp only [Prod.mk.injEq, Scene.mk.injEq] at performs
    exact performs.1.2
  have startHost : start.host = .withScript content modified := aside.host.trans host
  have afterHost : after.host = .withScript content modified :=
    (loads.remembers (aside.remembers memory).inMemory).host.trans startHost
  obtain ⟨result, restart, final, _, asideToo, loadsToo, performsToo⟩ :=
    Scene.perform_asks ⟨.start (.preferring other), after⟩ false rfl
      (Session.asks_withScript _ content modified false afterHost)
  have restartHost : restart.host = .withScript content modified := asideToo.host.trans afterHost
  obtain ⟨key, made⟩ := exists_keyOf_withScript (.preferring preference) content modified
  rw [← startHost] at made
  rw [performsToo]
  refine congrArg (fun result => some (Answer.loaded (Except.mapError .extraction result))) ?_
  refine relay_exact ?_ ?_ ?_ (aside.remembers memory).inMemory ?_ made ?_ loads asideToo loadsToo
  · rw [startHost, restartHost]
    exact keyOf_congr rfl rfl _ _
  · rw [startHost]
    exact Host.readScript_withScript content modified
  · rw [restartHost]
    exact Host.readScript_withScript content modified
  · exact obliging.of_refuses aside.refuses
  · intro names held
    rw [bare] at aside
    exact World.not_holdsNames_bare (aside.holdsNames_iff.mp held)

/-- A session that asks the cache for a script which another one has loaded over the same store
tells what its own preference finds in the script, or it tells, as names from the cache, what the
other's preference found or what the store held before. Over a store in memory that refuses nothing
and held nothing for the script, it tells the names that the other's preference found, if it found
any. -/
theorem second_load_over_common_store (first second : Session) {left base later : Session}
    {world after : World} {request again : Request} {kind : LoadKind} {location there : Location}
    {answer : Option Answer} {content : String}
    (keyPrefix : second.profile.keyPrefix = first.profile.keyPrefix)
    (keyMode : second.profile.keyMode = first.profile.keyMode)
    (quiet : first.inFlight = []) (quietToo : second.inFlight = [])
    (asks : first.Asks world.host request kind location base)
    (read : readScript world.host.files world.host.cwd location.resolved = .ok content)
    (apart : kind = .reload → ∀ key, first.profile.keyOf world.host location.resolved = .ok key →
      world.store.Apart world.host key location.resolved)
    (performed : Scene.perform ⟨first, world⟩ request false = (⟨left, after⟩, answer))
    (asksAgain : second.Asks after.host again .cached there later)
    (samePath : there.resolved = location.resolved)
    (still : readScript after.host.files after.host.cwd location.resolved = .ok content)
    (sameKey : first.profile.keyOf after.host location.resolved =
      first.profile.keyOf world.host location.resolved) :
    ∃ result,
      (Scene.perform ⟨second, after⟩ again false).2 =
        some (.loaded (result.mapError .extraction)) ∧
      (result = second.profile.draw content ∨
        ∃ names, result = .ok ⟨names, .cache⟩ ∧
          ((first.profile.draw content).map Report.names = .ok names ∨
            ∃ key, first.profile.keyOf world.host location.resolved = .ok key ∧
              world.HoldsNames key names)) ∧
      (world.InMemory → world.Obliging →
        ∀ key, first.profile.keyOf world.host location.resolved = .ok key →
          (∀ names, ¬ world.HoldsNames key names) →
            result =
              match first.profile.draw content with
              | .ok report => .ok ⟨report.names, .cache⟩
              | .error _ => second.profile.draw content) := by
  obtain ⟨found, start, ended, promises, aside, loads, performs⟩ :=
    Scene.perform_asks ⟨first, world⟩ false quiet asks
  obtain ⟨result, restart, final, _, asideToo, loadsToo, performsToo⟩ :=
    Scene.perform_asks ⟨second, after⟩ false quietToo asksAgain
  obtain ⟨rfl, -⟩ : after = ended ∧ answer = some _ := by
    rw [performed] at performs
    simp only [Prod.mk.injEq, Scene.mk.injEq] at performs
    exact ⟨performs.1.2, performs.2⟩
  have host : start.host = world.host := aside.host
  have store : start.store = world.store := aside.store
  have hostToo : restart.host = after.host := asideToo.host
  have keyOf : second.profile.keyOf restart.host location.resolved =
      first.profile.keyOf start.host location.resolved := by
    rw [hostToo, keyOf_congr keyPrefix keyMode, sameKey, host]
  rw [samePath] at loadsToo
  rw [← host] at read
  rw [← hostToo] at still
  refine ⟨result, by rw [performsToo]; rfl, ?_, ?_⟩
  · rcases relay_cases keyOf read still (by rw [host, store]; exact apart) loads
      asideToo.toSameStock loadsToo with drawn | ⟨names, handed, inScript | ⟨key, made, held⟩⟩
    · exact .inl drawn
    · exact .inr ⟨names, handed, .inl inScript⟩
    · rw [host] at made
      exact .inr ⟨names, handed, .inr ⟨key, made, aside.holdsNames_iff.mp held⟩⟩
  · intro memory obliging key made nothing
    refine relay_exact keyOf read still (aside.remembers memory).inMemory ?_
      (by rw [host]; exact made) ?_ loads asideToo loadsToo
    · exact obliging.of_refuses aside.refuses
    · intro names held
      exact nothing names (aside.holdsNames_iff.mp held)

/-- A session that wants to read syntax only is handed, from the cache, the list of a script whose
syntax is faulty. -/
theorem second_load_over_common_store_faulty :
    (Scene.perform
        ⟨.start (.preferring .structural),
          (Scene.perform ⟨.start (.preferring .textual), .bare (.withScript "function A\x7b" 5)⟩
            (.configure "/s" false) false).1.world⟩
        (.configure "/s" false) false).2 =
      some (.loaded (.ok ⟨["A"], .cache⟩)) := by
  cases performed : Scene.perform
      ⟨.start (.preferring .textual), .bare (.withScript "function A\x7b" 5)⟩
      (.configure "/s" false) false with
  | mk scene answer =>
      have before :
          (World.bare (.withScript "function A\x7b" 5)).host = .withScript "function A\x7b" 5 := rfl
      have host : scene.world.host = .withScript "function A\x7b" 5 := by
        have same := Scene.remembers_withScript "function A\x7b" 5
          (.start (.preferring .textual)) false rfl before ⟨[], rfl⟩
        rw [performed] at same
        exact same.host
      obtain ⟨key, made⟩ := exists_keyOf_withScript (.preferring .textual) "function A\x7b" 5
      have listed : (Profile.preferring .textual).draw (dropMark "function A\x7b") =
          .ok ⟨["A"], .extracted .textual⟩ := by decide +kernel
      have asks := Session.asks_withScript (.start (.preferring .textual)) _ _ false before
      have asksAgain := Session.asks_withScript (.start (.preferring .structural)) _ _ false host
      obtain ⟨result, told, -, handed⟩ := second_load_over_common_store
        (.start (.preferring .textual)) (.start (.preferring .structural)) rfl rfl rfl rfl asks
        (Host.readScript_withScript _ _) nofun performed asksAgain rfl
        (by rw [host]; exact Host.readScript_withScript _ _) (by rw [host]; rfl)
      rw [told, handed ⟨[], rfl⟩ (fun _ _ => rfl) key made (fun _ => World.not_holdsNames_bare)]
      simp only [Session.start, listed]
      rfl

/-- The preference of a session does not govern what it lists: a script whose syntax is faulty is
listed, from the cache, by a session that wants to read syntax only. -/
theorem preference_does_not_govern :
    ¬ ∀ (content : String) (preference other : Preference) (left : Session) (after : World)
      (answer : Option Answer),
      Scene.perform ⟨.start (.preferring preference), .bare (.withScript content 5)⟩
          (.configure "/s" false) false = (⟨left, after⟩, answer) →
        ∃ result : Except ExtractionError Report,
          (Scene.perform ⟨.start (.preferring other), after⟩ (.configure "/s" false) false).2 =
              some (.loaded (result.mapError .extraction)) ∧
            result.map Report.names =
              ((Profile.preferring other).draw (dropMark content)).map Report.names := by
  intro governs
  cases performed : Scene.perform
      ⟨.start (.preferring .textual), .bare (.withScript "function A\x7b" 5)⟩
      (.configure "/s" false) false with
  | mk scene answer =>
      obtain ⟨result, told, same⟩ :=
        governs "function A\x7b" .textual .structural scene.session scene.world answer performed
      have handed := second_configure "function A\x7b" 5 .textual .structural rfl performed
      have listed : (Profile.preferring .textual).draw (dropMark "function A\x7b") =
          .ok ⟨["A"], .extracted .textual⟩ := by decide +kernel
      have faulty : (Profile.preferring .structural).draw (dropMark "function A\x7b") =
          .error (.exhausted [(.structural, .fault 1)]) := by decide +kernel
      rw [handed, listed] at told
      rw [faulty] at same
      cases result with
      | error error => cases told
      | ok report => cases same

end ScriptRoster
