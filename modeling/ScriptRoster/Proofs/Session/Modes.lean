import ScriptRoster.Proofs.Session.Entries

/-!
# Entries of the two modes

Keys carry no mark of the mode that they were made in. A key without a time is one with a time if
and only if the text of its path ends in a dash and the time, and what stands before that is the
text of the other path. But for such pairs of scripts, sessions of different modes over one store
keep their entries apart.
-/

namespace ScriptRoster

open Cache Files Traffic

/-- The mode that is not this one. -/
def KeyMode.opposite : KeyMode → KeyMode
  | .modified => .fixed
  | .fixed => .modified

/-- The profile that differs in the mode of its keys. -/
def Profile.opposite (profile : Profile) : Profile :=
  { profile with keyMode := profile.keyMode.opposite }

/-- What sessions of a profile leave in a store that have listed some names for scripts, each at
some time of its last change. -/
def Profile.Leaves (profile : Profile) (listed : Path → Nat → List String → Prop) : Foreign :=
  fun key names => ∃ path time, listed path time names ∧
    key = keyAt profile.keyPrefix profile.keyMode path time

/-- Whether the text of a path is that of another one with a dash and a time behind it. -/
def Files.Path.IsTimed (path other : Path) (time : Nat) : Prop :=
  path.display = other.display ++ "-" ++ toString time

/-- Whether a script has, at present, the key that the opposite mode makes for another one. -/
def Profile.Meets (profile : Profile) (host : Host) (path other : Path) (time : Nat) : Prop :=
  match profile.keyMode with
  | .fixed => path.IsTimed other time
  | .modified => ∃ moment, scriptTime host path = .ok moment ∧ other.IsTimed path (keyTime moment)

/-! ## Keys -/

/-- A key without a time is one with a time if the path tells the time. -/
theorem keyAt_fixed_eq_modified {keyPrefix : String} {path other : Path} {any time : Nat} :
    keyAt keyPrefix .fixed path any = keyAt keyPrefix .modified other time ↔
      path.IsTimed other time := by
  rw [keyAt, keyAt, Files.Path.IsTimed]
  constructor
  · intro same
    have letters := congrArg String.toList same
    simp only [String.toList_append, List.append_assoc, List.append_cancel_left_eq] at letters
    apply String.toList_injective
    simpa only [String.toList_append, List.append_assoc] using letters
  · intro same
    rw [same]
    simp only [String.append_assoc]

theorem scriptKey_fixed_eq_modified {keyPrefix : String} {host later : Host} {path other : Path}
    {time : Int} (known : scriptTime later other = .ok time) :
    scriptKey keyPrefix .fixed host path = scriptKey keyPrefix .modified later other ↔
      path.IsTimed other (keyTime time) := by
  rw [scriptKey_fixed _ _ _ 0, scriptKey_modified, known, Except.ok.injEq, keyAt_fixed_eq_modified]

/-- A script that has the key which the opposite mode makes for another one meets it. -/
theorem Profile.meets_of_keyOf {profile : Profile} {host : Host} {path other : Path} {time : Nat}
    (made : profile.keyOf host path =
      .ok (keyAt profile.opposite.keyPrefix profile.opposite.keyMode other time)) :
    profile.Meets host path other time := by
  obtain ⟨keyPrefix, preference, mode, sources, interpreter⟩ := profile
  cases mode with
  | fixed =>
      rw [keyOf, scriptKey_fixed _ _ _ 0] at made
      exact keyAt_fixed_eq_modified.mp (Except.ok.inj made)
  | modified =>
      rw [keyOf, scriptKey_modified] at made
      split at made
      · next moment known =>
          exact ⟨moment, known, keyAt_fixed_eq_modified.mp (Except.ok.inj made).symm⟩
      · cases made

/-! ## Sessions -/

/-- The two modes make one key for two scripts if and only if the text of the path in the key
without a time is the text of the other path, a dash and the time of the last change in decimal. So
over a store into which sessions of the opposite mode have put entries, and others as well, a load
of a script that meets none of those entries asks the store for no key of theirs, and it is told no
names but those that were found in a script with its own path or that the others have put under its
own key. -/
theorem modes_keep_their_entries (profile : Profile) :
    (∀ (path other : String) (host later : Host) (time : Int),
      scriptTime later (.ofString other) = .ok time →
        (scriptKey profile.keyPrefix .fixed host (.ofString path) =
            scriptKey profile.keyPrefix .modified later (.ofString other) ↔
          path = other ++ "-" ++ toString (keyTime time))) ∧
    ∀ (listed : Path → Nat → List String → Prop) (others : Foreign) (before : Traffic) (index : Nat)
      (task : Task) (errand : Errand) (later : List Event),
      before.Reached profile
        (fun key names => profile.opposite.Leaves listed key names ∨ others key names) →
      before.tasks[index]? = some task → task.stage = .makeKey errand →
      (∀ path time names, listed path time names →
        ¬ profile.Meets before.scene.world.host errand.path path time) →
      Along Traffic.next
        (Admits fun key names => profile.opposite.Leaves listed key names ∨ others key names) before
        (.go index :: later) →
      let after := (Event.go index :: later).foldl Traffic.next before
      ∃ loading, after.tasks[index]? = some loading ∧
        after.scene.world.AsksFor (fun key => ∀ names, ¬ profile.opposite.Leaves listed key names)
          (loading.next after.scene).1.world ∧
        ∀ names, loading.stage.lists? = some names →
          (∃ home, home.display = errand.path.display ∧ Drawn profile after.reads home names) ∨
            ∃ key, profile.keyOf before.scene.world.host errand.path = .ok key ∧
              others key names := by
  constructor
  · intro path other host later time known
    rw [scriptKey_fixed_eq_modified known, Files.Path.IsTimed, Path.display_ofString,
      Path.display_ofString]
  · intro listed others before index task errand later reached there making unmet run after
    have apart : ∀ key names, profile.keyOf before.scene.world.host errand.path = .ok key →
        ¬ profile.opposite.Leaves listed key names := by
      rintro key names made ⟨path, time, left, rfl⟩
      exact unmet path time names left (Profile.meets_of_keyOf made)
    obtain ⟨loading, now, asks, comes⟩ :=
      (reached.tracks there making (fun _ => id) run).exists_loading
    refine ⟨loading, now, asks.mono fun key made names => apart key names made, ?_⟩
    intro names told
    rcases comes names told with drawn | ⟨key, made, (left | other) | ⟨home, makes, drawn⟩⟩
    · exact .inl ⟨errand.path, rfl, drawn⟩
    · exact absurd left (apart key names made)
    · exact .inr ⟨key, made, other⟩
    · exact .inl ⟨home, makes.display_eq (exists_keyAt_of_scriptKey made), drawn⟩

/-- A session loads a script when the store holds a name that a session of the opposite mode has
found in another script. -/
theorem modes_keep_their_entries_beside_another :
    ∃ (before : Traffic) (key own : String),
      (Profile.ofSettings .defaults).opposite.keyOf .withoutScript (.ofString "/t") = .ok key ∧
      before = .returning (.ofSettings .defaults)
        (.stocked key (.withScript "function B \x7b\x7d" 6)) ∧
      (Profile.ofSettings .defaults).keyOf before.scene.world.host onlyScript = .ok own ∧
      (∀ host, (Profile.ofSettings .defaults).opposite.keyOf host (.ofString "/t") ≠ .ok own) ∧
      let after := (List.replicate 13 (.go 0)).foldl Traffic.next before
      (∃ last, after.tasks = [last] ∧ last.stage.lists? = some ["B"]) ∧
        ∃ home, home.display = onlyScript.display ∧
          Drawn (.ofSettings .defaults) after.reads home ["B"] := by
  obtain ⟨-, told⟩ := modes_keep_their_entries (.ofSettings .defaults)
  obtain ⟨key, its⟩ : ∃ key,
      (Profile.ofSettings .defaults).opposite.keyOf .withoutScript (.ofString "/t") = .ok key :=
    ⟨_, rfl⟩
  have modified : (Profile.ofSettings .defaults).keyMode = .modified := rfl
  have host : (World.stocked key (.withScript "function B \x7b\x7d" 6)).host =
    .withScript "function B \x7b\x7d" 6 := rfl
  have time := Host.scriptTime_withScript "function B \x7b\x7d" 6
  have made := Profile.keyOf_of_scriptTime modified time
  have unmet : ∀ any, ¬ (Profile.ofSettings .defaults).Meets (.withScript "function B \x7b\x7d" 6)
      onlyScript (.ofString "/t") any := by
    rintro any ⟨moment, known, timed⟩
    cases time.symm.trans known
    revert timed
    rw [Path.IsTimed]
    decide +kernel
  obtain ⟨last, alone, lists⟩ := Traffic.lists_stocked fun same =>
    unmet 0 (Profile.meets_of_keyOf (same.trans its.symm))
  have stocked : ∀ other names,
      (World.stocked key (.withScript "function B \x7b\x7d" 6)).HoldsNames other names →
        (Profile.ofSettings .defaults).opposite.Leaves (fun path _ _ => path = .ofString "/t") other
          names ∨ False := by
    intro other names held
    rw [(World.holdsNames_stocked held).1]
    exact .inl ⟨_, 0, rfl, (Except.ok.inj its).symm⟩
  obtain ⟨reached, run⟩ := Traffic.reached_returning (.ofSettings .defaults) host stocked
  obtain ⟨same, task, errand, there, making, path⟩ :=
    Traffic.makes_returning (.ofSettings .defaults) host
  obtain ⟨loading, ends, -, tells⟩ := told (fun path _ _ => path = .ofString "/t")
    (fun _ _ => False) _ 0 task errand (List.replicate 12 (.go 0)) reached there making
    (by
      rintro other any - rfl
      rw [same, path]
      exact unmet any)
    (run 13)
  cases (congrArg (·[0]?) alone).symm.trans ends
  refine ⟨_, key, _, its, rfl, by rw [same]; exact made, ?_, ⟨last, alone, lists⟩, ?_⟩
  · intro other again
    exact unmet 0 (Profile.meets_of_keyOf (made.trans again.symm))
  · rw [← path]
    rcases tells _ lists with drawn | ⟨-, -, foreign⟩
    · exact drawn
    · exact foreign.elim

/-- A script whose name ends in a dash and the time of the last change of another one has, without
times, the key that the other one has with its time. So a session that lists the other script is
answered with the name that a session of the opposite mode has found in the first one. -/
theorem modes_share_an_entry_at_a_timed_name :
    ∃ key,
      (Profile.ofSettings .defaults).opposite.keyOf .withoutScript (.ofString "/s-6") = .ok key ∧
      scriptTime (.withScript "function B \x7b\x7d" 6) onlyScript = .ok 6 ∧
      (Profile.ofSettings .defaults).keyOf (.withScript "function B \x7b\x7d" 6) onlyScript =
        .ok key ∧
      ∃ last, ((List.replicate 13 (.go 0)).foldl Traffic.next (.returning (.ofSettings .defaults)
        (.stocked key (.withScript "function B \x7b\x7d" 6)))).tasks = [last] ∧
          last.stage.lists? = some ["A"] := by
  have time := Host.scriptTime_withScript "function B \x7b\x7d" 6
  have modified : (Profile.ofSettings .defaults).keyMode = .modified := rfl
  have present := Profile.keyOf_of_scriptTime modified time
  have timed : (Path.ofString "/s-6").IsTimed onlyScript (keyTime 6) := by
    rw [Path.IsTimed]
    decide +kernel
  have shared : scriptKey defaultKeyPrefix .fixed .withoutScript (.ofString "/s-6") =
      scriptKey defaultKeyPrefix .modified _ onlyScript :=
    (scriptKey_fixed_eq_modified time).mpr timed
  refine ⟨_, shared.trans present, time, present, ?_⟩
  have host : ∀ key, (World.stocked key (.withScript "function B \x7b\x7d" 6)).host =
    .withScript "function B \x7b\x7d" 6 := fun _ => rfl
  obtain ⟨result, begun, after, request, cancelled, aside, loads, ends⟩ :=
    Traffic.loads_returning (.ofSettings .defaults) (host _)
  have obliging : begun.Obliging := .of_refuses (fun _ _ => rfl) aside.refuses
  refine ⟨_, ends, ?_⟩
  rw [loads.result_of_held obliging (by rw [aside.host]; exact present)
    (aside.holdsNames_iff.mpr World.holdsNames_stock)]
  rfl

end ScriptRoster
