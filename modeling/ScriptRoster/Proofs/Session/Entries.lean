import ScriptRoster.Proofs.Session.Provenance

/-!
# Entries of their own

Loads share an entry of the store, and a promise, only if their scripts have the same key: if the paths
are displayed alike and, where keys tell the time, the scripts were last changed at the same time. All
times up to the start of 1970 count as one.
-/

namespace ScriptRoster

open Cache Files Traffic

/-! ## Coming back to a script -/

/-- Surroundings with the only script and a store in memory that holds a name under some key. -/
def Cache.World.stocked (key : String) (host : Host) : World :=
  { World.bare host with store := .memory [(key, Json.listText ["A"])] }

theorem Cache.World.holdsNames_stock {key : String} {host : Host} :
    (World.stocked key host).HoldsNames key ["A"] :=
  ⟨Json.listText ["A"], congrArg Except.ok List.lookup_cons_self, Json.strings_listText ["A"]⟩

theorem Cache.World.holdsNames_stocked {key other : String} {host : Host} {names : List String}
    (held : (World.stocked key host).HoldsNames other names) : other = key ∧ names = ["A"] := by
  obtain ⟨payload, holds, parsed⟩ := held
  have there : [(key, Json.listText ["A"])].lookup other = some payload := Except.ok.inj holds
  rw [List.lookup_cons] at there
  split at there
  · next same =>
      cases there
      rw [Json.strings_listText] at parsed
      exact ⟨beq_iff_eq.mp same, (Except.ok.inj parsed).symm⟩
  · cases there

namespace Traffic

variable {profile : Profile} {world : World} {content : String} {modified : Int}

/-- A session that has been pointed at the only script and is about to make the key for its load. -/
def returning (profile : Profile) (world : World) : Traffic :=
  (.ask (.configure "/s" false) :: List.replicate 4 (.go 0)).foldl next
    (quiet ⟨.start profile, world⟩)

theorem reached_returning (profile : Profile) {foreign : Foreign}
    (host : world.host = .withScript content modified)
    (stocked : ∀ key names, world.HoldsNames key names → foreign key names) :
    (returning profile world).Reached profile foreign ∧
      ∀ n, Along next (Admits foreign) (returning profile world) (List.replicate n (.go 0)) := by
  have located := Host.resolve_of_eq_withScript host
  have whole : ∀ n, Along next (Admits foreign) (quiet ⟨.start profile, world⟩)
      ((.ask (.configure "/s" false) :: List.replicate 4 (.go 0)) ++ List.replicate n (.go 0)) := by
    intro n
    rw [List.cons_append, List.replicate_append_replicate, Nat.add_comm 4 n]
    refine ⟨trivial, ?_⟩
    rw [next_ask_quiet]
    apply Along.mono fun _ _ => May.admits
    exact along_configure ⟨.start profile, world⟩ located Host.isText_onlyScript false (n + 2)
  exact ⟨⟨world, _, stocked, (along_append.mp (whole 0)).1, rfl⟩,
    fun n => (along_append.mp (whole n)).2⟩

/-- Before it begins to load, it only has to find the script. -/
theorem exists_returning (profile : Profile) (host : world.host = .withScript content modified) :
    ∃ session later, World.Unasked world later ∧ session.profile = profile ∧
      session.inFlight = [] ∧ session.path = .ready ⟨"/s", onlyScript⟩ ∧
      returning profile world = next
        ⟨⟨session, later⟩, [⟨.configure "/s" false, .startLoad .cached, false⟩], []⟩ (.go 0) := by
  have located := Host.resolve_of_eq_withScript host
  have asked : (Request.configure "/s" false).target? = some ("/s", some .cached) := rfl
  have there : [Task.ofRequest (.configure "/s" false) false][0]? = some _ := rfl
  obtain ⟨later, aside, pointed⟩ := points (.start profile) world _ [] asked there
  rw [located] at pointed
  refine ⟨(Session.start profile).pointed "/s" (.ok ⟨"/s", onlyScript⟩), later, aside, rfl, rfl, rfl,
    ?_⟩
  rw [returning, List.foldl_cons, next_ask_quiet, List.replicate_succ', List.foldl_append, pointed]
  rfl

theorem makes_returning (profile : Profile) (host : world.host = .withScript content modified) :
    (returning profile world).scene.world.host = world.host ∧ ∃ task errand,
      (returning profile world).tasks[0]? = some task ∧ task.stage = .makeKey errand ∧
        errand.path = onlyScript := by
  obtain ⟨session, later, aside, -, -, ready, returns⟩ := exists_returning profile host
  have begun : (Task.mk (.configure "/s" false) (.startLoad .cached) false).next ⟨session, later⟩ = _ :=
    Scene.startLoad_ready ⟨session, later⟩ ready
  rw [returns, go_first begun rfl]
  exact ⟨aside.host, _, _, rfl, rfl, rfl⟩

/-- It does nothing but load the script. -/
theorem loads_returning (profile : Profile) (host : world.host = .withScript content modified) :
    ∃ result before after request cancelled, World.Unasked world before ∧
      Loads profile onlyScript .cached before result after ∧
      ((List.replicate 13 (.go 0)).foldl next (returning profile world)).tasks =
        [⟨request, .done (.loaded (result.mapError .extraction)), cancelled⟩] := by
  obtain ⟨session, before, aside, rfl, quiet, ready, returns⟩ :=
    exists_returning profile host
  obtain ⟨result, after, promises, loads, reaches⟩ :=
    Task.reaches_answer ⟨.configure "/s" false, .startLoad .cached, false⟩ ⟨session, before⟩
      (.startLoad .cached) .cached rfl rfl quiet ready
  have begun : [Task.mk (.configure "/s" false) (.startLoad .cached) false][0]? = some _ := rfl
  obtain ⟨more, ended⟩ : ∃ more, (List.replicate 14 (.go 0)).foldl next
      ⟨⟨session, before⟩, [⟨.configure "/s" false, .startLoad .cached, false⟩], []⟩ = ⟨_, _, more⟩ :=
    reaches.traffic rfl (by omega) begun
  refine ⟨result, before, after, .configure "/s" false, false, aside, loads, ?_⟩
  rw [returns, ← List.foldl_cons, ← List.replicate_succ, ended]
  rfl

/-- Where the store holds nothing under its key, it is told what is in the script. -/
theorem lists_returning (host : world.host = .withScript content modified) {report : Report}
    (drawn : profile.draw (dropMark content) = .ok report)
    (unheld : ∀ key names, profile.keyOf world.host onlyScript = .ok key →
      ¬ world.HoldsNames key names) :
    ∃ task, ((List.replicate 13 (.go 0)).foldl next (returning profile world)).tasks = [task] ∧
      task.stage.lists? = some report.names := by
  obtain ⟨result, before, after, request, cancelled, aside, loads, ends⟩ :=
    loads_returning profile host
  refine ⟨_, ends, ?_⟩
  rcases loads.result_or_held with found | ⟨key, names, made, held, -⟩
  · rw [aside.host, host, Host.drawAt_withScript, drawn] at found
    rw [found]
    rfl
  · rw [aside.host] at made
    exact absurd (aside.holdsNames_iff.mp held) (unheld key names made)

/-- Where the store holds a name under another key, the name that is in the script is told. -/
theorem lists_stocked {key : String}
    (apart : (Profile.ofSettings .defaults).keyOf (.withScript "function B \x7b\x7d" 6) onlyScript ≠
      .ok key) :
    ∃ task, ((List.replicate 13 (.go 0)).foldl next (returning (.ofSettings .defaults)
        (.stocked key (.withScript "function B \x7b\x7d" 6)))).tasks = [task] ∧
      task.stage.lists? = some ["B"] := by
  have inScript : (Profile.ofSettings .defaults).draw (dropMark "function B \x7b\x7d") =
      .ok ⟨["B"], .extracted .structural⟩ := by decide +kernel
  have host : (World.stocked key (.withScript "function B \x7b\x7d" 6)).host =
    .withScript "function B \x7b\x7d" 6 := rfl
  apply lists_returning host inScript
  intro own names made held
  rw [host, (World.holdsNames_stocked held).1] at made
  exact apart made

end Traffic

/-! ## Edits -/

theorem keyTime_inj {time moment : Int} (recent : 0 < time ∨ 0 < moment)
    (same : keyTime time = keyTime moment) : time = moment := by
  unfold keyTime at same
  omega

/-- An edit that moves the time of the last change gives the script another key, unless neither time is
after the start of 1970. From then on a load of the script asks the store for nothing but the present
key, and if it is told names, they were found in a script with the present key or put under it from
elsewhere. -/
theorem edits_leave_their_entries (profile : Profile) (modified : profile.keyMode = .modified)
    (path : Path) {time moment : Int} (differ : time ≠ moment) (recent : 0 < time ∨ 0 < moment) :
    ∃ earlier present, earlier ≠ present ∧
      (∀ host, scriptTime host path = .ok time → profile.keyOf host path = .ok earlier) ∧
      (∀ host, scriptTime host path = .ok moment → profile.keyOf host path = .ok present) ∧
      ∀ (foreign : Foreign) (before : Traffic) (index : Nat) (task : Task) (errand : Errand)
        (later : List Event), before.Reached profile foreign →
        before.tasks[index]? = some task → task.stage = .makeKey errand → errand.path = path →
        scriptTime before.scene.world.host path = .ok moment →
        Along Traffic.next (Admits foreign) before (.go index :: later) →
        let after := (Event.go index :: later).foldl Traffic.next before
        ∃ loading, after.tasks[index]? = some loading ∧
          after.scene.world.AsksFor (· = present) (loading.next after.scene).1.world ∧
          ∀ names, loading.stage.lists? = some names →
            foreign present names ∨
              ∃ home, profile.Makes home present ∧ Drawn profile after.reads home names := by
  refine ⟨keyAt profile.keyPrefix profile.keyMode path (keyTime time),
    keyAt profile.keyPrefix profile.keyMode path (keyTime moment), ?_, ?_, ?_, ?_⟩
  · intro same
    exact differ (keyTime_inj recent ((keyAt_eq_iff.mp same).2 modified))
  · exact fun host known => Profile.keyOf_of_scriptTime modified known
  · exact fun host known => Profile.keyOf_of_scriptTime modified known
  · rintro foreign before index task errand later reached there making rfl known run after
    have made : ∀ key, profile.keyOf before.scene.world.host errand.path = .ok key →
        key = keyAt profile.keyPrefix profile.keyMode errand.path (keyTime moment) := by
      intro key made
      rw [Profile.keyOf_of_scriptTime modified known] at made
      exact (Except.ok.inj made).symm
    obtain ⟨loading, now, asks, comes⟩ := (reached.tracks there making made run).exists_loading
    refine ⟨loading, now, asks, ?_⟩
    intro names told
    rcases comes names told with drawn | ⟨key, rfl, tells⟩
    · exact .inr ⟨errand.path, ⟨_, rfl⟩, drawn⟩
    · exact tells

/-- A session comes back to a script after an edit, when the store still holds the name that was in
the script before. -/
theorem edits_leave_their_entries_returning :
    ∃ (before : Traffic) (earlier present : String),
      earlier ≠ present ∧
      (Profile.ofSettings .defaults).keyOf (.withScript "function A \x7b\x7d" 5) onlyScript =
        .ok earlier ∧
      before = .returning (.ofSettings .defaults)
        (.stocked earlier (.withScript "function B \x7b\x7d" 6)) ∧
      let after := (List.replicate 13 (.go 0)).foldl Traffic.next before
      (∃ last, after.tasks = [last] ∧ last.stage.lists? = some ["B"]) ∧
        ∃ home, (Profile.ofSettings .defaults).Makes home present ∧
          Drawn (.ofSettings .defaults) after.reads home ["B"] := by
  obtain ⟨earlier, present, differ, before, now, told⟩ := edits_leave_their_entries
    (.ofSettings .defaults) rfl onlyScript (show (5 : Int) ≠ 6 by decide) (by decide)
  have host : (World.stocked earlier (.withScript "function B \x7b\x7d" 6)).host =
    .withScript "function B \x7b\x7d" 6 := rfl
  have time := Host.scriptTime_withScript "function B \x7b\x7d" 6
  obtain ⟨last, alone, lists⟩ := Traffic.lists_stocked fun same =>
    differ (Except.ok.inj (same.symm.trans (now _ time)))
  obtain ⟨reached, run⟩ := Traffic.reached_returning (.ofSettings .defaults) host
    fun _ _ => World.holdsNames_stocked
  obtain ⟨same, task, errand, there, making, path⟩ :=
    Traffic.makes_returning (.ofSettings .defaults) host
  obtain ⟨loading, ends, -, tells⟩ := told _ _ 0 task errand (List.replicate 12 (.go 0)) reached there
    making path (by rw [same, host, time]) (run 13)
  cases (congrArg (·[0]?) alone).symm.trans ends
  refine ⟨_, earlier, present, differ, before _ (Host.scriptTime_withScript _ _), rfl,
    ⟨last, alone, lists⟩, ?_⟩
  rcases tells _ lists with ⟨-, other⟩ | drawn
  · exact absurd other (by decide)
  · exact drawn

/-- An edit before 1970 leaves a script the key that it had, and so a session that comes back to it is
answered with the name that was in the script before. -/
theorem edits_share_an_entry_before_1970 :
    ∃ key, scriptTime (.withScript "function A \x7b\x7d" (-2000)) onlyScript = .ok (-2000) ∧
      scriptTime (.withScript "function B \x7b\x7d" (-1000)) onlyScript = .ok (-1000) ∧
      (Profile.ofSettings .defaults).keyOf (.withScript "function A \x7b\x7d" (-2000)) onlyScript =
        .ok key ∧
      (Profile.ofSettings .defaults).keyOf (.withScript "function B \x7b\x7d" (-1000)) onlyScript =
        .ok key ∧
      ∃ last, ((List.replicate 13 (.go 0)).foldl Traffic.next (.returning (.ofSettings .defaults)
        (.stocked key (.withScript "function B \x7b\x7d" (-1000))))).tasks = [last] ∧
          last.stage.lists? = some ["A"] := by
  have before := Host.scriptTime_withScript "function A \x7b\x7d" (-2000)
  have now := Host.scriptTime_withScript "function B \x7b\x7d" (-1000)
  have modified : (Profile.ofSettings .defaults).keyMode = .modified := rfl
  have earlier := Profile.keyOf_of_scriptTime modified before
  have present := Profile.keyOf_of_scriptTime modified now
  refine ⟨_, before, now, earlier, present, ?_⟩
  have host : ∀ key, (World.stocked key (.withScript "function B \x7b\x7d" (-1000))).host =
    .withScript "function B \x7b\x7d" (-1000) := fun _ => rfl
  obtain ⟨result, begun, after, request, cancelled, aside, loads, ends⟩ :=
    Traffic.loads_returning (.ofSettings .defaults) (host _)
  have obliging : begun.Obliging := .of_refuses (fun _ _ => rfl) aside.refuses
  refine ⟨_, ends, ?_⟩
  rw [loads.result_of_held obliging (by rw [aside.host]; exact present)
    (aside.holdsNames_iff.mpr World.holdsNames_stock)]
  rfl

/-! ## Scripts -/

theorem Profile.Makes.display_eq {profile : Profile} {path other : Path} {key : String}
    (makes : profile.Makes path key) (too : profile.Makes other key) :
    path.display = other.display := by
  obtain ⟨time, rfl⟩ := makes
  obtain ⟨moment, same⟩ := too
  exact (keyAt_eq_iff.mp same).1

/-- Scripts whose paths are displayed otherwise have no key in common, whatever the mode and the times;
all paths that are text are displayed otherwise. So a load is told no names but those that were found
in a script whose path is displayed like its own, or that were put under a key of its own from
elsewhere, and it asks the store for no key of another script. -/
theorem scripts_keep_their_entries (profile : Profile) :
    (∀ path other : Path, path.IsText → other.IsText → path ≠ other →
      path.display ≠ other.display) ∧
    (∀ path other host later key, path.display ≠ other.display →
      profile.keyOf host path = .ok key → profile.keyOf later other ≠ .ok key) ∧
    ∀ (foreign : Foreign) (before : Traffic) (index : Nat) (task : Task) (errand : Errand)
      (later : List Event), before.Reached profile foreign →
      before.tasks[index]? = some task → task.stage = .makeKey errand →
      Along Traffic.next (Admits foreign) before (.go index :: later) →
      let after := (Event.go index :: later).foldl Traffic.next before
      ∃ loading, after.tasks[index]? = some loading ∧
        after.scene.world.AsksFor (profile.Makes errand.path) (loading.next after.scene).1.world ∧
        ∀ names, loading.stage.lists? = some names →
          (∃ home, home.display = errand.path.display ∧ Drawn profile after.reads home names) ∨
            ∃ key, profile.Makes errand.path key ∧ foreign key names := by
  refine ⟨?_, ?_, ?_⟩
  · exact fun path other text otherText differ same => differ (text.display_inj otherText same)
  · intro path other host later key differ made too
    have makes : profile.Makes path key := exists_keyAt_of_scriptKey made
    exact differ (makes.display_eq (exists_keyAt_of_scriptKey too))
  · intro foreign before index task errand later reached there making run after
    have makes : ∀ key, profile.keyOf before.scene.world.host errand.path = .ok key →
        profile.Makes errand.path key := fun key made => exists_keyAt_of_scriptKey made
    obtain ⟨loading, now, asks, comes⟩ := (reached.tracks there making makes run).exists_loading
    refine ⟨loading, now, asks, ?_⟩
    intro names told
    rcases comes names told with drawn | ⟨key, makes, elsewhere | ⟨home, too, drawn⟩⟩
    · exact .inl ⟨errand.path, rfl, drawn⟩
    · exact .inr ⟨key, makes, elsewhere⟩
    · exact .inl ⟨home, too.display_eq makes, drawn⟩

/-- A session loads a script when the store holds a name that was found in another one. -/
theorem scripts_keep_their_entries_beside_another :
    ∃ (before : Traffic) (key own : String),
      (Profile.ofSettings .defaults).Makes (.ofString "/t") key ∧
      before = .returning (.ofSettings .defaults)
        (.stocked key (.withScript "function B \x7b\x7d" 6)) ∧
      (Profile.ofSettings .defaults).keyOf before.scene.world.host onlyScript = .ok own ∧
      (∀ later, (Profile.ofSettings .defaults).keyOf later (.ofString "/t") ≠ .ok own) ∧
      let after := (List.replicate 13 (.go 0)).foldl Traffic.next before
      (∃ last, after.tasks = [last] ∧ last.stage.lists? = some ["B"]) ∧
        ∃ home, home.display = onlyScript.display ∧
          Drawn (.ofSettings .defaults) after.reads home ["B"] := by
  obtain ⟨texts, apart, told⟩ := scripts_keep_their_entries (.ofSettings .defaults)
  have differ := texts onlyScript (.ofString "/t") Host.isText_onlyScript ⟨"/t", rfl⟩ (by decide)
  obtain ⟨key, its⟩ : ∃ key, (Profile.ofSettings .defaults).Makes (.ofString "/t") key := ⟨_, 6, rfl⟩
  have host : (World.stocked key (.withScript "function B \x7b\x7d" 6)).host =
    .withScript "function B \x7b\x7d" 6 := rfl
  have modified : (Profile.ofSettings .defaults).keyMode = .modified := rfl
  have made := Profile.keyOf_of_scriptTime modified
    (Host.scriptTime_withScript "function B \x7b\x7d" 6)
  obtain ⟨last, alone, lists⟩ := Traffic.lists_stocked fun same =>
    differ (Profile.Makes.display_eq (exists_keyAt_of_scriptKey same) its)
  obtain ⟨reached, run⟩ := Traffic.reached_returning (.ofSettings .defaults) host
    fun _ _ => World.holdsNames_stocked
  obtain ⟨same, task, errand, there, making, path⟩ :=
    Traffic.makes_returning (.ofSettings .defaults) host
  obtain ⟨loading, ends, -, tells⟩ := told _ _ 0 task errand (List.replicate 12 (.go 0)) reached there
    making (run 13)
  cases (congrArg (·[0]?) alone).symm.trans ends
  refine ⟨_, key, _, its, rfl, by rw [same]; exact made, ?_, ⟨last, alone, lists⟩, ?_⟩
  · exact fun later => apart _ _ _ later _ differ made
  · rw [← path]
    rcases tells _ lists with drawn | ⟨other, -, -, foreign⟩
    · exact drawn
    · exact absurd foreign (by decide)

/-- Two scripts whose paths are not text may share a key. -/
theorem scripts_share_an_entry_beyond_text :
    (⟨[0x2f, 0xff]⟩ : Path) ≠ ⟨[0x2f, 0xfe]⟩ ∧
      ∃ key, scriptKey defaultKeyPrefix .fixed .withoutScript ⟨[0x2f, 0xff]⟩ = .ok key ∧
        scriptKey defaultKeyPrefix .fixed .withoutScript ⟨[0x2f, 0xfe]⟩ = .ok key := by
  have same : (⟨[0x2f, 0xff]⟩ : Path).display = (⟨[0x2f, 0xfe]⟩ : Path).display := by
    decide +kernel
  refine ⟨by decide, _, rfl, ?_⟩
  rw [scriptKey_fixed _ _ _ 0, ← keyAt_eq_iff.mpr ⟨same, fun _ => rfl⟩]
  rfl

end ScriptRoster
