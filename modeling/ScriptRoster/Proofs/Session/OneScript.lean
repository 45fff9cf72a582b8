import ScriptRoster.Proofs.Cache.Key
import ScriptRoster.Proofs.Files.Top
import ScriptRoster.Proofs.Session.Alone

/-!
# A host with one script

The smallest surroundings in which sessions can do something: a root directory with one script in
it, and an empty store.
-/

namespace ScriptRoster

open Cache Files Text

/-! ## Scripts right below the root -/

theorem Host.expandHome_of_head {raw : String} (host : Host)
    (plain : raw.toList.head? ≠ some '~') : host.expandHome raw = raw := by
  unfold expandHome
  split
  · next same => simp [same] at plain
  · next same => simp [same] at plain
  · rfl

/-- A script right below the root is located where it stands. -/
theorem Files.Path.IsTop.resolve {host : Host} {raw : String} {name content : Bytes}
    {modified : Int} (top : (Path.ofString raw).IsTop name)
    (written : (trim raw).isEmpty = false) (plain : raw.toList.head? ≠ some '~')
    (there : host.files.at? [name] = some (.file content modified)) :
    Location.resolve host raw = .ok ⟨raw, .ofString raw⟩ := by
  simp only [Location.resolve, written, host.expandHome_of_head plain, top.find_of_file there,
    top.place]
  rfl

/-! ## The only script -/

/-- The path of the only script. -/
def onlyScript : Path := .ofString "/s"

/-- A host with one script, and the time of its last change. -/
def Host.withScript (content : String) (modified : Int) : Host where
  files := ⟨[([[0x73]], .file (encode content) modified)]⟩
  cwd := []
  environment := []
  now := modified

/-- A host without files. -/
def Host.withoutScript : Host where
  files := ⟨[]⟩
  cwd := []
  environment := []
  now := 0

/-- Surroundings with an empty store in memory that refuses nothing. -/
def Cache.World.bare (host : Host) : World where
  host := host
  store := .memory []
  refuses := fun _ _ => false
  calls := []
  sourcesCalled := 0
  journal := []

theorem Cache.World.host_bare (host : Host) : (World.bare host).host = host := rfl

theorem Cache.World.not_holdsNames_bare {host : Host} {key : String} {names : List String} :
    ¬ (World.bare host).HoldsNames key names := by
  rintro ⟨payload, held, -⟩
  cases held

namespace Host

variable (content : String) (modified : Int)

theorem isText_onlyScript : onlyScript.IsText := ⟨"/s", rfl⟩

theorem isTop_onlyScript : onlyScript.IsTop [0x73] := by
  constructor <;> decide +kernel

theorem at?_withScript :
    (withScript content modified).files.at? [[0x73]] = some (.file (encode content) modified) := by
  simp [FileTree.at?, withScript]

example : (withScript "A" 1).files.at? [[0x73]] = some (.file [0x41] 1) := by decide +kernel

theorem find_withScript :
    (withScript content modified).files.find (withScript content modified).cwd onlyScript =
      .ok ([[0x73]], .file (encode content) modified) :=
  isTop_onlyScript.find_of_file (at?_withScript content modified)

theorem find_withoutScript :
    withoutScript.files.find withoutScript.cwd onlyScript = .error .notFound :=
  isTop_onlyScript.find_of_none (by simp [FileTree.at?, withoutScript])

theorem resolve_withScript :
    Location.resolve (withScript content modified) "/s" = .ok ⟨"/s", onlyScript⟩ :=
  isTop_onlyScript.resolve (by decide +kernel) (by decide +kernel) (at?_withScript content modified)

theorem resolve_of_eq_withScript {content : String} {modified : Int} {host : Host}
    (same : host = .withScript content modified) :
    Location.resolve host "/s" = .ok ⟨"/s", onlyScript⟩ := by
  rw [same]
  exact resolve_withScript content modified

theorem scriptTime_withScript :
    scriptTime (withScript content modified) onlyScript = .ok modified := by
  simp only [scriptTime, find_withScript]

theorem readScript_withScript :
    readScript (withScript content modified).files (withScript content modified).cwd onlyScript =
      .ok (dropMark content) := by
  simp only [readScript, FileTree.read, find_withScript, decode_encode]

theorem readScript_withoutScript :
    readScript withoutScript.files withoutScript.cwd onlyScript =
      .error (.read onlyScript.display FileError.notFound.message) := by
  simp only [readScript, FileTree.read, find_withoutScript]

/-- What a profile finds in the script is what it finds in its text without the mark in front. -/
theorem drawAt_withScript (profile : Profile) :
    profile.drawAt (withScript content modified) onlyScript = profile.draw (dropMark content) := by
  rw [Profile.drawAt, readScript_withScript]
  rfl

end Host

/-- The key of a script that was last changed at a known time. -/
theorem Profile.keyOf_of_scriptTime {profile : Profile} (modified : profile.keyMode = .modified)
    {host : Host} {path : Path} {time : Int} (known : scriptTime host path = .ok time) :
    profile.keyOf host path =
      .ok (keyAt profile.keyPrefix profile.keyMode path (keyTime time)) := by
  rw [keyOf, modified, scriptKey_modified, known]

theorem Session.keyOf_withoutScript {session : Session}
    (modified : session.profile.keyMode = .modified) :
    session.keyOf .withoutScript onlyScript = .error (.io .notFound) := by
  rw [keyOf, modified, scriptKey_modified, scriptTime, Host.find_withoutScript]

/-- Whoever configures the only script goes on to load it. -/
theorem Session.asks_withScript (session : Session) (content : String) (modified : Int)
    (fresh : Bool) {host : Host} (h : host = .withScript content modified) :
    session.Asks host (.configure "/s" fresh) (if fresh then .fresh else .cached)
      ⟨"/s", onlyScript⟩ (session.pointed "/s" (.ok ⟨"/s", onlyScript⟩)) := by
  subst h
  exact .configure (Host.resolve_withScript content modified)

/-- A session that configures the script leaves a host with a store in memory as it was. -/
theorem Scene.remembers_withScript (content : String) (modified : Int) (session : Session)
    (fresh : Bool) {world : World} (quiet : session.inFlight = [])
    (host : world.host = .withScript content modified) (memory : world.InMemory) :
    World.Remembers world
      (Scene.perform ⟨session, world⟩ (.configure "/s" fresh) false).1.world := by
  have asks := session.asks_withScript content modified fresh host
  exact Scene.remembers_asks ⟨session, world⟩ false quiet asks memory

end ScriptRoster
