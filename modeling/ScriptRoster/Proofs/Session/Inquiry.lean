import ScriptRoster.Proofs.Cache.Asking
import ScriptRoster.Proofs.Session.OneScript

/-!
# What a load asks the store for

A load that has nothing else under way asks the store for the key of its script alone, in an order
that its kind and the first answers settle. It keeps the names that it has extracted and no others.
What the store answers, or refuses, never makes it fail. Nothing is under way in a session at rest,
as it is whenever all its calls are answered (`Traffic.Tended.atRest`).
-/

namespace ScriptRoster

open Cache Files

/-- What is asked of the store when an extraction is over: to keep the names that were found. -/
def keeping (key : String) : Except ExtractionError Report → List Call
  | .ok report => [.set key (Json.listText report.names)]
  | .error _ => []

/-- The host on which a load reads its script: a reload has had the key of the script removed. -/
def Profile.readingHost (profile : Profile) (path : Path) (kind : LoadKind) (world : World) :
    Host :=
  match kind with
  | .reload =>
      match profile.keyOf world.host path with
      | .ok key => (world.forget key).2.host
      | .error _ => world.host
  | _ => world.host

/-- What a load with nothing else under way asks of the store, call by call, and what comes of it.
A script without a key is extracted and the store is not asked at all. -/
inductive Inquires (profile : Profile) (path : Path) (world : World) :
    LoadKind → List Call → Except ExtractionError Report → Prop
  | keyless {kind error result} (failed : profile.keyOf world.host path = .error error)
      (drawn : profile.drawAt world.host path = result) :
      Inquires profile path world kind [] result
  | hit {key names} (made : profile.keyOf world.host path = .ok key)
      (first : (world.names? key).1 = some names) :
      Inquires profile path world .cached [.get key] (.ok ⟨names, .cache⟩)
  | lateHit {key names} (made : profile.keyOf world.host path = .ok key)
      (first : (world.names? key).1 = none)
      (second : ((world.names? key).2.names? key).1 = some names) :
      Inquires profile path world .cached [.get key, .get key] (.ok ⟨names, .cache⟩)
  | miss {key result} (made : profile.keyOf world.host path = .ok key)
      (first : (world.names? key).1 = none)
      (second : ((world.names? key).2.names? key).1 = none)
      (drawn : profile.drawAt world.host path = result) :
      Inquires profile path world .cached ([.get key, .get key] ++ keeping key result) result
  | fresh {key result} (made : profile.keyOf world.host path = .ok key)
      (drawn : profile.drawAt world.host path = result) :
      Inquires profile path world .fresh (keeping key result) result
  | reload {key result} (made : profile.keyOf world.host path = .ok key)
      (drawn : profile.drawAt (world.forget key).2.host path = result) :
      Inquires profile path world .reload ([.remove key] ++ keeping key result) result

section Course

variable {profile : Profile} {path : Path} {kind : LoadKind} {key : String}
  {these : List Call} {before between after world : World} {result : Except ExtractionError Report}

/-! ## The calls of a load -/

theorem Supplies.asked (supplies : Supplies profile path key before result after) :
    World.Asked (keeping key result) before after := by
  cases supplies with
  | failed _ aside => exact World.asked_of_calls_eq aside.calls
  | kept _ aside stored => exact aside.asked ((World.asked_keep _ _ _).of_calls_eq stored.calls)

theorem Loads.inquires (loads : Loads profile path kind before result after) :
    ∃ these, World.Asked these before after ∧ Inquires profile path before kind these result := by
  cases loads with
  | keyless failed aside =>
      exact ⟨[], World.asked_of_calls_eq aside.calls, .keyless failed rfl⟩
  | @hit _ _ _ key names made found aside =>
      refine ⟨[.get key], (World.asked_of_names? found).of_calls_eq aside.calls, .hit made ?_⟩
      exact congrArg Prod.fst found
  | @lateHit _ _ _ _ key names made miss found aside =>
      have twice := (World.asked_of_names? miss).trans (World.asked_of_names? found)
      refine ⟨[.get key, .get key], twice.of_calls_eq aside.calls, .lateHit made ?_ ?_⟩
      · exact congrArg Prod.fst miss
      · rw [miss, found]
  | miss made first second supplied =>
      have twice := (World.asked_of_names? first).trans (World.asked_of_names? second)
      refine ⟨_, twice.trans supplied.asked, .miss made ?_ ?_ ?_⟩
      · exact congrArg Prod.fst first
      · rw [first, second]
      · rw [supplied.result_eq, (World.sameStock_of_names? second).host,
          (World.sameStock_of_names? first).host]
  | fresh made supplied => exact ⟨_, supplied.asked, .fresh made supplied.result_eq.symm⟩
  | reload made dropped supplied =>
      have once := (World.asked_forget before _).of_calls_eq dropped.calls
      refine ⟨_, once.trans supplied.asked, .reload made ?_⟩
      rw [supplied.result_eq, dropped.host]

/-- What is noted before a load makes no difference to what it asks and what comes of it. -/
theorem Inquires.of_unasked (aside : World.Unasked before between)
    (inquires : Inquires profile path between kind these result) :
    Inquires profile path before kind these result := by
  have host := aside.host
  cases inquires with
  | keyless failed drawn => exact .keyless (host ▸ failed) (host ▸ drawn)
  | hit made first => exact .hit (host ▸ made) ((aside.names?_fst _).symm.trans first)
  | lateHit made first second =>
      refine .lateHit (host ▸ made) ((aside.names?_fst _).symm.trans first) ?_
      exact ((aside.names?_snd _).names?_fst _).symm.trans second
  | miss made first second drawn =>
      refine .miss (host ▸ made) ((aside.names?_fst _).symm.trans first) ?_ (host ▸ drawn)
      exact ((aside.names?_snd _).names?_fst _).symm.trans second
  | fresh made drawn => exact .fresh (host ▸ made) (host ▸ drawn)
  | reload made drawn => exact .reload (host ▸ made) (aside.host_forget _ ▸ drawn)

/-! ## What follows -/

theorem key_of_mem_keeping {call : Call} (member : call ∈ keeping key result) : call.key = key := by
  cases result with
  | ok report => rw [List.mem_singleton.mp member, Call.key]
  | error error => cases member

/-- A load asks the store for the key of its script and for no other. -/
theorem Inquires.key_of_mem (inquires : Inquires profile path world kind these result) {call : Call}
    (member : call ∈ these) : profile.keyOf world.host path = .ok call.key := by
  cases inquires with
  | keyless => cases member
  | hit made => rw [made, List.mem_singleton.mp member, Call.key]
  | lateHit made => rw [made, List.eq_of_mem_replicate (n := 2) member, Call.key]
  | miss made =>
      rcases List.mem_append.mp member with got | kept
      · rw [made, List.eq_of_mem_replicate (n := 2) got, Call.key]
      · rw [made, key_of_mem_keeping kept]
  | fresh made => rw [made, key_of_mem_keeping member]
  | reload made =>
      rcases List.mem_append.mp member with removed | kept
      · rw [made, List.mem_singleton.mp removed, Call.key]
      · rw [made, key_of_mem_keeping kept]

/-- A load fails only if its script cannot be read or the extraction of it fails. -/
theorem Inquires.drawAt_of_error {error : ExtractionError}
    (inquires : Inquires profile path world kind these (.error error)) :
    profile.drawAt (profile.readingHost path kind world) path = .error error := by
  unfold Profile.readingHost
  cases inquires with
  | keyless failed drawn =>
      cases kind with
      | cached | fresh => exact drawn
      | reload => simp only [failed, drawn]
  | miss _ _ _ drawn | fresh _ drawn => exact drawn
  | reload made drawn => simp only [made, drawn]

end Course

/-- Whatever the store holds, answers or refuses, a request that comes to a load and has nothing
else under way asks it for the key of the script alone: to hand out names once, or twice where it
hands out none the first time, if the cache may answer; to remove the key first if the script is
reloaded; and to keep the names that were extracted, just when they were. Without a key it is not
asked. The answer, and what the session records, are the names that were handed out or extracted,
and the request fails only if the extraction does. -/
theorem loads_ask_in_order (scene : Scene) (cancelled : Bool) {request : Request} {kind : LoadKind}
    {location : Location} {base : Session} (quiet : scene.session.inFlight = [])
    (asks : scene.session.Asks scene.world.host request kind location base) :
    ∃ result asked world promises,
      scene.perform request cancelled =
        (⟨{ base.record result with promises }, world⟩,
          some (kind.answer (result.mapError .extraction))) ∧
      World.Asked asked scene.world world ∧
      Inquires scene.session.profile location.resolved scene.world kind asked result ∧
      (∀ call ∈ asked,
        scene.session.profile.keyOf scene.world.host location.resolved = .ok call.key) ∧
      ∀ error, result = .error error →
        scene.session.profile.drawAt
          (scene.session.profile.readingHost location.resolved kind scene.world)
          location.resolved = .error error := by
  obtain ⟨result, between, world, promises, aside, loads, performs⟩ :=
    scene.perform_asks cancelled quiet asks
  obtain ⟨asked, calls, course⟩ := loads.inquires
  have inquires := course.of_unasked aside
  refine ⟨result, asked, world, promises, performs, aside.asked calls, inquires, ?_, ?_⟩
  · intro call member
    exact inquires.key_of_mem member
  · rintro error rfl
    exact inquires.drawAt_of_error

/-- Surroundings with a store that refuses every call. -/
def Cache.World.refusing (host : Host) : World :=
  { World.bare host with refuses := fun _ _ => true }

section Refusing

variable {world : World} (refusing : ∀ count call, world.refuses count call = true) (key : String)

include refusing

theorem Cache.World.names?_of_refusing : (world.names? key).1 = none := by
  rw [World.names?_fst, World.fetch_eq, refusing]
  rfl

theorem Cache.World.names?_names?_of_refusing :
    ((world.names? key).2.names? key).1 = none := by
  have same : (world.names? key).2.refuses = world.refuses := World.refuses_names? rfl
  apply World.names?_of_refusing
  intro count call
  rw [same, refusing]

end Refusing

/-- A store that refuses every call is asked for the names twice, and to keep those that were
extracted, and the request succeeds. -/
theorem loads_ask_in_order_refused :
    ∃ key left after,
      (Profile.ofSettings .defaults).keyOf (.withScript "function A \x7b\x7d" 5) onlyScript =
        .ok key ∧
      Scene.perform ⟨.start (.ofSettings .defaults),
          .refusing (.withScript "function A \x7b\x7d" 5)⟩ (.configure "/s" false) false =
        (⟨left, after⟩, some (.loaded (.ok ⟨["A"], .extracted .structural⟩))) ∧
      left.names = ["A"] ∧
      World.Asked [.get key, .get key, .set key (Json.listText ["A"])]
        (.refusing (.withScript "function A \x7b\x7d" 5)) after := by
  have drawn : (Profile.ofSettings .defaults).draw (dropMark "function A \x7b\x7d") =
      .ok ⟨["A"], .extracted .structural⟩ := by decide +kernel
  have made := (Profile.ofSettings .defaults).keyOf_of_scriptTime rfl
    (Host.scriptTime_withScript "function A \x7b\x7d" 5)
  obtain ⟨result, these, after, promises, performs, asked, inquires, -, -⟩ :=
    loads_ask_in_order ⟨.start (.ofSettings .defaults),
      .refusing (.withScript "function A \x7b\x7d" 5)⟩ false rfl
      ((Session.start (.ofSettings .defaults)).asks_withScript "function A \x7b\x7d" 5 false rfl)
  have refusing : ∀ count call,
      (World.refusing (.withScript "function A \x7b\x7d" 5)).refuses count call = true :=
    fun _ _ => rfl
  cases inquires with
  | keyless failed => cases failed.symm.trans made
  | hit _ first => cases (World.names?_of_refusing refusing _).symm.trans first
  | lateHit _ _ second => cases (World.names?_names?_of_refusing refusing _).symm.trans second
  | miss _ _ _ found =>
      cases found.symm.trans ((Host.drawAt_withScript _ _ _).trans drawn)
      exact ⟨_, _, after, by assumption, performs, rfl, asked⟩

end ScriptRoster
