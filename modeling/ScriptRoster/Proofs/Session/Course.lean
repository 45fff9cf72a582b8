import ScriptRoster.Proofs.Session.Stage

/-!
# The course of a load

A load with nothing else under way, as one relation between the world before it, its result and the
world after it: make the key, ask the store, read, extract, keep.
-/

namespace ScriptRoster

open Cache Files

/-- What a profile finds in the script at a path. -/
def Profile.drawAt (profile : Profile) (host : Host) (path : Path) :
    Except ExtractionError Report :=
  (readScript host.files host.cwd path).bind profile.draw

/-- The key that a profile makes for the script at a path. -/
def Profile.keyOf (profile : Profile) (host : Host) (path : Path) : Except StoreError String :=
  scriptKey profile.keyPrefix profile.keyMode host path

/-- The course of an extraction whose names are kept under a key. -/
inductive Supplies (profile : Profile) (path : Path) (key : String) :
    World → Except ExtractionError Report → World → Prop
  | failed {before after error} (drawn : profile.drawAt before.host path = .error error)
      (aside : World.Unasked before after) : Supplies profile path key before (.error error) after
  | kept {before between after report} (drawn : profile.drawAt before.host path = .ok report)
      (aside : World.Unasked before between)
      (stored : World.Unasked (between.keep key report.names).2 after) :
      Supplies profile path key before (.ok report) after

/-- The course of a load with nothing else under way. -/
inductive Loads (profile : Profile) (path : Path) :
    LoadKind → World → Except ExtractionError Report → World → Prop
  | keyless {kind before after error} (failed : profile.keyOf before.host path = .error error)
      (aside : World.Unasked before after) :
      Loads profile path kind before (profile.drawAt before.host path) after
  | hit {before between after key names} (made : profile.keyOf before.host path = .ok key)
      (found : before.names? key = (some names, between))
      (aside : World.Unasked between after) :
      Loads profile path .cached before (.ok ⟨names, .cache⟩) after
  | lateHit {before middle between after key names}
      (made : profile.keyOf before.host path = .ok key)
      (miss : before.names? key = (none, middle))
      (found : middle.names? key = (some names, between))
      (aside : World.Unasked between after) :
      Loads profile path .cached before (.ok ⟨names, .cache⟩) after
  | miss {before middle between after key result}
      (made : profile.keyOf before.host path = .ok key)
      (first : before.names? key = (none, middle)) (second : middle.names? key = (none, between))
      (supplied : Supplies profile path key between result after) :
      Loads profile path .cached before result after
  | fresh {before after key result} (made : profile.keyOf before.host path = .ok key)
      (supplied : Supplies profile path key before result after) :
      Loads profile path .fresh before result after
  | reload {before between after key result} (made : profile.keyOf before.host path = .ok key)
      (dropped : World.Unasked (before.forget key).2 between)
      (supplied : Supplies profile path key between result after) :
      Loads profile path .reload before result after

section Course

variable {profile : Profile} {path : Path} {kind : LoadKind} {key : String}
  {before after later : World} {result : Except ExtractionError Report}

theorem Supplies.aside (supplies : Supplies profile path key before result after)
    (aside : World.Unasked after later) : Supplies profile path key before result later := by
  cases supplies with
  | failed drawn first => exact .failed drawn (first.trans aside)
  | kept drawn first stored => exact .kept drawn first (stored.trans aside)

theorem Loads.aside (loads : Loads profile path kind before result after)
    (aside : World.Unasked after later) : Loads profile path kind before result later := by
  cases loads with
  | keyless failed first => exact .keyless failed (first.trans aside)
  | hit made found first => exact .hit made found (first.trans aside)
  | lateHit made miss found first => exact .lateHit made miss found (first.trans aside)
  | miss made first second supplied => exact .miss made first second (supplied.aside aside)
  | fresh made supplied => exact .fresh made (supplied.aside aside)
  | reload made dropped supplied => exact .reload made dropped (supplied.aside aside)

theorem Supplies.remembers (memory : before.InMemory)
    (supplies : Supplies profile path key before result after) : World.Remembers before after := by
  cases supplies with
  | failed _ aside => exact aside.remembers memory
  | kept _ aside stored =>
      have first := aside.remembers memory
      have second := World.remembers_keep first.inMemory key
      exact first.trans ((second _).trans (stored.remembers (second _).inMemory))

/-- A load over a store in memory leaves the host alone. -/
theorem Loads.remembers (memory : before.InMemory)
    (loads : Loads profile path kind before result after) : World.Remembers before after := by
  cases loads with
  | keyless _ aside => exact aside.remembers memory
  | hit _ found aside =>
      have first := (World.sameStock_of_names? found).remembers memory
      exact first.trans (aside.remembers first.inMemory)
  | lateHit _ miss found aside =>
      have first := (World.sameStock_of_names? miss).remembers memory
      have second := (World.sameStock_of_names? found).remembers first.inMemory
      exact first.trans (second.trans (aside.remembers second.inMemory))
  | miss _ miss again supplied =>
      have first := (World.sameStock_of_names? miss).remembers memory
      have second := (World.sameStock_of_names? again).remembers first.inMemory
      exact first.trans (second.trans (supplied.remembers second.inMemory))
  | fresh _ supplied => exact supplied.remembers memory
  | reload _ dropped supplied =>
      have first := World.remembers_forget memory
      have second := dropped.remembers (first _).inMemory
      exact (first _).trans (second.trans (supplied.remembers second.inMemory))

/-- A script that is found at the same place with the same content reads the same. -/
theorem readScript_of_find {files later : FileTree} {cwd there : Place}
    (found : later.find there path = files.find cwd path) :
    readScript later there path = readScript files cwd path := by
  unfold readScript FileTree.read
  rw [found]

theorem exists_find_of_readScript {files : FileTree} {cwd : Place} {content : String}
    (read : readScript files cwd path = .ok content) :
    ∃ place item, files.find cwd path = .ok (place, item) := by
  cases found : files.find cwd path with
  | ok entry => exact ⟨entry.1, entry.2, rfl⟩
  | error cause => simp [readScript, FileTree.read, found] at read

/-- A key that is dropped leaves a script that is there as it is, unless the script is the entry. -/
theorem readScript_dropped {between : World} {place : Place} {item : Item}
    (found : before.host.files.find before.host.cwd path = .ok (place, item))
    (apart : before.store.Apart before.host key path)
    (dropped : World.Unasked (before.forget key).2 between) :
    readScript between.host.files between.host.cwd path =
      readScript before.host.files before.host.cwd path := by
  apply readScript_of_find
  rw [dropped.host, found]
  exact World.find_forget apart found

/-- An extraction finds what is in the script. -/
theorem Supplies.result_eq (supplies : Supplies profile path key before result after) :
    result = profile.drawAt before.host path := by
  cases supplies with
  | failed drawn => exact drawn.symm
  | kept drawn => exact drawn.symm

/-- An extraction adds nothing to the store but what is in the script, under the key. -/
theorem Supplies.holdsNames (supplies : Supplies profile path key before result after)
    {other : String} {names : List String} (held : after.HoldsNames other names) :
    before.HoldsNames other names ∨
      other = key ∧ (profile.drawAt before.host path).map Report.names = .ok names := by
  cases supplies with
  | failed _ aside => exact .inl (aside.holdsNames_iff.mp held)
  | kept drawn aside stored =>
      rcases World.holdsNames_of_keep (stored.holdsNames_iff.mp held) with ⟨rfl, rfl⟩ | earlier
      · exact .inr ⟨rfl, by rw [drawn]; rfl⟩
      · exact .inl (aside.holdsNames_iff.mp earlier)

/-- A load adds nothing to the store but what is in the script, under the key of the script. -/
theorem Loads.holdsNames {content : String}
    (read : readScript before.host.files before.host.cwd path = .ok content)
    (apart : kind = .reload → ∀ key, profile.keyOf before.host path = .ok key →
      before.store.Apart before.host key path)
    (loads : Loads profile path kind before result after) {other : String} {names : List String}
    (held : after.HoldsNames other names) :
    before.HoldsNames other names ∨
      profile.keyOf before.host path = .ok other ∧
        (profile.draw content).map Report.names = .ok names := by
  have drawn : profile.drawAt before.host path = profile.draw content := by
    rw [Profile.drawAt, read]
    rfl
  cases loads with
  | keyless _ aside => exact .inl (aside.holdsNames_iff.mp held)
  | hit _ found aside =>
      have earlier := aside.holdsNames_iff.mp held
      exact .inl ((World.sameStock_of_names? found).holdsNames_iff.mp earlier)
  | lateHit _ miss found aside =>
      have earlier := (World.sameStock_of_names? found).holdsNames_iff.mp
        (aside.holdsNames_iff.mp held)
      exact .inl ((World.sameStock_of_names? miss).holdsNames_iff.mp earlier)
  | miss made first second supplied =>
      have once := World.sameStock_of_names? first
      have twice := World.sameStock_of_names? second
      rcases supplied.holdsNames held with earlier | ⟨rfl, inScript⟩
      · exact .inl (once.holdsNames_iff.mp (twice.holdsNames_iff.mp earlier))
      · rw [twice.host, once.host, drawn] at inScript
        exact .inr ⟨made, inScript⟩
  | fresh made supplied =>
      rcases supplied.holdsNames held with earlier | ⟨rfl, inScript⟩
      · exact .inl earlier
      · rw [drawn] at inScript
        exact .inr ⟨made, inScript⟩
  | reload made dropped supplied =>
      rcases supplied.holdsNames held with earlier | ⟨rfl, inScript⟩
      · exact .inl (World.holdsNames_of_forget (dropped.holdsNames_iff.mp earlier))
      · obtain ⟨place, item, found⟩ := exists_find_of_readScript read
        rw [Profile.drawAt, readScript_dropped found (apart rfl _ made) dropped, ← Profile.drawAt,
          drawn] at inScript
        exact .inr ⟨made, inScript⟩

/-- A load that asks the cache first finds what is in the script or what the store holds. -/
theorem Loads.result_or_held (loads : Loads profile path .cached before result after) :
    result = profile.drawAt before.host path ∨
      ∃ key names, profile.keyOf before.host path = .ok key ∧ before.HoldsNames key names ∧
        result = .ok ⟨names, .cache⟩ := by
  cases loads with
  | keyless => exact .inl rfl
  | hit made found => exact .inr ⟨_, _, made, World.holdsNames_of_names? found, rfl⟩
  | lateHit made miss found =>
      have held := World.holdsNames_of_names? found
      exact .inr ⟨_, _, made, (World.sameStock_of_names? miss).holdsNames_iff.mp held, rfl⟩
  | miss made first second supplied =>
      have host :=
        (World.sameStock_of_names? second).host.trans (World.sameStock_of_names? first).host
      rw [supplied.result_eq, host]
      exact .inl rfl

/-- A load that does not ask the cache finds what is in the script. -/
theorem Loads.result_eq (loads : Loads profile path .fresh before result after) :
    result = profile.drawAt before.host path := by
  cases loads with
  | keyless => rfl
  | fresh _ supplied => exact supplied.result_eq

/-- A load that asks a store which refuses nothing finds what the store holds. -/
theorem Loads.result_of_held (obliging : before.Obliging) {names : List String}
    (made : profile.keyOf before.host path = .ok key) (held : before.HoldsNames key names)
    (loads : Loads profile path .cached before result after) : result = .ok ⟨names, .cache⟩ := by
  obtain ⟨between, handed⟩ := World.names?_of_holdsNames obliging held
  cases loads with
  | keyless failed =>
      rw [made] at failed
      cases failed
  | hit again found =>
      cases made.symm.trans again
      cases handed.symm.trans found
      rfl
  | lateHit again miss found =>
      cases made.symm.trans again
      cases handed.symm.trans miss
  | miss again miss =>
      cases made.symm.trans again
      cases handed.symm.trans miss

theorem Supplies.refuses (supplies : Supplies profile path key before result after) :
    after.refuses = before.refuses := by
  cases supplies with
  | failed _ aside => exact aside.refuses
  | kept _ aside stored =>
      exact stored.refuses.trans ((World.refuses_keep _ _ _).trans aside.refuses)

theorem Loads.refuses (loads : Loads profile path kind before result after) :
    after.refuses = before.refuses := by
  cases loads with
  | keyless _ aside => exact aside.refuses
  | hit _ found aside => exact aside.refuses.trans (World.refuses_names? found)
  | lateHit _ miss found aside =>
      exact aside.refuses.trans ((World.refuses_names? found).trans (World.refuses_names? miss))
  | miss _ first second supplied =>
      exact supplied.refuses.trans
        ((World.refuses_names? second).trans (World.refuses_names? first))
  | fresh _ supplied => exact supplied.refuses
  | reload _ dropped supplied =>
      exact supplied.refuses.trans (dropped.refuses.trans (World.refuses_forget _ _))

/-- A store in memory that refuses nothing holds the names that were extracted last. -/
theorem Supplies.stores (memory : before.InMemory) (obliging : before.Obliging) {report : Report}
    (drawn : profile.drawAt before.host path = .ok report)
    (supplies : Supplies profile path key before result after) :
    after.HoldsNames key report.names := by
  cases supplies with
  | failed other =>
      rw [drawn] at other
      cases other
  | kept again aside stored =>
      cases drawn.symm.trans again
      apply stored.holdsNames_iff.mpr
      apply World.holdsNames_keep
      · exact obliging.of_refuses aside.refuses
      · exact (aside.remembers memory).inMemory

/-- A load that asks the cache in vain is supplied from the script. -/
theorem Loads.supplies_of_miss (made : profile.keyOf before.host path = .ok key)
    (nothing : ∀ names, ¬ before.HoldsNames key names)
    (loads : Loads profile path .cached before result after) :
    ∃ between, World.SameStock before between ∧ between.refuses = before.refuses ∧
      Supplies profile path key between result after := by
  cases loads with
  | keyless failed =>
      rw [made] at failed
      cases failed
  | hit again found =>
      cases made.symm.trans again
      exact absurd (World.holdsNames_of_names? found) (nothing _)
  | lateHit again miss found =>
      cases made.symm.trans again
      have held := World.holdsNames_of_names? found
      exact absurd ((World.sameStock_of_names? miss).holdsNames_iff.mp held) (nothing _)
  | miss again first second supplied =>
      cases made.symm.trans again
      have once := World.sameStock_of_names? first
      have twice := World.sameStock_of_names? second
      exact ⟨_, ⟨twice.host.trans once.host, twice.store.trans once.store⟩,
        (World.refuses_names? second).trans (World.refuses_names? first), supplied⟩

/-- A load over a store in memory that refuses nothing and holds nothing for the script leaves the
names in the script there. -/
theorem Loads.stores (memory : before.InMemory) (obliging : before.Obliging)
    (made : profile.keyOf before.host path = .ok key)
    (nothing : ∀ names, ¬ before.HoldsNames key names) {report : Report}
    (drawn : profile.drawAt before.host path = .ok report)
    (loads : Loads profile path kind before result after) : after.HoldsNames key report.names := by
  cases kind with
  | cached =>
      obtain ⟨between, same, refuses, supplied⟩ := loads.supplies_of_miss made nothing
      have still := same.remembers memory
      exact supplied.stores still.inMemory (obliging.of_refuses refuses)
        (by rw [still.host, drawn])
  | fresh =>
      cases loads with
      | keyless failed =>
          rw [made] at failed
          cases failed
      | fresh again supplied =>
          cases made.symm.trans again
          exact supplied.stores memory obliging drawn
  | reload =>
      cases loads with
      | keyless failed =>
          rw [made] at failed
          cases failed
      | reload again dropped supplied =>
          cases made.symm.trans again
          have first := World.remembers_forget memory key
          have second := dropped.remembers first.inMemory
          have obligingToo := obliging.of_refuses (World.refuses_forget before key)
          have willing := obligingToo.of_refuses dropped.refuses
          exact supplied.stores second.inMemory willing (by rw [second.host, first.host, drawn])

end Course

end ScriptRoster
