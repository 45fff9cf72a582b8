import ScriptRoster.Cache.World
import ScriptRoster.Proofs.Text.Utf8

/-!
# Keys of scripts

A key is made from the path of a script and, if the mode asks for it, the time of its last change.
Where paths are text, a key tells them apart, and the times as well.
-/

namespace ScriptRoster

open Files Text

/-- A path whose bytes are the text of a string. -/
def Files.Path.IsText (path : Path) : Prop := ∃ s, path = .ofString s

/-- A path that was made from text is shown as that text. -/
theorem Files.Path.display_ofString (s : String) : (Path.ofString s).display = s :=
  decodeLossy_encode s

/-- Different paths that are text are shown differently. -/
theorem Files.Path.IsText.display_inj {path other : Path} (text : path.IsText)
    (otherText : other.IsText) (h : path.display = other.display) : path = other := by
  obtain ⟨s, rfl⟩ := text
  obtain ⟨t, rfl⟩ := otherText
  rw [Path.display_ofString, Path.display_ofString] at h
  rw [h]

/-- What stands before and behind the last of several equal separators is determined. -/
theorem append_cons_inj {α : Type} {separator : α} {front other back rest : List α}
    (hback : separator ∉ back) (hrest : separator ∉ rest)
    (h : front ++ separator :: back = other ++ separator :: rest) :
    front = other ∧ back = rest := by
  rcases List.append_eq_append_iff.mp h with ⟨middle, rfl, tail⟩ | ⟨middle, rfl, tail⟩
  · cases middle with
    | nil => simpa using tail
    | cons first middle =>
        obtain ⟨rfl, rfl⟩ := List.cons.inj tail
        exact absurd (by simp) hback
  · cases middle with
    | nil => simpa [eq_comm] using tail
    | cons first middle =>
        obtain ⟨rfl, rfl⟩ := List.cons.inj tail
        exact absurd (by simp) hrest

theorem toDigits_inj {n m : Nat} (h : Nat.toDigits 10 n = Nat.toDigits 10 m) : n = m := by
  have value := congrArg (fun digits => Nat.ofDigitChars 10 digits 0) h
  simpa using value

theorem dash_not_mem_toDigits (n : Nat) : '-' ∉ Nat.toDigits 10 n := fun member =>
  absurd (Nat.isDigit_of_mem_toDigits (by decide) (by decide) member) (by decide)

namespace Cache

variable {keyPrefix key : String} {mode : KeyMode} {host : Host} {path other : Path}

/-- The time of the last change of what stands at a path: that of a file, and the present for
whatever is no file. -/
def scriptTime (host : Host) (path : Path) : Except FileError Int :=
  match host.files.find host.cwd path with
  | .ok (_, .file _ modified) => .ok modified
  | .ok _ => .ok host.now
  | .error cause => .error cause

/-- The key of a path and of a time, if the mode asks for it. -/
def keyAt (keyPrefix : String) (mode : KeyMode) (path : Path) (time : Nat) : String :=
  match mode with
  | .fixed => keyPrefix ++ "-" ++ path.display
  | .modified => keyPrefix ++ "-" ++ path.display ++ "-" ++ toString time

theorem scriptKey_fixed (keyPrefix : String) (host : Host) (path : Path) (time : Nat) :
    scriptKey keyPrefix .fixed host path = .ok (keyAt keyPrefix .fixed path time) := rfl

/-- A key with a time can be made if and only if the time is known. -/
theorem scriptKey_modified (keyPrefix : String) (host : Host) (path : Path) :
    scriptKey keyPrefix .modified host path =
      match scriptTime host path with
      | .ok time => .ok (keyAt keyPrefix .modified path (keyTime time))
      | .error cause => .error (.io cause) := by
  simp only [scriptKey, scriptTime]
  rcases host.files.find host.cwd path with cause | ⟨place, item⟩
  · rfl
  · cases item <;> rfl

/-- Every key is that of its path and of some time. -/
theorem exists_keyAt_of_scriptKey (made : scriptKey keyPrefix mode host path = .ok key) :
    ∃ time, key = keyAt keyPrefix mode path time := by
  cases mode with
  | fixed =>
      rw [scriptKey_fixed _ _ _ 0] at made
      exact ⟨0, (Except.ok.inj made).symm⟩
  | modified =>
      rw [scriptKey_modified] at made
      split at made
      · exact ⟨_, (Except.ok.inj made).symm⟩
      · cases made

/-- A key tells how the path is displayed, and the time if it has one; it tells nothing else. -/
theorem keyAt_eq_iff {time moment : Nat} :
    keyAt keyPrefix mode path time = keyAt keyPrefix mode other moment ↔
      path.display = other.display ∧ (mode = .modified → time = moment) := by
  cases mode with
  | fixed =>
      constructor
      · intro same
        have letters := congrArg String.toList same
        simp only [keyAt, String.toList_append, List.append_cancel_left_eq] at letters
        exact ⟨String.toList_injective letters, nofun⟩
      · rintro ⟨same, -⟩
        rw [keyAt, keyAt, same]
  | modified =>
      constructor
      · intro same
        have letters : path.display.toList ++ '-' :: Nat.toDigits 10 time =
            other.display.toList ++ '-' :: Nat.toDigits 10 moment := by
          have both := congrArg String.toList same
          simpa [keyAt, String.toList_append, List.append_assoc] using both
        obtain ⟨shown, digits⟩ :=
          append_cons_inj (dash_not_mem_toDigits time) (dash_not_mem_toDigits moment) letters
        exact ⟨String.toList_injective shown, fun _ => toDigits_inj digits⟩
      · rintro ⟨same, times⟩
        rw [keyAt, keyAt, same, times rfl]

/-- A key with a time determines the path and the time. -/
theorem keyAt_modified_inj {time moment : Nat} (text : path.IsText) (otherText : other.IsText)
    (h : keyAt keyPrefix .modified path time = keyAt keyPrefix .modified other moment) :
    path = other ∧ time = moment := by
  obtain ⟨shown, times⟩ := keyAt_eq_iff.mp h
  exact ⟨text.display_inj otherText shown, times rfl⟩

/-- A key of either mode determines the path. -/
theorem keyAt_inj {time moment : Nat} (text : path.IsText) (otherText : other.IsText)
    (h : keyAt keyPrefix mode path time = keyAt keyPrefix mode other moment) : path = other :=
  text.display_inj otherText (keyAt_eq_iff.mp h).1

end Cache

end ScriptRoster
