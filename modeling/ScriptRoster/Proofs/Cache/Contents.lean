import Mathlib.Data.Set.Card
import ScriptRoster.Proofs.Cache.Holding
import ScriptRoster.Proofs.Files.Inside

/-!
# What a folder holds after a history

A folder of entries names its files by stems that several keys may share. Whatever was done with it,
and whatever failed, it hands out for a key the payload that was kept last under that key, or
nothing; it hands out nothing only if another key of the same stem, or a failure to clear the folder,
may have taken the payload away.
-/

namespace ScriptRoster.Cache

open Files Text

/-! ## Names of entry files -/

/-- The digits of a stem. -/
def hexDigits : List Char := "0123456789abcdef".toList

/-- What the file name of an entry begins with: 32 hexadecimal digits. -/
structure IsStem (stem : String) : Prop where
  length : stem.toList.length = 32
  digits : ∀ c ∈ stem.toList, c ∈ hexDigits

theorem encode_append (s t : String) : encode (s ++ t) = encode s ++ encode t := by
  rw [encode, String.toList_append, List.flatMap_append, encode, encode]

theorem encode_inj {s t : String} (same : encode s = encode t) : s = t := by
  have decoded := decode_encode s
  rw [same, decode_encode] at decoded
  exact (Except.ok.inj decoded).symm

theorem hexDigit_byte : ∀ c ∈ hexDigits, (String.utf8EncodeChar c).length = 1 ∧
    ∀ b ∈ String.utf8EncodeChar c, b ≠ 0 ∧ b ≠ Path.slash ∧ b ≠ 0x2e := by
  -- as a test of the list: deciding the quantifiers may run through every character
  have tested : hexDigits.all fun c => (String.utf8EncodeChar c).length == 1 &&
      (String.utf8EncodeChar c).all fun b => b != 0 && b != Path.slash && b != 0x2e := by
    decide +kernel
  simpa [and_assoc] using tested

theorem length_flatMap_of_eq {α β : Type} {f : α → List β} {n : Nat} {list : List α}
    (each : ∀ a ∈ list, (f a).length = n) : (list.flatMap f).length = list.length * n := by
  rw [List.length_flatMap, List.map_congr_left each, List.map_const', List.sum_const_nat]

theorem IsStem.length_encode {stem : String} (isStem : IsStem stem) : (encode stem).length = 32 := by
  rw [encode, length_flatMap_of_eq fun c among => (hexDigit_byte c (isStem.digits c among)).1,
    isStem.length]

/-- No byte of a stem has a meaning in a path. -/
theorem IsStem.byte {stem : String} (isStem : IsStem stem) {b : UInt8} (member : b ∈ encode stem) :
    b ≠ 0 ∧ b ≠ Path.slash ∧ b ≠ 0x2e := by
  obtain ⟨c, among, inside⟩ := List.mem_flatMap.mp member
  exact (hexDigit_byte c (isStem.digits c among)).2 b inside

theorem length_hash (bytes : Bytes) : (Digest.hash bytes).length = 32 := by
  rw [Digest.hash, length_flatMap_of_eq (n := 4) fun _ _ => rfl, Vector.length_toList]

theorem hexDigit_byteDigits (b : UInt8) : ∀ c ∈ Digest.hexByte b, c ∈ hexDigits := by
  have digit : ∀ n < 16, Nat.digitChar n ∈ hexDigits := by decide
  have high := digit (b.toNat / 16) (by have := b.toNat_lt; omega)
  have low := digit (b.toNat % 16) (by omega)
  intro c member
  simp only [Digest.hexByte, List.mem_cons, List.not_mem_nil, or_false] at member
  rcases member with rfl | rfl
  · exact high
  · exact low

/-- The stems that are in use are stems. -/
theorem isStem_digestStem (key : String) : IsStem (digestStem key) := by
  constructor
  · rw [digestStem, Digest.hex, String.toList_ofList, length_flatMap_of_eq (n := 2) fun _ _ => rfl,
      List.length_take, length_hash]
    rfl
  · intro c member
    rw [digestStem, Digest.hex, String.toList_ofList] at member
    obtain ⟨b, -, inside⟩ := List.mem_flatMap.mp member
    exact hexDigit_byteDigits b c inside

namespace Folder

variable {folder : Folder}

/-- The name of the file of a key. -/
def fileName (folder : Folder) (key : String) : Bytes :=
  encode (folder.stem key ++ "." ++ fileEnding)

theorem entryPath_eq (folder : Folder) (key : String) :
    folder.entryPath key = folder.dir.join ⟨folder.fileName key⟩ := rfl

theorem fileName_eq (folder : Folder) (key : String) :
    folder.fileName key = encode (folder.stem key) ++ [0x2e, 0x6a, 0x73, 0x6f, 0x6e] := by
  rw [fileName, String.append_assoc, encode_append]
  rfl

/-- Keys share a file just if they share a stem. -/
theorem fileName_inj {key other : String} :
    folder.fileName key = folder.fileName other ↔ folder.stem key = folder.stem other := by
  rw [fileName_eq, fileName_eq, List.append_left_inj]
  exact ⟨encode_inj, congrArg encode⟩

/-- The file of a key stands in the directory itself. -/
theorem isName_fileName {key : String} (isStem : IsStem (folder.stem key)) :
    Path.IsName (folder.fileName key) := by
  rw [fileName_eq]
  have length := isStem.length_encode
  constructor
  · simp
  · intro member
    rcases List.mem_append.mp member with inside | ending
    · exact (isStem.byte inside).2.1 rfl
    · revert ending
      decide
  · intro member
    rcases List.mem_append.mp member with inside | ending
    · exact (isStem.byte inside).1 rfl
    · revert ending
      decide
  · intro same
    have := congrArg List.length same
    simp [length, Path.here] at this
  · intro same
    have := congrArg List.length same
    simp [length, Path.above] at this
  · simp [length, FileTree.nameLimit]

theorem isEntryName_fileName {key : String} (isStem : IsStem (folder.stem key)) :
    isEntryName (folder.fileName key) = true := by
  have length := isStem.length_encode
  rw [isEntryName, fileName_eq, Path.extension?, List.reverse_append]
  cases reversed : (encode (folder.stem key)).reverse with
  | nil => simp [List.reverse_eq_nil_iff.mp reversed] at length
  | cons b rest =>
      simp only [List.reverse_cons, List.reverse_nil, List.nil_append, List.cons_append]
      rfl

/-- The names of files that are written before they replace an entry. -/
def IsTemporary (name : Bytes) : Prop :=
  ∃ suffix, name = encode temporaryName ++ suffix ∧ (0x2e : UInt8) ∉ suffix

/-- What is left over of a failed call is not taken for an entry. -/
theorem isEntryName_temporary {name : Bytes} (temporary : IsTemporary name) :
    isEntryName name = false := by
  obtain ⟨suffix, rfl, plain⟩ := temporary
  have passes : ∀ b ∈ suffix.reverse, (b != 0x2e) = true := by
    intro b member
    refine bne_iff_ne.mpr ?_
    rintro rfl
    exact plain (List.mem_reverse.mp member)
  have spelled : encode temporaryName = [0x2e, 0x74, 0x6d, 0x70] := by decide
  rw [isEntryName, Path.extension?, spelled, List.reverse_append,
    List.dropWhile_append_of_pos passes]
  rfl

/-! ## What a folder holds -/

/-- A folder whose directory holds nothing but entries and what is left of failed calls. -/
structure Tidy (folder : Folder) (place : Place) (host : Host) : Prop where
  there : host.files.find host.cwd folder.dir = .ok (place, .directory)
  plain : ∀ name, host.files.IsPlain (place ++ [name])
  entries : ∀ name ∈ host.files.namesIn place, isEntryName name = true →
    ∃ key payload modified, name = folder.fileName key ∧
      host.files.at? (place ++ [name]) =
        some (.file (encode (Entry.text ⟨key, payload⟩)) modified)
  distinct : (host.files.namesIn place).Nodup

/-- The entry in the file of a key. -/
def held (folder : Folder) (place : Place) (host : Host) (key : String) : Option Entry :=
  match host.files.at? (place ++ [folder.fileName key]) with
  | some (.file content _) => (decode? content).bind fun text => (Entry.ofText text).toOption
  | _ => none

variable {place : Place} {host after : Host} {key other payload : String} {name : Bytes}
  {entry : Entry}

theorem held_of_none (missing : host.files.at? (place ++ [folder.fileName key]) = none) :
    folder.held place host key = none := by
  rw [held, missing]

theorem held_of_file {modified : Int} (there : host.files.at? (place ++ [folder.fileName key]) =
    some (.file (encode entry.text) modified)) : folder.held place host key = some entry := by
  simp only [held, there, decode?_encode, Option.bind_some, Entry.ofText_text]
  rfl

/-- Which entry is held for a key depends on its file alone. -/
theorem held_congr (same : after.files.at? (place ++ [folder.fileName key]) =
    host.files.at? (place ++ [folder.fileName key])) :
    folder.held place after key = folder.held place host key := by
  rw [held, held, same]

section Tidy

variable (stems : ∀ key, IsStem (folder.stem key)) (tidy : folder.Tidy place host)

include stems tidy

/-- The file of a key is missing or holds an entry of the same stem. -/
theorem Tidy.held_cases (key : String) :
    (host.files.at? (place ++ [folder.fileName key]) = none ∧ folder.held place host key = none) ∨
      ∃ entry modified, folder.stem entry.key = folder.stem key ∧
        host.files.at? (place ++ [folder.fileName key]) =
          some (.file (encode entry.text) modified) ∧
        folder.held place host key = some entry := by
  cases there : host.files.at? (place ++ [folder.fileName key]) with
  | none => exact .inl ⟨rfl, held_of_none there⟩
  | some item =>
      obtain ⟨other, payload, modified, same, file⟩ := tidy.entries _
        (FileTree.mem_namesIn_of_at? there) (isEntryName_fileName (stems key))
      refine .inr ⟨⟨other, payload⟩, modified, (fileName_inj.mp same).symm, there.symm.trans file,
        held_of_file file⟩

/-- An entry is read unless the path of its file is too long. -/
theorem Tidy.read_eq (key : String) :
    folder.entry? host key =
      if FileTree.pathLimit ≤ (folder.entryPath key).bytes.length then
        .error (.io .nameTooLong)
      else .ok (folder.held place host key) := by
  have located := FileTree.locate_join tidy.there (isName_fileName (stems key)) (tidy.plain _) true
  rw [← entryPath_eq] at located
  split
  · next long =>
      rw [if_pos long] at located
      simp only [FileTree.readText, FileTree.read, FileTree.find, located, entry?]
  · next short =>
      rw [if_neg short] at located
      rcases tidy.held_cases stems key with ⟨missing, held⟩ | ⟨entry, modified, -, file, held⟩
      · simp only [FileTree.readText, FileTree.read, FileTree.find, located, FileTree.spotAt, missing,
          held, entry?]
      · simp only [FileTree.readText, FileTree.read, FileTree.find, located, FileTree.spotAt, file,
          held, decode?_encode, Entry.ofText_text, entry?]

/-- A folder hands out the entry that it holds for a key, if it was written for that key. -/
theorem Tidy.get_eq (key : String) :
    folder.get host key =
      if FileTree.pathLimit ≤ (folder.entryPath key).bytes.length then
        .error (.io .nameTooLong)
      else .ok (((folder.held place host key).filter (·.key = key)).map Entry.payload) := by
  rw [get, tidy.read_eq stems]
  split <;> rfl

/-- A folder answers for a key with the entry in its file, if that entry is for the key. -/
theorem Tidy.answer_eq {answer : Option String} (got : folder.get host key = .ok answer) :
    answer = ((folder.held place host key).filter (·.key = key)).map Entry.payload := by
  rw [tidy.get_eq stems] at got
  split at got
  · cases got
  · exact (Except.ok.inj got).symm

/-- A key is answered if its file can be read. -/
theorem Tidy.unreadable_of_get {error : StoreError} (failed : folder.get host key = .error error) :
    ∃ cause, error = .io cause ∧
      host.files.readText host.cwd (folder.entryPath key) = .error cause := by
  have located := FileTree.locate_join tidy.there (isName_fileName (stems key)) (tidy.plain _) true
  rw [← entryPath_eq] at located
  rw [tidy.get_eq stems] at failed
  split at failed
  · next long =>
      cases failed
      refine ⟨.nameTooLong, rfl, ?_⟩
      rw [if_pos long] at located
      simp only [FileTree.readText, FileTree.read, FileTree.find, located]
  · cases failed

/-- What is handed out for a key is held for it. -/
theorem Tidy.held_of_get (got : folder.get host key = .ok (some payload)) :
    folder.held place host key = some ⟨key, payload⟩ := by
  have told := (tidy.answer_eq stems got).symm
  simp only [Option.map_eq_some_iff, Option.filter_eq_some_iff, decide_eq_true_eq] at told
  obtain ⟨⟨_, _⟩, ⟨held, rfl⟩, rfl⟩ := told
  exact held

/-- What is held for a key can be handed out if its file is within reach. -/
theorem Tidy.get_of_held (short : (folder.entryPath key).bytes.length < FileTree.pathLimit)
    (held : folder.held place host key = some ⟨key, payload⟩) :
    folder.get host key = .ok (some payload) := by
  rw [tidy.get_eq stems, if_neg (by omega), held]
  simp

end Tidy

/-! ## Files that come and go -/

theorem concat_ne {name other : Bytes} (h : other ≠ name) : place ++ [other] ≠ place ++ [name] := by
  simpa using h

/-- A folder stays tidy when a file is put in it that is no entry, or holds one as it should. -/
theorem Tidy.put (tidy : folder.Tidy place host) (content : Bytes) (modified : Int)
    (proper : isEntryName name = true → ∃ key payload, name = folder.fileName key ∧
      content = encode (Entry.text ⟨key, payload⟩)) :
    folder.Tidy place
      { host with files := host.files.put (place ++ [name]) (.file content modified) } where
  there := FileTree.find_put tidy.there (tidy.plain name) content modified
  plain other item there := by
    by_cases same : other = name
    · subst same
      rw [FileTree.at?_put_self _ (by simp)] at there
      cases there
      exact ⟨_, _, rfl⟩
    · rw [FileTree.at?_put_of_ne _ (concat_ne same)] at there
      exact tidy.plain other item there
  entries other member isEntry := by
    rw [FileTree.namesIn_put, List.mem_cons] at member
    by_cases same : other = name
    · subst same
      obtain ⟨key, payload, fileName, text⟩ := proper isEntry
      refine ⟨key, payload, modified, fileName, ?_⟩
      rw [FileTree.at?_put_self _ (by simp), text]
    · have before := (List.mem_filter.mp (member.resolve_left same)).1
      rw [FileTree.at?_put_of_ne _ (concat_ne same)]
      exact tidy.entries other before isEntry
  distinct := by
    rw [FileTree.namesIn_put, List.nodup_cons]
    refine ⟨?_, List.Nodup.filter (· != name) tidy.distinct⟩
    simp [List.mem_filter]

/-- A folder stays tidy when a file is taken out of it. -/
theorem Tidy.erase (tidy : folder.Tidy place host) (name : Bytes) :
    folder.Tidy place { host with files := host.files.erase (place ++ [name]) } where
  there := FileTree.find_erase tidy.there (tidy.plain name)
  plain other item there := by
    by_cases same : other = name
    · subst same
      rw [FileTree.at?_erase_self _ (by simp)] at there
      cases there
    · rw [FileTree.at?_erase_of_ne _ (concat_ne same)] at there
      exact tidy.plain other item there
  entries other member isEntry := by
    rw [FileTree.namesIn_erase] at member
    obtain ⟨before, different⟩ := List.mem_filter.mp member
    rw [FileTree.at?_erase_of_ne _ (concat_ne (bne_iff_ne.mp different))]
    exact tidy.entries other before isEntry
  distinct := by
    rw [FileTree.namesIn_erase]
    exact List.Nodup.filter (· != name) tidy.distinct

/-- Every file that is cleared holds an entry whose key it is the file of. -/
theorem Tidy.exists_entry (tidy : folder.Tidy place host)
    (member : name ∈ (host.files.namesIn place).filter isEntryName) :
    ∃ key payload, name = folder.fileName key ∧
      folder.held place host key = some ⟨key, payload⟩ := by
  obtain ⟨member, isEntry⟩ := List.mem_filter.mp member
  obtain ⟨key, payload, modified, rfl, file⟩ := tidy.entries name member isEntry
  exact ⟨key, payload, rfl, held_of_file file⟩

section Calls

variable (stems : ∀ key, IsStem (folder.stem key)) (tidy : folder.Tidy place host)

include stems tidy

/-- Keeping a payload puts its entry in the file of its key. -/
theorem Tidy.set_eq (done : folder.set host key payload = .ok after) :
    after =
      { host with
        files := host.files.put (place ++ [folder.fileName key])
          (.file (encode (Entry.text ⟨key, payload⟩)) host.now) } := by
  simp only [Folder.set, entryPath_eq,
    FileTree.replace_join tidy.there (isName_fileName (stems key)) (tidy.plain _)] at done
  split at done
  · cases done
  split at done
  · next files replaced =>
      cases done
      split at replaced
      · cases replaced
      · cases replaced
        rfl
  · cases done

/-- A payload can be kept unless the path of its file is too long. -/
theorem Tidy.exists_set (payload : String)
    (short : (folder.entryPath key).bytes.length < FileTree.pathLimit)
    (brief : (folder.dir.join (.ofString temporaryName)).bytes.length < FileTree.pathLimit) :
    ∃ after, folder.set host key payload = .ok after := by
  have spelled : Path.IsName (encode temporaryName) := by constructor <;> decide
  rw [entryPath_eq] at short
  rw [Path.ofString] at brief
  simp only [Folder.set, entryPath_eq, Path.ofString,
    FileTree.replace_join tidy.there (isName_fileName (stems key)) (tidy.plain _),
    FileTree.locate_join tidy.there spelled (tidy.plain _)]
  rw [if_neg (Nat.not_le.mpr brief), if_neg (Nat.not_le.mpr short)]
  exact ⟨_, rfl⟩

/-- A payload that was kept replaces the entries of all keys that share its file. -/
theorem Tidy.set (done : folder.set host key payload = .ok after) :
    folder.Tidy place after ∧ ∀ other, folder.held place after other =
      if folder.stem other = folder.stem key then some ⟨key, payload⟩
      else folder.held place host other := by
  rw [tidy.set_eq stems done]
  refine ⟨tidy.put _ _ fun _ => ⟨key, payload, rfl, rfl⟩, fun other => ?_⟩
  split
  · next same =>
      apply held_of_file
      rw [fileName_inj.mpr same]
      exact FileTree.at?_put_self _ (by simp) _
  · next different =>
      exact held_congr (FileTree.at?_put_of_ne _ (concat_ne (mt fileName_inj.mp different)) _)

/-- Removing a key takes its file away. -/
theorem Tidy.remove (done : folder.remove host key = .ok after) :
    folder.Tidy place after ∧ ∀ other, folder.held place after other =
      if folder.stem other = folder.stem key then none
      else folder.held place host other := by
  simp only [Folder.remove, entryPath_eq,
    FileTree.removeFile_join tidy.there (isName_fileName (stems key)) (tidy.plain _)] at done
  by_cases long : FileTree.pathLimit ≤ (folder.dir.join ⟨folder.fileName key⟩).bytes.length
  · rw [if_pos long] at done
    cases done
  rw [if_neg long] at done
  by_cases missing : host.files.at? (place ++ [folder.fileName key]) = none
  · rw [if_pos missing] at done
    cases done
    refine ⟨tidy, fun other => ?_⟩
    split
    · next same => exact held_of_none (by rw [fileName_inj.mpr same, missing])
    · rfl
  · rw [if_neg missing] at done
    cases done
    refine ⟨tidy.erase _, fun other => ?_⟩
    split
    · next same =>
        refine held_of_none ?_
        rw [fileName_inj.mpr same, FileTree.at?_erase_self _ (by simp)]
    · next different =>
        exact held_congr (FileTree.at?_erase_of_ne _ (concat_ne (mt fileName_inj.mp different)))

/-- A call for a key leaves one entry in the file of the key, or none. -/
theorem Tidy.leave {left : Option String} (done : folder.leave host key left = .ok after) :
    folder.Tidy place after ∧ ∀ other, folder.held place after other =
      if folder.stem other = folder.stem key then left.map (Entry.mk key)
      else folder.held place host other := by
  cases left with
  | some payload => exact tidy.set stems done
  | none => exact tidy.remove stems done

/-- Entries that are removed by name are counted, and nothing else changes. -/
theorem Tidy.clearNames {names : List Bytes} {removed count : Nat}
    (entries : ∀ name ∈ names, ∃ key, name = folder.fileName key)
    (done : folder.clearNames removed host names = (.ok count, after)) :
    folder.Tidy place after ∧ count = removed + names.length ∧
      (∀ name ∈ names, (folder.dir.join ⟨name⟩).bytes.length < FileTree.pathLimit) ∧
        ∀ name, after.files.at? (place ++ [name]) =
          if name ∈ names then none else host.files.at? (place ++ [name]) := by
  induction names generalizing host removed with
  | nil =>
      cases done
      exact ⟨tidy, rfl, by simp, by simp⟩
  | cons name names ih =>
      obtain ⟨key, fileName⟩ := entries name List.mem_cons_self
      have plain : Path.IsName name := fileName ▸ isName_fileName (stems key)
      rw [Folder.clearNames, FileTree.removeFile_join tidy.there plain (tidy.plain _)] at done
      by_cases long : FileTree.pathLimit ≤ (folder.dir.join ⟨name⟩).bytes.length
      · rw [if_pos long] at done
        cases done
      rw [if_neg long] at done
      by_cases missing : host.files.at? (place ++ [name]) = none
      · rw [if_pos missing] at done
        cases done
      rw [if_neg missing] at done
      obtain ⟨tidier, counted, shorter, there⟩ := ih (tidy.erase name)
        (fun other member => entries other (List.mem_cons_of_mem _ member)) done
      refine ⟨tidier, by rw [counted, List.length_cons]; omega, ?_, ?_⟩
      · intro other member
        rcases List.mem_cons.mp member with rfl | member
        · omega
        · exact shorter other member
      · intro other
        rw [there]
        by_cases same : other = name
        · subst same
          simp [FileTree.at?_erase_self]
        · simp [same, FileTree.at?_erase_of_ne _ (concat_ne same)]

/-- There are as many entry files as stems under which something is kept. -/
theorem Tidy.length_entries (short : ∀ name ∈ (host.files.namesIn place).filter isEntryName,
      (folder.dir.join ⟨name⟩).bytes.length < FileTree.pathLimit) :
    ((host.files.namesIn place).filter isEntryName).length =
      Set.ncard {stem | ∃ key payload, folder.stem key = stem ∧
        folder.get host key = .ok (some payload)} := by
  -- the file names of entries and the stems of keys that are held correspond
  have files : (fun stem => encode (stem ++ "." ++ fileEnding)) '' {stem | ∃ key payload,
      folder.stem key = stem ∧ folder.get host key = .ok (some payload)} =
        ((host.files.namesIn place).filter isEntryName).toFinset := by
    ext name
    rw [List.coe_toFinset, Set.mem_image, Set.mem_ofPred_eq]
    constructor
    · rintro ⟨_, ⟨key, payload, rfl, got⟩, rfl⟩
      have held := tidy.held_of_get stems got
      rcases tidy.held_cases stems key with ⟨-, none⟩ | ⟨entry, modified, -, file, -⟩
      · rw [none] at held
        cases held
      · exact List.mem_filter.mpr
          ⟨FileTree.mem_namesIn_of_at? file, isEntryName_fileName (stems key)⟩
    · intro member
      obtain ⟨key, payload, rfl, held⟩ := tidy.exists_entry member
      exact ⟨_, ⟨key, payload, rfl, tidy.get_of_held stems (short _ member) held⟩, rfl⟩
  have apart : Function.Injective fun stem => encode (stem ++ "." ++ fileEnding) := by
    intro stem other same
    simpa using encode_inj same
  rw [← Set.ncard_image_of_injective _ apart, files, Set.ncard_coe_finset,
    List.toFinset_card_of_nodup (tidy.distinct.filter _)]

/-- The entries of a folder that was cleared are gone, and the number is that of the stems under
which something was kept. -/
theorem Tidy.clear {count : Nat} (done : folder.clear host = (.ok count, after)) :
    folder.Tidy place after ∧ (∀ key, folder.held place after key = none) ∧
      count = Set.ncard {stem | ∃ key payload, folder.stem key = stem ∧
        folder.get host key = .ok (some payload)} := by
  have listed : host.files.list host.cwd folder.dir = .ok (host.files.namesIn place) := by
    rw [FileTree.list, tidy.there]
  simp only [Folder.clear, listed] at done
  obtain ⟨tidier, counted, short, there⟩ := tidy.clearNames stems
    (fun name member => (tidy.exists_entry member).imp fun _ ⟨_, same, _⟩ => same) done
  have gone : ∀ key, folder.held place after key = none := by
    intro key
    refine held_of_none ?_
    rw [there]
    split
    · rfl
    · next kept =>
        by_contra standing
        obtain ⟨item, under⟩ := Option.ne_none_iff_exists'.mp standing
        exact kept (List.mem_filter.mpr
          ⟨FileTree.mem_namesIn_of_at? under, isEntryName_fileName (stems key)⟩)
  exact ⟨tidier, gone, by rw [counted, zero_add, tidy.length_entries stems short]⟩

end Calls

theorem tidy_of_empty (there : host.files.find host.cwd folder.dir = .ok (place, .directory))
    (empty : host.files.namesIn place = []) : folder.Tidy place host where
  there := there
  plain name item standing := by
    have member := FileTree.mem_namesIn_of_at? standing
    rw [empty] at member
    cases member
  entries := by
    rw [empty]
    exact fun _ => nofun
  distinct := by
    rw [empty]
    exact List.nodup_nil

/-- Clearing that stops at a file that cannot be removed has removed the files before it. -/
theorem clearNames_error {names : List Bytes} {removed : Nat} {cause : StoreError}
    (failed : folder.clearNames removed host names = (.error cause, after)) :
    ∃ gone count, gone ⊆ names ∧ folder.clearNames removed host gone = (.ok count, after) := by
  induction names generalizing host removed with
  | nil => cases failed
  | cons name names ih =>
      rw [clearNames] at failed
      split at failed
      · next files done =>
          obtain ⟨gone, count, among, before⟩ := ih failed
          refine ⟨name :: gone, count, List.cons_subset_cons name among, ?_⟩
          rw [clearNames, done]
          exact before
      · cases failed
        exact ⟨[], removed, List.nil_subset _, rfl⟩

end Folder

/-! ## Histories -/

/-- Something that was done with a folder, or beside it. -/
inductive Deed where
  | kept (key payload : String)
  | removed (key : String)
  | cleared (count : Nat)
  | reopened
  | failedToKeep (key payload : String)
  | failedToRemove (key : String)
  | failedToClear
  | failedToReopen
  | elsewhere

namespace Deed

/-- Whether a deed replaces or removes what is kept under a key. -/
def Ends (key : String) : Deed → Prop
  | kept other _ | removed other => other = key
  | cleared _ => True
  | _ => False

/-- Whether a deed may take away what is kept under a key, though it is not meant for it. -/
def Disturbs (folder : Folder) (key : String) : Deed → Prop
  | kept other _ | removed other => other ≠ key ∧ folder.stem other = folder.stem key
  | failedToClear => True
  | _ => False

/-- Whether a deed keeps and removes payloads under none but some keys. -/
def Among (keys : Set String) : Deed → Prop
  | kept key _ | removed key => key ∈ keys
  | _ => True

/-- What a deed makes of payloads kept in memory. -/
def recalled (memory : Memory) : Deed → Memory
  | kept key payload => memory.set key payload
  | removed key => memory.remove key
  | cleared _ => []
  | _ => memory

/-- Which entry a deed may leave in the file of a key. -/
def Leaves (folder : Folder) (key : String) (before after : Option Entry) : Deed → Prop
  | kept other payload =>
      after = if folder.stem key = folder.stem other then some ⟨other, payload⟩ else before
  | removed other => after = if folder.stem key = folder.stem other then none else before
  | cleared _ => after = none
  | failedToClear => after = none ∨ after = before
  | _ => after = before

variable {folder : Folder} {deed : Deed} {key : String} {before after : Option Entry}

/-- A deed that neither ends nor disturbs what a key has leaves it alone. -/
theorem Leaves.eq_of_calm (leaves : deed.Leaves folder key before after) (goesOn : ¬ deed.Ends key)
    (calm : ¬ deed.Disturbs folder key) : after = before := by
  cases deed with
  | kept other payload | removed other =>
      have apart : folder.stem key ≠ folder.stem other := by
        intro same
        by_cases own : other = key
        · exact goesOn own
        · exact calm ⟨own, same.symm⟩
      rw [Leaves, if_neg apart] at leaves
      exact leaves
  | cleared => exact absurd trivial goesOn
  | failedToClear => exact absurd trivial calm
  | reopened | failedToKeep | failedToRemove | failedToReopen | elsewhere => exact leaves

/-- An entry that a deed leaves was kept by it, or was there and is not replaced by it. -/
theorem Leaves.origin {entry : Entry} (leaves : deed.Leaves folder key before (some entry)) :
    (deed = .kept entry.key entry.payload ∧ folder.stem entry.key = folder.stem key) ∨
      (before = some entry ∧ (folder.stem entry.key = folder.stem key → ¬ deed.Ends entry.key)) := by
  cases deed with
  | kept other payload =>
      by_cases same : folder.stem key = folder.stem other
      · rw [Leaves, if_pos same] at leaves
        cases leaves
        exact .inl ⟨rfl, same.symm⟩
      · rw [Leaves, if_neg same] at leaves
        refine .inr ⟨leaves.symm, ?_⟩
        rintro kept rfl
        exact same kept.symm
  | removed other =>
      by_cases same : folder.stem key = folder.stem other
      · rw [Leaves, if_pos same] at leaves
        cases leaves
      · rw [Leaves, if_neg same] at leaves
        refine .inr ⟨leaves.symm, ?_⟩
        rintro kept rfl
        exact same kept.symm
  | cleared => cases leaves
  | failedToClear =>
      rcases leaves with none | same
      · cases none
      · exact .inr ⟨same.symm, fun _ => id⟩
  | reopened | failedToKeep | failedToRemove | failedToReopen | elsewhere =>
      exact .inr ⟨Eq.symm leaves, fun _ => id⟩

/-- Where no two of the keys in use share a stem, a deed does to entries what it does to payloads in
memory. -/
theorem Leaves.recalled {keys : Set String} (apart : Set.InjOn folder.stem keys)
    (asked : key ∈ keys) (among : deed.Among keys) {memory : Memory}
    (leaves : deed.Leaves folder key ((memory.lookup key).map (Entry.mk key)) after)
    (whole : deed ≠ .failedToClear) :
    after = ((deed.recalled memory).lookup key).map (Entry.mk key) := by
  cases deed with
  | kept other payload =>
      by_cases same : key = other
      · subst same
        rw [Leaves, if_pos rfl] at leaves
        rw [leaves, Deed.recalled, Memory.lookup_set_self]
        rfl
      · rw [Leaves, if_neg (mt (apart asked among) same)] at leaves
        rw [leaves, Deed.recalled, Memory.lookup_set_of_ne _ _ same]
  | removed other =>
      by_cases same : key = other
      · subst same
        rw [Leaves, if_pos rfl] at leaves
        rw [leaves, Deed.recalled, Memory.lookup_remove_self]
        rfl
      · rw [Leaves, if_neg (mt (apart asked among) same)] at leaves
        rw [leaves, Deed.recalled, Memory.lookup_remove_of_ne _ same]
  | cleared => exact leaves
  | failedToClear => exact absurd rfl whole
  | reopened | failedToKeep | failedToRemove | failedToReopen | elsewhere => exact leaves

end Deed

namespace Folder

/-- Whether the directory of a folder is as it was. -/
def Untouched (folder : Folder) (before after : Host) : Prop :=
  ∀ place, before.files.find before.cwd folder.dir = .ok (place, .directory) →
    after.files.find after.cwd folder.dir = .ok (place, .directory) ∧
      (∀ name, after.files.at? (place ++ [name]) = before.files.at? (place ++ [name])) ∧
        (after.files.namesIn place).Perm (before.files.namesIn place)

/-- What a deed may leave of a host. A call that succeeds does what it says. One that fails leaves
the files as they are, but a file that was to replace an entry may be left over, and some entries may
be gone when not all could be cleared. -/
inductive Happens (folder : Folder) (host : Host) : Deed → Host → Prop
  | kept {key payload after} (done : folder.set host key payload = .ok after) :
      Happens folder host (.kept key payload) after
  | removed {key after} (done : folder.remove host key = .ok after) :
      Happens folder host (.removed key) after
  | cleared {count after} (done : folder.clear host = (.ok count, after)) :
      Happens folder host (.cleared count) after
  | reopened {opened after} (done : prepare host folder.dir = .ok (opened, after)) :
      Happens folder host .reopened after
  | unkept {key payload} : Happens folder host (.failedToKeep key payload) host
  | leftOver {key payload place name content}
      (there : host.files.find host.cwd folder.dir = .ok (place, .directory))
      (temporary : IsTemporary name) :
      Happens folder host (.failedToKeep key payload)
        { host with files := host.files.put (place ++ [name]) (.file content host.now) }
  | unremoved {key} : Happens folder host (.failedToRemove key) host
  | stopped {cause after} (failed : folder.clear host = (.error cause, after)) :
      Happens folder host .failedToClear after
  | interrupted {names gone count after} (listed : host.files.list host.cwd folder.dir = .ok names)
      (among : gone ⊆ names.filter isEntryName)
      (done : folder.clearNames 0 host gone = (.ok count, after)) :
      Happens folder host .failedToClear after
  | unopened : Happens folder host .failedToReopen host
  | elsewhere {after} (untouched : folder.Untouched host after) :
      Happens folder host .elsewhere after

/-- What may be left after some deeds, one after the other. -/
inductive History (folder : Folder) (start : Host) : List Deed → Host → Prop
  | nothing : History folder start [] start
  | later {deeds deed host after} (history : History folder start deeds host)
      (happens : folder.Happens host deed after) : History folder start (deeds ++ [deed]) after

variable {folder : Folder} {start host after : Host} {place : Place} {deed : Deed}
  {deeds : List Deed} {key payload : String}

section Deeds

variable (stems : ∀ key, IsStem (folder.stem key)) (tidy : folder.Tidy place host)

include stems tidy

/-- Clearing some entries takes those away. -/
theorem Tidy.clear_some {gone : List Bytes} {count : Nat}
    (among : gone ⊆ (host.files.namesIn place).filter isEntryName)
    (done : folder.clearNames 0 host gone = (.ok count, after)) :
    folder.Tidy place after ∧ ∀ key, folder.held place after key = none ∨
      folder.held place after key = folder.held place host key := by
  have entries : ∀ name ∈ gone, ∃ key, name = folder.fileName key := by
    intro name member
    obtain ⟨key, payload, same, -⟩ := tidy.exists_entry (among member)
    exact ⟨key, same⟩
  obtain ⟨tidier, -, -, there⟩ := tidy.clearNames stems entries done
  refine ⟨tidier, fun key => ?_⟩
  by_cases member : folder.fileName key ∈ gone
  · exact .inl (held_of_none (by rw [there, if_pos member]))
  · exact .inr (held_congr (by rw [there, if_neg member]))

/-- Every deed leaves a tidy folder tidy, and which entries it leaves. -/
theorem Tidy.happens (happens : folder.Happens host deed after) :
    folder.Tidy place after ∧
      ∀ key, deed.Leaves folder key (folder.held place host key) (folder.held place after key) := by
  have listed : host.files.list host.cwd folder.dir = .ok (host.files.namesIn place) := by
    rw [FileTree.list, tidy.there]
  cases happens with
  | kept done => exact tidy.set stems done
  | removed done => exact tidy.remove stems done
  | cleared done =>
      obtain ⟨tidier, gone, -⟩ := tidy.clear stems done
      exact ⟨tidier, gone⟩
  | reopened done =>
      rw [prepare, FileTree.makeDirectories_of_find tidy.there] at done
      cases done
      exact ⟨tidy, fun _ => rfl⟩
  | unkept | unremoved | unopened => exact ⟨tidy, fun _ => rfl⟩
  | @leftOver _ _ other name content there temporary =>
      have noEntry := isEntryName_temporary temporary
      rw [tidy.there] at there
      cases there
      refine ⟨tidy.put _ _ (by simp [noEntry]), fun key => held_congr ?_⟩
      refine FileTree.at?_put_of_ne _ (concat_ne ?_) _
      intro same
      have isEntry := isEntryName_fileName (stems key)
      rw [same, noEntry] at isEntry
      cases isEntry
  | stopped failed =>
      simp only [Folder.clear, listed] at failed
      obtain ⟨gone, count, among, done⟩ := clearNames_error failed
      exact tidy.clear_some stems among done
  | interrupted listing among done =>
      rw [listed] at listing
      cases listing
      exact tidy.clear_some stems among done
  | elsewhere untouched =>
      obtain ⟨there, same, names⟩ := untouched place tidy.there
      refine ⟨⟨there, ?_, ?_, ?_⟩, fun key => held_congr (same _)⟩
      · intro name item standing
        rw [same] at standing
        exact tidy.plain name item standing
      · intro name member
        rw [same]
        exact tidy.entries name (names.mem_iff.mp member)
      · exact names.nodup_iff.mpr tidy.distinct

end Deeds

section Histories

variable (stems : ∀ key, IsStem (folder.stem key)) (history : folder.History start deeds host)

include stems history

/-- A folder stays tidy, whatever was done with it and whatever has failed. -/
theorem History.tidy (tidy : folder.Tidy place start) : folder.Tidy place host := by
  induction history with
  | nothing => exact tidy
  | later history happens ih => exact (ih.happens stems happens).1

/-- An entry that is held was kept, and nothing has replaced it since. -/
theorem History.exists_kept (tidy : folder.Tidy place start)
    (empty : ∀ key, folder.held place start key = none) {entry : Entry}
    (held : folder.held place host key = some entry) :
    folder.stem entry.key = folder.stem key ∧
      ∃ older newer, deeds = older ++ .kept entry.key entry.payload :: newer ∧
        ∀ deed ∈ newer, ¬ deed.Ends entry.key := by
  induction history with
  | nothing =>
      rw [empty] at held
      cases held
  | @later deeds deed before after history happens ih =>
      have leaves := ((history.tidy stems tidy).happens stems happens).2 key
      rw [held] at leaves
      rcases leaves.origin with ⟨rfl, same⟩ | ⟨earlier, goesOn⟩
      · exact ⟨same, deeds, [], rfl, by simp⟩
      · obtain ⟨same, older, newer, rfl, lasting⟩ := ih earlier
        refine ⟨same, older, newer ++ [deed], by simp, ?_⟩
        intro other member
        rcases List.mem_append.mp member with inside | last
        · exact lasting other inside
        · rw [List.mem_singleton.mp last]
          exact goesOn same

/-- A payload that was kept is held as long as nothing replaces or disturbs it. -/
theorem History.held_of_kept (tidy : folder.Tidy place start) {older newer : List Deed}
    (kept : deeds = older ++ .kept key payload :: newer)
    (calm : ∀ deed ∈ newer, ¬ deed.Ends key ∧ ¬ deed.Disturbs folder key) :
    folder.held place host key = some ⟨key, payload⟩ := by
  induction history generalizing newer with
  | nothing => simp at kept
  | @later deeds deed before after history happens ih =>
      have leaves := ((history.tidy stems tidy).happens stems happens).2 key
      rcases List.eq_nil_or_concat newer with rfl | ⟨front, last, rfl⟩
      · obtain ⟨rfl, same⟩ := List.append_inj' kept rfl
        cases same
        rw [Deed.Leaves, if_pos rfl] at leaves
        exact leaves
      · rw [List.concat_eq_append, ← List.cons_append, ← List.append_assoc] at kept
        obtain ⟨rfl, same⟩ := List.append_inj' kept rfl
        cases same
        obtain ⟨goesOn, quiet⟩ := calm deed (by simp)
        rw [leaves.eq_of_calm goesOn quiet]
        exact ih rfl fun other member => calm other (by simp [member])

/-- Where no two of the keys in use share a stem and no clearing stops halfway, a folder holds what a
store in memory would. -/
theorem History.held_eq {keys : Set String} (apart : Set.InjOn folder.stem keys)
    (among : ∀ deed ∈ deeds, deed.Among keys) (asked : key ∈ keys)
    (whole : .failedToClear ∉ deeds) (tidy : folder.Tidy place start)
    (empty : ∀ key, folder.held place start key = none) :
    folder.held place host key =
      ((deeds.foldl Deed.recalled []).lookup key).map (Entry.mk key) := by
  induction history with
  | nothing => exact empty key
  | @later deeds deed before after history happens ih =>
      rw [List.mem_append, not_or] at whole
      have leaves := ((history.tidy stems tidy).happens stems happens).2 key
      rw [ih (fun other member => among other (List.mem_append_left _ member)) whole.1] at leaves
      rw [List.foldl_append]
      refine leaves.recalled apart asked (among deed (by simp)) ?_
      rintro rfl
      exact whole.2 (List.mem_singleton_self _)

end Histories

end Folder

/-- A folder refines a map, whatever stems its files are named by and whatever fails. Beginning with
an empty directory, after any history of calls: (1) a key is answered unless the file cannot be read;
(2) a payload that is handed out was kept last under the very key; (3) a payload is handed out as
long as no other key of the stem was kept or removed since and no clearing has stopped halfway; (4) a
call that fails to keep or to remove changes no answer; (5) clearing leaves nothing to hand out, and
counts the stems under which something was; (6) for any keys no two of which share a stem, if no
other keys were kept or removed and no clearing has stopped halfway, the answers are those of a store
in memory to which the same was done. -/
theorem folder_refines_map (folder : Folder) (stems : ∀ key, IsStem (folder.stem key))
    {start host : Host} {place : Place}
    (there : start.files.find start.cwd folder.dir = .ok (place, .directory))
    (empty : start.files.namesIn place = []) {deeds : List Deed}
    (history : folder.History start deeds host) :
    (∀ key error, folder.get host key = .error error → ∃ cause, error = .io cause ∧
        host.files.readText host.cwd (folder.entryPath key) = .error cause) ∧
      (∀ key payload, folder.get host key = .ok (some payload) →
        ∃ older newer, deeds = older ++ .kept key payload :: newer ∧
          ∀ deed ∈ newer, ¬ deed.Ends key) ∧
      (∀ key payload answer older newer, deeds = older ++ .kept key payload :: newer →
        (∀ deed ∈ newer, ¬ deed.Ends key ∧ ¬ deed.Disturbs folder key) →
          folder.get host key = .ok answer → answer = some payload) ∧
      (∀ key payload after, folder.Happens host (.failedToKeep key payload) after ∨
          folder.Happens host (.failedToRemove key) after →
        ∀ other, folder.get after other = folder.get host other) ∧
      (∀ count after, folder.clear host = (.ok count, after) →
        (∀ key answer, folder.get after key = .ok answer → answer = none) ∧
          count = Set.ncard {stem | ∃ key payload, folder.stem key = stem ∧
            folder.get host key = .ok (some payload)}) ∧
      (∀ keys, Set.InjOn folder.stem keys → (∀ deed ∈ deeds, deed.Among keys) →
        .failedToClear ∉ deeds →
          ∀ key ∈ keys, ∀ answer, (Store.folder folder).get host key = .ok answer →
            (Store.memory (deeds.foldl Deed.recalled [])).get host key = .ok answer) := by
  have begun := Folder.tidy_of_empty there empty
  have nothing : ∀ key, folder.held place start key = none := by
    intro key
    rcases begun.held_cases stems key with ⟨-, none⟩ | ⟨entry, modified, -, file, -⟩
    · exact none
    · have member := FileTree.mem_namesIn_of_at? file
      rw [empty] at member
      cases member
  have tidy := history.tidy stems begun
  refine ⟨?_, ?_, ?_, ?_, ?_, ?_⟩
  · intro key error failed
    exact tidy.unreadable_of_get stems failed
  · intro key payload got
    exact (history.exists_kept stems begun nothing (tidy.held_of_get stems got)).2
  · intro key payload answer older newer kept calm got
    rw [tidy.answer_eq stems got, history.held_of_kept stems begun kept calm]
    simp
  · intro key payload after failed other
    have unchanged : folder.Tidy place after ∧ folder.held place after other =
        folder.held place host other := by
      rcases failed with failed | failed
      · exact (tidy.happens stems failed).imp_right fun leaves => leaves other
      · exact (tidy.happens stems failed).imp_right fun leaves => leaves other
    rw [unchanged.1.get_eq stems, tidy.get_eq stems, unchanged.2]
  · intro count after done
    obtain ⟨tidier, gone, counted⟩ := tidy.clear stems done
    refine ⟨?_, counted⟩
    intro key answer got
    rw [tidier.answer_eq stems got, gone]
    rfl
  · intro keys apart among whole key asked answer got
    rw [tidy.answer_eq stems got, history.held_eq stems apart among asked whole begun nothing]
    show Except.ok ((deeds.foldl Deed.recalled []).lookup key) = _
    cases (deeds.foldl Deed.recalled []).lookup key <;> simp

/-- The stem of all keys but one. -/
def commonStem : String := "0123456789abcdef0123456789abcdef"

/-- A folder in which one key has a stem for itself. -/
def sharedFolder : Folder :=
  ⟨.ofString "/c", fun key => if key = "c" then "ffffffffffffffffffffffffffffffff" else commonStem⟩

theorem isStem_sharedFolder (key : String) : IsStem (sharedFolder.stem key) := by
  have common : IsStem commonStem := by
    have among : commonStem.toList ⊆ hexDigits := by decide
    exact ⟨by decide, among⟩
  have own : IsStem "ffffffffffffffffffffffffffffffff" := by
    have among : "ffffffffffffffffffffffffffffffff".toList ⊆ hexDigits := by decide
    exact ⟨by decide, among⟩
  show IsStem (if key = "c" then _ else _)
  split
  · exact own
  · exact common

/-- A key with a stem for itself and one that shares its own are answered as by a store in memory.
When another key of the shared stem is kept, that is the one handed out. -/
theorem folder_refines_map_shared :
    let start : Host := ⟨⟨[([[0x63]], .directory)]⟩, [], [], 0⟩
    let deeds : List Deed := [.kept "a" "1", .kept "c" "2", .failedToKeep "c" "3"]
    ∃ host after, sharedFolder.History start deeds host ∧
      Set.InjOn sharedFolder.stem {"a", "c"} ∧
      sharedFolder.get host "a" = .ok (some "1") ∧ sharedFolder.get host "c" = .ok (some "2") ∧
      sharedFolder.History start (deeds ++ [.kept "b" "4"]) after ∧
      sharedFolder.get after "b" = .ok (some "4") := by
  intro start deeds
  have stems := isStem_sharedFolder
  have there : start.files.find start.cwd sharedFolder.dir = .ok ([[0x63]], .directory) := by
    have bytes : sharedFolder.dir.bytes = [0x2f, 0x63] := by decide
    have components : sharedFolder.dir.components = [[0x63]] := by decide
    simp [FileTree.find, FileTree.locate, bytes, components, Path.isAbsolute, Path.slash,
      FileTree.pathLimit, FileTree.walk, FileTree.at?, FileTree.nameLimit, Path.here, Path.above,
      start]
  have empty : start.files.namesIn [[0x63]] = [] := by decide
  have brief : (sharedFolder.dir.join (.ofString Folder.temporaryName)).bytes.length <
      FileTree.pathLimit := by decide +kernel
  have short : ∀ key ∈ ["a", "b", "c"],
      (sharedFolder.entryPath key).bytes.length < FileTree.pathLimit := by decide +kernel
  have begun := Folder.tidy_of_empty there empty
  obtain ⟨first, one⟩ := begun.exists_set stems "1" (short "a" (by simp)) brief
  have once : sharedFolder.History start [.kept "a" "1"] first := .later .nothing (.kept one)
  obtain ⟨host, two⟩ := (once.tidy stems begun).exists_set stems "2" (short "c" (by simp)) brief
  have history : sharedFolder.History start deeds host := (once.later (.kept two)).later .unkept
  obtain ⟨after, four⟩ := (history.tidy stems begun).exists_set stems "4" (short "b" (by simp)) brief
  have longer : sharedFolder.History start (deeds ++ [.kept "b" "4"]) after :=
    history.later (.kept four)
  have reached {deeds host} (history : sharedFolder.History start deeds host) (key : String)
      (asked : key ∈ ["a", "b", "c"]) : ∃ answer, sharedFolder.get host key = .ok answer := by
    rw [(history.tidy stems begun).get_eq stems, if_neg (Nat.not_le.mpr (short key asked))]
    exact ⟨_, rfl⟩
  have apart : Set.InjOn sharedFolder.stem {"a", "c"} := by
    rintro key (rfl | rfl) other (rfl | rfl) same
    · rfl
    · exact absurd same (by decide)
    · exact absurd same (by decide)
    · rfl
  have recalled : ∀ key ∈ ({"a", "c"} : Set String), key ∈ ["a", "b", "c"] →
      sharedFolder.get host key = .ok ((deeds.foldl Deed.recalled []).lookup key) := by
    intro key asked near
    obtain ⟨answer, got⟩ := reached history key near
    rw [got]
    exact (((folder_refines_map sharedFolder stems there empty history).2.2.2.2.2 {"a", "c"} apart
      (by simp [deeds, Deed.Among]) (by simp [deeds]) key asked answer got)).symm
  obtain ⟨answer, got⟩ := reached longer "b" (by simp)
  have lasts := (folder_refines_map sharedFolder stems there empty longer).2.2.1 "b" "4" answer deeds
    [] rfl (List.forall_mem_nil _) got
  exact ⟨host, after, history, apart, recalled "a" (by simp) (by simp),
    recalled "c" (by simp) (by simp), longer, got.trans (congrArg Except.ok lasts)⟩

end ScriptRoster.Cache
