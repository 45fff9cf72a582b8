import ScriptRoster.Json.Reader

/-!
# Cache entries

A file of the cache holds one entry: a key and the payload kept under it, as a JSON object. An
array of the two is read as well.
-/

namespace ScriptRoster.Cache

open Json

/-- A payload and the key it is kept under. -/
structure Entry where
  key : String
  payload : String
  deriving DecidableEq, Repr

namespace Entry

/-- An entry as text. -/
def text (entry : Entry) : String :=
  String.ofList ("\x7b\"key\":".toList ++ quote entry.key.toList ++ ",\"payload\":".toList
    ++ quote entry.payload.toList ++ "\x7d".toList)

/-- What an entry is called in faults. -/
def described : String := "struct CacheEntry"

/-- A fault of the fields read so far, placed where the object ends. -/
def objectFault {α : Type} (cause : Cause) (rest : List Char) : Except Fault α :=
  fail cause (restAfter (endObject rest))

/-- Reads the fields of an entry up to the end of its object. -/
def readFields (next : List Char → Except Fault Next) (key payload : Option String) :
    Nat → List Char → Except Fault (Entry × List Char)
  | 0, s => fail .endInObject s
  | fuel + 1, s =>
      match next s with
      | .error fault => .error fault
      | .ok (.stop rest) =>
          match key, payload with
          | some key, some payload => (endObject rest).map fun rest => (⟨key, payload⟩, rest)
          | none, _ => objectFault (.missingField "key") rest
          | some _, none => objectFault (.missingField "payload") rest
      | .ok (.item rest) =>
          match readBody rest with
          | .error fault => .error fault
          | .ok (name, rest) =>
              if name = "key".toList then
                if key.isSome then objectFault (.repeatedField "key") rest
                else
                  match (readColon rest).bind readString with
                  | .error fault => .error fault
                  | .ok (value, rest) => readFields nextField (some value) payload fuel rest
              else if name = "payload".toList then
                if payload.isSome then objectFault (.repeatedField "payload") rest
                else
                  match (readColon rest).bind readString with
                  | .error fault => .error fault
                  | .ok (value, rest) => readFields nextField key (some value) fuel rest
              else
                match (readColon rest).bind skip with
                | .error fault => .error fault
                | .ok rest => readFields nextField key payload fuel rest

/-- A fault of an array that has too few items, placed where the array ends. -/
def lengthFault {α : Type} (length : Nat) (rest : List Char) : Except Fault α :=
  fail (.wrongLength length (described ++ " with 2 elements")) (restAfter (endList rest))

/-- Reads an entry from the items of an array. -/
def readItems (s : List Char) : Except Fault (Entry × List Char) := do
  match ← firstItem s with
  | .stop rest => lengthFault 0 rest
  | .item rest =>
      let (key, rest) ← readString rest
      match ← nextItem rest with
      | .stop rest => lengthFault 1 rest
      | .item rest =>
          let (payload, rest) ← readString rest
          let rest ← endList rest
          return (⟨key, payload⟩, rest)

/-- Reads an entry. -/
def read (s : List Char) : Except Fault (Entry × List Char) :=
  let s := skipSpace s
  match s with
  | [] => fail .endInValue []
  | '[' :: rest => readItems rest
  | '\x7b' :: rest => readFields firstField none none (s.length + 1) rest
  | _ => .error (wrongType described s)

/-- The entry that a text holds. -/
def ofText (text : String) : Except Fault Entry := document read text

end Entry

end ScriptRoster.Cache
