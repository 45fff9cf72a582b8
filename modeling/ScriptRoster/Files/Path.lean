import ScriptRoster.Text.Utf8

/-!
# Paths

A path is a sequence of bytes with slashes between its components. It need not be UTF-8; for
display it is decoded lossily.
-/

namespace ScriptRoster.Files

open Text

/-- A path as its bytes. -/
structure Path where
  bytes : Bytes
  deriving DecidableEq, Repr, Inhabited

namespace Path

/-- The byte between components. -/
def slash : UInt8 := 0x2f

def ofString (s : String) : Path := ⟨encode s⟩

/-- The path as text for messages. -/
def display (path : Path) : String := decodeLossy path.bytes

/-- The path as text, if it is UTF-8. -/
def text? (path : Path) : Option String := decode? path.bytes

def isAbsolute (path : Path) : Bool := path.bytes.head? == some slash

/-- The parts between slashes, empty ones included. -/
def split (bytes : Bytes) : List Bytes :=
  match bytes with
  | [] => [[]]
  | b :: rest =>
      if b == slash then [] :: split rest
      else
        match split rest with
        | part :: parts => (b :: part) :: parts
        | [] => [[b]]

/-- The component that names the directory itself. -/
def here : Bytes := [0x2e]

/-- The component that names the directory above. -/
def above : Bytes := [0x2e, 0x2e]

/-- The components that a walk along the path goes through. A slash at the end asks for a
directory, as a component that names the directory itself does. -/
def components (path : Path) : List Bytes :=
  let parts := (split path.bytes).filter (· != [])
  if path.bytes.getLast? == some slash then parts ++ [here] else parts

/-- The path of `name` inside `dir`; an absolute name stands for itself. -/
def join (dir name : Path) : Path :=
  if name.isAbsolute then name
  else if dir.bytes.isEmpty || dir.bytes.getLast? == some slash then ⟨dir.bytes ++ name.bytes⟩
  else ⟨dir.bytes ++ slash :: name.bytes⟩

/-- The components that count when a path is taken apart: those that name the directory itself
count only at the start of a relative path. -/
def parts (path : Path) : List Bytes :=
  match (split path.bytes).filter (· != []) with
  | [] => []
  | first :: rest =>
      let rest := rest.filter (· != here)
      if path.isAbsolute && first == here then rest else first :: rest

/-- Components with slashes between them. -/
def glue : List Bytes → Bytes
  | [] => []
  | [part] => part
  | part :: rest => part ++ slash :: glue rest

/-- An absolute path from its components. -/
def ofPlace (place : List Bytes) : Path := ⟨slash :: glue place⟩

/-- The path without its last component; the root and the empty path have none. -/
def parent? (path : Path) : Option Path :=
  match path.parts.reverse with
  | [] => none
  | _ :: front =>
      if path.isAbsolute then some (ofPlace front.reverse) else some ⟨glue front.reverse⟩

/-- The end of a file name from its last point on, without the point; a name that begins with its
only point has none. -/
def extension? (name : Bytes) : Option Bytes :=
  let reversed := name.reverse
  match reversed.dropWhile (· != 0x2e) with
  | [] => none
  | [_] => none
  | _ :: _ => some (reversed.takeWhile (· != 0x2e)).reverse

end Path

end ScriptRoster.Files
