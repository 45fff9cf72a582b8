import ScriptRoster.Files.Path

/-!
# File trees

What a file system holds: regular files with a content and a time of modification, directories,
symbolic links, and devices. Items are kept by their place, the list of names from the root.
`locate` walks along a path as the system does, through links and `..`.
-/

namespace ScriptRoster.Files

open Text

/-- The names from the root to an item; the root has none. -/
abbrev Place := List Bytes

/-- What stands at a place. -/
inductive Item where
  /-- A regular file; `modified` is in milliseconds since the start of 1970. -/
  | file (content : Bytes) (modified : Int)
  | directory
  | link (target : Path)
  /-- A file that is run, known by the name of its program. -/
  | program (name : String)
  | device
  deriving DecidableEq, Repr, Inhabited

/-- Why a request to the file system fails. -/
inductive FileError where
  | notFound
  | denied
  | alreadyThere
  | notDirectory
  | isDirectory
  | nameTooLong
  | notEmpty
  | tooManyLinks
  | nulInName
  | nulInArgument
  | notText
  deriving DecidableEq, Repr

def FileError.message : FileError → String
  | .notFound => "No such file or directory (os error 2)"
  | .denied => "Permission denied (os error 13)"
  | .alreadyThere => "File exists (os error 17)"
  | .notDirectory => "Not a directory (os error 20)"
  | .isDirectory => "Is a directory (os error 21)"
  | .nameTooLong => "File name too long (os error 36)"
  | .notEmpty => "Directory not empty (os error 39)"
  | .tooManyLinks => "Too many levels of symbolic links (os error 40)"
  | .nulInName => "file name contained an unexpected NUL byte"
  | .nulInArgument => "nul byte found in provided data"
  | .notText => "stream did not contain valid UTF-8"

/-- Items by place. The root is a directory and is not listed. -/
structure FileTree where
  items : List (Place × Item)
  deriving Inhabited

namespace FileTree

/-- What stands at a place. -/
def at? (tree : FileTree) (place : Place) : Option Item :=
  if place = [] then some .directory else tree.items.lookup place

/-- The tree with an item put at a place, in the stead of what stood there. -/
def put (tree : FileTree) (place : Place) (item : Item) : FileTree :=
  ⟨(place, item) :: tree.items.filter (·.1 != place)⟩

/-- The tree without what stands at a place. -/
def erase (tree : FileTree) (place : Place) : FileTree :=
  ⟨tree.items.filter (·.1 != place)⟩

/-- The tree without a place and all places below it. -/
def eraseBelow (tree : FileTree) (place : Place) : FileTree :=
  ⟨tree.items.filter fun entry => !place.isPrefixOf entry.1⟩

/-- The names of the items directly below a place. -/
def namesIn (tree : FileTree) (place : Place) : List Bytes :=
  tree.items.filterMap fun entry =>
    match entry.1.reverse with
    | name :: above => if above.reverse = place then some name else none
    | [] => none

/-- The greatest length of a name. -/
def nameLimit : Nat := 255

/-- A path must be shorter than this. -/
def pathLimit : Nat := 4096

/-- The greatest number of links followed in one walk. -/
def linkLimit : Nat := 40

/-- Where a walk ends: at an item, or at a free name in a directory. -/
inductive Spot where
  | taken (place : Place) (item : Item)
  | free (place : Place)
  deriving Repr

/-- Walks from a place along names. A link at the end is followed if `follow`; at most `links`
links are followed. -/
def walk (tree : FileTree) (follow : Bool) (links : Nat) (place : Place) :
    List Bytes → Except FileError Spot
  | [] =>
      match tree.at? place with
      | some item => .ok (.taken place item)
      | none => .error .notFound
  | name :: rest =>
      if tree.at? place ≠ some .directory then .error .notDirectory
      else if name = Path.here then walk tree follow links place rest
      else if name = Path.above then walk tree follow links place.dropLast rest
      else if nameLimit < name.length then .error .nameTooLong
      else
        match tree.at? (place ++ [name]) with
        | none => if rest = [] then .ok (.free (place ++ [name])) else .error .notFound
        | some (.link target) =>
            if rest = [] && !follow then .ok (.taken (place ++ [name]) (.link target))
            else
              match links with
              | 0 => .error .tooManyLinks
              | links + 1 =>
                  if target.bytes.isEmpty then .error .notFound
                  else
                    walk tree follow links (if target.isAbsolute then [] else place)
                      (target.components ++ rest)
        | some _ => walk tree follow links (place ++ [name]) rest
  termination_by names => (links, names.length)

/-- Finds where a path leads from a working directory. -/
def locate (tree : FileTree) (follow : Bool) (cwd : Place) (path : Path) :
    Except FileError Spot :=
  if path.bytes.contains 0 then .error .nulInName
  else if path.bytes.isEmpty then .error .notFound
  else if pathLimit ≤ path.bytes.length then .error .nameTooLong
  else walk tree follow linkLimit (if path.isAbsolute then [] else cwd) path.components

/-- The item a path leads to, and its place, links followed. -/
def find (tree : FileTree) (cwd : Place) (path : Path) : Except FileError (Place × Item) :=
  match tree.locate true cwd path with
  | .ok (.taken place item) => .ok (place, item)
  | .ok (.free _) => .error .notFound
  | .error error => .error error

/-- Whether anything is there. -/
def exists? (tree : FileTree) (cwd : Place) (path : Path) : Bool := (tree.find cwd path).isOk

/-- Whether a directory is there. -/
def isDirectory (tree : FileTree) (cwd : Place) (path : Path) : Bool :=
  match tree.find cwd path with
  | .ok (_, .directory) => true
  | _ => false

/-- The content of the file at a path. -/
def read (tree : FileTree) (cwd : Place) (path : Path) : Except FileError Bytes :=
  match tree.find cwd path with
  | .ok (_, .file content _) => .ok content
  | .ok (_, .directory) => .error .isDirectory
  | .ok _ => .ok []
  | .error error => .error error

/-- The content of the file at a path as text. -/
def readText (tree : FileTree) (cwd : Place) (path : Path) : Except FileError String :=
  match tree.read cwd path with
  | .ok content =>
      match decode? content with
      | some text => .ok text
      | none => .error .notText
  | .error error => .error error

/-- Writes a file, in the stead of the one that is there. -/
def write (tree : FileTree) (cwd : Place) (path : Path) (content : Bytes) (now : Int) :
    Except FileError FileTree :=
  match tree.locate true cwd path with
  | .ok (.free place) => .ok (tree.put place (.file content now))
  | .ok (.taken place (.file _ _)) => .ok (tree.put place (.file content now))
  | .ok (.taken _ .directory) => .error .isDirectory
  | .ok (.taken _ _) => .ok tree
  | .error error => .error error

/-- Sets the time of modification of a file. -/
def touch (tree : FileTree) (cwd : Place) (path : Path) (modified : Int) :
    Except FileError FileTree :=
  match tree.find cwd path with
  | .ok (place, .file content _) => .ok (tree.put place (.file content modified))
  | .ok _ => .ok tree
  | .error error => .error error

/-- Makes one directory. -/
def makeDirectory (tree : FileTree) (cwd : Place) (path : Path) : Except FileError FileTree :=
  match tree.locate false cwd path with
  | .ok (.free place) => .ok (tree.put place .directory)
  | .ok (.taken _ _) => .error .alreadyThere
  | .error error => .error error

/-- Makes a directory and those above it that are not there, at most `fuel` of them. -/
def makeDirectoriesWithin (tree : FileTree) (cwd : Place) : Nat → Path → Except FileError FileTree
  | 0, _ => .ok tree
  | fuel + 1, path =>
      if path.bytes.isEmpty then .ok tree
      else
        match tree.makeDirectory cwd path with
        | .ok tree => .ok tree
        | .error .notFound =>
            match path.parent? with
            | none => .error .notFound
            | some parent => do
                let tree ← makeDirectoriesWithin tree cwd fuel parent
                match tree.makeDirectory cwd path with
                | .ok tree => .ok tree
                | .error error => if tree.isDirectory cwd path then .ok tree else .error error
        | .error error => if tree.isDirectory cwd path then .ok tree else .error error

/-- Makes a directory and all above it that are not there. -/
def makeDirectories (tree : FileTree) (cwd : Place) (path : Path) : Except FileError FileTree :=
  tree.makeDirectoriesWithin cwd (path.bytes.length + 1) path

/-- Makes a symbolic link. -/
def makeLink (tree : FileTree) (cwd : Place) (path target : Path) : Except FileError FileTree :=
  match tree.locate false cwd path with
  | .ok (.free place) => .ok (tree.put place (.link target))
  | .ok (.taken _ _) => .error .alreadyThere
  | .error error => .error error

/-- Removes a file or a link. -/
def removeFile (tree : FileTree) (cwd : Place) (path : Path) : Except FileError FileTree :=
  match tree.locate false cwd path with
  | .ok (.free _) => .error .notFound
  | .ok (.taken _ .directory) => .error .isDirectory
  | .ok (.taken place _) => .ok (tree.erase place)
  | .error error => .error error

/-- Removes whatever is there, a directory with all it holds. -/
def removeAll (tree : FileTree) (cwd : Place) (path : Path) : Except FileError FileTree :=
  match tree.locate false cwd path with
  | .ok (.free _) => .error .notFound
  | .ok (.taken place _) => .ok (tree.eraseBelow place)
  | .error error => .error error

/-- The names in a directory. -/
def list (tree : FileTree) (cwd : Place) (path : Path) : Except FileError (List Bytes) :=
  match tree.find cwd path with
  | .ok (place, .directory) => .ok (tree.namesIn place)
  | .ok _ => .error .notDirectory
  | .error error => .error error

/-- Puts a finished file in the stead of whatever file is at a path, in one step. -/
def replace (tree : FileTree) (cwd : Place) (path : Path) (content : Bytes) (now : Int) :
    Except FileError FileTree :=
  match tree.locate false cwd path with
  | .ok (.free place) => .ok (tree.put place (.file content now))
  | .ok (.taken _ .directory) => .error .isDirectory
  | .ok (.taken place _) => .ok (tree.put place (.file content now))
  | .error error => .error error

end FileTree

end ScriptRoster.Files
