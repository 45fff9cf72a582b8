import ScriptRoster.Toml.Scalar

/-!
# Documents in TOML

The lines of a text build one table. A table may be opened once by its own header; tables that
were only passed through on the way to another may still be opened, and tables made by dotted keys
may be added to by dotted keys and by nothing else.
-/

namespace ScriptRoster.Toml

/-- How a table came to be: in braces, by its own header, on the way of a header to another table,
or by a dotted key. -/
inductive Origin where
  | inline
  | header
  | passed
  | dotted
  deriving DecidableEq, Repr

/-- A part of a key: the name it gives and the bytes it was written at. -/
structure Key where
  name : String
  start : Nat
  stop : Nat
  deriving DecidableEq, Repr

/-- A value and the bytes it was written at. -/
inductive Node where
  | scalar (value : Scalar) (start stop : Nat)
  | array (items : List Node) (start stop : Nat)
  | tables (items : List (List (Key × Node))) (start stop : Nat)
  | table (origin : Origin) (entries : List (Key × Node)) (start stop : Nat)
  deriving Repr

/-- Keys and values, in the order in which they were written. -/
abbrev Entries := List (Key × Node)

def Node.start : Node → Nat
  | scalar _ start _ => start
  | array _ start _ => start
  | tables _ start _ => start
  | table _ _ start _ => start

def Node.stop : Node → Nat
  | scalar _ _ stop => stop
  | array _ _ stop => stop
  | tables _ _ stop => stop
  | table _ _ _ stop => stop

/-- The name of a type of value. -/
def Node.type : Node → String
  | scalar (.text _) _ _ => "string"
  | scalar (.boolean _) _ _ => "boolean"
  | scalar .datetime _ _ => "datetime"
  | scalar (.whole _) _ _ => "integer"
  | scalar (.floating _) _ _ => "float"
  | array .. => "array"
  | tables .. => "array"
  | table .. => "table"

/-- The greatest number of parts that a key may have in front of its last. -/
def greatestPath : Nat := 80

/-- The parts of a key, read, after so many before. -/
def readKeyAfter (before : Nat) : List Raw → Except Fault (List Key)
  | [] => .ok []
  | raw :: rest => do
      let name ← raw.name
      if greatestPath ≤ before then failNowhere .tooLong
      let more ← readKeyAfter (before + 1) rest
      return ⟨name, raw.start, raw.stop⟩ :: more

/-- The parts of a key, read: those in front and the last. -/
def readKey (parts : List Raw) : Except Fault (List Key × Key) := do
  let keys ← readKeyAfter 0 parts
  return (keys.dropLast, keys.getLast?.getD ⟨"", 0, 0⟩)

def Key.fault {α : Type} (key : Key) (cause : Cause) : Except Fault α :=
  failOver cause key.start key.stop

namespace Entries

/-- The entry of a name. -/
def find? (entries : Entries) (name : String) : Option (Key × Node) :=
  List.find? (fun entry => entry.1.name = name) entries

/-- The entries with an entry in the stead of the one of its name, or at the end. -/
def put (key : Key) (node : Node) : Entries → Entries
  | [] => [(key, node)]
  | entry :: rest =>
      if entry.1.name = key.name then (key, node) :: rest else entry :: put key node rest

/-- Adds a value under a key that is not there. -/
def add (key : Key) (node : Node) (entries : Entries) : Except Fault Entries :=
  if (entries.find? key.name).isSome then key.fault .repeatedKey
  else .ok (entries.put key node)

/-- Adds a value below the tables that the front of a dotted key leads to. Tables that are not
there are made; those that are there must have been made by dotted keys, or be passed through.
`braces` when the dotted key stands in braces. -/
def addBelow (braces : Bool) (key : Key) (node : Node) :
    List Key → Origin → Entries → Except Fault Entries
  | [], origin, entries =>
      if origin = .dotted then entries.add key node else key.fault .repeatedKey
  | part :: path, _, entries =>
      match entries.find? part.name with
      | none => do
          let inner ← addBelow braces key node path .dotted []
          return entries.put part (.table .dotted inner part.start part.stop)
      | some (old, .table origin inner start stop) =>
          if origin = .inline && !braces then part.fault (.cannotExtend "inline table")
          else if origin = .inline || origin = .header then part.fault .repeatedKey
          else do
            let inner ← addBelow braces key node path origin inner
            return entries.put old (.table origin inner start stop)
      | some (old, .tables items start stop) => do
          let inner ← addBelow braces key node path .header (items.getLast?.getD [])
          return entries.put old (.tables (items.dropLast ++ [inner]) start stop)
      | some (_, found) => part.fault (.cannotExtend found.type)

/-- Adds a value under the parts of a key. -/
def addUnder (braces : Bool) (path : List Key) (key : Key) (node : Node) (entries : Entries) :
    Except Fault Entries :=
  if path.isEmpty then entries.add key node else addBelow braces key node path .dotted entries

/-- Changes the table that the front of a header leads to. Tables that are not there are made; in
an array of tables the last one counts. -/
def reach (f : Entries → Except Fault Entries) : List Key → Entries → Except Fault Entries
  | [], entries => f entries
  | part :: path, entries =>
      match entries.find? part.name with
      | none => do
          let inner ← reach f path []
          return entries.put part (.table .passed inner part.start part.stop)
      | some (old, .table origin inner start stop) =>
          if origin = .inline then part.fault (.cannotExtend "inline table")
          else do
            let inner ← reach f path inner
            return entries.put old (.table origin inner start stop)
      | some (old, .tables items start stop) => do
          let inner ← reach f path (items.getLast?.getD [])
          return entries.put old (.tables (items.dropLast ++ [inner]) start stop)
      | some (_, found) => part.fault (.cannotExtend found.type)

/-- What a table holds already when its own header comes. -/
def opened (key : Key) (entries : Entries) : Except Fault Entries :=
  match entries.find? key.name with
  | none => .ok []
  | some (_, .table .passed inner _ _) => .ok inner
  | some _ => key.fault .repeatedKey

/-- Adds a further table to an array of tables. -/
def addTable (key : Key) (inner : Entries) (start stop : Nat) (entries : Entries) :
    Except Fault Entries :=
  match entries.find? key.name with
  | none => .ok (entries.put key (.tables [inner] start stop))
  | some (old, .tables items start stop) =>
      .ok (entries.put old (.tables (items ++ [inner]) start stop))
  | some _ => key.fault .repeatedKey

end Entries

mutual

/-- What a value says. -/
def Written.node : Written → Except Fault Node
  | .scalar raw => do
      let value ← raw.scalar
      return .scalar value raw.start raw.stop
  | .array items start stop => do
      let items ← nodes items
      return .array items start stop
  | .braces entries start stop => do
      let entries ← bracedEntries [] entries
      return .table .inline entries start stop

def nodes : List Written → Except Fault (List Node)
  | [] => .ok []
  | item :: rest => do
      let node ← item.node
      let more ← nodes rest
      return node :: more

def bracedEntries (entries : Entries) : List (List Raw × Written) → Except Fault Entries
  | [] => .ok entries
  | (parts, value) :: rest => do
      let (path, key) ← readKey parts
      let node ← value.node
      let entries ← entries.addUnder true path key node
      bracedEntries entries rest

end

/-- The entries with those that follow a header. -/
def bodyEntries (entries : Entries) : List (List Raw × Written) → Except Fault Entries
  | [] => .ok entries
  | (parts, value) :: rest => do
      let (path, key) ← readKey parts
      let node ← value.node
      let entries ← entries.addUnder false path key node
      bodyEntries entries rest

/-- A document with the table of a section. A table that is opened once is looked for before its
entries are read, and a table of an array after. -/
def Section.addTo (document : Entries) : Section → Except Fault Entries
  | ⟨.table, parts, start, stop, body⟩ => do
      let (path, key) ← readKey parts
      let filled (entries : Entries) : Except Fault Entries := do
        let inner ← entries.opened key
        let inner ← bodyEntries inner body
        return entries.put key (.table .header inner start stop)
      document.reach filled path
  | ⟨.tables, parts, start, stop, body⟩ => do
      let (path, key) ← readKey parts
      let inner ← bodyEntries [] body
      document.reach (Entries.addTable key inner start stop) path

/-- The document that sections make of the entries in front of them. -/
def addSections (document : Entries) : List Section → Except Fault Entries
  | [] => .ok document
  | part :: rest => do
      let document ← part.addTo document
      addSections document rest

/-- The entries of the document that a text holds. -/
def read (source : String) : Except Fault Entries := do
  let lines ← linesOf source.toList
  let (front, rest) := sections lines
  let document ← bodyEntries [] front
  addSections document rest

end ScriptRoster.Toml
