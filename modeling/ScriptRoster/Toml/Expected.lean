import ScriptRoster.Decimal.Shortest
import ScriptRoster.Text.Shown
import ScriptRoster.Toml.Document

/-!
# Expected types in TOML

Values are taken as texts, lists, whole numbers or one of named choices. A value of another type is
described in the fault. Whole numbers fit in 128 bits; those that fit in 64 are plain.
-/

namespace ScriptRoster.Toml

open Decimal

namespace Node

def fault {α : Type} (node : Node) (cause : Cause) : Except Fault α :=
  failOver cause node.start node.stop

/-- How a whole number is called in messages. -/
def wholeText (n : Int) : Option String :=
  if -(twoTo 63 : Int) ≤ n ∧ n < twoTo 64 then some ("integer " ++ ticked (toString n))
  else if -(twoTo 127 : Int) ≤ n ∧ n < twoTo 127 then
    some ("integer " ++ ticked (toString n) ++ " as i128")
  else if 0 ≤ n ∧ n < twoTo 128 then some ("integer " ++ ticked (toString n) ++ " as u128")
  else none

/-- How a value is called in messages, or why it has no meaning. -/
def described : Node → Except Cause String
  | scalar (.text s) _ _ => .ok ("string " ++ Text.shown s)
  | scalar (.boolean b) _ _ => .ok ("boolean " ++ ticked (toString b))
  | scalar .datetime _ _ => .ok "map"
  | scalar (.whole n) _ _ =>
      match n.bind wholeText with
      | some s => .ok s
      | none => .error .wholeOverflow
  | scalar (.floating digits) _ _ =>
      if overflows digits then .error .floatOverflow
      else .ok ("floating point " ++ ticked (render Scientific.positional (ofText digits)))
  | array .. => .ok "sequence"
  | tables .. => .ok "sequence"
  | table .. => .ok "map"

/-- The fault of a value of another type. -/
def wrongType {α : Type} (node : Node) (expected : String) : Except Fault α :=
  match node.described with
  | .ok found => node.fault (.wrongType found expected)
  | .error cause => node.fault cause

/-- The text that a value must be. -/
def asText : Node → Except Fault String
  | scalar (.text s) _ _ => .ok s
  | node => node.wrongType "a string"

def asTextEach : List Node → Except Fault (List String)
  | [] => .ok []
  | node :: rest => do
      let s ← node.asText
      let more ← asTextEach rest
      return s :: more

/-- The list of texts that a value must be. -/
def asTexts : Node → Except Fault (List String)
  | array items _ _ => asTextEach items
  | tables items start stop =>
      asTextEach (items.map fun entries => .table .header entries start stop)
  | node => node.wrongType "a sequence"

/-- The whole number of 64 bits without sign that a value must be. -/
def asNatural (node : Node) : Except Fault Nat :=
  match node with
  | scalar (.whole (some n)) _ _ =>
      if 0 ≤ n ∧ n < twoTo 64 then .ok n.toNat
      else if -(twoTo 63 : Int) ≤ n ∧ n < 0 then
        node.fault (.wrongValue ("integer " ++ ticked (toString n)) "u64")
      else node.wrongType "u64"
  | _ => node.wrongType "u64"

/-- Requires the value beside a choice to be empty. -/
def emptyBeside : Node → Except Fault Unit
  | array [] _ _ => .ok ()
  | tables [] _ _ => .ok ()
  | table _ [] _ _ => .ok ()
  | array items start stop => fault (.array items start stop) (.variantNotEmpty "array")
  | tables items start stop => fault (.tables items start stop) (.variantNotEmpty "array")
  | table origin entries start stop =>
      fault (.table origin entries start stop) (.variantNotEmpty "table")
  | node => node.fault (.variantNotTable node.type)

/-- The choice, of those that have names, that a value must be: its name, or a table with the name
as its only key. -/
def asChoice {α : Type} (choices : List (String × α)) (node : Node) : Except Fault α :=
  let named (name : String) (start stop : Nat) : Except Fault α :=
    match choices.lookup name with
    | some choice => .ok choice
    | none => failOver (.unknownVariant name (choices.map Prod.fst)) start stop
  match node with
  | scalar (.text name) start stop => named name start stop
  | table _ [] _ _ => node.fault (.notOneVariant "found 0 elements")
  | table _ [(key, value)] _ _ => do
      let choice ← named key.name key.start key.stop
      value.emptyBeside
      return choice
  | table .. => node.fault (.notOneVariant "more than 1 element")
  | _ => node.fault .noVariant

/-- The first fault in the order of keys. -/
def firstByKey (faults : List (String × Except Fault Unit)) : Except Fault Unit :=
  (faults.mergeSort fun a b => !(b.1 < a.1)).foldl
    (fun found entry => match found with
      | .ok () => entry.2
      | .error fault => .error fault)
    (.ok ())

mutual

/-- Passes over a value; only a number that is too great is a fault. -/
def ignore : Node → Except Fault Unit
  | scalar (.whole n) start stop =>
      if (n.bind wholeText).isNone then failOver .wholeOverflow start stop else .ok ()
  | scalar (.floating digits) start stop =>
      if overflows digits then failOver .floatOverflow start stop else .ok ()
  | scalar _ _ _ => .ok ()
  | array items _ _ => ignoreEach items
  | tables items _ _ => ignoreTables items
  | table _ entries _ _ => firstByKey (ignoreEntries entries)

def ignoreEach : List Node → Except Fault Unit
  | [] => .ok ()
  | node :: rest =>
      match node.ignore with
      | .ok () => ignoreEach rest
      | .error fault => .error fault

def ignoreTables : List (List (Key × Node)) → Except Fault Unit
  | [] => .ok ()
  | entries :: rest =>
      match firstByKey (ignoreEntries entries) with
      | .ok () => ignoreTables rest
      | .error fault => .error fault

def ignoreEntries : List (Key × Node) → List (String × Except Fault Unit)
  | [] => []
  | (key, node) :: rest => (key.name, node.ignore) :: ignoreEntries rest

end

end Node

/-- Entries in the order of their keys. -/
def Entries.sorted (entries : Entries) : Entries :=
  entries.mergeSort fun a b => !(b.1.name < a.1.name)

end ScriptRoster.Toml
