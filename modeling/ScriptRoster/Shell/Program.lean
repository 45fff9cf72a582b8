import ScriptRoster.Shell.Printed
import ScriptRoster.Files.Tree

/-!
# Programs

The small programs that a host offers: each reads its input and files, writes bytes, ends with a
status, and may take its time.
-/

namespace ScriptRoster.Shell

open Text Files

/-- What a program does. -/
structure Effect where
  output : Bytes
  errors : Bytes
  status : Nat
  /-- The nanoseconds it takes. -/
  delay : Nat

namespace Effect

/-- A program that writes a text and succeeds. -/
def writes (output : Bytes) : Effect := ⟨output, [], 0, 0⟩

/-- A program that only has a status. -/
def ends (status : Nat) : Effect := ⟨[], [], status, 0⟩

/-- A program that complains and has a status. -/
def complains (text : String) (status : Nat) : Effect := ⟨[], encode text, status, 0⟩

end Effect

namespace Program

/-- The number of nanoseconds that a text such as `0.01` or `5m` asks for. -/
def pause? (text : String) : Option Nat :=
  let chars := text.toList
  let whole := chars.takeWhile Char.isDigit
  let rest := chars.drop whole.length
  let (fraction, rest) :=
    match rest with
    | '.' :: rest =>
        let digits := rest.takeWhile Char.isDigit
        (digits, rest.drop digits.length)
    | _ => ([], rest)
  let scale? : Option Nat :=
    match rest with
    | [] => some 1
    | ['s'] => some 1
    | ['m'] => some 60
    | ['h'] => some 3600
    | ['d'] => some 86400
    | _ => none
  if whole.isEmpty && fraction.isEmpty then none
  else
    let nine := (fraction ++ List.replicate 9 '0').take 9
    scale?.map fun scale =>
      (Printed.number whole * 1000000000 + Printed.number nine) * scale

def sleep (arguments : List String) : Effect :=
  match arguments with
  | [] => .complains "sleep: missing operand\nTry 'sleep --help' for more information.\n" 1
  | _ =>
      match arguments.find? fun text => (pause? text).isNone with
      | some text =>
          .complains ("sleep: invalid time interval '" ++ text
            ++ "'\nTry 'sleep --help' for more information.\n") 1
      | none => ⟨[], [], 0, (arguments.map fun text => (pause? text).getD 0).foldl Nat.add 0⟩

/-- The text of a cause without its number. -/
def causeText (cause : FileError) : String :=
  match cause with
  | .notFound => "No such file or directory"
  | .isDirectory => "Is a directory"
  | .notDirectory => "Not a directory"
  | .denied => "Permission denied"
  | cause => cause.message

/-- The characters that a shell does not take as they are, the blank apart. -/
def isShellSign (c : Char) : Bool := "!\"$&()*;<=>[^\x60|?\\".toList.contains c

/-- Whether a name has to be quoted to be taken by a shell as it is. -/
def needsQuotes (name : List Char) : Bool :=
  match name with
  | [] => true
  | first :: _ =>
      first == '#' || first == '~' || name == ['\x7b'] || name == ['\x7d']
        || name.any fun c => c == ' ' || c == '\'' || isShellSign c

/-- The name of a file as it is shown in a complaint. -/
def shownName (name : String) : String :=
  let chars := name.toList
  if !needsQuotes chars then name
  else if chars.contains '\'' && !chars.any isShellSign then "\"" ++ name ++ "\""
  else "'" ++ name.replace "'" "'\\''" ++ "'"

/-- What a program says of a file that it cannot read. -/
def complaint (program name : String) (cause : FileError) : Bytes :=
  encode (program ++ ": " ++ shownName name ++ ": " ++ causeText cause ++ "\n")

/-- Writes out files, or the input where a dash or nothing is named. -/
def cat (files : FileTree) (cwd : Place) (input : Bytes) : List String → Effect
  | [] => .writes input
  | names =>
      names.foldl (fun effect name =>
        if name == "-" then { effect with output := effect.output ++ input }
        else
          match files.read cwd (.ofString name) with
          | .ok content => { effect with output := effect.output ++ content }
          | .error cause =>
              { effect with errors := effect.errors ++ complaint "cat" name cause, status := 1 })
        (.writes [])

/-- The number of words between blanks. -/
def words (content : Bytes) : Nat :=
  let blank (b : UInt8) : Bool := b == 32 || (9 ≤ b && b ≤ 13)
  (content.foldl (fun (count, inside) b =>
    if blank b then (count, false) else (if inside then count else count + 1, true))
    ((0 : Nat), false)).1

/-- A number filled up with blanks on the left. -/
def column (width n : Nat) : String :=
  let digits := toString n
  String.ofList (List.replicate (width - digits.length) ' ') ++ digits

/-- The counts of a content that letters ask for: of lines, words, characters and bytes. -/
def counts (letters : List Char) (content : Bytes) : List Nat :=
  (if letters.contains 'l' then [content.count 10] else [])
    ++ (if letters.contains 'w' then [words content] else [])
    ++ (if letters.contains 'm' then [(decodeLossy content).length] else [])
    ++ (if letters.contains 'c' then [content.length] else [])

/-- A line of counts, with the name of what was counted. -/
def countLine (width : Nat) (counts : List Nat) (name : String) : Bytes :=
  encode (" ".intercalate (counts.map (column width))
    ++ (if name.isEmpty then "" else " " ++ name) ++ "\n")

/-- Counts lines, words and bytes of files, or of the input where none is named. -/
def wc (files : FileTree) (cwd : Place) (input : Bytes) (arguments : List String) : Effect :=
  let (options, names) := arguments.partition fun text => text.startsWith "-" && text != "-"
  let letters := (options.flatMap String.toList).filter (· != '-')
  let letters := if letters.isEmpty then ['l', 'w', 'c'] else letters
  if names.isEmpty then
    let found := counts letters input
    .writes (countLine (if found.length == 1 then 1 else 7) found "")
  else
    let found := names.map fun name =>
      (name, if name == "-" then .ok input else files.read cwd (.ofString name))
    let contents := found.filterMap fun entry => entry.2.toOption
    let size := (contents.map List.length).foldl Nat.add 0
    let plain := found.all fun entry =>
      match entry.2 with
      | .ok _ => entry.1 != "-"
      | .error cause => cause == .notFound
    let width :=
      if letters.length == 1 && names.length == 1 then 1
      else if plain then (toString size).length else 7
    let effect := found.foldl (fun (effect : Effect) entry =>
      match entry.2 with
      | .ok content =>
          { effect with
            output := effect.output ++ countLine width (counts letters content) entry.1 }
      | .error cause =>
          let line :=
            if cause == .isDirectory then countLine width (counts letters []) entry.1 else []
          { effect with
            output := effect.output ++ line
            errors := effect.errors ++ complaint "wc" entry.1 cause
            status := 1 }) (.writes [])
    if names.length == 1 then effect
    else
      let total := contents.foldl (fun total content =>
        List.zipWith Nat.add total (counts letters content)) (counts letters [])
      { effect with output := effect.output ++ countLine width total "total" }

/-- The bytes of a set: escapes stand for bytes, a dash between two for all from one to the
other. -/
def byteSet : Nat → List Char → Bytes
  | 0, _ => []
  | fuel + 1, text =>
      let one (text : List Char) : Bytes × List Char :=
        match text with
        | '\\' :: rest => Printed.escape rest
        | c :: rest => (encode (String.singleton c), rest)
        | [] => ([], [])
      match text with
      | [] => []
      | _ =>
          let (found, rest) := one text
          match found, rest with
          | [low], '-' :: c :: rest =>
              match one (c :: rest) with
              | ([high], rest) =>
                  (List.range (high.toNat + 1 - low.toNat)).map (fun n => (low.toNat + n).toUInt8)
                    ++ byteSet fuel rest
              | _ => found ++ byteSet fuel ('-' :: c :: rest)
          | _, _ => found ++ byteSet fuel rest

/-- The bytes that a text denotes as a set. -/
def setOf (text : String) : Bytes := byteSet (text.length + 1) text.toList

/-- Replaces or deletes bytes of the input. -/
def tr (input : Bytes) : List String → Effect
  | ["-d", deleted] =>
      let set := setOf deleted
      .writes (input.filter fun b => !set.contains b)
  | [source, target] =>
      let source := setOf source
      let target := setOf target
      .writes (input.map fun b =>
        match source.findIdx? (· == b) with
        | some i => ((target[i]?).orElse fun _ => target.getLast?).getD b
        | none => b)
  | _ => .complains "tr: missing operand\nTry 'tr --help' for more information.\n" 1

/-- The names of all programs, the shell among them. -/
def names : List String :=
  ["sh", "echo", "true", "false", "sleep", "cat", "pwd", "wc", "tr"]

/-- What a program does that is no shell. -/
def run (name : String) (arguments : List String) (files : FileTree) (cwd : Place)
    (input : Bytes) : Effect :=
  match name with
  | "echo" => .writes (Printed.programLine arguments)
  | "false" => .ends 1
  | "sleep" => sleep arguments
  | "cat" => cat files cwd input arguments
  | "pwd" =>
      let effect := Effect.writes ((Path.ofPlace cwd).bytes ++ [10])
      if arguments.all (·.startsWith "-") then effect
      else { effect with errors := encode "pwd: ignoring non-option arguments\n" }
  | "wc" => wc files cwd input arguments
  | "tr" => tr input arguments
  | _ => .ends 0

/-- Whether a condition on one operand holds. -/
def unary (files : FileTree) (cwd : Place) (op operand : String) : Option Bool :=
  let path := Path.ofString operand
  let item := (files.find cwd path).toOption.map Prod.snd
  match op with
  | "-n" => some (operand != "")
  | "-z" => some (operand == "")
  | "-e" => some item.isSome
  | "-r" => some item.isSome
  | "-w" => some item.isSome
  | "-d" => some (item == some .directory)
  | "-f" =>
      match item with
      | some (.file ..) => some true
      | some (.program _) => some true
      | _ => some false
  | "-s" =>
      match item with
      | some (.file content _) => some !content.isEmpty
      | _ => some item.isSome
  | "-x" =>
      match item with
      | some (.program _) => some true
      | _ => some (item == some .directory)
  | "-L" =>
      match files.locate false cwd path with
      | .ok (.taken _ (.link _)) => some true
      | _ => some false
  | _ => none

/-- Whether a condition on two operands holds. -/
def binary (op a b : String) : Option Bool :=
  let compare (holds : Int → Int → Bool) : Option Bool := do
    some (holds (← a.toInt?) (← b.toInt?))
  match op with
  | "=" => some (a == b)
  | "!=" => some (a != b)
  | "-eq" => compare fun a b => a == b
  | "-ne" => compare fun a b => a != b
  | "-lt" => compare fun a b => a < b
  | "-le" => compare fun a b => a ≤ b
  | "-gt" => compare fun a b => b < a
  | "-ge" => compare fun a b => b ≤ a
  | _ => none

/-- Whether a condition holds; nothing if it makes no sense. -/
def condition (files : FileTree) (cwd : Place) : List String → Option Bool
  | [] => some false
  | [text] => some (text != "")
  | "!" :: rest => (condition files cwd rest).map fun holds => !holds
  | [op, operand] => unary files cwd op operand
  | [a, op, b] => binary op a b
  | _ => none

end Program

end ScriptRoster.Shell
