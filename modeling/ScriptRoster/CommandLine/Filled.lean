import ScriptRoster.CommandLine.Complaint
import ScriptRoster.CommandLine.Resemblance

/-!
# Filled forms

Arguments are read by a form, one after the other. A pair of dashes makes all arguments after it
texts of their own. The first thing that is wrong, or the first switch that asks for help, ends the
reading.
-/

namespace ScriptRoster.CommandLine

/-- What is said in the stead of doing what the arguments ask for. -/
inductive Detour where
  /-- Help, since it was asked for. -/
  | help (form : Form)
  /-- Help, since no command was given. -/
  | noCommand (form : Form)
  | wrong (complaint : Complaint)

/-- What was given by a form: switches in the order of their first use, and a text. -/
structure Filled where
  used : List Switch
  value : Option String
  deriving DecidableEq, Repr

/-- A form of which nothing has been filled in. -/
def Filled.nothing : Filled := ⟨[], none⟩

/-- Whether a switch was given. -/
def Filled.has (filled : Filled) (long : String) : Bool := filled.used.any (·.long == long)

/-- An argument by its shape. -/
inductive Shape where
  | dashes
  | long (name : String) (value : Option String)
  | cluster (letters : List Char)
  | text
  deriving DecidableEq, Repr

/-- The part of a text before its first equals sign, and the part after it. -/
def splitEquals : List Char → List Char × Option (List Char)
  | [] => ([], none)
  | '=' :: rest => ([], some rest)
  | c :: rest =>
      let (name, value) := splitEquals rest
      (c :: name, value)

/-- The shape of an argument. -/
def Shape.of (argument : String) : Shape :=
  match argument.toList with
  | ['-', '-'] => .dashes
  | '-' :: '-' :: rest =>
      let (name, value) := splitEquals rest
      .long (String.ofList name) (value.map String.ofList)
  | ['-'] => .text
  | '-' :: rest => .cluster rest
  | _ => .text

namespace Form

/-- A fault that has nothing to do with how the form was used. -/
def fault {α : Type} (form : Form) (fault : Fault) : Except Detour α :=
  .error (.wrong ⟨fault, some form.usageUnused, form.offersHelp⟩)

/-- The last of the similar words, which is the most similar. -/
def mostSimilar? (word : String) (words : List String) : Option String :=
  (similar word words).getLast?

/-- The place of the first of some texts that is the same as another. -/
def placeOf? (name : String) (texts : List String) : Option Nat := texts.findIdx? (· == name)

/-- The commands that have a switch similar to a word, with the place where each is named. -/
def commandsWithSimilar (form : Form) (word : String) (rest : List String) :
    List (Nat × Tip) :=
  form.commands.filterMap fun command =>
    match mostSimilar? word (command.allSwitches.map (·.long)), placeOf? command.name rest with
    | some long, some place => some (place, .ofCommand command.name ("--" ++ long))
    | _, _ => none

/-- The tip of the command that is named first. -/
def earliest : List (Nat × Tip) → Option Tip
  | [] => none
  | entry :: rest =>
      some (rest.foldl (fun best entry => if entry.1 < best.1 then entry else best) entry).2

/-- Switches that were used, and one more if it is not among them. -/
def alsoUsed (used : List Switch) (switch : Switch) : List Switch :=
  if used.contains switch then used else used ++ [switch]

/-- A fault of a long switch that the form does not have. -/
def unknownLong {α : Type} (form : Form) (filled : Filled) (name : String) (rest : List String) :
    Except Detour α :=
  let argument := "--" ++ name
  let dashed := if form.blank.isSome then [Tip.behindDashes argument] else []
  let (tips, used) :=
    match mostSimilar? name (form.allSwitches.map (·.long)) with
    | some long =>
        ([Tip.similarArgument ("--" ++ long)],
          (form.switchNamed? long).toList.foldl alsoUsed filled.used)
    | none =>
        match earliest (form.commandsWithSimilar name rest) with
        | some tip => (dashed ++ [tip], filled.used)
        | none => (dashed, filled.used)
  .error (.wrong ⟨.unexpected argument tips, some (form.usage used filled.value.isSome),
    form.offersHelp⟩)

/-- Records a switch, unless it asks for help or was given before. -/
def record (form : Form) (filled : Filled) (switch : Switch) : Except Detour Filled :=
  if form.offersHelp && switch.long == helpSwitch.long then .error (.help form)
  else if filled.used.contains switch then form.fault (.repeated switch.written)
  else .ok { filled with used := filled.used ++ [switch] }

/-- Reads a long switch. -/
def readLong (form : Form) (filled : Filled) (name : String) (value : Option String)
    (rest : List String) : Except Detour Filled :=
  match form.switchNamed? name, value with
  | some switch, none => form.record filled switch
  | some switch, some value =>
      .error (.wrong ⟨.unneededValue value switch.written,
        some (form.usageAt filled.used switch), form.offersHelp⟩)
  | none, _ => form.unknownLong filled name rest

/-- Reads switches by their letters. -/
def readLetters (form : Form) (filled : Filled) : List Char → Except Detour Filled
  | [] => .ok filled
  | letter :: rest =>
      match form.switchLettered? letter with
      | some switch =>
          match form.record filled switch with
          | .ok filled => readLetters form filled rest
          | .error detour => .error detour
      | none =>
          let argument := String.ofList ['-', letter]
          form.fault (.unexpected argument
            (if form.blank.isSome then [.behindDashes argument] else []))

/-- Reads a text of its own. -/
def readText (form : Form) (filled : Filled) (text : String) : Except Detour Filled :=
  if form.blank.isSome && filled.value.isNone then .ok { filled with value := some text }
  else form.fault (.unexpected text [])

/-- Reads arguments; `textsOnly` behind the two dashes. -/
def readOn (form : Form) (textsOnly : Bool) (filled : Filled) :
    List String → Except Detour Filled
  | [] => .ok filled
  | argument :: rest =>
      match if textsOnly then Shape.text else Shape.of argument with
      | .dashes => readOn form true filled rest
      | .long name value =>
          match form.readLong filled name value rest with
          | .ok filled => readOn form textsOnly filled rest
          | .error detour => .error detour
      | .cluster letters =>
          match form.readLetters filled letters with
          | .ok filled => readOn form textsOnly filled rest
          | .error detour => .error detour
      | .text =>
          match form.readText filled argument with
          | .ok filled => readOn form textsOnly filled rest
          | .error detour => .error detour

/-- A form without commands, filled with arguments. -/
def fill (form : Form) (arguments : List String) : Except Detour Filled :=
  match form.readOn false .nothing arguments with
  | .error detour => .error detour
  | .ok filled =>
      match form.blank with
      | some blank =>
          if blank.required && filled.value.isNone then form.fault (.missing (blank.shown true))
          else .ok filled
      | none => .ok filled

/-- Help on a command of a command, named by the words that lead to it. -/
def helpOn {α : Type} (form : Form) : List String → Except Detour α
  | [] => .error (.help form)
  | name :: rest =>
      match form.command? name with
      | some command => helpOn command rest
      | none => form.fault (.unknownCommand name [])

/-- A fault of a word that is no command. -/
def unknownCommand {α : Type} (form : Form) (name : String) : Except Detour α :=
  match similar name (form.commands.map (·.name)) with
  | [] => form.fault (.unknownCommand name [])
  | names => form.fault (.unknownCommand name [.similarCommands names])

/-- The name of the command that gives help. -/
def helpCommand : String := "help"

/-- The command that arguments name, and the arguments behind its name. -/
def choose (form : Form) (textsOnly : Bool) : List String → Except Detour (Form × List String)
  | [] => .error (.noCommand form)
  | argument :: rest =>
      match form.command? argument with
      | some command =>
          if textsOnly then form.fault (.commandBehindDashes argument)
          else if argument == helpCommand then form.helpOn rest
          else .ok (command, rest)
      | none =>
          match if textsOnly then Shape.text else Shape.of argument with
          | .dashes => choose form true rest
          | .long name value =>
              match form.readLong .nothing name value rest with
              | .ok _ => choose form textsOnly rest
              | .error detour => .error detour
          | .cluster letters =>
              match form.readLetters .nothing letters with
              | .ok _ => choose form textsOnly rest
              | .error detour => .error detour
          | .text => form.unknownCommand argument

end Form

end ScriptRoster.CommandLine
