import ScriptRoster.Host
import ScriptRoster.Regular.Pattern
import ScriptRoster.Text.Blank
import ScriptRoster.CommandLine.Tint

/-!
# The log

Which notices of the journal are shown is told by a specification: directives with commas between
them, each of which sets the least grave level that is shown for the topics that begin with a name,
or for all. Of the directives for a topic, the one with the longest name counts. Behind a slash may
stand a regular expression, and what it means every shown notice has to hold.
-/

namespace ScriptRoster.CommandLine

/-- A directive: the notices on topics that begin with a name are shown if they are grave enough.
Without a level none is shown. -/
structure Directive where
  name : Option String
  level : Option Level
  deriving DecidableEq, Repr

/-- What is shown of a journal. -/
structure Filter where
  /-- The directives, the longest name last. -/
  directives : List Directive
  /-- What a notice has to hold. -/
  wanted : Option Regular.Pattern

/-- A text with ASCII letters made small. -/
def smallLetters (text : String) : String := String.ofList (text.toList.map Char.toLower)

/-- The level that a word names; `off` names none. -/
def levelNamed? (word : String) : Option (Option Level) :=
  match smallLetters word with
  | "off" => some none
  | "error" => some (some .error)
  | "warn" => some (some .warn)
  | "info" => some (some .info)
  | "debug" => some (some .debug)
  | "trace" => some (some .trace)
  | _ => none

/-- What is said of a part of a specification that means nothing. -/
def specificationFault (part : String) : String := "invalid logging spec '" ++ part ++ "'"

namespace Directive

/-- The directive that a text means, or what is wrong with it. -/
def ofText (text : String) : Except String Directive :=
  match text.splitOn "=" with
  | [word] =>
      match levelNamed? word with
      | some level => .ok ⟨none, level⟩
      | none => .ok ⟨some word, some .trace⟩
  | [name, word] =>
      let word := Text.trim word
      if word.isEmpty then .ok ⟨some name, some .trace⟩
      else
        match levelNamed? word with
        | some level => .ok ⟨some name, level⟩
        | none => .error (specificationFault word)
  | _ => .error (specificationFault text)

/-- Whether a directive is about a topic. -/
def isAbout (directive : Directive) (topic : String) : Bool :=
  match directive.name with
  | some name => name.toList.isPrefixOf topic.toList
  | none => true

/-- Whether a directive lets notices of a level be shown. -/
def shows (directive : Directive) (level : Level) : Bool :=
  directive.level.any fun least => level.rank ≤ least.rank

/-- The length of the name. -/
def length (directive : Directive) : Nat := (directive.name.map String.utf8ByteSize).getD 0

/-- Puts a directive in the stead of the one with the same name, or else behind all others. -/
def enter (directive : Directive) : List Directive → List Directive
  | [] => [directive]
  | head :: rest =>
      if head.name = directive.name then directive :: rest else head :: enter directive rest

/-- Puts a directive behind those with names that are no longer. -/
def insertByLength (directive : Directive) : List Directive → List Directive
  | [] => [directive]
  | head :: rest =>
      if directive.length < head.length then directive :: head :: rest
      else head :: insertByLength directive rest

end Directive

namespace Filter

/-- The filter where nothing is specified: only errors are shown. -/
def default : Filter := ⟨[⟨none, some .error⟩], none⟩

/-- The filter with directives in the order in which they were given. -/
def ofDirectives (directives : List Directive) (wanted : Option Regular.Pattern) : Filter :=
  if directives.isEmpty then { Filter.default with wanted }
  else
    ⟨directives.foldl (fun sorted directive => directive.insertByLength sorted) [], wanted⟩

/-- Reads directives, and tells what is wrong with those that mean nothing. -/
def readDirectives (directives : List Directive) (faults : List String) :
    List String → List Directive × List String
  | [] => (directives, faults)
  | part :: rest =>
      if part.isEmpty then readDirectives directives faults rest
      else
        match Directive.ofText part with
        | .ok directive => readDirectives (directive.enter directives) faults rest
        | .error fault => readDirectives directives (faults ++ [fault]) rest

/-- The pattern that an expression means, or what is wrong with the expression. -/
def readWanted (expression : String) : Option Regular.Pattern × List String :=
  match Regular.Pattern.ofText expression with
  | .ok pattern => (some pattern, [])
  | .error fault => (none, ["invalid regex filter - " ++ fault.message expression])

/-- The filter that a specification means, and what is wrong with the specification. -/
def ofText (specification : String) : Filter × List String :=
  let read (text : String) (wanted : Option Regular.Pattern) : Filter × List String :=
    let (directives, faults) := readDirectives [] [] ((text.splitOn ",").map Text.trim)
    (ofDirectives directives wanted, faults)
  match specification.splitOn "/" with
  | [text] => read text none
  | [text, expression] =>
      let (wanted, wrong) := readWanted expression
      let (filter, faults) := read text wanted
      (filter, faults ++ wrong)
  | _ => (.default, [specificationFault specification ++ " (too many '/'s)"])

/-- Whether a notice is shown. -/
def shows (filter : Filter) (notice : Notice) : Bool :=
  match filter.directives.reverse.find? (·.isAbout notice.topic) with
  | some directive =>
      directive.shows notice.level && filter.wanted.all (·.isIn notice.text)
  | none => false

end Filter

/-- The word for a level. -/
def levelWord : Level → String
  | .error => "ERROR"
  | .warn => "WARN "
  | .info => "INFO "
  | .debug => "DEBUG"
  | .trace => "TRACE"

/-- What opens the word for a level where it is set off. -/
def levelSequence : Level → String
  | .error => "\x1b[1m\x1b[31m"
  | .warn => "\x1b[33m"
  | .info => "\x1b[32m"
  | .debug => "\x1b[34m"
  | .trace => "\x1b[36m"

/-- A notice as a line that is stamped with a time. -/
def logLine (tinted : Bool) (stamp : String) (notice : Notice) : String :=
  let set (sequence text : String) : String := paint (if tinted then sequence else "") text
  let bracket (text : String) : String := set "\x1b[90m" text
  bracket "[" ++ stamp ++ " " ++ set (levelSequence notice.level) (levelWord notice.level) ++ " "
    ++ notice.topic ++ bracket "]" ++ " " ++ notice.text ++ "\n"

/-- The variable that specifies what is logged. -/
def logVariable : String := "RUST_LOG"

/-- The filter that the environment asks for, and the lines that warn of faults in it. -/
def Filter.ofHost (host : Host) : Filter × String :=
  match host.lookup? logVariable with
  | some specification =>
      let (filter, faults) := Filter.ofText specification
      (filter, String.join (faults.map fun fault =>
        "warning: " ++ fault ++ ", ignoring it\n"))
  | none => (.default, "")

/-- The log of a journal. -/
def log (filter : Filter) (tinted : Bool) (stamp : String) (journal : Journal) : String :=
  String.join ((journal.filter filter.shows).map (logLine tinted stamp))

end ScriptRoster.CommandLine
