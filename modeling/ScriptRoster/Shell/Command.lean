import ScriptRoster.Shell.Token

/-!
# Commands

The commands of a shell, and how they are read from tokens: lists of commands are made of
sequences, sequences of pipelines, pipelines of single and compound commands.
-/

namespace ScriptRoster.Shell

/-- A stream of a command that leads elsewhere. -/
structure Redirect where
  stream : Nat
  kind : Turn
  target : Word
  deriving Repr

inductive Command where
  | skip
  | simple (line : Nat) (assignments : List (String × Word)) (words : List Word)
      (redirects : List Redirect)
  | redirected (line : Nat) (body : Command) (redirects : List Redirect)
  | seq (first second : Command)
  | both (first second : Command)
  | either (first second : Command)
  | negate (body : Command)
  | pipe (first second : Command)
  | background (body : Command)
  | subshell (body : Command)
  | choose (test yes no : Command)
  /-- Repeats a body while the test succeeds, or until it does. -/
  | again (negated : Bool) (test body : Command)
  | each (name : String) (words : List Word) (body : Command)
  | select (subject : Word) (branches : List (List Word × Command))
  /-- Gives a name to a command, to be run with arguments of its own. -/
  | define (name : String) (body : Command)
  deriving Repr

/-- Changes the first item of a list that a function does not refuse. -/
def changeFirst {α : Type} (change : α → Option α) : List α → Option (List α)
  | [] => none
  | item :: rest =>
      match change item with
      | some item => some (item :: rest)
      | none => (changeFirst change rest).map (item :: ·)

namespace Command

/-- The words that are expanded when a command begins, in that order. -/
def words : Command → List Word
  | .simple _ assignments words redirects =>
      words ++ redirects.map Redirect.target ++ assignments.map Prod.snd
  | .redirected _ _ redirects => redirects.map Redirect.target
  | .each _ words _ => words
  | .select subject _ => [subject]
  | _ => []

/-- The first script whose output a command waits for. -/
def script? (command : Command) : Option (List Char) := command.words.findSome? Word.script?

/-- The command after the first script that it waits for wrote something and ended with a
status. -/
def fill (chars : List Char) (status : Nat) (command : Command) : Command :=
  let word : Word → Option Word := Word.fill chars status
  let target (redirect : Redirect) : Option Redirect :=
    (word redirect.target).map fun target => { redirect with target }
  let value (found : String × Word) : Option (String × Word) :=
    (word found.2).map fun word => (found.1, word)
  match command with
  | .simple line assignments words redirects =>
      match changeFirst word words with
      | some words => .simple line assignments words redirects
      | none =>
          match changeFirst target redirects with
          | some redirects => .simple line assignments words redirects
          | none =>
              .simple line ((changeFirst value assignments).getD assignments) words redirects
  | .redirected line body redirects =>
      .redirected line body ((changeFirst target redirects).getD redirects)
  | .each name words body => .each name ((changeFirst word words).getD words) body
  | .select subject branches => .select ((word subject).getD subject) branches
  | command => command

/-- The status that the last script ended with of which a command holds the output. -/
def status? (command : Command) : Option Nat := (command.words.filterMap Word.status?).getLast?

abbrev Tokens := List (Nat × Token)

/-- The words that end a list of commands. -/
def closers : List String := ["then", "do", "done", "fi", "else", "elif", "esac", "\x7d"]

/-- The unquoted word at the beginning. -/
def bare? : Tokens → Option String
  | (_, .word parts) :: _ => parts.bare?
  | _ => none

/-- Whether a list of commands ends here. -/
def atEnd (tokens : Tokens) : Bool :=
  match tokens with
  | [] => true
  | (_, .mark text) :: _ => text == ")" || text == ";;"
  | _ => (bare? tokens).any closers.contains

/-- The tokens behind a given bare word. -/
def expect (text : String) : Tokens → Option Tokens
  | (_, .word parts) :: rest => if parts.bare? == some text then some rest else none
  | _ => none

def skipLines : Tokens → Tokens
  | (line, .mark text) :: rest =>
      if text == "\n" then skipLines rest else (line, .mark text) :: rest
  | tokens => tokens

/-- The words up to the end of a line or a semicolon. -/
def wordList : Tokens → List Word × Tokens
  | (_, .word parts) :: rest =>
      let (words, rest) := wordList rest
      (parts :: words, rest)
  | tokens => ([], tokens)

/-- Redirections, one after the other. -/
def redirections : Tokens → List Redirect × Tokens
  | (_, .turn stream kind) :: (_, .word parts) :: rest =>
      let (more, rest) := redirections rest
      (⟨stream, kind, parts⟩ :: more, rest)
  | tokens => ([], tokens)

/-- What belongs to a command without inner commands. -/
def pieces : Tokens → List Word × List Redirect × Tokens
  | (_, .word parts) :: rest =>
      let (words, redirects, rest) := pieces rest
      (parts :: words, redirects, rest)
  | (_, .turn stream kind) :: (_, .word parts) :: rest =>
      let (words, redirects, rest) := pieces rest
      (words, ⟨stream, kind, parts⟩ :: redirects, rest)
  | tokens => ([], [], tokens)

/-- The assignments in front of other words. -/
def assignments : List Word → List (String × Word) × List Word
  | [] => ([], [])
  | word :: rest =>
      match word.assignment? with
      | some found =>
          let (more, words) := assignments rest
          (found :: more, words)
      | none => ([], word :: rest)

/-- One command after another. -/
def followedBy (first : Command) : Command → Command
  | .skip => first
  | second => .seq first second

/-- A command without inner commands. -/
def simple? (tokens : Tokens) : Option (Command × Tokens) :=
  let line := (tokens.head?.map Prod.fst).getD 1
  let (words, redirects, rest) := pieces tokens
  let (assigned, words) := assignments words
  if assigned.isEmpty && words.isEmpty && redirects.isEmpty then none
  else some (.simple line assigned words redirects, rest)

/-- The patterns of a branch, up to the bracket behind them. -/
def patterns : Nat → Tokens → Option (List Word × Tokens)
  | 0, _ => none
  | fuel + 1, tokens =>
      match tokens with
      | (_, .word parts) :: (_, .mark ")") :: rest => some ([parts], rest)
      | (_, .word parts) :: (_, .mark "|") :: rest =>
          (patterns fuel rest).map fun (more, rest) => (parts :: more, rest)
      | _ => none

mutual

/-- Reads commands up to a word or mark that ends them. -/
def list : Nat → Tokens → Option (Command × Tokens)
  | 0, _ => none
  | fuel + 1, tokens =>
      let tokens := skipLines tokens
      if atEnd tokens then some (.skip, tokens)
      else do
        let (first, rest) ← sequence fuel tokens
        match rest with
        | (_, .mark "&") :: rest =>
            let (second, rest) ← list fuel rest
            some (followedBy (.background first) second, rest)
        | (_, .mark ";") :: rest =>
            let (second, rest) ← list fuel rest
            some (followedBy first second, rest)
        | (_, .mark "\n") :: rest =>
            let (second, rest) ← list fuel rest
            some (followedBy first second, rest)
        | _ => some (first, rest)

/-- Reads commands of which each depends on the one before. -/
def sequence : Nat → Tokens → Option (Command × Tokens)
  | 0, _ => none
  | fuel + 1, tokens => do
      let (first, rest) ← pipeline fuel tokens
      sequenceMore fuel first rest

def sequenceMore : Nat → Command → Tokens → Option (Command × Tokens)
  | 0, _, _ => none
  | fuel + 1, first, tokens =>
      match tokens with
      | (_, .mark "&&") :: rest => do
          let (second, rest) ← pipeline fuel (skipLines rest)
          sequenceMore fuel (.both first second) rest
      | (_, .mark "||") :: rest => do
          let (second, rest) ← pipeline fuel (skipLines rest)
          sequenceMore fuel (.either first second) rest
      | _ => some (first, tokens)

/-- Reads commands of which each reads what the one before writes. -/
def pipeline : Nat → Tokens → Option (Command × Tokens)
  | 0, _ => none
  | fuel + 1, tokens =>
      match expect "!" tokens with
      | some rest => (stages fuel rest).map fun (body, rest) => (.negate body, rest)
      | none => stages fuel tokens

def stages : Nat → Tokens → Option (Command × Tokens)
  | 0, _ => none
  | fuel + 1, tokens => do
      let (first, rest) ← single fuel tokens
      match rest with
      | (_, .mark "|") :: rest =>
          let (second, rest) ← stages fuel (skipLines rest)
          some (.pipe first second, rest)
      | _ => some (first, rest)

/-- Reads one command, compound or not. -/
def single : Nat → Tokens → Option (Command × Tokens)
  | 0, _ => none
  | fuel + 1, tokens =>
      match compound fuel tokens with
      | some (body, rest) =>
          match redirections rest with
          | ([], rest) => some (body, rest)
          | (redirects, rest) =>
              some (.redirected ((tokens.head?.map Prod.fst).getD 1) body redirects, rest)
      | none => if atEnd tokens then none else simple? tokens

/-- Reads a command with inner commands. -/
def compound : Nat → Tokens → Option (Command × Tokens)
  | 0, _ => none
  | fuel + 1, tokens =>
      match tokens with
      | (_, .mark "(") :: rest => do
          let (body, rest) ← list fuel rest
          match rest with
          | (_, .mark ")") :: rest => some (.subshell body, rest)
          | _ => none
      | (_, .word name) :: (_, .mark "(") :: (_, .mark ")") :: rest => do
          let (body, rest) ← compound fuel (skipLines rest)
          some (.define (← name.bare?) body, rest)
      | (_, .word parts) :: rest =>
          match parts.bare? with
          | some "\x7b" => do
              let (body, rest) ← list fuel rest
              some (body, ← expect "\x7d" rest)
          | some "if" => choice fuel rest
          | some "while" => loop fuel false rest
          | some "until" => loop fuel true rest
          | some "for" => do
              let (name, rest) ←
                match rest with
                | (_, .word name) :: rest => some ((name.bare?).getD "", rest)
                | _ => none
              let (words, rest) := wordList (← expect "in" (skipLines rest))
              let rest :=
                match rest with
                | (_, .mark ";") :: rest => rest
                | _ => rest
              let (body, rest) ← list fuel (← expect "do" (skipLines rest))
              some (.each name words body, ← expect "done" rest)
          | some "case" => do
              match rest with
              | (_, .word subject) :: rest =>
                  let (found, rest) ← branches fuel (← expect "in" (skipLines rest))
                  some (.select subject found, rest)
              | _ => none
          | _ => none
      | _ => none

/-- Reads what follows the word that begins a choice. -/
def choice : Nat → Tokens → Option (Command × Tokens)
  | 0, _ => none
  | fuel + 1, tokens => do
      let (test, rest) ← list fuel tokens
      let (yes, rest) ← list fuel (← expect "then" rest)
      match bare? rest with
      | some "elif" =>
          let (no, rest) ← choice fuel (rest.drop 1)
          some (.choose test yes no, rest)
      | some "else" =>
          let (no, rest) ← list fuel (rest.drop 1)
          some (.choose test yes no, ← expect "fi" rest)
      | _ => some (.choose test yes .skip, ← expect "fi" rest)

/-- Reads what follows the word that begins a loop. -/
def loop : Nat → Bool → Tokens → Option (Command × Tokens)
  | 0, _, _ => none
  | fuel + 1, negated, tokens => do
      let (test, rest) ← list fuel tokens
      let (body, rest) ← list fuel (← expect "do" rest)
      some (.again negated test body, ← expect "done" rest)

/-- Reads the branches of a selection, up to the word behind them. -/
def branches : Nat → Tokens → Option (List (List Word × Command) × Tokens)
  | 0, _ => none
  | fuel + 1, tokens => do
      let tokens := skipLines tokens
      if bare? tokens == some "esac" then some ([], tokens.drop 1)
      else
        let tokens :=
          match tokens with
          | (_, .mark "(") :: rest => rest
          | _ => tokens
        let (found, rest) ← patterns fuel tokens
        let (body, rest) ← list fuel rest
        match rest with
        | (_, .mark ";;") :: rest =>
            let (more, rest) ← branches fuel rest
            some ((found, body) :: more, rest)
        | _ => some ([(found, body)], ← expect "esac" (skipLines rest))

end

/-- The commands of a script. -/
def ofText? (script : String) : Option Command := do
  let tokens ← Token.ofText? script
  let (found, rest) ← list (8 * tokens.length + 8) tokens
  if rest.isEmpty then some found else none

end Command

end ScriptRoster.Shell
