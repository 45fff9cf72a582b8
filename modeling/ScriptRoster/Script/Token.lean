import ScriptRoster.Script.Lexeme

/-!
# Tokens

The kinds of tokens of the script language. Which kinds fit depends on where a reader stands, so a
token is sought among those that fit there: the longest one wins, and of two that are equally long
the one of lower rank.

## Main definitions

* `Token.scan`: the text after a token of one kind.
* `Fitting`: what may come next.
* `Fitting.next?`: the token that comes next.
-/

namespace ScriptRoster.Script

open Lexeme

/-- The kinds of tokens. -/
inductive Token where
  | comment
  /-- A sign of one character. -/
  | sign (c : Char)
  /-- A sign of several characters. -/
  | signs (spelling : String)
  /-- A sign right behind the token before it. -/
  | attached (spelling : String)
  /-- A keyword or option, given in small letters and written in any case. -/
  | word (spelling : String)
  /-- A keyword that is taken even out of a longer word. -/
  | reserved (spelling : String)
  /-- The member by which a block is run for each item, right behind the value. -/
  | eachMember
  | decimal
  | hexadecimal
  | real
  | quoted
  | hereString
  | openString
  | openHere
  | simpleName
  | typeIdentifier
  | dollarVariable
  | splatVariable
  | label
  | commandWord
  /-- Characters right behind the first word of a command name. -/
  | commandTail
  /-- A plain string right behind a part of a command name. -/
  | quotedTail
  | pathWord
  | bareWord
  | bareArgument
  | parameter
  | stopParsing
  | assignment
  | fileRedirection
  | mergingRedirection
  | comparison
  | split
  | logical
  | bitwise
  | format
  | negation
  deriving DecidableEq, Repr

namespace Token

/-- The text after a token of this kind, read from its first character. -/
def scan : Token → Text → Option Text
  | comment => comment?
  | sign c => literal? [c]
  | signs spelling => literal? spelling.toList
  | attached spelling => literal? spelling.toList
  | word spelling => spelling? spelling.toList
  | reserved spelling => spelling? spelling.toList
  | eachMember => spelling? ['.', 'f', 'o', 'r', 'e', 'a', 'c', 'h']
  | decimal => decimal?
  | hexadecimal => hexadecimal?
  | real => real?
  | quoted => quoted?
  | hereString => hereString?
  | openString => openString?
  | openHere => openHere?
  | simpleName => simpleName?
  | typeIdentifier => typeIdentifier?
  | dollarVariable => dollarVariable?
  | splatVariable => splatVariable?
  | label => label?
  | commandWord => commandWord?
  | commandTail => commandTail?
  | quotedTail => quoted?
  | pathWord => run? isPathChar
  | bareWord => bareWord?
  | bareArgument => bareArgument?
  | parameter => parameter?
  | stopParsing => stopParsing?
  | assignment => oneOf? assignments
  | fileRedirection => oneOf? fileRedirections
  | mergingRedirection => oneOf? mergingRedirections
  | comparison => oneOf? comparisons
  | split => oneOf? splits
  | logical => oneOf? logicals
  | bitwise => oneOf? bitwises
  | format => spelling? ['-', 'f']
  | negation => oneOf? negations

/-- Whether nothing may stand between such a token and the one before it. -/
def isAttached : Token → Bool
  | attached _ | eachMember | commandTail | quotedTail => true
  | _ => false

/-- Whether such a token may begin with an invisible mark. -/
def takesMarks : Token → Bool
  | commandWord | bareWord | bareArgument => true
  | _ => false

/-- Whether such a token may consist of what is passed over in front of other tokens. -/
def holdsGaps : Token → Bool
  | commandTail => true
  | token => token.takesMarks

/-- Which of two equally long tokens wins: the one of lower rank. Fixed signs go before classes of
words, keywords before command names. -/
def rank : Token → Nat
  | reserved _ | eachMember | attached _ => 0
  | sign _ | signs _ | assignment | fileRedirection | mergingRedirection => 1
  | commandTail | quotedTail => 2
  | comment => 3
  | decimal => 4
  | hexadecimal => 5
  | real => 6
  | openString | openHere | quoted | hereString => 7
  | simpleName => 8
  | typeIdentifier => 9
  | comparison | split | format => 10
  | dollarVariable => 11
  | splatVariable => 12
  | bareArgument => 13
  | bareWord => 14
  | parameter => 15
  | word _ => 16
  | label => 17
  | commandWord => 18
  | pathWord => 19
  | stopParsing => 20
  | logical | bitwise | negation => 21

/-- Whether such a token is taken even where a longer one stands. -/
def isReserved : Token → Bool
  | reserved _ | eachMember => true
  | _ => false

end Token

/-- The text between a position and a later one. -/
def textBetween (s rest : Text) : String := String.ofList (s.take (s.length - rest.length))

/-- A token found in a text. -/
structure Found where
  token : Token
  /-- The text from the token's first character on. -/
  start : Text
  /-- The text after the token. -/
  rest : Text

namespace Found

/-- The text of the token. -/
def text (found : Found) : String := textBetween found.start found.rest

/-- Whether the first of two tokens is taken and not the second. -/
def precedes (a b : Found) : Bool :=
  if a.token.isReserved != b.token.isReserved then a.token.isReserved
  else if a.rest.length != b.rest.length then a.rest.length < b.rest.length
  else a.token.rank < b.token.rank

/-- The token that is taken among several. -/
def first? : List Found → Option Found
  | [] => none
  | found :: others =>
      match first? others with
      | some other => if other.precedes found then some other else some found
      | none => some found

end Found

/-- The nearest token of the kinds that fit. A line break or a space that fits is taken before
anything behind it, and so is a word of nothing but marks or backticks; a longer word that begins
with them competes with the tokens behind them. -/
def nearest? (tokens : List Token) (s : Text) : Option Found :=
  let word := skipUpTo (tokens.contains (.sign ' ')) (tokens.any Token.takesMarks)
    (tokens.contains .bareWord) s
  let plain := skip s
  let start (token : Token) : Text :=
    if token.isAttached then s else if token.takesMarks then word else plain
  let found := tokens.filterMap fun token =>
    (token.scan (start token)).map fun rest => Found.mk token (start token) rest
  if s.head? = some '\n' && tokens.contains (.attached "\n") then
    some ⟨.attached "\n", s, s.tail⟩
  else
    match Found.first? (found.filter (·.token.holdsGaps)), word with
    | some held, _ =>
        let again := if plain.length = held.rest.length then held.token.scan plain else none
        if plain.length ≤ held.rest.length && again.isNone then some held
        else
          let longer := again.map (Found.mk held.token held.start)
          (Found.first? (longer.toList ++ found)).map ({ · with start := held.start })
    | none, ' ' :: rest => some ⟨.sign ' ', word, rest⟩
    | none, _ => Found.first? found

/-- Passes over at most `fuel` comments and what else may stand between tokens. -/
def skipToTokenWithin : Nat → Text → Text
  | 0, s => skip s
  | fuel + 1, s =>
      match comment? (skip s) with
      | some rest => skipToTokenWithin fuel rest
      | none => skip s

/-- Passes over comments and what else may stand between tokens. -/
def skipToToken (s : Text) : Text := skipToTokenWithin s.length s

/-- What may come next: the kinds of tokens that fit, and whether the statement may end. -/
structure Fitting where
  ends : Bool
  tokens : List Token

namespace Fitting

/-- Fitting tokens together with more of them. -/
def plus (fitting : Fitting) (tokens : List Token) : Fitting :=
  ⟨fitting.ends, tokens ++ fitting.tokens⟩

/-- Whether a token of one kind fits. -/
def allows (fitting : Fitting) (token : Token) : Bool := fitting.tokens.contains token

/-- The next token after at most `fuel` comments; none where the statement ends or nothing
fits. -/
def nextWithin (fitting : Fitting) : Nat → Text → Option Found
  | 0, _ => none
  | fuel + 1, s =>
      if fitting.ends && endsStatement s then none
      else
        match nearest? (.comment :: fitting.tokens) s with
        | some found =>
            if found.token = .comment then fitting.nextWithin fuel found.rest else some found
        | none => none

/-- The next token; none where the statement ends or nothing fits. -/
def next? (fitting : Fitting) (s : Text) : Option Found := fitting.nextWithin (s.length + 1) s

end Fitting

end ScriptRoster.Script
