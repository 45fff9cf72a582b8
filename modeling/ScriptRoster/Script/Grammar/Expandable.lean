import ScriptRoster.Script.Grammar.Basic

/-!
# Expandable strings

The parts of a string in double quotes and of a here-string: plain characters, escapes, variables,
and statements in round brackets. A comment may begin between two parts, where it wins over plain
characters that are shorter.
-/

namespace ScriptRoster.Script

open Lexeme

variable (read : Reader)

/-- Statements in round brackets, from the text after the opening one. -/
def subexpression (s : Text) : Reading := do
  let (trees, s) ← read (.statements (some ')')) s
  let s ← sign ')' s
  return (trees, s)

/-- The text after a comment that is longer than the string's own next token. -/
def intrudingComment? (own : Option Text) (s : Text) : Option Text :=
  match comment? (s.dropWhile fun c => isBlank c || isMark c), own with
  | some a, some b => if a.length < b.length then some a else none
  | some a, none => some a
  | none, _ => none

/-- A dollar sign in a string: statements, a variable, or the sign itself. A lone sign stands
anywhere in a string of its own, but only at the end of one attached to a command name. -/
def dollarPart (parts : Phrase) (lone : Text → Reading) (s : Text) : Reading :=
  match s with
  | '$' :: '(' :: rest => both (subexpression read) (read parts) rest
  | _ =>
      match dollarVariable? s with
      | some rest => read parts rest
      | none =>
          match s with
          | '$' :: '\x60' :: after =>
              match escape? ('\x60' :: after) with
              | some rest => read parts rest
              | none => lone ('\x60' :: after)
          | _ :: rest => lone rest
          | [] => stop s

def isStringChar (c : Char) : Bool := c != '$' && c != '"' && c != '\x60' && c != '\x00'

/-- At most `fuel` lone dollar signs and the quote that closes an attached string. -/
def lastDollars : Nat → Text → Reading
  | 0, s => stop s
  | fuel + 1, s => do
      let found ← one [.attached "$", .attached "\""] s
      if found.token = .attached "$" then lastDollars fuel found.rest else return ([], found.rest)

/-- The parts of an expandable string up to and with its closing quote. -/
def stringParts (attached : Bool) (s : Text) : Reading :=
  let parts := Phrase.stringParts attached
  match s with
  | [] => stop s
  | '"' :: '"' :: rest => read parts rest
  | '$' :: _ => dollarPart read parts (if attached then lastDollars s.length else read parts) s
  | '\x60' :: _ =>
      match escape? s with
      | some rest => read parts rest
      | none => stop s
  | _ =>
      let closing := if attached then literal? ['"'] s else closeString? s
      match intrudingComment? (closing.or (run? isStringChar s)) s with
      | some rest => read parts rest
      | none =>
          match closing with
          | some rest => .ok ([], rest)
          | none =>
              match run? isStringChar s with
              | some rest => read parts rest
              | none => stop s

def isHereChar (c : Char) : Bool :=
  c != '$' && c != '\x60' && c != '\n' && c != '\r' && c != '\x00'

/-- Goes on in a here-string behind white space that is no text of it: with a comment, a variable
or statements. -/
def hereGap (s : Text) : Reading :=
  match comment? (skip s) with
  | some rest => read .hereParts rest
  | none => do
      let found ← one [.signs "$(", .dollarVariable] s
      dollarPart read .hereParts (read .hereParts) found.start

/-- The parts of an expandable here-string up to and with its closing line. -/
def hereParts (s : Text) : Reading :=
  match lineBreaks? s with
  | some ('"' :: '@' :: rest) => .ok ([], rest)
  | some ('"' :: c :: rest) => if c == '\x00' then stop s else read .hereParts rest
  | some ('$' :: rest) =>
      if (dollarVariable? ('$' :: rest)).isSome || rest.head? == some '(' then
        dollarPart read .hereParts (read .hereParts) ('$' :: rest)
      else read .hereParts rest
  | some ('\r' :: rest) => hereGap read rest
  | some t =>
      match comment? t with
      | some rest => read .hereParts rest
      | none =>
          match t with
          | c :: rest => if c == '\x00' || c == '"' then stop s else read .hereParts rest
          | [] => stop s
  | none =>
      match s with
      | '$' :: _ => dollarPart read .hereParts (read .hereParts) s
      | '\x60' :: _ =>
          match escape? s with
          | some rest => read .hereParts rest
          | none => stop s
      | '\r' :: rest => hereGap read rest
      | _ =>
          let own := run? isHereChar s
          match intrudingComment? own s with
          | some rest => read .hereParts rest
          | none =>
              match own with
              | some rest => read .hereParts rest
              | none => stop s

end ScriptRoster.Script
