import ScriptRoster.Regular.Fault
import ScriptRoster.Text.Blank
import ScriptRoster.Text.Caseless
import ScriptRoster.Text.Word

/-!
# Sets of letters

The part of an expression that stands for one letter out of a set: a letter by itself, or what is
written between square brackets. How a set is understood hangs on flags, and some sets are refused
where letters are bytes, since they hold bytes that are no text.
-/

namespace ScriptRoster.Regular

/-- How an expression is understood. -/
structure Flags where
  caseless : Bool
  multiLine : Bool
  dotAll : Bool
  /-- Whether letters are those of all scripts, and not of ASCII alone. -/
  unicode : Bool
  /-- Whether lines may end with a carriage return. -/
  carriageReturns : Bool
  deriving DecidableEq, Repr

/-- The flags where none is set. -/
def Flags.default : Flags := ⟨false, false, false, true, false⟩

/-- A letter as it is written. -/
structure Literal where
  letter : Char
  /-- Whether it is written as a byte. -/
  byte : Bool
  span : Span
  deriving DecidableEq, Repr

/-- The sets that have a name of one letter. -/
inductive Named where
  | digit
  | space
  | word
  deriving DecidableEq, Repr

/-- The ASCII letters from a first to a last. -/
abbrev Stretch := Char × Char

/-- Whether one of some stretches holds a letter. -/
def within (stretches : List Stretch) (c : Char) : Bool :=
  stretches.any fun stretch => stretch.1 ≤ c && c ≤ stretch.2

/-- The ASCII letters of a named set. -/
def Named.stretches : Named → List Stretch
  | .digit => [('0', '9')]
  | .space => [('\t', '\r'), (' ', ' ')]
  | .word => [('0', '9'), ('A', 'Z'), ('_', '_'), ('a', 'z')]

/-- Whether a named set holds a letter. -/
def Named.holds (unicode : Bool) (named : Named) (c : Char) : Bool :=
  if unicode then
    match named with
    | .digit => Text.isDecimalDigit c
    | .space => Text.isBlank c
    | .word => Text.isWordChar c
  else within named.stretches c

/-- The sets of ASCII letters that have a name. -/
def stretchesNamed? : String → Option (List Stretch)
  | "alnum" => some [('0', '9'), ('A', 'Z'), ('a', 'z')]
  | "alpha" => some [('A', 'Z'), ('a', 'z')]
  | "ascii" => some [('\x00', '\x7f')]
  | "blank" => some [('\t', '\t'), (' ', ' ')]
  | "cntrl" => some [('\x00', '\x1f'), ('\x7f', '\x7f')]
  | "digit" => some [('0', '9')]
  | "graph" => some [('!', '~')]
  | "lower" => some [('a', 'z')]
  | "print" => some [(' ', '~')]
  | "punct" => some [('!', '/'), (':', '@'), ('[', '\x60'), ('\x7b', '~')]
  | "space" => some [('\t', '\r'), (' ', ' ')]
  | "upper" => some [('A', 'Z')]
  | "word" => some [('0', '9'), ('A', 'Z'), ('_', '_'), ('a', 'z')]
  | "xdigit" => some [('0', '9'), ('A', 'F'), ('a', 'f')]
  | _ => none

/-- How two sets are made into one. -/
inductive Joint where
  /-- What is in both. -/
  | common
  /-- What is in the first and not in the second. -/
  | without
  /-- What is in one of them alone. -/
  | onlyOne
  deriving DecidableEq, Repr

/-- Whether what is made of two sets holds a letter that they hold, or not. -/
def Joint.holds (joint : Joint) (first second : Bool) : Bool :=
  match joint with
  | .common => first && second
  | .without => first && !second
  | .onlyOne => first != second

/-- A set of letters. -/
inductive Letters where
  | empty
  | letter (literal : Literal)
  | stretch (low high : Literal)
  | named (kind : Named) (negated : Bool) (span : Span)
  | ascii (stretches : List Stretch) (negated : Bool) (span : Span)
  /-- The letters with a property that Unicode gives a name. -/
  | property (span : Span)
  | union (first second : Letters)
  | joined (joint : Joint) (first second : Letters)
  | bracketed (letters : Letters) (negated : Bool) (span : Span)
  deriving Repr

/-- A set closed under change of case, where case does not count. -/
def Flags.closed (flags : Flags) (holds : Char → Bool) (c : Char) : Bool :=
  if flags.caseless then
    if flags.unicode then (Text.caseVariants c).any holds
    else holds c || holds c.toLower || holds c.toUpper
  else holds c

/-- The fault of what holds bytes that are no text. -/
def notText {α : Type} (span : Span) : Except Fault α := .error ⟨.bytesOnly, span, none⟩

/-- A set of which the complement may be meant. Where letters are bytes a complement holds bytes
that are no text. -/
def Flags.complement (flags : Flags) (negated : Bool) (span : Span) (holds : Char → Bool) :
    Except Fault (Char → Bool) :=
  if negated then
    if flags.unicode then .ok fun c => !holds c else notText span
  else .ok holds

/-- The letter that a literal stands for by itself. -/
def Literal.alone (flags : Flags) (literal : Literal) : Except Fault Char :=
  if !flags.unicode && literal.byte && '\x7f' < literal.letter then notText literal.span
  else .ok literal.letter

/-- The letter that a literal stands for in a set. -/
def Literal.inSet (flags : Flags) (literal : Literal) : Except Fault Char :=
  match literal.alone flags with
  | .error fault => .error fault
  | .ok c =>
      if !flags.unicode && '\x7f' < c then .error ⟨.textOnly, literal.span, none⟩ else .ok c

/-- Whether a set holds a letter, under flags. -/
def Letters.holds (flags : Flags) : Letters → Except Fault (Char → Bool)
  | .empty => .ok fun _ => false
  | .letter literal =>
      (literal.inSet flags).map fun c => flags.closed (· == c)
  | .stretch low high =>
      match low.inSet flags, high.inSet flags with
      | .error fault, _ => .error fault
      | _, .error fault => .error fault
      | .ok low, .ok high => .ok (flags.closed fun c => low ≤ c && c ≤ high)
  | .named kind negated span => flags.complement negated span (kind.holds flags.unicode)
  | .ascii stretches negated span =>
      flags.complement negated span (flags.closed (within stretches))
  | .property span =>
      .error ⟨if flags.unicode then .propertyUnknown else .textOnly, span, none⟩
  | .union first second =>
      match first.holds flags, second.holds flags with
      | .error fault, _ => .error fault
      | _, .error fault => .error fault
      | .ok first, .ok second => .ok fun c => first c || second c
  | .joined joint first second =>
      match first.holds flags, second.holds flags with
      | .error fault, _ => .error fault
      | _, .error fault => .error fault
      | .ok first, .ok second => .ok fun c => joint.holds (first c) (second c)
  | .bracketed letters negated span =>
      match letters.holds flags with
      | .error fault => .error fault
      | .ok holds => flags.complement negated span holds

end ScriptRoster.Regular
