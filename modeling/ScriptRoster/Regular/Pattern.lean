import ScriptRoster.Regular.Reader

/-!
# Patterns

What a regular expression means: from which places of a text it leads to which others. A text holds
a pattern if the pattern leads from some place of it to some other or the same.
-/

namespace ScriptRoster.Regular

/-- What can be said of a place in a text by itself. -/
inductive Look where
  | textStart
  | textEnd
  | lineStart (carriageReturns : Bool)
  | lineEnd (carriageReturns : Bool)
  | boundary (unicode : Bool)
  | noBoundary (unicode : Bool)
  | wordStart (unicode : Bool)
  | wordEnd (unicode : Bool)
  | wordStartHalf (unicode : Bool)
  | wordEndHalf (unicode : Bool)
  deriving DecidableEq, Repr

/-- Whether words go on with the letter at one side of a place. -/
def wordGoesOn (unicode : Bool) (letter : Option Char) : Bool :=
  letter.any (Named.word.holds unicode)

/-- Whether something holds of the place between two letters, of which one is missing at an end of
the text. -/
def Look.holds (before after : Option Char) : Look → Bool
  | .textStart => before.isNone
  | .textEnd => after.isNone
  | .lineStart false => before.all (· == '\n')
  | .lineStart true =>
      before.all fun c => c == '\n' || (c == '\r' && after != some '\n')
  | .lineEnd false => after.all (· == '\n')
  | .lineEnd true =>
      after.all fun c => c == '\r' || (c == '\n' && before != some '\r')
  | .boundary unicode => wordGoesOn unicode before != wordGoesOn unicode after
  | .noBoundary unicode => wordGoesOn unicode before == wordGoesOn unicode after
  | .wordStart unicode => !wordGoesOn unicode before && wordGoesOn unicode after
  | .wordEnd unicode => wordGoesOn unicode before && !wordGoesOn unicode after
  | .wordStartHalf unicode => !wordGoesOn unicode before
  | .wordEndHalf unicode => !wordGoesOn unicode after

/-- What an expression means. -/
inductive Pattern where
  | nothing
  | letter (stands : Char → Bool)
  | look (said : Look)
  | repeated (pattern : Pattern) (least : Nat) (most : Option Nat)
  | both (first second : Pattern)
  | either (first second : Pattern)

/-- What an assertion says, under flags. -/
def Assertion.look (flags : Flags) : Assertion → Look
  | .lineStart => if flags.multiLine then .lineStart flags.carriageReturns else .textStart
  | .lineEnd => if flags.multiLine then .lineEnd flags.carriageReturns else .textEnd
  | .textStart => .textStart
  | .textEnd => .textEnd
  | .boundary => .boundary flags.unicode
  | .noBoundary => .noBoundary flags.unicode
  | .wordStart => .wordStart flags.unicode
  | .wordEnd => .wordEnd flags.unicode
  | .wordStartHalf => .wordStartHalf flags.unicode
  | .wordEndHalf => .wordEndHalf flags.unicode

/-- Whether a dot stands for a letter. -/
def Flags.dotHolds (flags : Flags) (c : Char) : Bool :=
  flags.dotAll || !(c == '\n' || (flags.carriageReturns && c == '\r'))

/-- What a tree means under flags, and the flags for what follows. -/
def Tree.meaning (flags : Flags) : Tree → Except Fault (Pattern × Flags)
  | .empty => .ok (.nothing, flags)
  | .flags settings => .ok (.nothing, flags.setAll settings)
  | .literal letter =>
      match letter.alone flags with
      | .ok c => .ok (.letter (flags.closed (· == c)), flags)
      | .error fault => .error fault
  | .dot span =>
      if flags.unicode then .ok (.letter flags.dotHolds, flags) else notText span
  | .assertion said => .ok (.look (said.look flags), flags)
  | .letters set =>
      match set.holds flags with
      | .ok holds => .ok (.letter holds, flags)
      | .error fault => .error fault
  | .repeated tree least most =>
      match tree.meaning flags with
      | .ok (pattern, flags) => .ok (.repeated pattern least most, flags)
      | .error fault => .error fault
  | .group settings tree =>
      match tree.meaning (flags.setAll settings) with
      | .ok (pattern, _) => .ok (pattern, flags)
      | .error fault => .error fault
  | .both first second =>
      match first.meaning flags with
      | .error fault => .error fault
      | .ok (first, flags) =>
          match second.meaning flags with
          | .error fault => .error fault
          | .ok (second, flags) => .ok (.both first second, flags)
  | .either first second =>
      match first.meaning flags with
      | .error fault => .error fault
      | .ok (first, flags) =>
          match second.meaning flags with
          | .error fault => .error fault
          | .ok (second, flags) => .ok (.either first second, flags)

/-- The places of two lists, those of both only once. -/
def joinPlaces (first second : List Nat) : List Nat :=
  first ++ second.filter fun place => !first.contains place

/-- The places that are reached by going on so many times. -/
def iterate (go : List Nat → List Nat) : Nat → List Nat → List Nat
  | 0, places => places
  | n + 1, places => iterate go n (go places)

/-- The places that are reached by going on at most so many times. `fresh` are the places among
those reached from which nothing has gone on yet. -/
def spread (go : List Nat → List Nat) : Nat → List Nat → List Nat → List Nat
  | 0, reached, _ => reached
  | n + 1, reached, fresh =>
      let fresh := (go fresh).filter fun place => !reached.contains place
      if fresh.isEmpty then reached else spread go n (reached ++ fresh) fresh

namespace Pattern

/-- The places to which a pattern leads from places. Going on more often than a text has places
leads nowhere else. -/
def ends (text : Array Char) : Pattern → List Nat → List Nat
  | .nothing, places => places
  | .letter stands, places =>
      places.filterMap fun place =>
        if (text[place]?).any stands then some (place + 1) else none
  | .look said, places =>
      places.filter fun place =>
        said.holds (if place = 0 then none else text[place - 1]?) text[place]?
  | .repeated pattern least most, places =>
      let places := iterate (pattern.ends text) (min least (text.size + 1)) places
      let more := match most with
        | some most => min (most - least) (text.size + 1)
        | none => text.size + 1
      spread (pattern.ends text) more places places
  | .both first second, places => second.ends text (first.ends text places)
  | .either first second, places => joinPlaces (first.ends text places) (second.ends text places)

/-- Whether a text holds what a pattern means. -/
def isIn (pattern : Pattern) (text : String) : Bool :=
  let letters := text.toList.toArray
  !(pattern.ends letters (List.range (letters.size + 1))).isEmpty

/-- The pattern that a text means as a regular expression. -/
def ofText (text : String) : Except Fault Pattern :=
  match Tree.ofText text with
  | .error fault => .error fault
  | .ok tree =>
      match tree.meaning .default with
      | .error fault => .error fault
      | .ok (pattern, _) => .ok pattern

end Pattern

end ScriptRoster.Regular
