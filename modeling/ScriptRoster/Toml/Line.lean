import ScriptRoster.Toml.Token

/-!
# Lines of TOML

The tokens of a text form lines: a key with a value, or the header of a table. Keys and values are
taken here as they are written; what is inside quotes and atoms is read later.
-/

namespace ScriptRoster.Toml

/-- A key or value as it is written; without a quoting it is bare. -/
structure Raw where
  quoting : Option Quoting
  text : List Char
  start : Nat
  deriving DecidableEq, Repr

def Raw.stop (raw : Raw) : Nat := raw.start + Text.byteLength raw.text

/-- A value as it is written, with the bytes of its brackets or braces. -/
inductive Written where
  | scalar (raw : Raw)
  | array (items : List Written) (start stop : Nat)
  | braces (entries : List (List Raw × Written)) (start stop : Nat)
  deriving Repr

/-- What a header opens: a table, or a further table of an array. -/
inductive Opening where
  | table
  | tables
  deriving DecidableEq, Repr

/-- A line that says something. -/
inductive Line where
  | entry (key : List Raw) (value : Written)
  | header (opening : Opening) (key : List Raw) (start stop : Nat)
  deriving Repr

/-- A header and the entries up to the next one. -/
structure Section where
  opening : Opening
  key : List Raw
  start : Nat
  stop : Nat
  body : List (List Raw × Written)
  deriving Repr

/-- The entries in front of the first header, and the sections. -/
def sections : List Line → List (List Raw × Written) × List Section
  | [] => ([], [])
  | .entry key value :: rest =>
      let (body, more) := sections rest
      ((key, value) :: body, more)
  | .header opening key start stop :: rest =>
      let (body, more) := sections rest
      ([], ⟨opening, key, start, stop, body⟩ :: more)

/-- The tokens that are still to be read, and the byte after the last one that was not blank, a
comment or a line end; the text ends at byte `size`. -/
structure Input where
  tokens : List Token
  last : Nat
  size : Nat
  deriving Repr

namespace Input

/-- The byte where the next token starts. -/
def position (input : Input) : Nat := (input.tokens.head?.map Token.start).getD input.size

/-- The input after its next token. -/
def after (input : Input) (token : Token) : Input :=
  { input with
    tokens := input.tokens.drop 1
    last :=
      match token.kind with
      | .blank => input.last
      | .comment => input.last
      | .lineEnd => input.last
      | _ => token.stop }

/-- The input after a blank, if there is one. -/
def skipBlank (input : Input) : Input :=
  match input.tokens with
  | ⟨.blank, _, _⟩ :: rest => { input with tokens := rest }
  | _ => input

end Input

/-- Whether a comment may hold a character. -/
def isCommentChar (c : Char) : Bool := c = '\t' || (0x20 ≤ c.toNat && c.toNat != 0x7f)

/-- Checks the characters of a comment that begin at a byte. -/
def checkComment (place : Nat) : List Char → Except Fault Unit
  | [] => .ok ()
  | c :: rest =>
      if isCommentChar c then checkComment (place + c.utf8Size) rest else failAt .badComment place

/-- Checks a comment or line end. -/
def checkSpace (token : Token) : Except Fault Unit :=
  match token.kind with
  | .comment => checkComment token.start token.text
  | .lineEnd => if token.text = ['\r'] then failAt .bareReturn token.stop else .ok ()
  | _ => .ok ()

/-- A token as a key or value. -/
def Token.raw? (token : Token) : Option Raw :=
  match token.kind with
  | .quoted quoting => some ⟨some quoting, token.text, token.start⟩
  | .atom => some ⟨none, token.text, token.start⟩
  | _ => none

/-- A bare key or value of no characters. -/
def absent (place : Nat) : Raw := ⟨none, [], place⟩

/-- Reads the parts of a key after the first one. -/
def readKeyTail : Nat → Input → List Raw × Input
  | 0, input => ([], input)
  | fuel + 1, input =>
      let input := input.skipBlank
      match input.tokens with
      | token :: _ =>
          if token.kind = .dot then
            let input := (input.after token).skipBlank
            match input.tokens with
            | next :: _ =>
                match next.raw? with
                | some raw =>
                    let (parts, input) := readKeyTail fuel (input.after next)
                    (raw :: parts, input)
                | none =>
                    if next.kind = .dot then
                      let (parts, input) := readKeyTail fuel input
                      (absent next.start :: parts, input)
                    else ([absent next.start], input)
            | [] => ([absent input.position], input)
          else ([], input)
      | [] => ([], input)

/-- Reads what may follow the last token of a line, up to its end. -/
def readLineEnd : Nat → Input → Except Fault Input
  | 0, input => .ok input
  | fuel + 1, input =>
      match input.tokens with
      | [] => .ok input
      | token :: _ =>
          match token.kind with
          | .blank => readLineEnd fuel (input.after token)
          | .comment => do
              checkSpace token
              readLineEnd fuel (input.after token)
          | .lineEnd => do
              checkSpace token
              return input.after token
          | _ => failAt .strayItem token.start

/-- Passes over whatever is left of a line. -/
def skipLine : Nat → Input → Except Fault Input
  | 0, input => .ok input
  | fuel + 1, input =>
      match input.tokens with
      | [] => .ok input
      | token :: _ => do
          checkSpace token
          if token.kind = .lineEnd then return input.after token
          else skipLine fuel (input.after token)

/-- Takes the atoms and dots that go on a bare value; a blank between atoms belongs to it. -/
def readAtoms : Nat → List Char → Input → List Char × Input
  | 0, text, input => (text, input)
  | fuel + 1, text, input =>
      match input.tokens with
      | token :: rest =>
          if token.kind = .atom || token.kind = .dot then
            readAtoms fuel (text ++ token.text) (input.after token)
          else if token.kind = .blank then
            match rest with
            | next :: _ =>
                if next.kind = .atom then
                  readAtoms fuel (text ++ token.text ++ next.text)
                    ((input.after token).after next)
                else (text, input)
            | [] => (text, input)
          else (text, input)
      | [] => (text, input)

/-- Reads a bare value that begins with a token. -/
def readBare (token : Token) (input : Input) : Written × Input :=
  let (text, input) := readAtoms input.tokens.length token.text input
  (.scalar ⟨none, text, token.start⟩, input)

/-- How far an inline table has been read: what has to come next, and the key that waits for its
value. -/
inductive Progress where
  | key
  | equals (key : List Raw)
  | value (key : List Raw)
  | comma
  deriving DecidableEq, Repr

def Progress.due : Progress → Due
  | key => .key
  | equals _ => .equals
  | value _ => .value
  | comma => .comma

/-- The greatest number of brackets and braces that are open at once. -/
def greatestDepth : Nat := 80

mutual

/-- Reads a value, where `room` more brackets and braces may be opened. -/
def readValue : Nat → Nat → Input → Except Fault (Written × Input)
  | 0, _, input => .ok (.scalar (absent input.position), input)
  | fuel + 1, room, input =>
      match input.tokens with
      | [] => .ok (.scalar (absent input.position), input)
      | token :: _ =>
          let rest := input.after token
          match token.kind with
          | .comment => .ok (.scalar (absent token.start), input)
          | .comma => .ok (.scalar (absent token.start), input)
          | .lineEnd => .ok (.scalar (absent token.start), input)
          | .equals => failOver .extraEquals token.start token.stop
          | .closeBrace => failAt .noBraceOpening token.start
          | .closeBracket => failAt .noBracketOpening token.start
          | .blank => readValue fuel room rest
          | .openBracket =>
              if room = 0 then failOver .tooDeep token.start token.stop
              else readArray fuel (room - 1) token.start true [] rest
          | .openBrace =>
              if room = 0 then failOver .tooDeep token.start token.stop
              else readBraces fuel (room - 1) token.start .key [] rest
          | .quoted quoting => .ok (.scalar ⟨some quoting, token.text, token.start⟩, rest)
          | .dot => .ok (readBare token rest)
          | .atom => .ok (readBare token rest)

/-- Reads the items of an array, those before in reverse order, up to its end; `fresh` when an
item may come next. -/
def readArray : Nat → Nat → Nat → Bool → List Written → Input → Except Fault (Written × Input)
  | 0, _, _, _, _, input => failAt .unclosedArray input.last
  | fuel + 1, room, start, fresh, items, input =>
      match input.tokens with
      | [] => failAt .unclosedArray input.last
      | token :: _ =>
          let rest := input.after token
          match token.kind with
          | .blank => readArray fuel room start fresh items rest
          | .comment => do
              checkSpace token
              readArray fuel room start fresh items rest
          | .lineEnd => do
              checkSpace token
              readArray fuel room start fresh items rest
          | .comma =>
              if fresh then failOver .extraCommaInArray token.start token.stop
              else readArray fuel room start true items rest
          | .equals => failOver .equalsInArray token.start token.stop
          | .closeBracket => .ok (.array items.reverse start token.stop, rest)
          | _ =>
              if fresh then do
                let (item, rest) ← readValue fuel room input
                readArray fuel room start false (item :: items) rest
              else failAt .noCommaInArray token.start

/-- Reads the entries of an inline table, those before in reverse order, up to its end. A key that
has no value at the end has one that is not closed. -/
def readBraces : Nat → Nat → Nat → Progress → List (List Raw × Written) → Input →
    Except Fault (Written × Input)
  | 0, _, _, _, _, input => failAt .unclosedBraces input.last
  | fuel + 1, room, start, progress, entries, input =>
      match input.tokens with
      | [] => failAt .unclosedBraces input.last
      | token :: _ =>
          let rest := input.after token
          let fault (cause : Due → Cause) : Except Fault (Written × Input) :=
            failAt (cause progress.due) token.start
          let keyed (first : Raw) (input : Input) : Except Fault (Written × Input) :=
            let (parts, input) := readKeyTail input.tokens.length input
            readBraces fuel room start (.equals (first :: parts)) entries input
          let valued (key : List Raw) : Except Fault (Written × Input) := do
            let (value, rest) ← readValue fuel room input
            readBraces fuel room start .comma ((key, value) :: entries) rest
          match token.kind with
          | .blank => readBraces fuel room start progress entries rest
          | .comment => do
              checkSpace token
              readBraces fuel room start progress entries rest
          | .lineEnd => do
              checkSpace token
              readBraces fuel room start progress entries rest
          | .comma =>
              match progress with
              | .comma => readBraces fuel room start .key entries rest
              | _ => fault .extraCommaInBraces
          | .equals =>
              match progress with
              | .key => readBraces fuel room start (.value [absent token.start]) entries rest
              | .equals key => readBraces fuel room start (.value key) entries rest
              | _ => fault .extraEqualsInBraces
          | .closeBrace =>
              let unclosed : Written := .scalar ⟨some .literal, [], token.start⟩
              let entries :=
                match progress with
                | .equals key => (key, unclosed) :: entries
                | .value key => (key, unclosed) :: entries
                | _ => entries
              .ok (.braces entries.reverse start token.stop, rest)
          | .closeBracket =>
              match progress with
              | .equals _ => fault .noEqualsInBraces
              | .value _ => fault .noValueInBraces
              | _ => fault .noKeyInBraces
          | kind =>
              match progress with
              | .value key => valued key
              | .equals _ => fault .noEqualsInBraces
              | _ =>
                  if kind = .openBrace || kind = .openBracket then fault .noKeyInBraces
                  else
                    match progress, token.raw? with
                    | .key, some raw => keyed raw rest
                    | .key, none => keyed (absent token.start) input
                    | _, _ => fault .noCommaInBraces

end

/-- Reads the value of a key and the end of its line. -/
def readEntry (key : List Raw) (input : Input) : Except Fault (Line × Input) := do
  let input := input.skipBlank
  let (value, input) ← readValue (2 * input.tokens.length + 2) greatestDepth input
  let input ← readLineEnd (input.tokens.length + 1) input
  return (.entry key value, input)

/-- Reads a line that begins with the first part of a key; `missing` is the cause of a fault where
no value follows. -/
def readKeyed (missing : Cause) (first : Raw) (input : Input) : Except Fault (Line × Input) :=
  let (parts, input) := readKeyTail input.tokens.length input
  match input.tokens with
  | token :: _ =>
      if token.kind = .equals then readEntry (first :: parts) (input.after token)
      else failAt missing token.start
  | [] => failAt missing input.position

/-- Reads the header of a table after its opening bracket. -/
def readHeader (opening : Token) (input : Input) : Except Fault (Line × Input) := do
  let (many, input) : Bool × Input :=
    match input.tokens with
    | token :: _ => if token.kind = .openBracket then (true, input.after token) else (false, input)
    | [] => (false, input)
  let input := input.skipBlank
  let (first, input) ← (
    match input.tokens with
    | token :: _ =>
        match token.raw? with
        | some raw => .ok (raw, input.after token)
        | none =>
            match token.kind with
            | .openBracket => failAt .noTableKey token.start
            | .openBrace => failAt .noTableKey token.start
            | .closeBrace => failAt .noTableKey token.start
            | _ => .ok (absent token.start, input)
    | [] => .ok (absent input.position, input) : Except Fault (Raw × Input))
  let (parts, input) := readKeyTail input.tokens.length input
  match input.tokens with
  | ⟨.closeBracket, text, place⟩ :: _ =>
      let close : Token := ⟨.closeBracket, text, place⟩
      let input := input.after close
      if many then
        match input.tokens with
        | second :: _ =>
            if second.kind = .closeBracket then do
              let input ← readLineEnd (input.tokens.length + 1) (input.after second)
              return (.header .tables (first :: parts) opening.start second.stop, input)
            else failAt .halfClosedTables close.stop
        | [] => failAt .halfClosedTables close.stop
      else do
        let input ← readLineEnd (input.tokens.length + 1) input
        return (.header .table (first :: parts) opening.start close.stop, input)
  | _ =>
      if (first :: parts).contains (absent input.position) then do
        let input ← skipLine (input.tokens.length + 1) input
        return (.header .table (first :: parts) opening.start opening.stop, input)
      else failAt (if many then .unclosedTables else .unclosedTable) input.last

/-- Reads the lines of the rest of a text. -/
def readLines : Nat → Input → Except Fault (List Line)
  | 0, _ => .ok []
  | fuel + 1, input =>
      match input.tokens with
      | [] => .ok []
      | token :: _ =>
          let rest := input.after token
          let continued (line : Except Fault (Line × Input)) : Except Fault (List Line) := do
            let (line, rest) ← line
            let more ← readLines fuel rest
            return line :: more
          match token.kind with
          | .blank => readLines fuel rest
          | .comment => do
              checkSpace token
              readLines fuel rest
          | .lineEnd => do
              checkSpace token
              readLines fuel rest
          | .openBracket => continued (readHeader token rest)
          | .closeBracket => failAt .noTableOpening token.start
          | .quoted quoting =>
              continued (readKeyed .noValue ⟨some quoting, token.text, token.start⟩ rest)
          | .atom => continued (readKeyed .noValue ⟨none, token.text, token.start⟩ rest)
          | .equals => continued (readEntry [absent token.start] rest)
          | .dot => continued (readKeyed .noValueAfterDot (absent token.start) input)
          | .comma => failOver .noKey token.start token.stop
          | .openBrace => failOver .noKey token.start token.stop
          | .closeBrace => failOver .noKey token.start token.stop

/-- The lines of a text. -/
def linesOf (source : List Char) : Except Fault (List Line) :=
  let all := tokens source
  readLines (all.length + 1) ⟨all, 0, Text.byteLength source⟩

end ScriptRoster.Toml
