import ScriptRoster.Json.Number
import ScriptRoster.Json.Quoted
import ScriptRoster.Text.Shown

/-!
# Reading JSON

A text is read for a type of value that is expected. What is not asked for is passed over, and a
value of another type is described in the fault.
-/

namespace ScriptRoster.Json

def isSpace (c : Char) : Bool := c = ' ' || c = '\n' || c = '\t' || c = '\r'

/-- The text without white space at its start. -/
def skipSpace (s : List Char) : List Char := s.dropWhile isSpace

/-- Passes over the characters of a word. -/
def readWord (word s : List Char) : Except Fault (List Char) :=
  match word with
  | [] => .ok s
  | w :: word =>
      match s with
      | [] => fail .endInValue []
      | c :: rest => if c = w then readWord word rest else failNext .noWord s

/-- Passes over the rest of a list after its last item, or says where that fails. -/
def endList (s : List Char) : Except Fault (List Char) :=
  let s := skipSpace s
  match s with
  | [] => fail .endInList []
  | ']' :: rest => .ok rest
  | ',' :: rest =>
      let rest := skipSpace rest
      match rest with
      | ']' :: _ => failNext .trailingComma rest
      | _ => failNext .trailingText rest
  | _ => failNext .trailingText s

/-- Passes over the rest of an object after its last field, or says where that fails. -/
def endObject (s : List Char) : Except Fault (List Char) :=
  let s := skipSpace s
  match s with
  | [] => fail .endInObject []
  | '\x7d' :: rest => .ok rest
  | ',' :: _ => failNext .trailingComma s
  | _ => failNext .trailingText s

/-- Where reading stands after an end, whether it is there or not. -/
def restAfter : Except Fault (List Char) → List Char
  | .ok rest => rest
  | .error fault => fault.rest

/-- Passes over a colon. -/
def readColon (s : List Char) : Except Fault (List Char) :=
  let s := skipSpace s
  match s with
  | [] => fail .endInObject []
  | ':' :: rest => .ok rest
  | _ => failNext .noColon s

mutual

/-- Passes over a value of any type. -/
def skipValue : Nat → List Char → Except Fault (List Char)
  | 0, s => fail .endInValue s
  | fuel + 1, s =>
      let s := skipSpace s
      match s with
      | [] => fail .endInValue []
      | 'n' :: rest => readWord ['u', 'l', 'l'] rest
      | 't' :: rest => readWord ['r', 'u', 'e'] rest
      | 'f' :: rest => readWord ['a', 'l', 's', 'e'] rest
      | '-' :: rest => skipNumber rest
      | '"' :: rest => skipBody rest
      | '[' :: rest =>
          let rest := skipSpace rest
          match rest with
          | [] => fail .endInList []
          | ']' :: rest => .ok rest
          | _ => skipItems fuel rest
      | '\x7b' :: rest =>
          let rest := skipSpace rest
          match rest with
          | [] => fail .endInObject []
          | '\x7d' :: rest => .ok rest
          | _ => skipFields fuel rest
      | c :: _ => if isDigit c then skipNumber s else failNext .noValue s

/-- Passes over the items of a list and its end. -/
def skipItems : Nat → List Char → Except Fault (List Char)
  | 0, s => fail .endInList s
  | fuel + 1, s =>
      match skipValue fuel s with
      | .error fault => .error fault
      | .ok rest =>
          let rest := skipSpace rest
          match rest with
          | [] => fail .endInList []
          | ']' :: rest => .ok rest
          | ',' :: rest => skipItems fuel rest
          | _ => failNext .noCommaInList rest

/-- Passes over the fields of an object and its end. -/
def skipFields : Nat → List Char → Except Fault (List Char)
  | 0, s => fail .endInObject s
  | fuel + 1, s =>
      let s := skipSpace s
      match s with
      | [] => fail .endInObject []
      | '"' :: rest =>
          match skipBody rest with
          | .error fault => .error fault
          | .ok rest =>
              match readColon rest with
              | .error fault => .error fault
              | .ok rest =>
                  match skipValue fuel rest with
                  | .error fault => .error fault
                  | .ok rest =>
                      let rest := skipSpace rest
                      match rest with
                      | [] => fail .endInObject []
                      | '\x7d' :: rest => .ok rest
                      | ',' :: rest => skipFields fuel rest
                      | _ => failNext .noCommaInObject rest
      | _ => failNext .keyNotString s

end

/-- Passes over a value of any type. -/
def skip (s : List Char) : Except Fault (List Char) := skipValue (2 * s.length + 2) s

/-- The fault of a value, not preceded by white space, where another type was expected. -/
def wrongType (expected : String) (s : List Char) : Fault :=
  let found (described : String) (rest : List Char) : Fault :=
    ⟨.wrongType described expected, rest, 0⟩
  let word (described : String) (read : Except Fault (List Char)) : Fault :=
    match read with
    | .ok rest => found described rest
    | .error fault => fault
  let number (read : Except Fault (Number × List Char)) : Fault :=
    match read with
    | .ok (x, rest) => found x.described rest
    | .error fault => fault
  match s with
  | 'n' :: rest => word "null" (readWord ['u', 'l', 'l'] rest)
  | 't' :: rest => word "boolean \x60true\x60" (readWord ['r', 'u', 'e'] rest)
  | 'f' :: rest => word "boolean \x60false\x60" (readWord ['a', 'l', 's', 'e'] rest)
  | '-' :: rest => number (readNumber false rest)
  | '"' :: rest =>
      match readBody rest with
      | .ok (body, rest) => found ("string " ++ Text.shown (String.ofList body)) rest
      | .error fault => fault
  | '[' :: _ => found "sequence" s
  | '\x7b' :: _ => found "map" s
  | c :: _ => if isDigit c then number (readNumber true s) else ⟨.noValue, s, 1⟩
  | [] => ⟨.noValue, s, 1⟩

/-- Reads a string. -/
def readString (s : List Char) : Except Fault (String × List Char) :=
  let s := skipSpace s
  match s with
  | [] => fail .endInValue []
  | '"' :: rest => (readBody rest).map fun body => (String.ofList body.1, body.2)
  | _ => .error (wrongType "a string" s)

/-- What stands before an item of a list. -/
inductive Next where
  | item (rest : List Char)
  | stop (rest : List Char)

/-- Looks for the first item of a list. -/
def firstItem (s : List Char) : Except Fault Next :=
  let s := skipSpace s
  match s with
  | [] => fail .endInList []
  | ']' :: _ => .ok (.stop s)
  | _ => .ok (.item s)

/-- Looks for a further item of a list. -/
def nextItem (s : List Char) : Except Fault Next :=
  let s := skipSpace s
  match s with
  | [] => fail .endInList []
  | ']' :: _ => .ok (.stop s)
  | ',' :: rest =>
      let rest := skipSpace rest
      match rest with
      | [] => fail .endInValue []
      | ']' :: _ => failNext .trailingComma rest
      | _ => .ok (.item rest)
  | _ => failNext .noCommaInList s

/-- Looks for the key of the first field of an object. -/
def firstField (s : List Char) : Except Fault Next :=
  let s := skipSpace s
  match s with
  | [] => fail .endInObject []
  | '\x7d' :: _ => .ok (.stop s)
  | '"' :: rest => .ok (.item rest)
  | _ => failNext .keyNotString s

/-- Looks for the key of a further field of an object. -/
def nextField (s : List Char) : Except Fault Next :=
  let s := skipSpace s
  match s with
  | [] => fail .endInObject []
  | '\x7d' :: _ => .ok (.stop s)
  | ',' :: rest =>
      let rest := skipSpace rest
      match rest with
      | [] => fail .endInValue []
      | '"' :: rest => .ok (.item rest)
      | '\x7d' :: _ => failNext .trailingComma rest
      | _ => failNext .keyNotString rest
  | _ => failNext .noCommaInObject s

/-- Reads the strings of a list, at most `fuel` of them, up to its end. -/
def readStrings (next : List Char → Except Fault Next) :
    Nat → List Char → Except Fault (List String × List Char)
  | 0, s => fail .endInList s
  | fuel + 1, s =>
      match next s with
      | .error fault => .error fault
      | .ok (.stop rest) => (endList rest).map fun rest => ([], rest)
      | .ok (.item rest) =>
          match readString rest with
          | .error fault => .error fault
          | .ok (item, rest) =>
              (readStrings nextItem fuel rest).map fun items => (item :: items.1, items.2)

/-- Reads a list of strings. -/
def readStringList (s : List Char) : Except Fault (List String × List Char) :=
  let s := skipSpace s
  match s with
  | [] => fail .endInValue []
  | '[' :: rest => readStrings firstItem (s.length + 1) rest
  | _ => .error (wrongType "a sequence" s)

/-- The value of a whole text, after which nothing but white space may stand. -/
def document {α : Type} (read : List Char → Except Fault (α × List Char)) (text : String) :
    Except Fault α :=
  match read text.toList with
  | .error fault => .error fault
  | .ok (value, rest) =>
      let rest := skipSpace rest
      match rest with
      | [] => .ok value
      | _ => failNext .trailingText rest

/-- The list of strings that a text holds. -/
def strings (text : String) : Except Fault (List String) := document readStringList text

/-- Strings as the text of a list. -/
def listText (items : List String) : String :=
  String.ofList ('[' :: [','].intercalate (items.map fun item => quote item.toList) ++ [']'])

/-- A list of texts as JSON, each on a line of its own. -/
def listLines (items : List String) : String :=
  if items.isEmpty then "[]"
  else
    "[\n" ++ ",\n".intercalate (items.map fun item =>
      "  " ++ String.ofList (quote item.toList)) ++ "\n]"

end ScriptRoster.Json
