/-!
# Dates and times in TOML

Whether a bare value is a date, a time or both, and if not, what is wrong with it.
-/

namespace ScriptRoster.Toml.Datetime

/-- A run of digits, or any other character. -/
inductive Piece where
  | digits (text : List Char)
  | sign (c : Char)
  deriving DecidableEq, Repr

/-- The pieces of a text. -/
def pieces : List Char → List Piece
  | [] => []
  | c :: rest =>
      if c.isDigit then
        match pieces rest with
        | .digits text :: more => .digits (c :: text) :: more
        | more => .digits [c] :: more
      else .sign c :: pieces rest

/-- The message of a bad part. -/
def bad (part expected : String) : String :=
  "invalid " ++ part ++ ", expected " ++ expected

def number (digits : List Char) : Nat :=
  digits.foldl (fun n c => n * 10 + (c.toNat - '0'.toNat)) 0

/-- Takes digits. -/
def takeDigits (part expected : String) : List Piece → Except String (List Char × List Piece)
  | .digits text :: rest => .ok (text, rest)
  | _ => .error (bad part expected)

/-- Takes a sign. -/
def takeSign (part : String) (c : Char) (expected : String) :
    List Piece → Except String (List Piece)
  | .sign d :: rest => if c = d then .ok rest else .error (bad part expected)
  | _ => .error (bad part expected)

/-- Requires a number of digits. -/
def sized (part : String) (digits : List Char) (size : Nat) (expected : String) :
    Except String Unit :=
  if digits.length = size then .ok () else .error (bad part expected)

/-- Requires a number to be in a range. -/
def within (part : String) (n low high : Nat) (expected : String) : Except String Unit :=
  if low ≤ n && n ≤ high then .ok () else .error (bad part expected)

def isLeap (year : Nat) : Bool := year % 4 = 0 && (year % 100 != 0 || year % 400 = 0)

/-- The number of days in a month. -/
def monthLength (year month : Nat) : Nat :=
  if month = 2 then if isLeap year then 29 else 28
  else if [4, 6, 9, 11].contains month then 30
  else 31

/-- Reads a date after its year. -/
def readDate (year : List Char) (pieces : List Piece) : Except String (List Piece) := do
  let pieces ← takeSign "date" '-' "\x60-\x60 (YYYY-MM)" pieces
  let (month, pieces) ← takeDigits "date" "month" pieces
  let pieces ← takeSign "date" '-' "\x60-\x60 (MM-DD)" pieces
  let (day, pieces) ← takeDigits "date" "day" pieces
  sized "date" year 4 "a four-digit year (YYYY)"
  sized "date" month 2 "a two-digit month (MM)"
  sized "date" day 2 "a two-digit day (DD)"
  within "date" (number month) 1 12 "month between 01 and 12"
  let length := monthLength (number year) (number month)
  within "date" (number day) 1 length ("day between 01 and " ++ toString length)
  return pieces

/-- Reads a time. -/
def readTime (pieces : List Piece) : Except String (List Piece) := do
  let (hour, pieces) ← takeDigits "time" "hour" pieces
  let pieces ← takeSign "time" ':' "\x60:\x60 (HH:MM)" pieces
  let (minute, pieces) ← takeDigits "time" "minute" pieces
  let (second, pieces) ← (
    match pieces with
    | .sign ':' :: rest => do
        let (second, rest) ← takeDigits "time" "second" rest
        match rest with
        | .sign '.' :: rest => do
            let (_, rest) ← takeDigits "time" "nanosecond" rest
            return (second, rest)
        | _ => return (second, rest)
    | _ => .ok (['0', '0'], pieces) : Except String (List Char × List Piece))
  sized "time" hour 2 "a two-digit hour (HH)"
  sized "time" minute 2 "a two-digit minute (MM)"
  sized "time" second 2 "a two-digit second (SS)"
  within "time" (number hour) 0 23 "hour between 00 and 23"
  within "time" (number minute) 0 59 "minute between 00 and 59"
  within "time" (number second) 0 60 "second between 00 and 60"
  return pieces

/-- Reads what may follow a date with a time. -/
def readOffset (pieces : List Piece) : Except String (List Piece) :=
  match pieces with
  | [] => .ok []
  | .sign c :: rest =>
      if c = 'Z' || c = 'z' then .ok rest
      else if c = '+' || c = '-' then do
        let (hour, rest) ← takeDigits "offset" "hour" rest
        let rest ← takeSign "offset" ':' "\x60:\x60 (HH:MM)" rest
        let (minute, rest) ← takeDigits "offset" "minute" rest
        sized "offset" hour 2 "a two-digit hour (HH)"
        sized "offset" minute 2 "a two-digit minute (MM)"
        within "offset" (number hour) 0 23 "hours between 00 and 23"
        within "offset" (number minute) 0 59 "minutes between 00 and 59"
        return rest
      else .error (bad "offset" "\x60Z\x60, +OFFSET, -OFFSET")
  | _ => .error (bad "offset" "\x60Z\x60, +OFFSET, -OFFSET")

/-- Requires the end. -/
def finish : List Piece → Except String Unit
  | [] => .ok ()
  | _ => .error "invalid datetime"

/-- Checks a text that stands for a date, a time or both. -/
def check (s : List Char) : Except String Unit :=
  match pieces s with
  | .digits year :: .sign '-' :: rest => do
      let rest ← readDate year (.sign '-' :: rest)
      match rest with
      | [] => return ()
      | .sign c :: rest =>
          if c = 'T' || c = 't' || c = ' ' then do
            let rest ← readTime rest
            let rest ← readOffset rest
            finish rest
          else .error (bad "date-time" "\x60T\x60 between date and time")
      | _ => .error (bad "date-time" "\x60T\x60 between date and time")
  | .digits hour :: rest => do
      let rest ← readTime (.digits hour :: rest)
      finish rest
  | _ => .error (bad "datetime" "year or hour")

end ScriptRoster.Toml.Datetime
