import ScriptRoster.Decimal.Power

/-!
# Reading decimals

The floating-point number nearest to a decimal text: digits with an optional sign, point and
exponent, or one of the words for infinity and for no number.
-/

namespace ScriptRoster.Decimal

/-- The number that digits stand for. -/
def natural (digits : List Char) : Nat :=
  digits.foldl (fun n c => n * 10 + (c.toNat - '0'.toNat)) 0

/-- A text without its sign, and whether the sign was a minus. -/
def unsigned : List Char → Bool × List Char
  | '-' :: rest => (true, rest)
  | '+' :: rest => (false, rest)
  | rest => (false, rest)

/-- The number nearest to `digits * 10 ^ exponent`. -/
def nearest (digits : Nat) (exponent : Int) : Float :=
  if exponent < 0 then Float.ofScientific digits true exponent.natAbs
  else Float.ofScientific digits false exponent.natAbs

/-- An exponent, which counts for at most a million. -/
def exponentOf (s : List Char) : Int :=
  match s with
  | [] => 0
  | _ :: rest =>
      let (negative, digits) := unsigned rest
      let size := min (natural digits) 1000000
      if negative then -(size : Int) else size

/-- The digits of a number without its sign, and the power of ten that they are taken by. -/
def scaled (s : List Char) : Nat × Int :=
  let whole := s.takeWhile Char.isDigit
  let rest := s.dropWhile Char.isDigit
  let fraction := if rest.head? = some '.' then (rest.drop 1).takeWhile Char.isDigit else []
  let rest := if rest.head? = some '.' then (rest.drop 1).dropWhile Char.isDigit else rest
  (natural (whole ++ fraction), exponentOf rest - fraction.length)

/-- The floating-point number that a text stands for. -/
def ofText (s : List Char) : Float :=
  let (negative, s) := unsigned s
  let size : Float :=
    if s = ['i', 'n', 'f'] then 1.0 / 0.0
    else if s = ['n', 'a', 'n'] then 0.0 / 0.0
    else nearest (scaled s).1 (scaled s).2
  if negative then -size else size

/-- The middle between the greatest floating-point number and the power of two behind it: from
there on a number is nearest to infinity. -/
def infinityLimit : Nat := twoTo 1024 - twoTo 970

/-- Whether `digits * 10 ^ exponent` is too great for a floating-point number. -/
def isTooGreat (digits : Nat) (exponent : Int) : Bool :=
  if exponent < 0 then infinityLimit * tenTo exponent.natAbs ≤ digits
  else infinityLimit ≤ digits * tenTo exponent.natAbs

/-- Whether a text stands for infinity without being the word for it. -/
def overflows (s : List Char) : Bool :=
  let (_, s) := unsigned s
  if s = ['i', 'n', 'f'] || s = ['n', 'a', 'n'] then false
  else isTooGreat (scaled s).1 (scaled s).2

end ScriptRoster.Decimal
