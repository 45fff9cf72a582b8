import ScriptRoster.Decimal.Power

/-!
# Durations

A span of time in nanoseconds, shown in the largest unit of which it has at least one.
-/

namespace ScriptRoster.Text

open Decimal

/-- A span of time. -/
structure Duration where
  nanoseconds : Nat
  deriving DecidableEq, Repr, Inhabited

namespace Duration

def ofSeconds (n : Nat) : Duration := ⟨n * 1000000000⟩

def ofMilliseconds (n : Nat) : Duration := ⟨n * 1000000⟩

/-- The digits of a fraction with so many places, without zeros at the end. -/
def fraction (places n : Nat) : String :=
  let digits := (toString n).toList
  let padded := List.replicate (places - digits.length) '0' ++ digits
  let kept := (padded.reverse.dropWhile (· == '0')).reverse
  if kept.isEmpty then "" else "." ++ String.ofList kept

/-- A number of units, of `10 ^ places` nanoseconds each. -/
def inUnit (places n : Nat) (unit : String) : String :=
  toString (n / tenTo places) ++ fraction places (n % tenTo places) ++ unit

/-- A duration as text. -/
def shown (duration : Duration) : String :=
  let n := duration.nanoseconds
  if tenTo 9 ≤ n then inUnit 9 n "s"
  else if tenTo 6 ≤ n then inUnit 6 n "ms"
  else if tenTo 3 ≤ n then inUnit 3 n "µs"
  else toString n ++ "ns"

/-- A duration in seconds with two decimal places, half a hundredth rounded up. -/
def hundredths (duration : Duration) : String :=
  let n := (duration.nanoseconds + 5000000) / 10000000
  let places := toString (n % 100)
  toString (n / 100) ++ "." ++ (if n % 100 < 10 then "0" else "") ++ places

end Duration

end ScriptRoster.Text
