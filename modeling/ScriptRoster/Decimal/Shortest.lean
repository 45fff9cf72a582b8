import ScriptRoster.Decimal.Power

/-!
# Shortest decimals

The decimal of fewest digits that reads back as a given floating-point number, and of these the
nearest. A number is taken apart into `m * 2 ^ q`; the decimals that read back as it are those
between the points half-way to its neighbours, the ends included when `m` is even.
-/

namespace ScriptRoster.Decimal

/-- The number `digits * 10 ^ exponent`. -/
structure Scientific where
  digits : Nat
  exponent : Int
  deriving DecidableEq, Repr

/-- A positive number `m * 2 ^ q` in binary, and whether the number below it is nearer than the
one above. -/
structure Binary where
  m : Nat
  q : Int
  lowerIsNearer : Bool
  deriving DecidableEq, Repr

/-- The bits of a positive finite number, taken apart. -/
def Binary.ofBits (bits : Nat) : Binary :=
  let fraction : Nat := bits % twoTo 52
  let exponent : Nat := bits / twoTo 52 % twoTo 11
  if exponent = 0 then ⟨fraction, -1074, false⟩
  else ⟨fraction + twoTo 52, (exponent : Int) - 1075, fraction = 0 && 1 < exponent⟩

/-- An interval of fractions with one denominator around a value. -/
structure Interval where
  low : Nat
  value : Nat
  high : Nat
  denominator : Nat
  closed : Bool
  deriving Repr

/-- The numbers that read back as a given one. -/
def Binary.interval (b : Binary) : Interval :=
  let up := twoTo b.q.toNat
  { low := (if b.lowerIsNearer then 4 * b.m - 1 else 4 * b.m - 2) * up
    value := 4 * b.m * up
    high := (4 * b.m + 2) * up
    denominator := 4 * twoTo (-b.q).toNat
    closed := b.m % 2 = 0 }

/-- Whether `digits * 10 ^ exponent` lies in an interval. -/
def Interval.contains (i : Interval) (x : Scientific) : Bool :=
  let left := x.digits * tenTo x.exponent.toNat * i.denominator
  let scale := tenTo (-x.exponent).toNat
  if i.closed then i.low * scale ≤ left && left ≤ i.high * scale
  else i.low * scale < left && left < i.high * scale

/-- The least `e` from `start` on, in at most `fuel` steps, for which the value is below
`10 ^ e`. -/
def Interval.magnitude (i : Interval) : Nat → Int → Int
  | 0, start => start
  | fuel + 1, start =>
      if i.value * tenTo (-start).toNat < tenTo start.toNat * i.denominator then start
      else i.magnitude fuel (start + 1)

/-- The decimals next to the value among the multiples of `10 ^ exponent`, the nearer one first. -/
def Interval.neighbours (i : Interval) (exponent : Int) : List Scientific :=
  let numerator := i.value * tenTo (-exponent).toNat
  let unit := i.denominator * tenTo exponent.toNat
  let below : Scientific := ⟨numerator / unit, exponent⟩
  let above : Scientific := ⟨numerator / unit + 1, exponent⟩
  let past := numerator % unit
  if 2 * past < unit || (2 * past = unit && below.digits % 2 = 0) then [below, above]
  else [above, below]

/-- Tries the grids with ever more digits. -/
def Interval.search (i : Interval) : Nat → Int → Scientific
  | 0, exponent =>
      ⟨i.value * tenTo (-exponent).toNat / (i.denominator * tenTo exponent.toNat), exponent⟩
  | fuel + 1, exponent =>
      match (i.neighbours exponent).find? i.contains with
      | some x => x
      | none => i.search fuel (exponent - 1)

/-- The number with no zero at the end of its digits, in at most `fuel` steps. -/
def Scientific.strip : Nat → Scientific → Scientific
  | 0, x => x
  | fuel + 1, x =>
      if x.digits ≠ 0 && x.digits % 10 = 0 then strip fuel ⟨x.digits / 10, x.exponent + 1⟩ else x

/-- The shortest decimal that reads back as the positive finite number with these bits. -/
def shortest (bits : Nat) : Scientific :=
  let i := (Binary.ofBits bits).interval
  let magnitude := i.magnitude 700 (-330)
  (i.search 18 (magnitude - 1)).strip 20

/-- Digits with a point before the last `places` of them, and a zero where a side has none. -/
def pointed (digits : String) (places : Nat) : String :=
  let padded := String.ofList (List.replicate (places + 1 - digits.length) '0') ++ digits
  let cut := padded.length - places
  (padded.take cut).toString ++ "." ++ (padded.drop cut).toString

/-- A decimal without exponent; a whole number has the fraction zero. -/
def Scientific.positional (x : Scientific) : String :=
  if 0 ≤ x.exponent then
    toString x.digits ++ String.ofList (List.replicate x.exponent.toNat '0') ++ ".0"
  else pointed (toString x.digits) (-x.exponent).toNat

/-- A decimal that has an exponent when its first digit is above the sixteenth place before the
point or below the fifth after it. -/
def Scientific.compact (x : Scientific) : String :=
  let digits := toString x.digits
  let magnitude := x.exponent + digits.length
  if -5 < magnitude && magnitude ≤ 16 then x.positional
  else
    (if digits.length = 1 then digits else pointed digits (digits.length - 1)) ++ "e"
      ++ toString (magnitude - 1)

/-- The text of a number by a form for positive decimals. -/
def render (form : Scientific → String) (x : Float) : String :=
  let bits := x.toBits.toNat
  let negative := twoTo 63 ≤ bits
  let magnitude := bits % twoTo 63
  (if negative && !x.isNaN then "-" else "")
    ++ if x.isNaN then "NaN"
      else if x.isInf then "inf"
      else if magnitude = 0 then "0.0"
      else form (shortest magnitude)

end ScriptRoster.Decimal
