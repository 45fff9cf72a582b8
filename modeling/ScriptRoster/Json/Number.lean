import ScriptRoster.Decimal.Shortest
import ScriptRoster.Json.Fault

/-!
# Numbers in JSON

A number that is read is a whole number of 64 bits or else a floating-point number, which is made
from a significand of 64 bits and a power of ten.
-/

namespace ScriptRoster.Json

open Decimal

/-- A number as it is read. -/
inductive Number where
  | natural (n : Nat)
  | negative (n : Nat)
  | floating (x : Float)

/-- How a number is called in messages. -/
def Number.described : Number → String
  | .natural n => "integer \x60" ++ toString n ++ "\x60"
  | .negative n => "integer \x60-" ++ toString n ++ "\x60"
  | .floating x =>
      "floating point \x60" ++ Decimal.render Decimal.Scientific.compact x ++ "\x60"

def isDigit (c : Char) : Bool := '0' ≤ c && c ≤ '9'

def digitValue (c : Char) : Nat := c.toNat - 48

/-- The greatest whole number of 64 bits. -/
def greatest : Nat := twoTo 64 - 1

/-- Adds digits to a significand while it stays below the limit. -/
def significandOf (limit start : Nat) : List Char → Nat × List Char
  | [] => (start, [])
  | c :: rest =>
      if isDigit c && start * 10 + digitValue c ≤ limit then
        significandOf limit (start * 10 + digitValue c) rest
      else (start, c :: rest)

/-- The power of ten with a natural exponent. -/
def powerOfTen (n : Nat) : Float := Float.ofScientific 1 false n

/-- The floating-point number of a significand and a power of ten, in at most `fuel` steps. -/
def floatingWithin (rest : List Char) : Nat → Float → Int → Except Fault Float
  | 0, x, _ => .ok x
  | fuel + 1, x, exponent =>
      if exponent.natAbs ≤ 308 then
        if 0 ≤ exponent then
          let y := x * powerOfTen exponent.natAbs
          if y.isInf then fail .tooGreat rest else .ok y
        else .ok (x / powerOfTen exponent.natAbs)
      else if x == 0.0 then .ok x
      else if 0 ≤ exponent then fail .tooGreat rest
      else floatingWithin rest fuel (x / powerOfTen 308) (exponent + 308)

/-- Ends a floating-point number. -/
def floating (positive : Bool) (significand : Nat) (exponent : Int) (rest : List Char) :
    Except Fault (Number × List Char) :=
  (floatingWithin rest 8 (Float.ofNat significand) exponent).map fun x =>
    (.floating (if positive then x else -x), rest)

/-- The greatest exponent that is counted. -/
def greatestExponent : Nat := twoTo 31 - 1

/-- The greatest number of a signed word, which sums of exponents do not leave. -/
def clampExponent (e : Int) : Int :=
  if (greatestExponent : Int) < e then greatestExponent
  else if e < -(greatestExponent : Int) - 1 then -(greatestExponent : Int) - 1
  else e

/-- Reads an exponent after its letter. -/
def readExponent (positive : Bool) (significand : Nat) (start : Int) (s : List Char) :
    Except Fault (Number × List Char) :=
  let signed : Bool × List Char :=
    match s with
    | '+' :: rest => (true, rest)
    | '-' :: rest => (false, rest)
    | _ => (true, s)
  match signed.2 with
  | [] => fail .endInValue []
  | c :: rest =>
      if isDigit c then
        let counted := significandOf greatestExponent (digitValue c) rest
        match counted.2 with
        | d :: _ =>
            if isDigit d then
              let rest := counted.2.dropWhile isDigit
              if significand ≠ 0 && signed.1 then fail .tooGreat (counted.2.drop 1)
              else .ok (.floating (if positive then 0.0 else -0.0), rest)
            else
              floating positive significand
                (clampExponent (if signed.1 then start + counted.1 else start - counted.1))
                counted.2
        | [] =>
            floating positive significand
              (clampExponent (if signed.1 then start + counted.1 else start - counted.1)) []
      else failNext .badNumber signed.2

/-- Reads what may follow the digits of a floating-point number. -/
def readScale (positive : Bool) (significand : Nat) (exponent : Int) (s : List Char) :
    Except Fault (Number × List Char) :=
  match s with
  | 'e' :: rest => readExponent positive significand exponent rest
  | 'E' :: rest => readExponent positive significand exponent rest
  | _ => floating positive significand exponent s

/-- Reads a fraction after its point. -/
def readFraction (positive : Bool) (significand : Nat) (exponent : Int) (s : List Char) :
    Except Fault (Number × List Char) :=
  let counted := significandOf greatest significand s
  let places := s.length - counted.2.length
  match counted.2 with
  | c :: _ =>
      if isDigit c then
        readScale positive counted.1 (exponent - places) (counted.2.dropWhile isDigit)
      else if places = 0 then failNext .badNumber counted.2
      else readScale positive counted.1 (exponent - places) counted.2
  | [] =>
      if places = 0 then fail .endInValue []
      else floating positive counted.1 (exponent - places) []

/-- Reads what follows the whole part of a number. -/
def readTail (positive : Bool) (significand : Nat) (s : List Char) :
    Except Fault (Number × List Char) :=
  match s with
  | '.' :: rest => readFraction positive significand 0 rest
  | 'e' :: rest => readExponent positive significand 0 rest
  | 'E' :: rest => readExponent positive significand 0 rest
  | _ =>
      if positive then .ok (.natural significand, s)
      else if significand = 0 || twoTo 63 < significand then
        .ok (.floating (-(Float.ofNat significand)), s)
      else .ok (.negative significand, s)

/-- Reads a number after its sign. -/
def readNumber (positive : Bool) (s : List Char) : Except Fault (Number × List Char) :=
  match s with
  | [] => fail .endInValue []
  | c :: rest =>
      if c = '0' then
        match rest with
        | d :: _ => if isDigit d then failNext .badNumber rest else readTail positive 0 rest
        | [] => readTail positive 0 rest
      else if isDigit c then
        let counted := significandOf greatest (digitValue c) rest
        match counted.2 with
        | d :: _ =>
            if isDigit d then
              let after := counted.2.dropWhile isDigit
              let dropped := counted.2.length - after.length
              match after with
              | '.' :: rest => readFraction positive counted.1 dropped rest
              | _ => readScale positive counted.1 dropped after
            else readTail positive counted.1 counted.2
        | [] => readTail positive counted.1 []
      else failNext .badNumber s

/-- Passes over digits of which there must be one. -/
def skipExponent (s : List Char) : Except Fault (List Char) :=
  let unsigned :=
    match s with
    | '+' :: rest => rest
    | '-' :: rest => rest
    | _ => s
  match unsigned with
  | [] => fail .badNumber []
  | c :: rest => if isDigit c then .ok (rest.dropWhile isDigit) else failNext .badNumber unsigned

/-- Passes over what may follow the digits of a number. -/
def skipScale (s : List Char) : Except Fault (List Char) :=
  match s with
  | 'e' :: rest => skipExponent rest
  | 'E' :: rest => skipExponent rest
  | _ => .ok s

/-- Passes over a number after its sign. -/
def skipNumber (s : List Char) : Except Fault (List Char) :=
  let tail (s : List Char) : Except Fault (List Char) :=
    match s with
    | '.' :: rest =>
        let after := rest.dropWhile isDigit
        if after.length = rest.length then failNext .badNumber rest else skipScale after
    | _ => skipScale s
  match s with
  | [] => fail .badNumber []
  | c :: rest =>
      if c = '0' then
        match rest with
        | d :: _ => if isDigit d then failNext .badNumber rest else tail rest
        | [] => tail rest
      else if isDigit c then tail (rest.dropWhile isDigit)
      else failNext .badNumber s

end ScriptRoster.Json
