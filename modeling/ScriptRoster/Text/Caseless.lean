import ScriptRoster.Text.Lowercase

/-!
# Characters without regard to case

Two characters are the same without regard to case if they have the same small form, where a few
small letters with two spellings count as one.
-/

namespace ScriptRoster.Text

/-- Small letters that are another spelling of a second small letter. -/
def otherSpellings : List (Nat × Nat) :=
  [(0xb5, 0x3bc), (0x17f, 0x73), (0x345, 0x3b9), (0x3c2, 0x3c3), (0x3d0, 0x3b2), (0x3d1, 0x3b8),
    (0x3d5, 0x3c6), (0x3d6, 0x3c0), (0x3f0, 0x3ba), (0x3f1, 0x3c1), (0x3f5, 0x3b5),
    (0x1c80, 0x432), (0x1c81, 0x434), (0x1c82, 0x43e), (0x1c83, 0x441), (0x1c84, 0x442),
    (0x1c85, 0x442), (0x1c86, 0x44a), (0x1c87, 0x463), (0x1c88, 0xa64b), (0x1e9b, 0x1e61),
    (0x1fbe, 0x3b9), (0x1fd3, 0x390), (0x1fe3, 0x3b0), (0xfb05, 0xfb06)]

/-- The number that stands for all characters that are the same without regard to case. -/
def caselessNumber (c : Char) : Nat :=
  let small := ((c.toNat : Int) + capitalShift c.toNat 20 0 capitals.size).toNat
  ((otherSpellings.find? (·.1 == small)).map Prod.snd).getD small

/-- The capitals with a small letter. -/
def capitalsOf (small : Nat) : List Nat :=
  capitals.toList.filterMap fun (first, last, step, shift) =>
    let n := ((small : Int) - shift).toNat
    if first ≤ n && n ≤ last && (n - first) % step = 0 then some n else none

/-- All characters that are the same as one without regard to case. -/
def caseVariants (c : Char) : List Char :=
  let small := caselessNumber c
  let spellings := (otherSpellings.filter (·.2 == small)).map Prod.fst
  (small :: spellings ++ capitalsOf small).map Char.ofNat

end ScriptRoster.Text
