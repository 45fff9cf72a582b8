/-!
# Resemblance of words

How alike two words are, as a number between zero and one: two letters match if they are the same
and stand at nearly the same place, and each letter is matched once. The resemblance is the mean of
three fractions: of the letters of either word that match, and of the matches that stand in the same
order.
-/

namespace ScriptRoster.CommandLine

/-- How far from each other two letters that match may stand. -/
def reach (a b : List Char) : Nat := max a.length b.length / 2 - 1

/-- Takes the first letter like `c` that is free and stands at a place from `low` to `high`; the
letters, the first of them at `place`, are each free or taken. -/
def takeLetter (c : Char) (low high : Nat) :
    Nat → List (Char × Bool) → Option (List (Char × Bool))
  | _, [] => none
  | place, (d, taken) :: rest =>
      if high < place then none
      else if low ≤ place && c == d && !taken then some ((d, true) :: rest)
      else (takeLetter c low high (place + 1) rest).map ((d, taken) :: ·)

/-- The letters of a word that match, in the order of that word, and the letters of the other word,
marked if they are matched. -/
def matchLetters (range : Nat) : Nat → List Char → List (Char × Bool) →
    List Char × List (Char × Bool)
  | _, [], other => ([], other)
  | place, c :: rest, other =>
      match takeLetter c (place - range) (place + range) 0 other with
      | some other =>
          let (matched, other) := matchLetters range (place + 1) rest other
          (c :: matched, other)
      | none => matchLetters range (place + 1) rest other

/-- How alike two words are. -/
def resemblance (first second : String) : Float :=
  let a := first.toList
  let b := second.toList
  let (matched, marked) := matchLetters (reach a b) 0 a (b.map (·, false))
  let other := (marked.filter Prod.snd).map Prod.fst
  let m := matched.length
  if a.isEmpty && b.isEmpty then 1
  else if m = 0 then 0
  else
    let swapped := ((matched.zip other).filter fun pair => pair.1 != pair.2).length / 2
    (m.toFloat / a.length.toFloat + m.toFloat / b.length.toFloat
      + (m - swapped).toFloat / m.toFloat) / 3

/-- Words count as similar if they are more alike than this. -/
def threshold : Float := 0.7

/-- Inserts a word behind those that are no more alike. -/
def insertByResemblance (entry : Float × String) :
    List (Float × String) → List (Float × String)
  | [] => [entry]
  | head :: rest =>
      if entry.1 < head.1 then entry :: head :: rest
      else head :: insertByResemblance entry rest

/-- The words that are similar to another, the most similar last. -/
def similar (word : String) (words : List String) : List String :=
  let candidates := (words.map fun other => (resemblance word other, other)).filter
    fun entry => threshold < entry.1
  (candidates.foldl (fun sorted entry => insertByResemblance entry sorted) []).map Prod.snd

end ScriptRoster.CommandLine
