import ScriptRoster.Proofs.Json.Strings

/-!
# The grammar of JSON

Strings, numbers and values as the standard writes them down: a text of each kind is put together
from texts of others, with white space between them. Reading takes just these texts. A value that is
only passed over may hold escapes of surrogates that are not paired; a string that is read may not.
-/

namespace ScriptRoster.Json

/-! ## White space -/

/-- White space between the parts of a text. -/
def IsGap (s : List Char) : Prop := ∀ c ∈ s, isSpace c = true

theorem isGap_nil : IsGap [] := nofun

theorem skipSpace_gap {gap : List Char} (isGap : IsGap gap) (s : List Char) :
    skipSpace (gap ++ s) = skipSpace s :=
  List.dropWhile_append_of_pos isGap

theorem skipSpace_cons {c : Char} (dark : isSpace c = false) (s : List Char) :
    skipSpace (c :: s) = c :: s := by
  rw [skipSpace, List.dropWhile_cons_of_neg (by simp [dark])]

theorem exists_gap (s : List Char) : ∃ gap, IsGap gap ∧ s = gap ++ skipSpace s :=
  ⟨s.takeWhile isSpace, List.all_eq_true.mp List.all_takeWhile,
    List.takeWhile_append_dropWhile.symm⟩

/-- Only white space is skipped. -/
theorem exists_gap_of_skipSpace {s rest : List Char} (skipped : skipSpace s = rest) :
    ∃ gap, IsGap gap ∧ s = gap ++ rest := by
  obtain ⟨gap, isGap, whole⟩ := exists_gap s
  exact ⟨gap, isGap, by rw [← skipped]; exact whole⟩

theorem exists_of_map_eq_ok {α β : Type} {x : Except Fault α} {f : α → β} {b : β}
    (done : x.map f = .ok b) : ∃ a, x = .ok a ∧ f a = b := by
  cases x with
  | error fault => cases done
  | ok a => exact ⟨a, rfl, Except.ok.inj done⟩

theorem exists_of_bind_eq_ok {α β : Type} {x : Except Fault α} {f : α → Except Fault β} {b : β}
    (done : (x >>= f) = .ok b) : ∃ a, x = .ok a ∧ f a = .ok b := by
  cases x with
  | error fault => cases done
  | ok a => exact ⟨a, rfl, done⟩

/-! ## Strings -/

/-- Four hexadecimal digits and the number that they make. -/
inductive IsUnit : List Char → Nat → Prop
  | mk {a b c d : Char} {i j k l : Nat}
      (first : hexValue? a = some i) (second : hexValue? b = some j)
      (third : hexValue? c = some k) (fourth : hexValue? d = some l) :
      IsUnit [a, b, c, d] (((i * 16 + j) * 16 + k) * 16 + l)

/-- What the letter behind a backslash stands for. -/
def escaped? : Char → Option Char
  | '"' => some '"'
  | '\\' => some '\\'
  | '/' => some '/'
  | 'b' => some '\x08'
  | 'f' => some '\x0c'
  | 'n' => some '\n'
  | 'r' => some '\r'
  | 't' => some '\t'
  | _ => none

/-- The character of a pair of surrogates. -/
def paired (leading trailing : Nat) : Char :=
  Char.ofNat ((leading - 0xd800) * 0x400 + (trailing - 0xdc00) + 0x10000)

/-- Whether a character stands for itself in a string. -/
def IsPlain (c : Char) : Prop := c ≠ '"' ∧ c ≠ '\\' ∧ 0x20 ≤ c.toNat

/-- What stands behind a backslash, and what it stands for. Surrogates stand in pairs. -/
inductive IsEscape : List Char → Char → Prop
  | letter {e c} (stands : escaped? e = some c) : IsEscape [e] c
  | unit {digits n} (isUnit : IsUnit digits n) (notLeading : isLeading n = false)
      (notTrailing : isTrailing n = false) : IsEscape ('u' :: digits) (Char.ofNat n)
  | pair {high low m n} (leads : IsUnit high m) (leading : isLeading m = true)
      (notTrailing : isTrailing m = false)
      (trails : IsUnit low n) (trailing : isTrailing n = true) :
      IsEscape ('u' :: (high ++ '\\' :: 'u' :: low)) (paired m n)

/-- What stands behind a backslash in a string that is passed over. A surrogate may stand alone. -/
inductive IsLooseEscape : List Char → Prop
  | letter {e c} (stands : escaped? e = some c) : IsLooseEscape [e]
  | unit {digits n} (isUnit : IsUnit digits n) : IsLooseEscape ('u' :: digits)

/-- What a text between quotes spells. -/
inductive Spells : List Char → List Char → Prop
  | nothing : Spells [] []
  | plain {c s cs} (plain : IsPlain c) (rest : Spells s cs) : Spells (c :: s) (c :: cs)
  | escape {e c s cs} (isEscape : IsEscape e c) (rest : Spells s cs) :
      Spells ('\\' :: (e ++ s)) (c :: cs)

/-- A text between quotes that is passed over. -/
inductive IsBody : List Char → Prop
  | nothing : IsBody []
  | plain {c s} (plain : IsPlain c) (rest : IsBody s) : IsBody (c :: s)
  | escape {e s} (isEscape : IsLooseEscape e) (rest : IsBody s) : IsBody ('\\' :: (e ++ s))

section Strings

variable {s rest cs body : List Char} {n fuel : Nat}

theorem readUnit_eq_ok :
    readUnit s = .ok (n, rest) ↔ ∃ digits, IsUnit digits n ∧ s = digits ++ rest := by
  constructor
  · intro read
    unfold readUnit at read
    split at read
    · cases read
    split at read
    · split at read
      · next first second third fourth =>
          cases read
          exact ⟨_, .mk first second third fourth, rfl⟩
      · cases read
    · cases read
  · rintro ⟨digits, ⟨first, second, third, fourth⟩, rfl⟩
    simp only [List.cons_append, List.nil_append]
    rw [readUnit, if_neg (Nat.not_lt.mpr (four_le_byteLength _ _ _ _ rest))]
    simp only [first, second, third, fourth]

/-- Behind a leading surrogate only an escaped trailing one makes a character. -/
theorem readTrailing_eq_ok {leading : Nat} {c : Char} :
    readTrailing leading s = .ok (c, rest) ↔ ∃ low n, IsUnit low n ∧ isTrailing n = true ∧
      c = paired leading n ∧ s = '\\' :: 'u' :: (low ++ rest) := by
  constructor
  · intro read
    unfold readTrailing at read
    split at read
    · cases read
    · split at read
      · cases read
      · split at read
        · next unit =>
            split at read
            · next trailing =>
                simp only [Except.ok.injEq, Prod.mk.injEq] at read
                obtain ⟨same, rfl⟩ := read
                obtain ⟨low, isUnit, rfl⟩ := readUnit_eq_ok.mp unit
                exact ⟨low, _, isUnit, trailing, same.symm, rfl⟩
            · cases read
        · cases read
      · cases read
    · cases read
  · rintro ⟨low, n, isUnit, trailing, same, rfl⟩
    rw [same]
    simp only [readTrailing, readUnit_eq_ok.mpr ⟨low, isUnit, rfl⟩, trailing, if_true, paired]

theorem readEscape_letter {e c : Char} (stands : escaped? e = some c) (rest : List Char) :
    readEscape (e :: rest) = .ok (c, rest) := by
  unfold escaped? at stands
  split at stands <;> cases stands <;> rfl

/-- Just the escapes of a character are read as it. -/
theorem readEscape_eq_ok {c : Char} :
    readEscape s = .ok (c, rest) ↔ ∃ e, IsEscape e c ∧ s = e ++ rest := by
  constructor
  · intro read
    unfold readEscape at read
    split at read
    · cases read
    case h_10 tail =>
      split at read
      · next unit =>
          obtain ⟨digits, isUnit, rfl⟩ := readUnit_eq_ok.mp unit
          split at read
          · cases read
          split at read
          · next notTrailing leading =>
              obtain ⟨low, n, trails, trailing, same, rfl⟩ := readTrailing_eq_ok.mp read
              rw [same]
              refine ⟨_, .pair isUnit leading (by simpa using notTrailing) trails trailing, ?_⟩
              simp
          · next notTrailing notLeading =>
              cases read
              exact ⟨_, .unit isUnit (by simpa using notLeading) (by simpa using notTrailing), rfl⟩
      · cases read
    case h_11 => cases read
    all_goals
      cases read
      exact ⟨[_], .letter rfl, rfl⟩
  · rintro ⟨e, isEscape, rfl⟩
    cases isEscape with
    | letter stands => exact readEscape_letter stands rest
    | unit isUnit notLeading notTrailing =>
        simp only [List.cons_append, readEscape, readUnit_eq_ok.mpr ⟨_, isUnit, rfl⟩, notTrailing,
          notLeading, Bool.false_eq_true, if_false]
    | @pair high low m n leads leading notTrailing trails trailing =>
        have second : readTrailing m ('\\' :: 'u' :: (low ++ rest)) = .ok (paired m n, rest) :=
          readTrailing_eq_ok.mpr ⟨low, n, trails, trailing, rfl, rfl⟩
        simp only [List.cons_append, List.append_assoc, readEscape,
          readUnit_eq_ok.mpr ⟨high, leads, rfl⟩, notTrailing, leading, Bool.false_eq_true, if_false,
          if_true]
        exact second

/-- A string that is read is spelled, up to its closing quote. -/
theorem spells_of_readBodyWithin (read : readBodyWithin fuel s = .ok (cs, rest)) :
    ∃ body, Spells body cs ∧ s = body ++ '"' :: rest := by
  induction fuel generalizing s cs with
  | zero => cases read
  | succ fuel ih =>
      unfold readBodyWithin at read
      split at read
      · cases read
      · cases read
        exact ⟨[], .nothing, rfl⟩
      · split at read
        · next escape =>
            obtain ⟨e, isEscape, rfl⟩ := readEscape_eq_ok.mp escape
            obtain ⟨⟨tail, after⟩, inner, made⟩ := exists_of_map_eq_ok read
            cases made
            obtain ⟨body, spells, rfl⟩ := ih inner
            exact ⟨_, .escape isEscape spells, by simp⟩
        · cases read
      · next c tail notQuote notSlash =>
          split at read
          · cases read
          · next control =>
              obtain ⟨⟨tail, after⟩, inner, made⟩ := exists_of_map_eq_ok read
              cases made
              obtain ⟨body, spells, rfl⟩ := ih inner
              refine ⟨_, .plain ⟨?_, ?_, Nat.not_lt.mp control⟩ spells, rfl⟩
              · rintro rfl
                exact notQuote rfl
              · rintro rfl
                exact notSlash rfl

theorem readBodyWithin_plain {c : Char} (plain : IsPlain c) (fuel : Nat) (s : List Char) :
    readBodyWithin (fuel + 1) (c :: s) =
      (readBodyWithin fuel s).map fun body => (c :: body.1, body.2) := by
  obtain ⟨notQuote, notSlash, printable⟩ := plain
  rw [readBodyWithin]
  · rw [if_neg (Nat.not_lt.mpr printable)]
  · exact notQuote
  · exact notSlash

theorem readBodyWithin_escape {e : List Char} {c : Char} (isEscape : IsEscape e c) (fuel : Nat)
    (s : List Char) :
    readBodyWithin (fuel + 1) ('\\' :: (e ++ s)) =
      (readBodyWithin fuel s).map fun body => (c :: body.1, body.2) := by
  simp only [readBodyWithin, readEscape_eq_ok.mpr ⟨e, isEscape, rfl⟩]

/-- A string that is spelled is read. -/
theorem Spells.readBodyWithin (spells : Spells body cs) (enough : cs.length < fuel)
    (rest : List Char) : readBodyWithin fuel (body ++ '"' :: rest) = .ok (cs, rest) := by
  induction spells generalizing fuel with
  | nothing =>
      obtain ⟨fuel, rfl⟩ := Nat.exists_eq_succ_of_ne_zero (Nat.ne_of_gt enough)
      rfl
  | plain plain _ ih =>
      obtain ⟨fuel, rfl⟩ := Nat.exists_eq_succ_of_ne_zero (n := fuel) (by omega)
      rw [List.cons_append, readBodyWithin_plain plain, ih (Nat.lt_of_succ_lt_succ enough)]
      rfl
  | escape isEscape _ ih =>
      obtain ⟨fuel, rfl⟩ := Nat.exists_eq_succ_of_ne_zero (n := fuel) (by omega)
      rw [List.cons_append, List.append_assoc, readBodyWithin_escape isEscape,
        ih (Nat.lt_of_succ_lt_succ enough)]
      rfl

theorem Spells.length_le (spells : Spells body cs) : cs.length ≤ body.length := by
  induction spells with
  | nothing => exact Nat.le_refl 0
  | plain _ _ ih => exact Nat.succ_le_succ ih
  | escape _ _ ih =>
      simp only [List.length_cons, List.length_append]
      omega

/-- A text in quotes is read as what it spells. -/
theorem Spells.readBody (spells : Spells body cs) (rest : List Char) :
    readBody (body ++ '"' :: rest) = .ok (cs, rest) := by
  have := spells.length_le
  refine spells.readBodyWithin ?_ rest
  simp only [List.length_append, List.length_cons]
  omega

/-- The strings that are read are those that are spelled. -/
theorem readBody_eq_ok :
    readBody s = .ok (cs, rest) ↔ ∃ body, Spells body cs ∧ s = body ++ '"' :: rest := by
  constructor
  · exact spells_of_readBodyWithin
  · rintro ⟨body, spells, rfl⟩
    exact spells.readBody rest

/-! ## Strings that are passed over -/

theorem escaped?_eq_none_iff {c : Char} :
    escaped? c = none ↔ ['"', '\\', '/', 'b', 'f', 'n', 'r', 't'].contains c = false := by
  unfold escaped?
  split
  case h_9 =>
    simp_all
  all_goals simp

/-- Just the escapes, with lone surrogates, are passed over as such. -/
theorem skipEscape_eq_ok : skipEscape s = .ok rest ↔ ∃ e, IsLooseEscape e ∧ s = e ++ rest := by
  constructor
  · intro skipped
    unfold skipEscape at skipped
    split at skipped
    · cases skipped
    · split at skipped
      · next unit =>
          cases skipped
          obtain ⟨digits, isUnit, rfl⟩ := readUnit_eq_ok.mp unit
          exact ⟨_, .unit isUnit, rfl⟩
      · cases skipped
    · next c tail notUnit =>
        split at skipped
        · next among =>
            cases skipped
            cases stands : escaped? c with
            | none =>
                rw [escaped?_eq_none_iff.mp stands] at among
                cases among
            | some letter => exact ⟨_, .letter stands, rfl⟩
        · cases skipped
  · rintro ⟨e, isEscape, rfl⟩
    cases isEscape with
    | unit isUnit =>
        simp only [List.cons_append, skipEscape, readUnit_eq_ok.mpr ⟨_, isUnit, rfl⟩]
    | letter stands =>
        unfold escaped? at stands
        split at stands <;> cases stands <;> rfl

theorem isBody_of_skipBodyWithin (skipped : skipBodyWithin fuel s = .ok rest) :
    ∃ body, IsBody body ∧ s = body ++ '"' :: rest := by
  induction fuel generalizing s with
  | zero => cases skipped
  | succ fuel ih =>
      unfold skipBodyWithin at skipped
      split at skipped
      · cases skipped
      · cases skipped
        exact ⟨[], .nothing, rfl⟩
      · split at skipped
        · next escape =>
            obtain ⟨e, isEscape, rfl⟩ := skipEscape_eq_ok.mp escape
            obtain ⟨body, isBody, rfl⟩ := ih skipped
            exact ⟨_, .escape isEscape isBody, by simp⟩
        · cases skipped
      · next c tail notQuote notSlash =>
          split at skipped
          · cases skipped
          · next control =>
              obtain ⟨body, isBody, rfl⟩ := ih skipped
              refine ⟨_, .plain ⟨?_, ?_, Nat.not_lt.mp control⟩ isBody, rfl⟩
              · rintro rfl
                exact notQuote rfl
              · rintro rfl
                exact notSlash rfl

theorem IsBody.skipBodyWithin (isBody : IsBody body) (enough : body.length < fuel)
    (rest : List Char) : skipBodyWithin fuel (body ++ '"' :: rest) = .ok rest := by
  induction isBody generalizing fuel with
  | nothing =>
      obtain ⟨fuel, rfl⟩ := Nat.exists_eq_succ_of_ne_zero (Nat.ne_of_gt enough)
      rfl
  | plain plain _ ih =>
      obtain ⟨fuel, rfl⟩ := Nat.exists_eq_succ_of_ne_zero (n := fuel) (by omega)
      obtain ⟨notQuote, notSlash, printable⟩ := plain
      rw [List.cons_append, Json.skipBodyWithin]
      · rw [if_neg (Nat.not_lt.mpr printable), ih (Nat.lt_of_succ_lt_succ enough)]
      · exact notQuote
      · exact notSlash
  | @escape e s isEscape _ ih =>
      obtain ⟨fuel, rfl⟩ := Nat.exists_eq_succ_of_ne_zero (n := fuel) (by omega)
      simp only [List.length_cons, List.length_append] at enough
      rw [List.cons_append, List.append_assoc]
      simp only [Json.skipBodyWithin, skipEscape_eq_ok.mpr ⟨e, isEscape, rfl⟩]
      exact ih (by omega)

/-- A text between quotes is passed over up to its closing quote. -/
theorem IsBody.skipBody (isBody : IsBody body) (rest : List Char) :
    skipBody (body ++ '"' :: rest) = .ok rest := by
  refine isBody.skipBodyWithin ?_ rest
  simp only [List.length_append, List.length_cons]
  omega

/-- The strings that are passed over. -/
theorem skipBody_eq_ok : skipBody s = .ok rest ↔ ∃ body, IsBody body ∧ s = body ++ '"' :: rest := by
  constructor
  · exact isBody_of_skipBodyWithin
  · rintro ⟨body, isBody, rfl⟩
    exact isBody.skipBody rest

end Strings

/-! ## Numbers -/

/-- The digits of a number before its point. No zero stands in front of another digit. -/
inductive IsWhole : List Char → Prop
  | zero : IsWhole ['0']
  | digits {d ds} (first : isDigit d = true) (notZero : d ≠ '0')
      (rest : ∀ c ∈ ds, isDigit c = true) :
      IsWhole (d :: ds)

/-- Digits of which there is one at least. -/
inductive AreDigits : List Char → Prop
  | mk {d ds} (first : isDigit d = true) (rest : ∀ c ∈ ds, isDigit c = true) : AreDigits (d :: ds)

/-- What may stand behind the whole part of a number. -/
inductive IsFraction : List Char → Prop
  | nothing : IsFraction []
  | point {ds} (digits : AreDigits ds) : IsFraction ('.' :: ds)

/-- What may stand at the end of a number. -/
inductive IsExponent : List Char → Prop
  | nothing : IsExponent []
  | power {e sign ds} (letter : e = 'e' ∨ e = 'E') (signed : sign ∈ [[], ['+'], ['-']])
      (digits : AreDigits ds) : IsExponent (e :: (sign ++ ds))

/-- A number without a sign. -/
inductive IsUnsigned : List Char → Prop
  | mk {whole fraction exponent} (isWhole : IsWhole whole) (isFraction : IsFraction fraction)
      (isExponent : IsExponent exponent) : IsUnsigned (whole ++ (fraction ++ exponent))

/-- A number. -/
inductive IsNumber : List Char → Prop
  | natural {s} (isUnsigned : IsUnsigned s) : IsNumber s
  | negative {s} (isUnsigned : IsUnsigned s) : IsNumber ('-' :: s)

/-- Whether a number cannot go on. -/
def Ends (rest : List Char) : Prop :=
  ∀ c ∈ rest.head?, isDigit c = false ∧ c ≠ '.' ∧ c ≠ 'e' ∧ c ≠ 'E'

/-- Passes over what may follow the whole part of a number. -/
def skipTail (s : List Char) : Except Fault (List Char) :=
  match s with
  | '.' :: rest =>
      let after := rest.dropWhile isDigit
      if after.length = rest.length then failNext .badNumber rest else skipScale after
  | _ => skipScale s

section Numbers

variable {s rest ds : List Char}

theorem skipNumber_cons (c : Char) (rest : List Char) :
    skipNumber (c :: rest) =
      if c = '0' then
        match rest with
        | d :: _ => if isDigit d then failNext .badNumber rest else skipTail rest
        | [] => skipTail rest
      else if isDigit c then skipTail (rest.dropWhile isDigit)
      else failNext .badNumber (c :: rest) := rfl

theorem exists_digits (s : List Char) :
    ∃ ds, (∀ c ∈ ds, isDigit c = true) ∧ s = ds ++ s.dropWhile isDigit :=
  ⟨s.takeWhile isDigit, List.all_eq_true.mp List.all_takeWhile,
    List.takeWhile_append_dropWhile.symm⟩

/-- Digits are dropped up to what is none. -/
theorem dropWhile_digits (digits : ∀ c ∈ ds, isDigit c = true)
    (stops : ∀ c ∈ rest.head?, isDigit c = false) : (ds ++ rest).dropWhile isDigit = rest := by
  rw [List.dropWhile_append_of_pos digits]
  cases rest with
  | nil => rfl
  | cons c rest => exact List.dropWhile_cons_of_neg (by simp [stops c rfl])

theorem Ends.noDigit (ends : Ends rest) : ∀ c ∈ rest.head?, isDigit c = false :=
  fun c h => (ends c h).1

/-- The digits behind a letter and a sign make an exponent. -/
theorem exists_isExponent_of_digits {e : Char} {unsigned : List Char}
    (letter : e = 'e' ∨ e = 'E') (sign : List Char) (signed : sign ∈ [[], ['+'], ['-']])
    (counted : (match unsigned with
      | [] => fail .badNumber []
      | c :: rest =>
          if isDigit c then .ok (rest.dropWhile isDigit) else failNext .badNumber unsigned) =
        Except.ok rest) :
    ∃ exponent, IsExponent exponent ∧ e :: (sign ++ unsigned) = exponent ++ rest := by
  split at counted
  · cases counted
  · next c tail =>
      split at counted
      · next first =>
          cases counted
          obtain ⟨ds, digits, whole⟩ := exists_digits tail
          refine ⟨_, .power letter signed (.mk first digits), ?_⟩
          rw [List.cons_append, List.append_assoc, List.cons_append, ← whole]
      · cases counted

theorem isExponent_of_skipExponent {e : Char} (letter : e = 'e' ∨ e = 'E')
    (skipped : skipExponent s = .ok rest) :
    ∃ exponent, IsExponent exponent ∧ e :: s = exponent ++ rest := by
  unfold skipExponent at skipped
  split at skipped
  · exact exists_isExponent_of_digits letter ['+'] (by simp) skipped
  · exact exists_isExponent_of_digits letter ['-'] (by simp) skipped
  · exact exists_isExponent_of_digits letter [] (by simp) skipped

theorem AreDigits.skipExponent {sign : List Char} (digits : AreDigits ds)
    (signed : sign ∈ [[], ['+'], ['-']]) (stops : ∀ c ∈ rest.head?, isDigit c = false) :
    skipExponent (sign ++ (ds ++ rest)) = .ok rest := by
  cases digits with
  | @mk d ds first digits =>
      have after := dropWhile_digits digits stops
      have notPlus : d ≠ '+' := by rintro rfl; cases first
      have notMinus : d ≠ '-' := by rintro rfl; cases first
      simp only [List.mem_cons, List.not_mem_nil, or_false] at signed
      rcases signed with rfl | rfl | rfl
      · simp [Json.skipExponent, first, after, notPlus, notMinus]
      · simp [Json.skipExponent, first, after]
      · simp [Json.skipExponent, first, after]

theorem isExponent_of_skipScale (skipped : skipScale s = .ok rest) :
    ∃ exponent, IsExponent exponent ∧ s = exponent ++ rest := by
  unfold skipScale at skipped
  split at skipped
  · exact isExponent_of_skipExponent (.inl rfl) skipped
  · exact isExponent_of_skipExponent (.inr rfl) skipped
  · cases skipped
    exact ⟨[], .nothing, rfl⟩

/-- An exponent is passed over if its digits end there. -/
theorem IsExponent.skipScale (isExponent : IsExponent s) (ends : Ends rest) :
    skipScale (s ++ rest) = .ok rest := by
  cases isExponent with
  | nothing =>
      unfold Json.skipScale
      split
      · next whole => exact absurd rfl (ends 'e' (by rw [← List.nil_append rest, whole]; rfl)).2.2.1
      · next whole => exact absurd rfl (ends 'E' (by rw [← List.nil_append rest, whole]; rfl)).2.2.2
      · rfl
  | power letter signed digits =>
      have skipped := digits.skipExponent signed ends.noDigit
      rw [List.cons_append, List.append_assoc]
      rcases letter with rfl | rfl
      · exact skipped
      · exact skipped

theorem exists_of_skipTail (skipped : skipTail s = .ok rest) :
    ∃ fraction exponent, IsFraction fraction ∧ IsExponent exponent ∧
      s = fraction ++ (exponent ++ rest) := by
  unfold skipTail at skipped
  split at skipped
  · next tail =>
      simp only at skipped
      split at skipped
      · cases skipped
      · next some =>
          obtain ⟨exponent, isExponent, left⟩ := isExponent_of_skipScale skipped
          obtain ⟨ds, digits, whole⟩ := exists_digits tail
          cases ds with
          | nil => exact absurd (congrArg List.length whole).symm some
          | cons d ds =>
              refine ⟨'.' :: (d :: ds), exponent, .point (.mk ?_ ?_), isExponent, ?_⟩
              · exact digits d (by simp)
              · exact fun c member => digits c (by simp [member])
              · rw [List.cons_append, ← left, ← whole]
  · obtain ⟨exponent, isExponent, whole⟩ := isExponent_of_skipScale skipped
    exact ⟨[], exponent, .nothing, isExponent, whole⟩

/-- What may follow the digits of a number begins with no digit. -/
theorem IsExponent.noDigit (isExponent : IsExponent s) (ends : Ends rest) :
    ∀ c ∈ (s ++ rest).head?, isDigit c = false := by
  cases isExponent with
  | nothing => exact ends.noDigit
  | power letter =>
      rintro c ⟨⟩
      rcases letter with rfl | rfl <;> rfl

section Tail

variable {fraction exponent : List Char} (isFraction : IsFraction fraction)
  (isExponent : IsExponent exponent) (ends : Ends rest)

include isFraction isExponent ends

theorem IsFraction.noDigit : ∀ c ∈ (fraction ++ (exponent ++ rest)).head?, isDigit c = false := by
  cases isFraction with
  | nothing => exact isExponent.noDigit ends
  | point =>
      rintro c ⟨⟩
      rfl

/-- A fraction and an exponent are passed over behind the whole part of a number. -/
theorem IsFraction.skipTail : skipTail (fraction ++ (exponent ++ rest)) = .ok rest := by
  have scale := isExponent.skipScale ends
  cases isFraction with
  | nothing =>
      rw [List.nil_append, Json.skipTail]
      · exact scale
      · intro tail whole
        cases isExponent with
        | nothing => exact (ends '.' (by rw [← List.nil_append rest, whole]; rfl)).2.1 rfl
        | power letter =>
            cases whole
            rcases letter with h | h <;> cases h
  | point digits =>
      cases digits with
      | @mk d ds first digits =>
          have every : ∀ c ∈ d :: ds, isDigit c = true := List.forall_mem_cons.mpr ⟨first, digits⟩
          have after := dropWhile_digits every (isExponent.noDigit ends)
          rw [List.cons_append, Json.skipTail, after, if_neg ?_]
          · exact scale
          · simp only [List.cons_append, List.length_cons, List.length_append]
            omega

end Tail

theorem isUnsigned_of_skipNumber (skipped : skipNumber s = .ok rest) :
    ∃ number, IsUnsigned number ∧ s = number ++ rest := by
  cases s with
  | nil => cases skipped
  | cons c tail =>
      rw [skipNumber_cons] at skipped
      split at skipped
      · next zero =>
          have goesOn : skipTail tail = .ok rest := by
            split at skipped
            · split at skipped
              · cases skipped
              · exact skipped
            · exact skipped
          obtain ⟨fraction, exponent, isFraction, isExponent, rfl⟩ := exists_of_skipTail goesOn
          refine ⟨_, .mk .zero isFraction isExponent, ?_⟩
          simp [zero]
      split at skipped
      · next notZero first =>
          obtain ⟨fraction, exponent, isFraction, isExponent, left⟩ := exists_of_skipTail skipped
          obtain ⟨ds, digits, whole⟩ := exists_digits tail
          refine ⟨_, .mk (.digits first notZero digits) isFraction isExponent, ?_⟩
          rw [List.cons_append, List.cons_append, List.append_assoc, List.append_assoc, ← left,
            ← whole]
      · cases skipped

/-- A number that cannot go on is passed over. -/
theorem IsUnsigned.skipNumber (isUnsigned : IsUnsigned s) (ends : Ends rest) :
    skipNumber (s ++ rest) = .ok rest := by
  cases isUnsigned with
  | @mk whole fraction exponent isWhole isFraction isExponent =>
      have goesOn := isFraction.skipTail isExponent ends
      have stops := isFraction.noDigit isExponent ends
      rw [List.append_assoc, List.append_assoc]
      cases isWhole with
      | zero =>
          rw [List.cons_append, skipNumber_cons, if_pos rfl, List.nil_append]
          generalize fraction ++ (exponent ++ rest) = behind at goesOn stops
          cases behind with
          | nil => exact goesOn
          | cons d tail =>
              simp only [stops d rfl, Bool.false_eq_true, if_false]
              exact goesOn
      | @digits d ds first notZero digits =>
          rw [List.cons_append, skipNumber_cons, if_neg notZero, if_pos first,
            dropWhile_digits digits stops]
          exact goesOn

theorem IsUnsigned.exists_cons (isUnsigned : IsUnsigned s) :
    ∃ d tail, isDigit d = true ∧ s = d :: tail := by
  cases isUnsigned with
  | mk isWhole =>
      cases isWhole with
      | zero => exact ⟨'0', _, rfl, rfl⟩
      | digits first => exact ⟨_, _, first, rfl⟩

end Numbers

end ScriptRoster.Json
