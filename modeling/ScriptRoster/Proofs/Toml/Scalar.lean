import Mathlib.Data.Nat.Digits.Defs
import ScriptRoster.Proofs.Toml.Datetime
import ScriptRoster.Proofs.Toml.Token
import ScriptRoster.Toml.Scalar

/-!
# Bare values are read as they were written

Whole numbers in decimal digits, floating-point numbers with a point, days, times of day and truth
values are texts without quotes. Each is read as what it stands for.
-/

namespace ScriptRoster.Toml

variable {s t rest : List Char} {c : Char} {n : Nat} {raw : Raw} {place start : Nat}

/-! ## Digits -/

theorem isDigit_iff : isDigit c = true ↔ ∃ n < 10, c = Nat.digitChar n := by
  constructor
  · intro digit
    simp only [isDigit, Bool.and_eq_true, decide_eq_true_eq] at digit
    have low : '0'.toNat ≤ c.toNat := digit.1
    have high : c.toNat ≤ '9'.toNat := digit.2
    have known : ∀ n < 10, Char.ofNat (n + '0'.toNat) = Nat.digitChar n := by decide
    have same : c.toNat - '0'.toNat + '0'.toNat = c.toNat := Nat.sub_add_cancel low
    refine ⟨c.toNat - '0'.toNat, ?_, ?_⟩
    · simp only [Char.reduceToNat] at low high ⊢
      omega
    · rw [← known, same, Char.ofNat_toNat]
      simp only [Char.reduceToNat] at low high ⊢
      omega
  · rintro ⟨n, small, rfl⟩
    revert n
    decide

/-- What holds of the ten digits holds of a digit. -/
theorem of_isDigit {p : Char → Prop} (digit : isDigit c = true)
    (all : ∀ n < 10, p (Nat.digitChar n)) : p c := by
  obtain ⟨n, small, rfl⟩ := isDigit_iff.mp digit
  exact all n small

/-- A text of digits, at least one. -/
structure IsDigits (s : List Char) : Prop where
  digits : ∀ c ∈ s, isDigit c = true
  nonempty : s ≠ []

theorem IsDigits.exists_cons (isDigits : IsDigits s) :
    ∃ c t, s = c :: t ∧ isDigit c = true ∧ ∀ d ∈ t, isDigit d = true := by
  cases s with
  | nil => exact absurd rfl isDigits.nonempty
  | cons c t =>
      exact ⟨c, t, rfl, isDigits.digits c List.mem_cons_self,
        fun d member => isDigits.digits d (List.mem_cons_of_mem c member)⟩

theorem isDigits_toDigits (n : Nat) : IsDigits (Nat.toDigits 10 n) where
  digits c member := Nat.isDigit_of_mem_toDigits (by decide) (by decide) member
  nonempty := Nat.toDigits_ne_nil

theorem hexValue?_digit (digit : isDigit c = true) :
    hexValue? c = some (c.toNat - '0'.toNat) ∧ c.toNat - '0'.toNat < 10 :=
  of_isDigit (p := fun c => hexValue? c = some (c.toNat - '0'.toNat) ∧ c.toNat - '0'.toNat < 10)
    digit (by decide)

theorem IsDigits.digitsValue? (isDigits : IsDigits s) :
    digitsValue? 10 s = some (Nat.ofDigitChars 10 s 0) := by
  have fold (s : List Char) (digits : ∀ c ∈ s, isDigit c = true) (before : Nat) :
      s.foldl (fun n c => n.bind fun n => (hexValue? c).bind fun d =>
        if d < 10 then some (n * 10 + d) else none) (some before) =
          some (Nat.ofDigitChars 10 s before) := by
    induction s generalizing before with
    | nil => rfl
    | cons c s ih =>
        obtain ⟨value, small⟩ := hexValue?_digit (digits c List.mem_cons_self)
        rw [List.foldl_cons, Option.bind_some, value, Option.bind_some, if_pos small,
          ih fun d member => digits d (List.mem_cons_of_mem c member), Nat.mul_comm before]
        rfl
  have nonempty : s.isEmpty = false := by simpa using isDigits.nonempty
  simp only [Toml.digitsValue?, nonempty, Bool.false_eq_true, if_false]
  exact fold s isDigits.digits 0

theorem digitsValue?_toDigits (n : Nat) : digitsValue? 10 (Nat.toDigits 10 n) = some n := by
  rw [(isDigits_toDigits n).digitsValue?, Nat.ofDigitChars_toDigits (by decide) (by decide)]

/-- Only zero begins with a zero. -/
theorem head?_toDigits (positive : 0 < n) : (Nat.toDigits 10 n).head? ≠ some '0' := by
  induction n using Nat.strong_induction_on with
  | h n ih =>
      by_cases small : n < 10
      · have known : ∀ n < 10, 0 < n → Nat.digitChar n ≠ '0' := by decide
        rw [Nat.toDigits_of_lt_base small, List.head?_cons, ne_eq, Option.some.injEq]
        exact known n small positive
      · obtain ⟨d, t, same, -⟩ := (isDigits_toDigits (n / 10)).exists_cons
        have first := ih (n / 10) (by omega) (by omega)
        rw [Nat.toDigits_of_base_le (by decide) (by omega), same, List.cons_append]
        rwa [same] at first

/-! ## Whole numbers -/

theorem checkUnderscores_of_not_mem (free : '_' ∉ s) (isDigit : Char → Bool) (raw : Raw)
    (place : Nat) : checkUnderscores isDigit raw place s = .ok () := by
  simp [checkUnderscores, free]

theorem withoutUnderscores_of_not_mem (free : '_' ∉ s) : withoutUnderscores s = s := by
  rw [withoutUnderscores, List.filter_eq_self]
  intro c member
  have other : c ≠ '_' := by
    rintro rfl
    exact free member
  simpa using other

theorem readWhole_of_not_mem (free : '_' ∉ raw.text) :
    readWhole raw = .ok (.whole (wholeValue? 10 raw.text)) := by
  simp only [readWhole, checkUnderscores_of_not_mem free, withoutUnderscores_of_not_mem free, bind,
    Except.bind, pure, Except.pure]

theorem not_mem_of_isDigit (digits : ∀ c ∈ s, isDigit c = true) (other : isDigit c = false) :
    c ∉ s := by
  intro member
  rw [digits c member] at other
  exact absurd other (by decide)

theorem readNumber_digits (digits : ∀ c ∈ s, isDigit c = true) (first : s.head? ≠ some '0')
    (raw : Raw) (place : Nat) : readNumber raw place s = readWhole raw := by
  have none : s.dropWhile isDigit = [] := List.dropWhile_eq_nil_iff.mpr digits
  simp only [readNumber, none, first, if_false]

/-- The letters that follow a zero where a number has another base than ten. -/
def baseLetters : List Char := ['x', 'X', 'o', 'O', 'b', 'B', 'd', 'D']

/-- A number whose second character is none of the letters of a base. -/
theorem readZero_eq (many : s ≠ ['0'])
    (second : Follows (· ∉ baseLetters) (s.drop 1)) (signed : Bool)
    (raw : Raw) (place : Nat) : readZero signed raw place s = readNumber raw place s := by
  unfold readZero
  split
  · exact absurd rfl many
  · next _ c rest =>
      have other := second c rfl
      simp only [baseLetters, List.mem_cons, List.not_mem_nil, or_false, not_or] at other
      simp [other]
  · rfl

/-- A bare value that begins with a digit is a number, if it begins no other base. -/
theorem readBareScalar_digit (digit : isDigit c = true) (many : c :: s ≠ ['0'])
    (second : Follows (· ∉ baseLetters) s) (start : Nat) :
    readBareScalar ⟨none, c :: s, start⟩ =
      readNumber ⟨none, c :: s, start⟩ start (c :: s) := by
  have other : ¬(c = '+' ∨ c = '-') ∧ c ≠ '_' :=
    of_isDigit (p := fun c => ¬(c = '+' ∨ c = '-') ∧ c ≠ '_') digit (by decide)
  simp only [readBareScalar, Bool.or_eq_true, decide_eq_true_eq, other, if_false, digit, if_true,
    readZero_eq many second, ite_self]

theorem readSigned_digit (digit : isDigit c = true) (many : c :: s ≠ ['0'])
    (second : Follows (· ∉ baseLetters) s) (raw : Raw)
    (place : Nat) : readSigned raw place (c :: s) = readNumber raw place (c :: s) := by
  have other : ¬(c = '+' ∨ c = '-') ∧ c ≠ '_' :=
    of_isDigit (p := fun c => ¬(c = '+' ∨ c = '-') ∧ c ≠ '_') digit (by decide)
  simp only [readSigned, Bool.or_eq_true, decide_eq_true_eq, other, if_false, digit, if_true,
    readZero_eq many second, ite_self]

theorem follows_digits {p : Char → Prop} (digits : ∀ c ∈ s, isDigit c = true)
    (all : ∀ n < 10, p (Nat.digitChar n)) : Follows p s :=
  fun c head => of_isDigit (digits c (List.mem_of_head? head)) all

theorem wholeValue?_digit (digit : isDigit c = true) (s : List Char) :
    wholeValue? 10 (c :: s) = (digitsValue? 10 (c :: s)).map fun n => (n : Int) := by
  have unsigned : c ≠ '-' ∧ c ≠ '+' :=
    of_isDigit (p := fun c => c ≠ '-' ∧ c ≠ '+') digit (by decide)
  unfold wholeValue?
  split
  · next same => exact absurd (List.cons.inj same).1 unsigned.1
  · next same => exact absurd (List.cons.inj same).1 unsigned.2
  · rfl

/-- A number without sign is read as the number. -/
theorem readBareScalar_toDigits (n start : Nat) :
    readBareScalar ⟨none, Nat.toDigits 10 n, start⟩ = .ok (.whole (some n)) := by
  have isDigits := isDigits_toDigits n
  obtain ⟨c, s, same, digit, digits⟩ := isDigits.exists_cons
  have free := not_mem_of_isDigit isDigits.digits (c := '_') (by decide)
  have value : readWhole ⟨none, Nat.toDigits 10 n, start⟩ = .ok (.whole (some n)) := by
    rw [readWhole_of_not_mem free]
    simp only [same, wholeValue?_digit digit]
    rw [← same, digitsValue?_toDigits]
    rfl
  rcases Nat.eq_zero_or_pos n with rfl | positive
  · exact value
  · have first := head?_toDigits positive
    rw [same] at first
    have many : c :: s ≠ ['0'] := fun zero => first (by rw [zero]; rfl)
    rw [same, readBareScalar_digit digit many (follows_digits digits (by decide)),
      readNumber_digits (same ▸ isDigits.digits) first, ← same]
    exact value

/-- A number behind a minus is read as its opposite. -/
theorem readBareScalar_minus (positive : 0 < n) (start : Nat) :
    readBareScalar ⟨none, '-' :: Nat.toDigits 10 n, start⟩ = .ok (.whole (some (-n))) := by
  have isDigits := isDigits_toDigits n
  obtain ⟨c, s, same, digit, digits⟩ := isDigits.exists_cons
  have free : '_' ∉ '-' :: Nat.toDigits 10 n := List.not_mem_cons_of_ne_of_not_mem (by decide)
    (not_mem_of_isDigit isDigits.digits (by decide))
  have first := head?_toDigits positive
  rw [same] at first
  have many : c :: s ≠ ['0'] := fun zero => first (by rw [zero]; rfl)
  calc
    readBareScalar ⟨none, '-' :: Nat.toDigits 10 n, start⟩ =
        readSigned ⟨none, '-' :: Nat.toDigits 10 n, start⟩ (start + 1) (c :: s) := by
      rw [← same]
      rfl
    _ = readWhole ⟨none, '-' :: Nat.toDigits 10 n, start⟩ := by
      rw [readSigned_digit digit many (follows_digits digits (by decide)),
        readNumber_digits (same ▸ isDigits.digits) first]
    _ = .ok (.whole (some (-n))) := by
      rw [readWhole_of_not_mem free]
      simp only [wholeValue?, digitsValue?_toDigits]
      rfl

/-- A whole number is its digits, behind a minus if it is negative. -/
theorem toString_int (n : Int) :
    (0 ≤ n ∧ (toString n).toList = Nat.toDigits 10 n.natAbs) ∨
      (n < 0 ∧ (toString n).toList = '-' :: Nat.toDigits 10 n.natAbs) := by
  cases n with
  | ofNat n => exact .inl ⟨Int.natCast_nonneg n, Nat.toList_repr⟩
  | negSucc n =>
      refine .inr ⟨Int.negSucc_lt_zero n, ?_⟩
      rw [show toString (Int.negSucc n) = "-" ++ (n + 1).repr from rfl, String.toList_append,
        Nat.toList_repr]
      rfl

theorem mem_toString_int {n : Int} (member : c ∈ (toString n).toList) :
    isDigit c = true ∨ c = '-' := by
  have digits := (isDigits_toDigits n.natAbs).digits c
  rcases toString_int n with ⟨-, text⟩ | ⟨-, text⟩
  · rw [text] at member
    exact .inl (digits member)
  · rw [text, List.mem_cons] at member
    exact member.symm.imp_left digits

/-- A whole number is read as it is written. -/
theorem readBareScalar_toString (n : Int) (start : Nat) :
    readBareScalar ⟨none, (toString n).toList, start⟩ = .ok (.whole (some n)) := by
  rcases toString_int n with ⟨sign, text⟩ | ⟨sign, text⟩
  · rw [text, readBareScalar_toDigits, Int.natAbs_of_nonneg sign]
  · have positive : 0 < n.natAbs := Int.natAbs_pos.mpr (ne_of_lt sign)
    have opposite : -(n.natAbs : Int) = n := by omega
    rw [text, readBareScalar_minus positive, opposite]

theorem readBareScalar_truth (b : Bool) (start : Nat) :
    readBareScalar ⟨none, (toString b).toList, start⟩ = .ok (.boolean b) := by
  cases b with
  | false => rfl
  | true => rfl

/-! ## Floating-point numbers -/

/-- An exponent as a text. -/
def exponentText : Option Int → List Char
  | none => []
  | some exponent => 'e' :: (toString exponent).toList

/-- A floating-point number in decimal digits. -/
structure Floating where
  negative : Bool
  whole : Nat
  fraction : List Char
  exponent : Option Int
  isDigits : IsDigits fraction

/-- A floating-point number without its sign. -/
def Floating.size (x : Floating) : List Char :=
  Nat.toDigits 10 x.whole ++ '.' :: (x.fraction ++ exponentText x.exponent)

/-- A floating-point number as a text. -/
def Floating.text (x : Floating) : List Char := if x.negative then '-' :: x.size else x.size

/-- Digits are passed over up to what is none; zeros in front of others must be allowed. -/
theorem checkDigits_append {zeros : Bool} (isDigits : IsDigits s)
    (stops : Follows (fun c => isDigit c = false ∧ c ≠ '_') rest)
    (fine : zeros = true ∨ s.length ≤ 1 ∨ s.head? ≠ some '0') (part : String) (place : Nat) :
    checkDigits zeros part place (s ++ rest) = .ok (place + s.length, rest) := by
  have run : (s ++ rest).takeWhile (fun c => isDigit c || decide (c = '_')) = s := by
    apply takeWhile_append_of_follows
    · intro c member
      simp [isDigits.digits c member]
    · intro c head
      simp [stops c head]
  have count : (s.filter isDigit).length = s.length := by
    rw [List.filter_eq_self.mpr isDigits.digits]
  have some_ : s.length ≠ 0 := fun empty => isDigits.nonempty (List.length_eq_zero_iff.mp empty)
  have bare : ¬(1 < s.length ∧ zeros = false ∧ (s ++ rest).head? = some '0') := by
    rintro ⟨many, strict, zero⟩
    obtain ⟨c, t, rfl, -⟩ := isDigits.exists_cons
    rcases fine with fine | fine | fine
    · exact absurd (strict.symm.trans fine) (by decide)
    · exact absurd many (Nat.not_lt.mpr fine)
    · exact fine zero
  simp only [checkDigits, run, count, some_, if_false, Bool.and_eq_true, decide_eq_true_eq,
    Bool.not_eq_true', and_assoc, bare, List.drop_left]

theorem checkDigits_digits (isDigits : IsDigits s) (part : String) (place : Nat) :
    checkDigits true part place s = .ok (place + s.length, []) := by
  simpa using checkDigits_append isDigits follows_nil (.inl rfl) part place

theorem toDigits_fine (n : Nat) :
    (Nat.toDigits 10 n).length ≤ 1 ∨ (Nat.toDigits 10 n).head? ≠ some '0' := by
  rcases Nat.eq_zero_or_pos n with rfl | positive
  · exact .inl (by decide)
  · exact .inr (head?_toDigits positive)

theorem follows_exponentText (exponent : Option Int) :
    Follows (fun c => isDigit c = false ∧ c ≠ '_') (exponentText exponent) := by
  cases exponent with
  | none => exact follows_nil
  | some exponent => exact follows_cons (by decide)

/-- The parts of a floating-point number are checked one after the other. -/
theorem Floating.checkFloat (x : Floating) (raw : Raw) (place : Nat) :
    Toml.checkFloat raw place x.size = .ok () := by
  have mantissa : checkDigits false "mantissa" place x.size =
      .ok (place + (Nat.toDigits 10 x.whole).length,
        '.' :: (x.fraction ++ exponentText x.exponent)) :=
    checkDigits_append (isDigits_toDigits x.whole) (follows_cons (by decide))
      (.inr (toDigits_fine x.whole)) "mantissa" place
  have fraction (place : Nat) :
      checkDigits true "fraction" place (x.fraction ++ exponentText x.exponent) =
        .ok (place + x.fraction.length, exponentText x.exponent) :=
    checkDigits_append x.isDigits (follows_exponentText x.exponent) (.inl rfl) "fraction" place
  simp only [Toml.checkFloat, mantissa, fraction, bind, Except.bind]
  cases x.exponent with
  | none => rfl
  | some e =>
      have digits (place : Nat) := checkDigits_digits (isDigits_toDigits e.natAbs) "exponent" place
      rcases toString_int e with ⟨-, text⟩ | ⟨-, text⟩
      · -- digits have no sign in front of them
        have unsigned {c : Char} (other : isDigit c = false) (t : List Char) :
            Nat.toDigits 10 e.natAbs ≠ c :: t := by
          intro same
          apply not_mem_of_isDigit (isDigits_toDigits e.natAbs).digits other
          rw [same]
          exact List.mem_cons_self
        have plus := unsigned (c := '+') (by decide)
        have minus := unsigned (c := '-') (by decide)
        simp only [exponentText, text, digits, List.isEmpty_nil, if_true, pure, Except.pure]
      · simp only [exponentText, text, digits, List.isEmpty_nil, if_true, pure, Except.pure]

theorem Floating.mem_size {x : Floating} (member : c ∈ x.size) :
    isDigit c = true ∨ c ∈ ['-', '.', 'e'] := by
  simp only [size, List.mem_append, List.mem_cons] at member
  rcases member with member | rfl | member | member
  · exact .inl ((isDigits_toDigits x.whole).digits c member)
  · exact .inr (by decide)
  · exact .inl (x.isDigits.digits c member)
  · cases written : x.exponent with
    | none =>
        rw [written] at member
        cases member
    | some e =>
        rw [written, exponentText, List.mem_cons] at member
        rcases member with rfl | member
        · exact .inr (by decide)
        · rcases mem_toString_int member with digit | rfl
          · exact .inl digit
          · exact .inr (by decide)

theorem Floating.mem_text {x : Floating} (member : c ∈ x.text) :
    isDigit c = true ∨ c ∈ ['-', '.', 'e'] := by
  rw [text] at member
  split at member
  · rcases List.mem_cons.mp member with rfl | member
    · exact .inr (by decide)
    · exact mem_size member
  · exact mem_size member

theorem Floating.not_mem_text (x : Floating) (other : isDigit c = false)
    (free : c ∉ ['-', '.', 'e']) : c ∉ x.text := by
  intro member
  rcases mem_text member with digit | listed
  · rw [digit] at other
    exact absurd other (by decide)
  · exact free listed

/-- A floating-point number is read as it was written. -/
theorem Floating.readNumber (x : Floating) (raw : Raw) (free : '_' ∉ raw.text) (place : Nat) :
    Toml.readNumber raw place x.size = .ok (.floating raw.text) := by
  have rest : x.size.dropWhile isDigit = '.' :: (x.fraction ++ exponentText x.exponent) := by
    rw [size, List.dropWhile_append_of_pos (isDigits_toDigits x.whole).digits,
      List.dropWhile_cons_of_neg (by decide)]
  have unspaced : ' ' ∉ '.' :: (x.fraction ++ exponentText x.exponent) := by
    intro member
    have inside : ' ' ∈ x.size := List.mem_append_right _ member
    rcases mem_size inside with digit | listed
    · exact absurd digit (by decide)
    · exact absurd listed (by decide)
  simp [Toml.readNumber, rest, unspaced, x.checkFloat, readFloating,
    checkUnderscores_of_not_mem free, withoutUnderscores_of_not_mem free, bind, Except.bind, pure,
    Except.pure]

/-- A floating-point number is read as it is written. -/
theorem Floating.readBareScalar (x : Floating) (start : Nat) :
    Toml.readBareScalar ⟨none, x.text, start⟩ = .ok (.floating x.text) := by
  have free := x.not_mem_text (c := '_') (by decide) (by decide)
  obtain ⟨c, s, same, digit, digits⟩ := (isDigits_toDigits x.whole).exists_cons
  have size_eq : x.size = c :: (s ++ '.' :: (x.fraction ++ exponentText x.exponent)) := by
    rw [size, same, List.cons_append]
  have many : c :: (s ++ '.' :: (x.fraction ++ exponentText x.exponent)) ≠ ['0'] := by simp
  have second : Follows (· ∉ baseLetters)
      (s ++ '.' :: (x.fraction ++ exponentText x.exponent)) := by
    cases s with
    | nil => exact follows_cons (by decide)
    | cons d s =>
        have digit := digits d List.mem_cons_self
        exact follows_cons (of_isDigit (p := (· ∉ baseLetters))
          digit (by decide))
  by_cases negative : x.negative = true
  · have text_eq : x.text = '-' :: x.size := if_pos negative
    calc
      Toml.readBareScalar ⟨none, x.text, start⟩ =
          readSigned ⟨none, x.text, start⟩ (start + 1) x.size := by
        rw [text_eq]
        rfl
      _ = .ok (.floating x.text) := by
        rw [size_eq, readSigned_digit digit many second, ← size_eq, x.readNumber _ free]
  · have text_eq : x.text = x.size := if_neg negative
    have number := x.readNumber ⟨none, x.text, start⟩ free start
    rw [text_eq, size_eq] at number ⊢
    rw [readBareScalar_digit digit many second]
    exact number

/-! ## Days, times of day and words -/

/-- Digits with a dash or colon behind them are no number. -/
theorem readBareScalar_datetime {digits : List Char} (all : ∀ c ∈ digits, isDigit c = true)
    (long : 2 ≤ digits.length) (sign : c = '-' ∨ c = ':')
    (accepted : Datetime.check (digits ++ c :: s) = .ok ()) (start : Nat) :
    readBareScalar ⟨none, digits ++ c :: s, start⟩ = .ok .datetime := by
  have other : isDigit c = false := by
    rcases sign with rfl | rfl
    all_goals decide
  have rest : (digits ++ c :: s).dropWhile isDigit = c :: s := by
    rw [List.dropWhile_append_of_pos all, List.dropWhile_cons_of_neg (by simp [other])]
  have number (raw : Raw) (same : raw.text = digits ++ c :: s) (place : Nat) :
      readNumber raw place (digits ++ c :: s) = .ok .datetime := by
    simp [readNumber, rest, same, sign, accepted]
  match digits, all, long with
  | a :: b :: digits, all, _ =>
      have second : isDigit b = true := all b (by simp)
      calc
        readBareScalar ⟨none, a :: (b :: digits ++ c :: s), start⟩ =
            readNumber ⟨none, a :: (b :: digits ++ c :: s), start⟩ start
              (a :: (b :: digits ++ c :: s)) := by
          apply readBareScalar_digit (all a List.mem_cons_self) (by simp)
          exact follows_cons (of_isDigit (p := (· ∉ baseLetters))
            second (by decide))
        _ = .ok .datetime := number _ rfl start

theorem readBareScalar_day (day : Datetime.Day) (start : Nat) :
    readBareScalar ⟨none, day.text, start⟩ = .ok .datetime :=
  readBareScalar_datetime (fun _ => Datetime.isDigit_of_mem_four day.year_lt)
    (by simp [Datetime.four, Datetime.two]) (.inl rfl) (Datetime.check_day day) start

theorem readBareScalar_clock (clock : Datetime.Clock) (start : Nat) :
    readBareScalar ⟨none, clock.text, start⟩ = .ok .datetime := by
  have hour := clock.hour_lt
  exact readBareScalar_datetime (fun _ => Datetime.isDigit_of_mem_two (by omega))
    (by simp [Datetime.two]) (.inr rfl) (Datetime.check_clock clock) start

/-- A day with a time of day is read as a date and time, with a zone or without. -/
theorem readBareScalar_moment (day : Datetime.Day) (clock : Datetime.Clock) (universal : Bool)
    (start : Nat) :
    readBareScalar
        ⟨none, day.text ++ 'T' :: (clock.text ++ if universal then ['Z'] else []), start⟩ =
      .ok .datetime := by
  have accepted := Datetime.check_moment day clock universal
  rw [Datetime.Day.text, List.append_assoc, List.cons_append] at accepted ⊢
  exact readBareScalar_datetime (fun _ => Datetime.isDigit_of_mem_four day.year_lt)
    (by simp [Datetime.four, Datetime.two]) (.inl rfl) accepted start

/-- A word behind an optional minus. -/
def wordText (negative : Bool) (word : String) : List Char :=
  if negative then '-' :: word.toList else word.toList

theorem readBareScalar_infinity (negative : Bool) (start : Nat) :
    readBareScalar ⟨none, wordText negative "inf", start⟩ =
      .ok (.floating (wordText negative "inf")) := by
  cases negative with
  | false => rfl
  | true => rfl

theorem readBareScalar_nan (negative : Bool) (start : Nat) :
    readBareScalar ⟨none, wordText negative "nan", start⟩ =
      .ok (.floating (wordText negative "nan")) := by
  cases negative with
  | false => rfl
  | true => rfl

end ScriptRoster.Toml
