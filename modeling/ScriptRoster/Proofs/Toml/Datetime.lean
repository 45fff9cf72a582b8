import Mathlib.Data.List.Basic
import ScriptRoster.Toml.Datetime

/-!
# Days and times of day are accepted as they are written

A day is written in four digits and twice two, a time in three times two. Main statements:
`check_day`, `check_clock` and `check_moment`.
-/

namespace ScriptRoster.Toml.Datetime

variable {s : List Char} {c : Char} {rest : List Piece} {n : Nat}

/-! ## Digits -/

/-- A number below a hundred in two digits. -/
def two (n : Nat) : List Char := [Nat.digitChar (n / 10), Nat.digitChar (n % 10)]

/-- A number below ten thousand in four digits. -/
def four (n : Nat) : List Char := two (n / 100) ++ two (n % 100)

theorem toNat_digitChar : ∀ n < 10, (Nat.digitChar n).toNat - '0'.toNat = n := by decide

theorem isDigit_digitChar : ∀ n < 10, (Nat.digitChar n).isDigit = true := by decide

theorem number_two (small : n < 100) : number (two n) = n := by
  simp only [number, two, List.foldl_cons, List.foldl_nil, toNat_digitChar (n / 10) (by omega),
    toNat_digitChar (n % 10) (by omega)]
  omega

theorem number_four (small : n < 10000) : number (four n) = n := by
  simp only [number, four, two, List.cons_append, List.nil_append, List.foldl_cons, List.foldl_nil,
    toNat_digitChar (n / 100 / 10) (by omega), toNat_digitChar (n / 100 % 10) (by omega),
    toNat_digitChar (n % 100 / 10) (by omega), toNat_digitChar (n % 100 % 10) (by omega)]
  omega

theorem isDigit_of_mem_two (small : n < 100) (member : c ∈ two n) : c.isDigit = true := by
  simp only [two, List.mem_cons, List.not_mem_nil, or_false] at member
  rcases member with rfl | rfl
  · exact isDigit_digitChar (n / 10) (by omega)
  · exact isDigit_digitChar (n % 10) (by omega)

theorem isDigit_of_mem_four (small : n < 10000) (member : c ∈ four n) : c.isDigit = true := by
  rcases List.mem_append.mp member with member | member
  · exact isDigit_of_mem_two (by omega) member
  · exact isDigit_of_mem_two (by omega) member

/-! ## Pieces -/

theorem pieces_sign (sign : c.isDigit = false) (s : List Char) :
    pieces (c :: s) = .sign c :: pieces s := by
  simp [pieces, sign]

/-- Digits that no digit follows are one piece. -/
theorem pieces_digits {digits : List Char} (all : ∀ c ∈ digits, c.isDigit = true)
    (nonempty : digits ≠ []) (stops : ∀ text more, pieces s ≠ .digits text :: more) :
    pieces (digits ++ s) = .digits digits :: pieces s := by
  induction digits with
  | nil => exact absurd rfl nonempty
  | cons c digits ih =>
      have digit := all c List.mem_cons_self
      have next (nonempty : digits ≠ []) :=
        ih (fun d member => all d (List.mem_cons_of_mem c member)) nonempty
      cases digits with
      | nil =>
          rw [List.singleton_append, pieces]
          simp only [digit, if_true]
      | cons d digits =>
          rw [List.cons_append, pieces]
          simp only [digit, if_true, next (List.cons_ne_nil d digits)]

/-- Digits end at the first character that is none. -/
theorem pieces_digits_sign {digits : List Char} (all : ∀ c ∈ digits, c.isDigit = true)
    (nonempty : digits ≠ []) (sign : c.isDigit = false) (s : List Char) :
    pieces (digits ++ c :: s) = .digits digits :: .sign c :: pieces s := by
  rw [pieces_digits all nonempty, pieces_sign sign]
  rw [pieces_sign sign]
  exact fun text more same => by cases same

/-! ## Days and times -/

/-- A day of the calendar. -/
structure Day where
  year : Nat
  month : Nat
  day : Nat
  year_lt : year < 10000
  month_mem : 1 ≤ month ∧ month ≤ 12
  day_mem : 1 ≤ day ∧ day ≤ monthLength year month

/-- A time of day; a minute may have a leap second. -/
structure Clock where
  hour : Nat
  minute : Nat
  second : Nat
  hour_lt : hour < 24
  minute_lt : minute < 60
  second_le : second ≤ 60

def Day.text (day : Day) : List Char :=
  four day.year ++ '-' :: (two day.month ++ '-' :: two day.day)

def Clock.text (clock : Clock) : List Char :=
  two clock.hour ++ ':' :: (two clock.minute ++ ':' :: two clock.second)

theorem monthLength_le (year month : Nat) : monthLength year month ≤ 31 := by
  unfold monthLength
  split
  · split <;> decide
  · split <;> decide

theorem Day.day_lt (day : Day) : day.day < 100 := by
  have := day.day_mem
  have := monthLength_le day.year day.month
  omega

/-- A day falls into its year, month and day of the month. -/
theorem Day.pieces_append (day : Day)
    (stops : ∀ text more, pieces s ≠ .digits text :: more) :
    pieces (day.text ++ s) =
      .digits (four day.year) :: .sign '-' :: .digits (two day.month) :: .sign '-' ::
        .digits (two day.day) :: pieces s := by
  have month := day.month_mem
  simp only [text, List.append_assoc, List.cons_append]
  rw [pieces_digits_sign (fun c => isDigit_of_mem_four day.year_lt) (by simp [four, two])
    (by decide), pieces_digits_sign (fun c => isDigit_of_mem_two (by omega)) (by simp [two])
    (by decide), pieces_digits (fun c => isDigit_of_mem_two day.day_lt) (by simp [two]) stops]

theorem Clock.pieces_append (clock : Clock)
    (stops : ∀ text more, pieces s ≠ .digits text :: more) :
    pieces (clock.text ++ s) =
      .digits (two clock.hour) :: .sign ':' :: .digits (two clock.minute) :: .sign ':' ::
        .digits (two clock.second) :: pieces s := by
  have hour := clock.hour_lt
  have minute := clock.minute_lt
  have second := clock.second_le
  simp only [text, List.append_assoc, List.cons_append]
  rw [pieces_digits_sign (fun c => isDigit_of_mem_two (by omega)) (by simp [two]) (by decide),
    pieces_digits_sign (fun c => isDigit_of_mem_two (by omega)) (by simp [two]) (by decide),
    pieces_digits (fun c => isDigit_of_mem_two (by omega)) (by simp [two]) stops]

theorem within_ok {part expected : String} {n low high : Nat} (fits : low ≤ n ∧ n ≤ high) :
    within part n low high expected = .ok () := by
  simp [within, fits]

theorem Day.readDate (day : Day) (rest : List Piece) :
    Datetime.readDate (four day.year) (.sign '-' :: .digits (two day.month) :: .sign '-' ::
      .digits (two day.day) :: rest) = .ok rest := by
  have month := day.month_mem
  have length : (four day.year).length = 4 ∧ ∀ n, (two n).length = 2 := ⟨rfl, fun n => rfl⟩
  have number_month : number (two day.month) = day.month := number_two (by omega)
  simp only [Datetime.readDate, takeSign, takeDigits, sized, length, if_true, number_month,
    number_two day.day_lt, number_four day.year_lt, within_ok day.month_mem, within_ok day.day_mem,
    bind, Except.bind, pure, Except.pure]

theorem Clock.readTime (clock : Clock) (rest : List Piece)
    (whole : ∀ more, rest ≠ .sign '.' :: more) :
    Datetime.readTime (.digits (two clock.hour) :: .sign ':' :: .digits (two clock.minute) ::
      .sign ':' :: .digits (two clock.second) :: rest) = .ok rest := by
  have hour := clock.hour_lt
  have minute := clock.minute_lt
  have second := clock.second_le
  have length (n : Nat) : (two n).length = 2 := rfl
  have number_hour : number (two clock.hour) = clock.hour := number_two (by omega)
  have number_minute : number (two clock.minute) = clock.minute := number_two (by omega)
  have number_second : number (two clock.second) = clock.second := number_two (by omega)
  simp only [Datetime.readTime, takeSign, takeDigits, sized, length, if_true, number_hour,
    number_minute, number_second, within_ok (show 0 ≤ clock.hour ∧ clock.hour ≤ 23 by omega),
    within_ok (show 0 ≤ clock.minute ∧ clock.minute ≤ 59 by omega),
    within_ok (show 0 ≤ clock.second ∧ clock.second ≤ 60 by omega), bind, Except.bind, pure,
    Except.pure]

/-- A day is a date and time on its own. -/
theorem check_day (day : Day) : check day.text = .ok () := by
  have whole := day.pieces_append (s := []) (fun text more same => by cases same)
  rw [List.append_nil] at whole
  simp only [check, whole, day.readDate, pieces, bind, Except.bind, pure, Except.pure]

theorem check_clock (clock : Clock) : check clock.text = .ok () := by
  have whole := clock.pieces_append (s := []) (fun text more same => by cases same)
  have time := clock.readTime [] (fun more same => by cases same)
  rw [List.append_nil] at whole
  unfold check
  rw [whole]
  change (readTime _ >>= finish) = _
  rw [pieces, time]
  rfl

/-- A day with a time of day, local or universal, is accepted as it is written. -/
theorem check_moment (day : Day) (clock : Clock) (universal : Bool) :
    check (day.text ++ 'T' :: (clock.text ++ if universal then ['Z'] else [])) = .ok () := by
  have zone : pieces (if universal then ['Z'] else []) =
      if universal then [.sign 'Z'] else [] := by
    cases universal with
    | false => rfl
    | true => rfl
  have time := clock.pieces_append (s := if universal then ['Z'] else [])
    (fun text more same => by rw [zone] at same; split at same <;> cases same)
  have whole := day.pieces_append (s := 'T' :: (clock.text ++ if universal then ['Z'] else []))
    (fun text more same => by rw [pieces_sign (by decide)] at same; cases same)
  rw [pieces_sign (by decide), time, zone] at whole
  simp only [check, whole, day.readDate, bind, Except.bind]
  cases universal with
  | false =>
      simp [clock.readTime [] (fun more same => by cases same), readOffset, finish]
  | true =>
      simp [clock.readTime [.sign 'Z'] (fun more same => by simp at same), readOffset, finish]

end ScriptRoster.Toml.Datetime
