import ScriptRoster.Proofs.Toml.Value
import ScriptRoster.Toml.Expected

/-!
# Plain values

Texts, truth values, numbers, days and times of day, and lists of texts, each as it stands in a
document. Whoever does not know their key passes over them. Main statement: `Plain.reads`.
-/

namespace ScriptRoster.Toml

open Decimal

variable {c : Char} {start stop : Nat}

/-- A plain value. Whole numbers have at most 128 bits, and floating-point numbers are not too
great: others have no meaning. -/
inductive Plain where
  | text (s : String)
  | truth (b : Bool)
  | whole (n : Int) (low : -(2 ^ 127 : Int) ≤ n) (high : n < 2 ^ 128)
  | floating (x : Floating) (fits : overflows x.text = false)
  | infinity (negative : Bool)
  | nan (negative : Bool)
  | day (date : Datetime.Day)
  | clock (time : Datetime.Clock)
  | moment (date : Datetime.Day) (time : Datetime.Clock) (universal : Bool)
  | texts (items : List String)

/-- A plain value as it is written. -/
def Plain.written : Plain → List Char
  | .text s => (textValue s).toList
  | .truth b => (toString b).toList
  | .whole n _ _ => (toString n).toList
  | .floating x _ => x.text
  | .infinity negative => wordText negative "inf"
  | .nan negative => wordText negative "nan"
  | .day date => date.text
  | .clock time => time.text
  | .moment date time universal =>
      date.text ++ 'T' :: (time.text ++ if universal then ['Z'] else [])
  | .texts items => (textsValue items).toList

/-! ## Values that are passed over -/

theorem wholeText_isSome {n : Int} (low : -(2 ^ 127 : Int) ≤ n) (high : n < 2 ^ 128) :
    (Node.wholeText n).isSome = true := by
  have small : ((twoTo 127 : Nat) : Int) = 2 ^ 127 := rfl
  have great : ((twoTo 128 : Nat) : Int) = 2 ^ 128 := rfl
  unfold Node.wholeText
  rw [small, great]
  split
  · rfl
  split
  · rfl
  split
  · rfl
  · next signed unsigned =>
      exact absurd ⟨by omega, high⟩ unsigned

theorem ignore_whole {n : Int} (low : -(2 ^ 127 : Int) ≤ n) (high : n < 2 ^ 128) :
    (Node.scalar (.whole (some n)) start stop).ignore = .ok () := by
  have fits := wholeText_isSome low high
  rw [Option.isSome_iff_ne_none] at fits
  simp [Node.ignore, fits]

theorem IsText.ignore {s : String} {node : Node} (isText : IsText s node) :
    node.ignore = .ok () := by
  obtain ⟨start, stop, rfl⟩ := isText
  rfl

theorem IsTexts.ignore {items : List String} {node : Node} (isTexts : IsTexts items node) :
    node.ignore = .ok () := by
  obtain ⟨nodes, start, stop, rfl, each⟩ := isTexts
  rw [Node.ignore]
  induction each with
  | nil => rfl
  | cons first _ ih => rw [Node.ignoreEach, first.ignore, ih]

/-! ## The characters of plain values -/

theorem isBareChar_digit (digit : isDigit c = true) : isBareChar c = true :=
  of_isDigit (p := (isBareChar · = true)) digit (by decide)

theorem isBareChar_int {n : Int} (member : c ∈ (toString n).toList) : isBareChar c = true := by
  rcases mem_toString_int member with digit | rfl
  · exact isBareChar_digit digit
  · decide

theorem Floating.isBareChar {x : Floating} (member : c ∈ x.text) : isBareChar c = true := by
  have signs : ['-', '.', 'e'].all Toml.isBareChar = true := by decide
  rcases mem_text member with digit | listed
  · exact isBareChar_digit digit
  · exact List.all_eq_true.mp signs c listed

theorem Datetime.Day.isBareChar {day : Datetime.Day} (member : c ∈ day.text) :
    isBareChar c = true := by
  have month := day.month_mem
  have day_lt := day.day_lt
  simp only [text, List.mem_append, List.mem_cons] at member
  rcases member with member | rfl | member | rfl | member
  · exact isBareChar_digit (isDigit_of_mem_four day.year_lt member)
  · decide
  · exact isBareChar_digit (isDigit_of_mem_two (by omega) member)
  · decide
  · exact isBareChar_digit (isDigit_of_mem_two day_lt member)

theorem Datetime.Clock.isBareChar {clock : Datetime.Clock} (member : c ∈ clock.text) :
    isBareChar c = true := by
  have hour := clock.hour_lt
  have minute := clock.minute_lt
  have second := clock.second_le
  simp only [text, List.mem_append, List.mem_cons] at member
  rcases member with member | rfl | member | rfl | member
  · exact isBareChar_digit (isDigit_of_mem_two (by omega) member)
  · decide
  · exact isBareChar_digit (isDigit_of_mem_two (by omega) member)
  · decide
  · exact isBareChar_digit (isDigit_of_mem_two (by omega) member)

/-! ## Reading plain values -/

/-- A bare value that may be passed over, wherever it stands. -/
theorem reads_ignored {v : List Char} {value : Scalar} (bare : ∀ c ∈ v, isBareChar c = true)
    (nonempty : v ≠ []) (scalar : ∀ start, readBareScalar ⟨none, v, start⟩ = .ok value)
    (ignored : ∀ start stop, (Node.scalar value start stop).ignore = .ok ()) :
    ReadsAs v (·.ignore = .ok ()) := by
  refine (reads_bare bare nonempty scalar).imp fun node ⟨start, stop, same⟩ => ?_
  rw [same, ignored]

theorem ignore_floating {digits : List Char} (fits : overflows digits = false) (start stop : Nat) :
    (Node.scalar (.floating digits) start stop).ignore = .ok () := by
  rw [Node.ignore, fits]
  rfl

theorem toString_int_ne_nil (n : Int) : (toString n).toList ≠ [] := by
  rcases toString_int n with ⟨-, text⟩ | ⟨-, text⟩
  · rw [text]
    exact Nat.toDigits_ne_nil
  · rw [text]
    exact List.cons_ne_nil _ _

theorem Floating.text_ne_nil (x : Floating) : x.text ≠ [] := by
  unfold text
  split
  · exact List.cons_ne_nil _ _
  · exact List.append_ne_nil_of_left_ne_nil Nat.toDigits_ne_nil _

theorem wordText_fits (negative : Bool) {word : String} (known : word = "inf" ∨ word = "nan") :
    (wordText negative word).all isBareChar = true ∧ wordText negative word ≠ [] ∧
      overflows (wordText negative word) = false := by
  revert negative
  rcases known with rfl | rfl <;> decide

/-- A plain value is read, and may be passed over. -/
theorem Plain.reads (value : Plain) : ReadsAs value.written (·.ignore = .ok ()) := by
  cases value with
  | text s => exact (reads_text s).imp fun node => IsText.ignore
  | texts items => exact (reads_texts items).imp fun node => IsTexts.ignore
  | truth b =>
      have bare : (toString b).toList.all isBareChar = true ∧ (toString b).toList ≠ [] := by
        revert b
        decide
      exact reads_ignored (List.all_eq_true.mp bare.1) bare.2 (readBareScalar_truth b)
        fun _ _ => rfl
  | whole n low high =>
      exact reads_ignored (fun c => isBareChar_int) (toString_int_ne_nil n)
        (readBareScalar_toString n) fun _ _ => ignore_whole low high
  | floating x fits =>
      exact reads_ignored (fun c => Floating.isBareChar) x.text_ne_nil x.readBareScalar
        (ignore_floating fits)
  | infinity negative =>
      obtain ⟨bare, nonempty, fits⟩ := wordText_fits negative (.inl rfl)
      exact reads_ignored (List.all_eq_true.mp bare) nonempty (readBareScalar_infinity negative)
        (ignore_floating fits)
  | nan negative =>
      obtain ⟨bare, nonempty, fits⟩ := wordText_fits negative (.inr rfl)
      exact reads_ignored (List.all_eq_true.mp bare) nonempty (readBareScalar_nan negative)
        (ignore_floating fits)
  | day date =>
      exact reads_ignored (fun c => Datetime.Day.isBareChar)
        (by simp [written, Datetime.Day.text]) (readBareScalar_day date) fun _ _ => rfl
  | clock time =>
      exact reads_ignored (fun c => Datetime.Clock.isBareChar)
        (by simp [written, Datetime.Clock.text]) (readBareScalar_clock time) fun _ _ => rfl
  | moment date time universal =>
      refine reads_ignored ?_ (by simp [written]) (readBareScalar_moment date time universal)
        fun _ _ => rfl
      intro c member
      simp only [written, List.mem_append, List.mem_cons] at member
      rcases member with member | rfl | member | member
      · exact Datetime.Day.isBareChar member
      · decide
      · exact Datetime.Clock.isBareChar member
      · split at member
        · rw [List.mem_singleton.mp member]
          decide
        · cases member

end ScriptRoster.Toml
