import ScriptRoster.Proofs.Toml.Quoted
import ScriptRoster.Proofs.Toml.Scalar
import ScriptRoster.Toml.Document

/-!
# Values are read as they were written

A value that is followed by a line end, a comma or a closing bracket is read up to there. Main
statements: `reads_text`, `reads_texts` and `reads_bare`, for texts, lists of texts and what stands
without quotes.
-/

namespace ScriptRoster.Toml

open Text

variable {kind : Kind} {piece rest s v : List Char} {c : Char} {input after : Input}
  {fuel room start : Nat} {items : List Written}

/-! ## Where a reader stands -/

/-- Whether the tokens that are still to be read are those of a text. -/
def Input.Before (input : Input) (s : List Char) : Prop :=
  ∃ start, input.tokens = tokensFrom start s

/-- The first token is read, and the reader stands behind it. -/
theorem Input.Before.next (before : input.Before (piece ++ rest)) (cuts : Cuts kind piece rest) :
    ∃ start, input.tokens = ⟨kind, piece, start⟩ :: (input.after ⟨kind, piece, start⟩).tokens ∧
      (input.after ⟨kind, piece, start⟩).Before rest := by
  obtain ⟨start, same⟩ := before
  rw [cuts.tokensFrom] at same
  refine ⟨start, ?_, start + byteLength piece, ?_⟩
  · rw [same, Input.after, same]
    rfl
  · rw [Input.after, same]
    rfl

/-- The rest of a text after a value: a line end, a comma or a closing bracket. -/
def Stops (rest : List Char) : Prop := ∃ c t, rest = c :: t ∧ c ∈ ['\n', ',', ']']

theorem stops_cons (listed : c ∈ ['\n', ',', ']']) (t : List Char) : Stops (c :: t) :=
  ⟨c, t, rfl, listed⟩

theorem Stops.follows (stops : Stops rest) {p : Char → Prop} (feed : p '\n') (comma : p ',')
    (close : p ']') : Follows p rest := by
  obtain ⟨c, t, rfl, listed⟩ := stops
  simp only [List.mem_cons, List.not_mem_nil, or_false] at listed
  rcases listed with rfl | rfl | rfl
  · exact follows_cons feed
  · exact follows_cons comma
  · exact follows_cons close

/-- What ends a value is a token of its own. -/
theorem Stops.exists_cuts (stops : Stops rest) :
    ∃ kind c t, rest = [c] ++ t ∧ kind ∈ [Kind.lineEnd, .comma, .closeBracket] ∧
      Cuts kind [c] t := by
  obtain ⟨c, t, rfl, listed⟩ := stops
  simp only [List.mem_cons, List.not_mem_nil, or_false] at listed
  rcases listed with rfl | rfl | rfl
  · exact ⟨.lineEnd, '\n', t, rfl, by decide, cuts_lineEnd t⟩
  · exact ⟨.comma, ',', t, rfl, by decide, cuts_comma t⟩
  · exact ⟨.closeBracket, ']', t, rfl, by decide, cuts_closeBracket t⟩

/-- A value that is read up to what ends it, and what is then known of what it says. -/
structure ReadsAs (v : List Char) (means : Node → Prop) : Prop where
  solid : ∃ c t, v = c :: t ∧ c ≠ ' ' ∧ c ≠ '\t'
  read : ∀ input rest fuel room, input.Before (v ++ rest) → Stops rest →
    2 * input.tokens.length + 2 ≤ fuel → 0 < room →
    ∃ written after node, readValue fuel room input = .ok (written, after) ∧ after.Before rest ∧
      after.tokens.length < input.tokens.length ∧ written.node = .ok node ∧ means node

theorem ReadsAs.imp {means other : Node → Prop} (reads : ReadsAs v means)
    (imp : ∀ node, means node → other node) : ReadsAs v other where
  solid := reads.solid
  read input rest fuel room before stops enough open_ := by
    obtain ⟨written, after, node, read, stands, less, node_eq, meant⟩ :=
      reads.read input rest fuel room before stops enough open_
    exact ⟨written, after, node, read, stands, less, node_eq, imp node meant⟩

/-! ## Texts -/

/-- What a text is read as. -/
def IsText (s : String) (node : Node) : Prop := ∃ start stop, node = .scalar (.text s) start stop

theorem toList_textValue (s : String) :
    (textValue s).toList = inQuoting (chooseQuoting s.toList) s.toList := String.toList_ofList

/-- A text is cut as one token in the quoting that was chosen for it. -/
theorem cuts_textValue (s : String) (stops : Stops rest) :
    Cuts (.quoted (chooseQuoting s.toList)) (textValue s).toList rest := by
  rw [toList_textValue]
  exact cuts_inQuoting (holds_chooseQuoting s.toList)
    (stops.follows (by decide) (by decide) (by decide))

theorem exists_cons_textValue (s : String) :
    ∃ c t, (textValue s).toList = c :: t ∧ c ≠ ' ' ∧ c ≠ '\t' := by
  rw [toList_textValue]
  cases chooseQuoting s.toList with
  | basic => exact ⟨'"', _, rfl, by decide, by decide⟩
  | basicBlock => exact ⟨'"', _, rfl, by decide, by decide⟩
  | literal => exact ⟨'\'', _, rfl, by decide, by decide⟩
  | literalBlock => exact ⟨'\'', _, rfl, by decide, by decide⟩

/-- The token of a text says the text. -/
theorem node_textValue (s : String) (start : Nat) :
    ∃ node, Written.node (.scalar ⟨some (chooseQuoting s.toList), (textValue s).toList, start⟩) =
      .ok node ∧ IsText s node := by
  refine ⟨.scalar (.text s) start (start + byteLength (textValue s).toList), ?_, start, _, rfl⟩
  rw [Written.node, toList_textValue, Raw.scalar]
  simp only [readQuoted_inQuoting (holds_chooseQuoting s.toList), Except.map, String.ofList_toList,
    bind, Except.bind, pure, Except.pure]
  rfl

theorem readValue_quoted {quoting : Quoting} {rest : List Token}
    (first : input.tokens = ⟨.quoted quoting, piece, start⟩ :: rest) (fuel room : Nat) :
    readValue (fuel + 1) room input =
      .ok (.scalar ⟨some quoting, piece, start⟩,
        input.after ⟨.quoted quoting, piece, start⟩) := by
  simp only [readValue, first]

/-- A text is read as it is written, in whatever quoting. -/
theorem reads_text (s : String) : ReadsAs (textValue s).toList (IsText s) := by
  refine ⟨exists_cons_textValue s, fun input rest fuel room before stops enough _ => ?_⟩
  obtain ⟨fuel, rfl⟩ := Nat.exists_eq_succ_of_ne_zero (n := fuel) (by omega)
  obtain ⟨start, first, stands⟩ := before.next (cuts_textValue s stops)
  obtain ⟨node, node_eq, text⟩ := node_textValue s start
  refine ⟨_, _, node, readValue_quoted first fuel room, stands, ?_, node_eq, text⟩
  rw [congrArg List.length first]
  exact Nat.lt_succ_self _

/-! ## Bare values -/

/-- The characters of bare values: those of atoms, and points. -/
def isBareChar (c : Char) : Bool := c = '.' || (!endsAtom c && c != '"' && c != '\'')

/-- A bare value begins with an atom or a point. -/
theorem exists_cuts_bare (bare : ∀ c ∈ v, isBareChar c = true) (nonempty : v ≠ [])
    (stops : Stops rest) :
    ∃ kind piece more, v = piece ++ more ∧ piece ≠ [] ∧ (kind = .atom ∨ kind = .dot) ∧
      Cuts kind piece (more ++ rest) := by
  cases v with
  | nil => exact absurd rfl nonempty
  | cons c s =>
      by_cases point : c = '.'
      · subst point
        exact ⟨.dot, ['.'], s, rfl, by simp, .inr rfl, cuts_dot _⟩
      · have first := bare c List.mem_cons_self
        simp only [isBareChar, point, decide_false, Bool.false_or, Bool.and_eq_true,
          Bool.not_eq_true', bne_iff_ne] at first
        have split := List.takeWhile_append_dropWhile (p := fun c => !endsAtom c) (l := s)
        refine ⟨.atom, c :: s.takeWhile fun c => !endsAtom c, s.dropWhile fun c => !endsAtom c,
          by rw [List.cons_append, split], by simp, .inl rfl, IsAtom.cuts ⟨?_, ?_⟩ ?_⟩
        · intro d member
          rcases List.mem_cons.mp member with rfl | member
          · exact first.1.1
          · simpa using List.mem_takeWhile_imp member
        · exact ⟨c, _, rfl, first.2, first.1.2⟩
        · cases dropped : s.dropWhile fun c => !endsAtom c with
          | nil =>
              rw [List.nil_append]
              exact stops.follows (by decide) (by decide) (by decide)
          | cons d t =>
              have stop := List.head_dropWhile_not (fun c => !endsAtom c) (l := s)
                (by rw [dropped]; simp)
              simp only [dropped, List.head_cons, Bool.not_eq_false'] at stop
              exact follows_cons stop

/-- The atoms and points of a bare value are put together again. -/
theorem readAtoms_bare (bare : ∀ c ∈ v, isBareChar c = true) (before : input.Before (v ++ rest))
    (stops : Stops rest) (enough : input.tokens.length ≤ fuel) (text : List Char) :
    ∃ after, readAtoms fuel text input = (text ++ v, after) ∧ after.Before rest ∧
      after.tokens.length ≤ input.tokens.length := by
  induction whole : v.length using Nat.strong_induction_on generalizing v input fuel text with
  | h size ih =>
      by_cases nonempty : v = []
      · subst nonempty
        rw [List.nil_append] at before
        refine ⟨input, ?_, before, Nat.le_refl _⟩
        obtain ⟨kind, c, t, rfl, listed, cuts⟩ := stops.exists_cuts
        obtain ⟨start, first, -⟩ := before.next cuts
        rw [List.append_nil]
        cases fuel with
        | zero => rfl
        | succ fuel =>
            simp only [List.mem_cons, List.not_mem_nil, or_false] at listed
            rw [readAtoms, first]
            rcases listed with rfl | rfl | rfl
            all_goals simp
      · obtain ⟨kind, piece, more, rfl, solid, listed, cuts⟩ :=
          exists_cuts_bare bare nonempty stops
        rw [List.append_assoc] at before
        obtain ⟨start, first, stands⟩ := before.next cuts
        have length := congrArg List.length first
        rw [List.length_cons] at length
        obtain ⟨fuel, rfl⟩ := Nat.exists_eq_succ_of_ne_zero (n := fuel) (by omega)
        have shorter : more.length < size := by
          have := List.length_pos_of_ne_nil solid
          rw [List.length_append] at whole
          omega
        have left : (input.after ⟨kind, piece, start⟩).tokens.length ≤ fuel := by omega
        obtain ⟨after, read, behind, less⟩ := ih more.length shorter
          (fun c member => bare c (List.mem_append_right _ member)) stands left (text ++ piece) rfl
        refine ⟨after, ?_, behind, by omega⟩
        have step : readAtoms (fuel + 1) text input =
            readAtoms fuel (text ++ piece) (input.after ⟨kind, piece, start⟩) := by
          rw [readAtoms, first]
          rcases listed with rfl | rfl
          all_goals simp
        rw [step, read, List.append_assoc]

/-- A bare value is read as what it stands for. -/
theorem reads_bare {value : Scalar} (bare : ∀ c ∈ v, isBareChar c = true) (nonempty : v ≠ [])
    (scalar : ∀ start, readBareScalar ⟨none, v, start⟩ = .ok value) :
    ReadsAs v fun node => ∃ start stop, node = .scalar value start stop := by
  refine ⟨?_, fun input rest fuel room before stops enough _ => ?_⟩
  · cases v with
    | nil => exact absurd rfl nonempty
    | cons c t =>
        refine ⟨c, t, rfl, ?_, ?_⟩
        all_goals
          rintro rfl
          exact absurd (bare _ List.mem_cons_self) (by decide)
  obtain ⟨kind, piece, more, rfl, solid, listed, cuts⟩ := exists_cuts_bare bare nonempty stops
  obtain ⟨fuel, rfl⟩ := Nat.exists_eq_succ_of_ne_zero (n := fuel) (by omega)
  rw [List.append_assoc] at before
  obtain ⟨start, first, stands⟩ := before.next cuts
  obtain ⟨after, read, behind, less⟩ := readAtoms_bare
    (fun c member => bare c (List.mem_append_right _ member)) stands stops (Nat.le_refl _) piece
  have length := congrArg List.length first
  rw [List.length_cons] at length
  refine ⟨.scalar ⟨none, piece ++ more, start⟩, after,
    .scalar value start (start + byteLength (piece ++ more)), ?_, behind, by omega, ?_, start, _,
    rfl⟩
  · rw [readValue, first]
    rcases listed with rfl | rfl
    all_goals simp only [readBare, read]
  · simp only [Written.node, Raw.scalar, scalar, bind, Except.bind, pure, Except.pure]
    rfl

/-! ## Lists of texts -/

/-- What a list of texts is read as. -/
def IsTexts (items : List String) (node : Node) : Prop :=
  ∃ nodes start stop, node = .array nodes start stop ∧ List.Forall₂ IsText items nodes

/-- The items of a list that are written so far, and what they are read as. -/
def Collected (items : List Written) (texts : List String) : Prop :=
  ∃ found, nodes items = .ok found ∧ List.Forall₂ IsText texts found

theorem collected_nil : Collected [] [] := ⟨[], rfl, .nil⟩

theorem Collected.cons {item : Written} {node : Node} {text : String} {texts : List String}
    (node_eq : item.node = .ok node) (isText : IsText text node) (rest : Collected items texts) :
    Collected (item :: items) (text :: texts) := by
  obtain ⟨found, rest, collected⟩ := rest
  refine ⟨node :: found, ?_, .cons isText collected⟩
  simp only [nodes, node_eq, rest, bind, Except.bind, pure, Except.pure]

section Array

variable {fresh : Bool} {opening : Nat} {tail : List Token}

/-- A line end or a blank inside an array takes one step. -/
theorem readArray_pass (first : input.tokens = ⟨kind, piece, start⟩ :: tail)
    (passed : kind = .blank ∨ (kind = .lineEnd ∧ piece = ['\n'])) :
    readArray (fuel + 1) room opening fresh items input =
      readArray fuel room opening fresh items (input.after ⟨kind, piece, start⟩) := by
  rcases passed with rfl | ⟨rfl, rfl⟩
  · simp only [readArray, first]
  · simp only [readArray, first, checkSpace, bind, Except.bind]
    rfl

theorem readArray_comma (first : input.tokens = ⟨.comma, piece, start⟩ :: tail) :
    readArray (fuel + 1) room opening false items input =
      readArray fuel room opening true items (input.after ⟨.comma, piece, start⟩) := by
  simp only [readArray, first, Bool.false_eq_true, if_false]

/-- A closing bracket ends a list, with its items in order. -/
theorem readArray_close (first : input.tokens = ⟨.closeBracket, piece, start⟩ :: tail) :
    readArray (fuel + 1) room opening fresh items input =
      .ok (.array items.reverse opening (Token.stop ⟨.closeBracket, piece, start⟩),
        input.after ⟨.closeBracket, piece, start⟩) := by
  simp only [readArray, first]

theorem readArray_quoted {quoting : Quoting}
    (first : input.tokens = ⟨.quoted quoting, piece, start⟩ :: tail) :
    readArray (fuel + 2) room opening true items input =
      readArray (fuel + 1) room opening false (.scalar ⟨some quoting, piece, start⟩ :: items)
        (input.after ⟨.quoted quoting, piece, start⟩) := by
  rw [readArray, first]
  simp only [readValue_quoted first, if_true, bind, Except.bind]

end Array

/-- An item of a list on a line of its own. -/
def itemLine (text : String) : List Char :=
  [' ', ' ', ' ', ' '] ++ ((textValue text).toList ++ ([','] ++ ['\n']))

/-- The items of a list are read line by line. -/
theorem readArray_lines (texts : List String) (items : List Written) (fuel room opening : Nat)
    (before : input.Before (texts.flatMap itemLine ++ ([']'] ++ rest)))
    (enough : 2 * input.tokens.length + 3 ≤ fuel) :
    ∃ collected stop after,
      readArray fuel room opening true items input =
        .ok (.array (items.reverse ++ collected) opening stop, after) ∧
      after.Before rest ∧ after.tokens.length < input.tokens.length ∧
      Collected collected texts := by
  induction texts generalizing input fuel items with
  | nil =>
      rw [List.flatMap_nil, List.nil_append] at before
      obtain ⟨fuel, rfl⟩ := Nat.exists_eq_succ_of_ne_zero (n := fuel) (by omega)
      obtain ⟨start, first, stands⟩ := before.next (cuts_closeBracket rest)
      have length := congrArg List.length first
      rw [List.length_cons] at length
      obtain ⟨stop, close⟩ : ∃ stop, readArray (fuel + 1) room opening true items input =
          .ok (.array items.reverse opening stop, input.after ⟨.closeBracket, [']'], start⟩) :=
        ⟨_, readArray_close first⟩
      refine ⟨[], stop, _, ?_, stands, by omega, collected_nil⟩
      rw [List.append_nil]
      exact close
  | cons text texts ih =>
      simp only [List.flatMap_cons, itemLine, List.append_assoc] at before
      have solid : Follows (fun c => c ≠ ' ' ∧ c ≠ '\t') ((textValue text).toList ++
          ([','] ++ (['\n'] ++ (texts.flatMap itemLine ++ ([']'] ++ rest))))) := by
        obtain ⟨c, t, same, solid⟩ := exists_cons_textValue text
        rw [same]
        exact follows_cons solid
      obtain ⟨gap, first, before⟩ := before.next (cuts_spaces (by simp) solid)
      obtain ⟨start, second, before⟩ := before.next
        (cuts_textValue text (stops_cons (by decide) _))
      obtain ⟨comma, third, before⟩ := before.next (cuts_comma _)
      obtain ⟨end_, fourth, before⟩ := before.next (cuts_lineEnd _)
      have lengths := congrArg List.length first
      rw [second, third, fourth] at lengths
      simp only [List.length_cons] at lengths
      obtain ⟨fuel, rfl⟩ := Nat.exists_eq_add_of_le' (m := 5) (n := fuel) (by omega)
      obtain ⟨node, node_eq, isText⟩ := node_textValue text start
      obtain ⟨collected, stop, after, read, behind, less, more⟩ :=
        ih _ (fuel + 1) before (by omega)
      refine ⟨_ :: collected, stop, after, ?_, behind, by omega, more.cons node_eq isText⟩
      rw [readArray_pass first (.inl rfl), readArray_quoted second, readArray_comma third,
        readArray_pass fourth (.inr ⟨rfl, rfl⟩), read]
      simp

/-- What stands behind the opening bracket of a list: nothing, one item, or a line for each. -/
def listRest : List String → List Char
  | [] => [']']
  | [text] => (textValue text).toList ++ [']']
  | text :: other :: texts => ['\n'] ++ ((text :: other :: texts).flatMap itemLine ++ [']'])

theorem toList_textsValue (texts : List String) :
    (textsValue texts).toList = ['['] ++ listRest texts := by
  cases texts with
  | nil => rfl
  | cons text texts =>
      cases texts with
      | nil => simp [textsValue, listRest]
      | cons other texts =>
          simp [textsValue, listRest, itemLine, String.toList_join, List.flatMap_map]
          rfl

/-- A list of texts is read as it is written: empty, on one line, or with a line for each. -/
theorem reads_texts (texts : List String) : ReadsAs (textsValue texts).toList (IsTexts texts) := by
  refine ⟨⟨'[', _, toList_textsValue texts, by decide, by decide⟩,
    fun input rest fuel room before stops enough open_ => ?_⟩
  rw [toList_textsValue, List.append_assoc] at before
  obtain ⟨opening, first, before⟩ := before.next (cuts_openBracket _)
  have length := congrArg List.length first
  rw [List.length_cons] at length
  obtain ⟨fuel, rfl⟩ := Nat.exists_eq_add_of_le' (m := 4) (n := fuel) (by omega)
  have opened : readValue (fuel + 4) room input =
      readArray (fuel + 3) (room - 1) opening true []
        (input.after ⟨.openBracket, ['['], opening⟩) := by
    simp only [readValue, first, Nat.ne_of_gt open_, if_false]
  -- the three forms differ in what stands between the brackets only
  suffices inner : ∃ collected stop after,
      readArray (fuel + 3) (room - 1) opening true []
        (input.after ⟨.openBracket, ['['], opening⟩) =
        .ok (.array collected opening stop, after) ∧
      after.Before rest ∧ after.tokens.length < input.tokens.length ∧
      Collected collected texts by
    obtain ⟨collected, stop, after, read, behind, less, found, nodes_eq, isTexts⟩ := inner
    refine ⟨_, after, .array found opening stop, opened.trans read, behind, less, ?_, found,
      opening, stop, rfl, isTexts⟩
    simp only [Written.node, nodes_eq, bind, Except.bind, pure, Except.pure]
  cases texts with
  | nil =>
      obtain ⟨start, second, before⟩ := before.next (cuts_closeBracket rest)
      have lengths := congrArg List.length second
      rw [List.length_cons] at lengths
      exact ⟨[], _, _, readArray_close second, before, by omega, collected_nil⟩
  | cons text texts =>
      cases texts with
      | nil =>
          rw [listRest, List.append_assoc] at before
          obtain ⟨start, second, before⟩ := before.next
            (cuts_textValue text (stops_cons (by decide) rest))
          obtain ⟨close, third, before⟩ := before.next (cuts_closeBracket rest)
          have lengths := congrArg List.length second
          rw [third, List.length_cons, List.length_cons] at lengths
          obtain ⟨node, node_eq, isText⟩ := node_textValue text start
          exact ⟨_, _, _, (readArray_quoted second).trans (readArray_close third), before,
            by omega, collected_nil.cons node_eq isText⟩
      | cons other texts =>
          simp only [listRest, List.append_assoc] at before
          obtain ⟨break_, second, before⟩ := before.next (cuts_lineEnd _)
          have lengths := congrArg List.length second
          rw [List.length_cons] at lengths
          obtain ⟨collected, stop, after, read, behind, less, more⟩ :=
            readArray_lines _ [] (fuel + 2) (room - 1) opening before (by omega)
          refine ⟨collected, stop, after, ?_, behind, by omega, more⟩
          rw [readArray_pass second (.inr ⟨rfl, rfl⟩), read]
          rfl

end ScriptRoster.Toml
