import Mathlib.Data.List.Forall2
import Mathlib.Data.List.Perm.Basic
import ScriptRoster.Proofs.Toml.Document
import ScriptRoster.Proofs.Toml.Plain
import ScriptRoster.Settings.Form

/-!
# Settings are read as they were written

Any fields of settings, in any order and among keys that are not known, are read as these fields,
with the defaults for the others. Main statements: `ofText_document` and `ofText_text`.
-/

namespace ScriptRoster

open Toml

namespace Settings

/-- The fields of settings. -/
inductive Field where
  | script
  | interpreter
  | arguments
  | strategy
  | keyMode
  | timeout
  deriving DecidableEq

/-- The key of a field. -/
def Field.name : Field → String
  | script => "script_path"
  | interpreter => "interpreter"
  | arguments => "interpreter_args"
  | strategy => "strategy"
  | keyMode => "cache_key"
  | timeout => "timeout_secs"

/-- What stands on a line of a settings file: a field, or a plain value under a key that is none. -/
inductive Item where
  | field (f : Field)
  | other (key : String) (unknown : ∀ f : Field, f.name ≠ key) (value : Plain)

def Item.name : Item → String
  | field f => f.name
  | other key _ _ => key

/-- The fields among items. -/
def Item.fields : List Item → List Field
  | [] => []
  | field f :: items => f :: fields items
  | other _ _ _ :: items => fields items

/-- The value of a field as a text. Without a timeout there is none to be written. -/
def fieldValue (settings : Settings) : Field → Option String
  | .script => some (textValue settings.scriptPath)
  | .interpreter => some (textValue settings.interpreter)
  | .arguments => some (textsValue settings.interpreterArguments)
  | .strategy => some (textValue settings.strategy.name)
  | .keyMode => some (textValue settings.keyMode.name)
  | .timeout => settings.timeout.map toString

/-- The value of an item as a text. -/
def itemValue (settings : Settings) : Item → Option String
  | .field f => settings.fieldValue f
  | .other _ _ value => some (String.ofList value.written)

/-- The line of an item. -/
def line (settings : Settings) (item : Item) : String :=
  ((settings.itemValue item).map (entryLine (String.ofList (keyText item.name)))).getD ""

/-- A settings file with some fields of settings, and perhaps with other keys. -/
def document (settings : Settings) (items : List Item) : String :=
  String.join (items.map settings.line)

/-- Some fields of settings, and those of others for the rest. -/
def onto (settings base : Settings) (fields : List Field) : Settings where
  scriptPath := if .script ∈ fields then settings.scriptPath else base.scriptPath
  interpreter := if .interpreter ∈ fields then settings.interpreter else base.interpreter
  interpreterArguments :=
    if .arguments ∈ fields then settings.interpreterArguments else base.interpreterArguments
  strategy := if .strategy ∈ fields then settings.strategy else base.strategy
  keyMode := if .keyMode ∈ fields then settings.keyMode else base.keyMode
  timeout := if .timeout ∈ fields then settings.timeout else base.timeout

/-- All fields, in the order in which they are written. -/
def allFields : List Field :=
  [.script, .interpreter, .arguments, .strategy, .keyMode, .timeout]

variable {settings base : Settings} {items : List Item} {item : Item} {entries : Entries}
  {node : Node} {seconds : Nat}

/-! ## One item -/

/-- Whether a value under the key of an item is taken for the item. -/
def Takes (settings : Settings) (item : Item) (node : Node) : Prop :=
  ∀ base start stop, take base (⟨item.name, start, stop⟩, node) =
    .ok (settings.onto base (Item.fields [item]))

/-- The text of a field that is written as one. -/
def fieldText? (settings : Settings) : Field → Option String
  | .script => some settings.scriptPath
  | .interpreter => some settings.interpreter
  | .strategy => some settings.strategy.name
  | .keyMode => some settings.keyMode.name
  | .arguments | .timeout => none

theorem fieldValue_of_fieldText? {f : Field} {text : String}
    (told : settings.fieldText? f = some text) : settings.fieldValue f = some (textValue text) := by
  cases f with
  | arguments | timeout => cases told
  | script | interpreter | strategy | keyMode =>
      cases told
      rfl

theorem Preference.lookup_name (preference : Preference) :
    Preference.choices.lookup preference.name = some preference := by
  cases preference <;> rfl

theorem KeyMode.lookup_name (mode : KeyMode) : KeyMode.choices.lookup mode.name = some mode := by
  cases mode <;> rfl

/-- The text of a field is taken as it is, or for the choice that it names. -/
theorem takes_text {f : Field} {text : String} (told : settings.fieldText? f = some text)
    (isText : IsText text node) : settings.Takes (.field f) node := by
  obtain ⟨a, b, rfl⟩ := isText
  intro base start stop
  cases f with
  | arguments | timeout => cases told
  | script | interpreter =>
      cases told
      simp [take, Item.name, Field.name, Node.asText, onto, Item.fields, bind, Except.bind, pure,
        Except.pure]
  | strategy | keyMode =>
      cases told
      simp [take, Item.name, Field.name, Node.asChoice, Preference.lookup_name, KeyMode.lookup_name,
        onto, Item.fields, bind, Except.bind, pure, Except.pure]

theorem asTextEach_of_isText {texts : List String} {nodes : List Node}
    (each : List.Forall₂ IsText texts nodes) : Node.asTextEach nodes = .ok texts := by
  induction each with
  | nil => rfl
  | @cons text node texts nodes first _ ih =>
      obtain ⟨a, b, rfl⟩ := first
      simp only [Node.asTextEach, Node.asText, ih, bind, Except.bind, pure, Except.pure]

theorem takes_arguments (isTexts : IsTexts settings.interpreterArguments node) :
    settings.Takes (.field .arguments) node := by
  obtain ⟨nodes, a, b, rfl, each⟩ := isTexts
  intro base start stop
  simp [take, Item.name, Field.name, Node.asTexts, asTextEach_of_isText each, onto, Item.fields,
    bind, Except.bind, pure, Except.pure]

theorem asNatural_of_lt (fits : seconds < 2 ^ 63) (start stop : Nat) :
    (Node.scalar (.whole (some (seconds : Int))) start stop).asNatural = .ok seconds := by
  have room : 2 ^ 63 ≤ Decimal.twoTo 64 := by decide
  have range : (0 : Int) ≤ seconds ∧ (seconds : Int) < (Decimal.twoTo 64 : Nat) :=
    ⟨Int.natCast_nonneg seconds, Int.ofNat_lt.mpr (Nat.lt_of_lt_of_le fits room)⟩
  rw [Node.asNatural, if_pos range, Int.toNat_natCast]

theorem takes_timeout (given : settings.timeout = some seconds)
    (natural : node.asNatural = .ok seconds) : settings.Takes (.field .timeout) node := by
  intro base start stop
  simp [take, Item.name, Field.name, natural, given, onto, Item.fields, bind, Except.bind, pure,
    Except.pure]

theorem takes_other {key : String} {value : Plain} (unknown : ∀ f : Field, f.name ≠ key)
    (ignored : node.ignore = .ok ()) : settings.Takes (.other key unknown value) node := by
  intro base start stop
  have script := unknown .script
  have interpreter := unknown .interpreter
  have arguments := unknown .arguments
  have strategy := unknown .strategy
  have keyMode := unknown .keyMode
  have timeout := unknown .timeout
  simp only [Field.name, ne_eq, eq_comm] at script interpreter arguments strategy keyMode timeout
  simp [take, Item.name, script, interpreter, arguments, strategy, keyMode, timeout, ignored, onto,
    Item.fields, bind, Except.bind, pure, Except.pure]

/-- The line of an item is a key with a value that is taken for it. -/
theorem exists_statement (short : ∀ seconds ∈ settings.timeout, seconds < 2 ^ 63)
    (written : (settings.itemValue item).isSome = true) :
    ∃ statement : Statement, statement.name = item.name ∧
      (settings.line item).toList = statement.line ∧
      ∀ node, statement.means node → settings.Takes item node := by
  have lined {value : List Char} {means : Node → Prop} (reads : ReadsAs value means)
      (same : settings.itemValue item = some (String.ofList value))
      (taken : ∀ node, means node → settings.Takes item node) :
      ∃ statement : Statement, statement.name = item.name ∧
        (settings.line item).toList = statement.line ∧
        ∀ node, statement.means node → settings.Takes item node := by
    refine ⟨⟨item.name, value, means, reads⟩, rfl, ?_, taken⟩
    simp [line, same, entryLine, Statement.line]
  cases item with
  | other key unknown value =>
      exact lined value.reads rfl fun node => takes_other unknown
  | field f =>
      cases told : settings.fieldText? f with
      | some text =>
          refine lined (reads_text text) ?_ fun node => takes_text told
          simp [itemValue, fieldValue_of_fieldText? told]
      | none =>
          cases f with
          | script | interpreter | strategy | keyMode => cases told
          | arguments =>
              exact lined (reads_texts settings.interpreterArguments)
                (by simp [itemValue, fieldValue]) fun node => takes_arguments
          | timeout =>
              cases given : settings.timeout with
              | none => simp [itemValue, fieldValue, given] at written
              | some seconds =>
                  have isDigits := isDigits_toDigits seconds
                  have fits := short seconds (by simp [given])
                  have reads :=
                    reads_bare (fun c member => isBareChar_digit (isDigits.digits c member))
                      isDigits.nonempty (readBareScalar_toDigits seconds)
                  refine lined reads ?_ ?_
                  · simp [itemValue, fieldValue, given]
                    rfl
                  · rintro node ⟨start, stop, rfl⟩
                    exact takes_timeout given (asNatural_of_lt fits start stop)

/-! ## Documents -/

/-- Whether an entry is what an item was read as. -/
def TakesEntry (settings : Settings) (item : Item) (entry : Key × Node) : Prop :=
  entry.1.name = item.name ∧ settings.Takes item entry.2

theorem onto_nil (settings base : Settings) : settings.onto base [] = base := by
  simp [onto]

theorem onto_onto (settings base : Settings) (items : List Item) (item : Item) :
    settings.onto (settings.onto base (Item.fields [item])) (Item.fields items) =
      settings.onto base (Item.fields (item :: items)) := by
  cases item with
  | other key unknown value => simp only [Item.fields, onto_nil]
  | field f =>
      cases f
      all_goals simp [onto, Item.fields]

/-- Entries are taken one after the other. -/
theorem takeAll_of_takes (taken : List.Forall₂ settings.TakesEntry items entries)
    (base : Settings) : takeAll base entries = .ok (settings.onto base (Item.fields items)) := by
  induction taken generalizing base with
  | nil => rw [Item.fields, onto_nil, takeAll]
  | @cons item entry items entries first _ ih =>
      obtain ⟨⟨key, start, stop⟩, node⟩ := entry
      obtain ⟨rfl, takes⟩ := first
      simp only [takeAll, takes base start stop, bind, Except.bind]
      rw [ih, onto_onto]

theorem mem_fields {f : Field} : f ∈ Item.fields items ↔ Item.field f ∈ items := by
  induction items with
  | nil => simp [Item.fields]
  | cons item items ih =>
      cases item with
      | field g => simp [Item.fields, ih]
      | other key unknown value => simp [Item.fields, ih]

/-- The order of fields does not matter. -/
theorem onto_congr {fields others : List Field} (same : ∀ f, f ∈ fields ↔ f ∈ others) :
    settings.onto base fields = settings.onto base others := by
  simp only [onto, same]

/-- The order in which entries are taken does not matter. -/
theorem takeAll_sorted (taken : List.Forall₂ settings.TakesEntry items entries)
    (base : Settings) :
    takeAll base entries.sorted = .ok (settings.onto base (Item.fields items)) := by
  have perm : entries.Perm entries.sorted := (List.mergeSort_perm entries _).symm
  have through : Relation.Comp (List.Forall₂ settings.TakesEntry) List.Perm items entries.sorted :=
    ⟨entries, taken, perm⟩
  rw [List.forall₂_comp_perm_eq_perm_comp_forall₂] at through
  obtain ⟨others, moved, taken⟩ := through
  rw [takeAll_of_takes taken]
  congr 1
  apply onto_congr
  intro f
  rw [mem_fields, mem_fields, moved.mem_iff]

theorem exists_statements (short : ∀ seconds ∈ settings.timeout, seconds < 2 ^ 63)
    (written : ∀ item ∈ items, (settings.itemValue item).isSome = true) :
    ∃ statements : List Statement, statements.map Statement.name = items.map Item.name ∧
      (settings.document items).toList = statements.flatMap Statement.line ∧
      List.Forall₂ (fun item statement => statement.name = item.name ∧
        ∀ node, statement.means node → settings.Takes item node) items statements := by
  induction items with
  | nil => exact ⟨[], rfl, rfl, .nil⟩
  | cons item items ih =>
      obtain ⟨statements, names, text, rest⟩ :=
        ih fun other member => written other (List.mem_cons_of_mem item member)
      obtain ⟨statement, name, line, taken⟩ :=
        exists_statement short (written item List.mem_cons_self)
      refine ⟨statement :: statements, ?_, ?_, .cons ⟨name, taken⟩ rest⟩
      · rw [List.map_cons, List.map_cons, name, names]
      · rw [document, String.toList_join] at text ⊢
        rw [List.map_cons, List.flatMap_cons, List.flatMap_cons, line, text]

theorem takesEntry_of_holds {statements : List Statement}
    (stated : List.Forall₂ (fun item statement => statement.name = item.name ∧
      ∀ node, statement.means node → settings.Takes item node) items statements)
    (holds : List.Forall₂ Statement.Holds statements entries) :
    List.Forall₂ settings.TakesEntry items entries := by
  induction stated generalizing entries with
  | nil =>
      cases holds
      exact .nil
  | cons first _ ih =>
      cases holds with
      | cons held rest => exact .cons ⟨held.1.trans first.1, first.2 _ held.2⟩ (ih rest)

/-- A file in which every item has a line is read as it was written. -/
theorem ofText_written (short : ∀ seconds ∈ settings.timeout, seconds < 2 ^ 63)
    (written : ∀ item ∈ items, (settings.itemValue item).isSome = true)
    (apart : (items.map Item.name).Nodup) :
    ofText (settings.document items) = .ok (settings.onto defaults (Item.fields items)) := by
  obtain ⟨statements, names, text, stated⟩ := exists_statements short written
  obtain ⟨entries, read, holds⟩ := read_document text (names ▸ apart)
  have taken := takesEntry_of_holds stated holds
  simp only [ofText, read, bind, Except.bind, takeAll_sorted taken]

/-- The items that have a line. -/
def shown (settings : Settings) (items : List Item) : List Item :=
  items.filter fun item => (settings.itemValue item).isSome

theorem document_shown (settings : Settings) (items : List Item) :
    settings.document (settings.shown items) = settings.document items := by
  apply String.toList_injective
  rw [document, document, String.toList_join, String.toList_join]
  induction items with
  | nil => rfl
  | cons item items ih =>
      rw [shown, List.filter_cons, List.map_cons, List.flatMap_cons]
      split
      · rw [List.map_cons, List.flatMap_cons]
        exact congrArg _ ih
      · next hidden =>
          have none : settings.itemValue item = none := by simpa using hidden
          have empty : (settings.line item).toList = [] := by simp [line, none]
          rw [empty, List.nil_append]
          exact ih

/-- What has no line is not set, so it has its default as well. -/
theorem onto_shown (settings : Settings) (items : List Item) :
    settings.onto defaults (Item.fields (settings.shown items)) =
      settings.onto defaults (Item.fields items) := by
  have kept (f : Field) (given : (settings.fieldValue f).isSome = true) :
      f ∈ Item.fields (settings.shown items) ↔ f ∈ Item.fields items := by
    rw [mem_fields, mem_fields, shown, List.mem_filter]
    exact and_iff_left given
  cases given : settings.timeout with
  | none =>
      simp only [onto, kept .script rfl, kept .interpreter rfl, kept .arguments rfl,
        kept .strategy rfl, kept .keyMode rfl, given]
      simp [defaults]
  | some seconds =>
      apply onto_congr
      intro f
      apply kept
      cases f
      all_goals simp [fieldValue, given]

/-- Any fields, in any order and among keys that are not known, are read as these fields, with the
defaults for the others. -/
theorem ofText_document (short : ∀ seconds ∈ settings.timeout, seconds < 2 ^ 63)
    (apart : (items.map Item.name).Nodup) :
    ofText (settings.document items) = .ok (settings.onto defaults (Item.fields items)) := by
  have shown_apart : ((settings.shown items).map Item.name).Nodup :=
    apart.sublist (List.filter_sublist.map Item.name)
  have written : ∀ item ∈ settings.shown items, (settings.itemValue item).isSome = true :=
    fun item member => (List.mem_filter.mp member).2
  rw [← document_shown, ofText_written short written shown_apart, onto_shown]

/-- The keys of fields need no quotes. -/
theorem keyText_name (f : Field) : String.ofList (keyText f.name) = f.name := by
  have bare : isBareKey f.name = true := by
    cases f
    all_goals decide +kernel
  rw [keyText, if_pos bare, String.ofList_toList]

theorem line_field (settings : Settings) (f : Field) :
    settings.line (.field f) = ((settings.fieldValue f).map (entryLine f.name)).getD "" := by
  simp only [line, Item.name, keyText_name, itemValue]

/-- The text of settings is the document of all fields. -/
theorem text_eq (settings : Settings) :
    settings.text = settings.document (allFields.map .field) := by
  apply String.toList_injective
  cases given : settings.timeout with
  | none => simp [text, document, allFields, line_field, fieldValue, Field.name, given]
  | some seconds => simp [text, document, allFields, line_field, fieldValue, Field.name, given]

theorem onto_allFields (settings base : Settings) : settings.onto base allFields = settings := by
  simp [onto, allFields]

/-- Settings are read as they are written. -/
theorem ofText_text (short : ∀ seconds ∈ settings.timeout, seconds < 2 ^ 63) :
    ofText settings.text = .ok settings := by
  have apart : ((allFields.map Item.field).map Item.name).Nodup := by decide +kernel
  have fields : Item.fields (allFields.map .field) = allFields := rfl
  rw [text_eq, ofText_document short apart, fields, onto_allFields]

end Settings

end ScriptRoster
