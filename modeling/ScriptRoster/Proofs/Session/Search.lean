import ScriptRoster.Proofs.Session.Spelling
import ScriptRoster.Proofs.Text.Lowercase

/-!
# Searching names

A name is found if the small letters of the query, without the white space around it, stand within
the small letters of the name. A query that stands within a name does so in small letters too, and a
query within a longer one finds all that the longer one finds, as long as the capital sigmas of the
query stand at the end of a word in it if and only if they do there: a capital sigma has one small
letter at the end of a word and another elsewhere, so one that ends the query is missed within a
word.
-/

namespace ScriptRoster

open Text Name

/-- A text begins and ends with something else than white space. -/
def SolidEnds (s : String) : Prop :=
  ∀ c, s.toList.head? = some c ∨ s.toList.getLast? = some c → isBlank c = false

theorem trim_eq_self {s : String} (solid : SolidEnds s) : trim s = s := by
  rw [trim_eq_iff]
  refine ⟨⟨[], [], ?_, ?_, (List.append_nil _).symm⟩, ?_, ?_⟩
  · exact fun c member => absurd member List.not_mem_nil
  · exact fun c member => absurd member List.not_mem_nil
  · intro some
    exact solid _ (.inl (List.head?_eq_some_head some))
  · intro some
    exact solid _ (.inr (List.getLast?_eq_some_getLast some))

theorem solidEnds_of_all {s : String} (solid : s.toList.all (!isBlank ·) = true) :
    SolidEnds s := by
  have each (c : Char) (member : c ∈ s.toList) : isBlank c = false := by
    simpa using List.all_eq_true.mp solid c member
  rintro c (first | last)
  · exact each c (List.mem_of_mem_head? first)
  · exact each c (List.mem_of_getLast? last)

namespace Session

variable {session : Session} {query wider name : String} {before after : List Char}

/-- Whether a query finds a name. -/
def finds (query name : String) : Bool :=
  (lowercase (trim query)).toList.isEmpty ||
    isWithin (lowercase (trim query)).toList (lowercase name).toList

theorem search_eq_filter (session : Session) (query : String) :
    session.search query = session.names.filter (finds query) := rfl

theorem finds_iff : finds query name = true ↔
    smallForms [] (trim query).toList <:+: smallForms [] name.toList := by
  rw [finds, Bool.or_eq_true, isWithin_iff, List.isEmpty_iff, lowercase, lowercase,
    String.toList_ofList, String.toList_ofList]
  constructor
  · rintro (empty | inside)
    · rw [empty]
      exact List.nil_infix
    · exact inside
  · exact .inr

/-- A query that stands within a text does so in small letters, if its sigmas stay what they are. -/
theorem within_of_keeps (split : name.toList = before ++ (query.toList ++ after))
    (keeps : KeepsWordEnds before query.toList after) :
    smallForms [] (trim query).toList <:+: smallForms [] name.toList := by
  obtain ⟨⟨lead, trail, leadBlank, trailBlank, whole⟩, -, -⟩ :=
    trim_eq_iff.mp (rfl : trim query = _)
  rw [whole] at keeps
  have inside := (keeps.trim leadBlank trailBlank).within
  rw [split, whole]
  simpa only [List.append_assoc] using inside

theorem mem_search_iff : name ∈ session.search query ↔
    name ∈ session.names ∧ smallForms [] (trim query).toList <:+: smallForms [] name.toList := by
  rw [search_eq_filter, List.mem_filter, finds_iff]

theorem search_of_alike {other : String} (alike : Alike other query) (session : Session) :
    session.search other = session.search query := by
  have folded : other.map Char.toLower = query.map Char.toLower :=
    beq_iff_eq.mp ((same_iff other query).mpr alike)
  have small : lowercase (trim other) = lowercase (trim query) := by
    rw [← lowercase_trim_map_toLower other, folded, lowercase_trim_map_toLower]
  rw [search, search, small]

theorem search_of_blank (blank : AreBlank query.toList) (session : Session) :
    session.search query = session.names := by
  rw [search_eq_filter, List.filter_eq_self]
  intro name member
  rw [finds_iff, trim_eq_empty_iff.mpr blank]
  exact List.nil_infix

/-- A wider query finds no more. -/
theorem search_sublist_search (split : wider.toList = before ++ (query.toList ++ after))
    (keeps : KeepsWordEnds before query.toList after) (solid : SolidEnds wider)
    (session : Session) : (session.search wider).Sublist (session.search query) := by
  rw [search_eq_filter, search_eq_filter]
  apply List.monotone_filter_right
  intro name found
  rw [finds_iff] at found ⊢
  rw [trim_eq_self solid] at found
  exact (within_of_keeps split keeps).trans found

end Session

open Session

/-- A search keeps or drops each name of the list as a whole, in the order of the list, by whether
the small letters of the query without the white space around it stand within those of the name. It
finds every name that the query stands within, and every query that stands within another one
without white space at its ends finds all that the other one finds, if each capital sigma of the
query stands at the end of a word in it if and only if it does there, as is so where the query has
no capital sigma. The size of ASCII letters in a query makes no difference, and a blank query finds
all names. -/
theorem parts_found (session : Session) (query : String) :
    ((session.search query).Sublist session.names ∧
      session.search query = session.names.filter (finds query)) ∧
    (∀ name, name ∈ session.search query ↔ name ∈ session.names ∧
      smallForms [] (trim query).toList <:+: smallForms [] name.toList) ∧
    (∀ name before after, name ∈ session.names → name.toList = before ++ (query.toList ++ after) →
      KeepsWordEnds before query.toList after →
      ∀ other, Alike other query → name ∈ session.search other) ∧
    (AreBlank query.toList → session.search query = session.names) ∧
    (∀ wider before after, wider.toList = before ++ (query.toList ++ after) →
      KeepsWordEnds before query.toList after → SolidEnds query → SolidEnds wider →
      (session.search wider).Sublist (session.search query)) ∧
    ('\u03a3' ∉ query.toList → ∀ before after, KeepsWordEnds before query.toList after) := by
  refine ⟨⟨List.filter_sublist, search_eq_filter session query⟩, fun name => mem_search_iff, ?_,
    fun blank => search_of_blank blank session, ?_, fun plain _ _ => keepsWordEnds_of_not_mem plain⟩
  · intro name before after member split keeps other alike
    rw [search_of_alike alike session]
    exact mem_search_iff.mpr ⟨member, within_of_keeps split keeps⟩
  · intro wider before after split keeps _ solid
    exact search_sublist_search split keeps solid session

/-- A session that lists some names. -/
def Session.naming (names : List String) : Session :=
  { Session.start (.ofSettings .defaults) with names }

theorem keepsWordEnds_capitals : KeepsWordEnds ['\u03a3'] ['\u0391', '\u03a3'] [] := by
  intro front back split
  match front with
  | [] => simp at split
  | [c] =>
      simp only [List.cons_append, List.nil_append, List.cons.injEq, true_and] at split
      obtain ⟨rfl, rfl⟩ := split
      decide +kernel
  | _ :: _ :: _ => simp at split

/-- A query that ends with a capital sigma finds the name that ends with it. -/
theorem parts_found_capitals :
    "\u03a3\u0391\u03a3" ∈ (Session.naming ["Get", "\u03a3\u0391\u03a3"]).names ∧
      KeepsWordEnds ['\u03a3'] "\u0391\u03a3".toList [] ∧ Alike "\u0391\u03a3" "\u0391\u03a3" ∧
      SolidEnds "\u0391\u03a3" ∧ SolidEnds "\u03a3\u0391\u03a3" ∧ AreBlank " ".toList ∧
      "\u03a3\u0391\u03a3" ∈ (Session.naming ["Get", "\u03a3\u0391\u03a3"]).search "\u0391\u03a3" ∧
      ((Session.naming ["Get", "\u03a3\u0391\u03a3"]).search "\u03a3\u0391\u03a3").Sublist
        ((Session.naming ["Get", "\u03a3\u0391\u03a3"]).search "\u0391\u03a3") ∧
      (Session.naming ["Get", "\u03a3\u0391\u03a3"]).search " " = ["Get", "\u03a3\u0391\u03a3"] ∧
      KeepsWordEnds ['G'] "et".toList [] := by
  have member : "\u03a3\u0391\u03a3" ∈ (Session.naming ["Get", "\u03a3\u0391\u03a3"]).names := by
    simp [Session.naming]
  have keeps : KeepsWordEnds ['\u03a3'] "\u0391\u03a3".toList [] := keepsWordEnds_capitals
  have alike : Alike "\u0391\u03a3" "\u0391\u03a3" := by simp [Alike, letterAlike_iff]
  have solid : SolidEnds "\u0391\u03a3" := solidEnds_of_all (by decide)
  have wide : SolidEnds "\u03a3\u0391\u03a3" := solidEnds_of_all (by decide)
  have blank : AreBlank " ".toList := by
    intro c member
    cases List.mem_singleton.mp member
    decide
  obtain ⟨-, -, found, -, narrowed, -⟩ :=
    parts_found (Session.naming ["Get", "\u03a3\u0391\u03a3"]) "\u0391\u03a3"
  obtain ⟨-, -, -, all, -, -⟩ := parts_found (Session.naming ["Get", "\u03a3\u0391\u03a3"]) " "
  obtain ⟨-, -, -, -, -, plain⟩ := parts_found (Session.naming ["Get", "\u03a3\u0391\u03a3"]) "et"
  exact ⟨member, keeps, alike, solid, wide, blank,
    found _ ['\u03a3'] [] member rfl keeps _ alike,
    narrowed _ ['\u03a3'] [] rfl keeps solid wide, all blank, plain (by decide) _ _⟩

/-- A query that stands within a word of a name is missed if it ends with a capital sigma, and finds
less than a longer query does. -/
theorem part_missed_at_sigma :
    "\u0391\u03a3".toList <:+: "\u0391\u03a3\u0391".toList ∧
      SolidEnds "\u0391\u03a3" ∧ SolidEnds "\u0391\u03a3\u0391" ∧
      "\u0391\u03a3\u0391" ∈ (Session.naming ["\u0391\u03a3\u0391"]).names ∧
      "\u0391\u03a3\u0391" ∉ (Session.naming ["\u0391\u03a3\u0391"]).search "\u0391\u03a3" ∧
      ¬ ((Session.naming ["\u0391\u03a3\u0391"]).search "\u0391\u03a3\u0391").Sublist
        ((Session.naming ["\u0391\u03a3\u0391"]).search "\u0391\u03a3") := by
  have solid : SolidEnds "\u0391\u03a3" := solidEnds_of_all (by decide)
  have wide : SolidEnds "\u0391\u03a3\u0391" := solidEnds_of_all (by decide)
  have member : "\u0391\u03a3\u0391" ∈ (Session.naming ["\u0391\u03a3\u0391"]).names := by
    simp [Session.naming]
  have apart : ¬ smallForms [] ['\u0391', '\u03a3'] <:+:
      smallForms [] ['\u0391', '\u03a3', '\u0391'] := by decide +kernel
  have missed : "\u0391\u03a3\u0391" ∉
      (Session.naming ["\u0391\u03a3\u0391"]).search "\u0391\u03a3" := by
    intro found
    have inside := (mem_search_iff.mp found).2
    rw [trim_eq_self solid] at inside
    exact apart inside
  have found : "\u0391\u03a3\u0391" ∈
      (Session.naming ["\u0391\u03a3\u0391"]).search "\u0391\u03a3\u0391" := by
    rw [mem_search_iff, trim_eq_self wide]
    exact ⟨member, List.infix_rfl⟩
  exact ⟨⟨[], ['\u0391'], rfl⟩, solid, wide, member, missed,
    fun narrowed => missed (narrowed.subset found)⟩

end ScriptRoster
