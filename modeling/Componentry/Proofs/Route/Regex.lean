import Mathlib.Data.List.Basic
import Componentry.Route

/-!
# Regular expressions of routes

The regular expressions that routes are turned into are read back here, by a reader that knows
nothing of routes.  It takes a small part of the language: anchors at both ends, characters that
stand for themselves, and the group that takes one part of a path.  Everything else is refused, so
what is read means just what `Matches` says.

`read_regex` says that the expression of every pattern is read, and as what: its texts character by
character, and a group for each parameter.
-/

namespace Componentry.Route

/-- An item of a regular expression. -/
inductive Item where
  | char (c : Char)
  /-- The group that takes one part of a path. -/
  | part
deriving DecidableEq, Repr

/-- The characters that are operators unless they are escaped. -/
def operators : List Char :=
  ['\\', '.', '+', '*', '?', '(', ')', '|', '[', ']', '{', '}', '^', '$']

/-- The characters that an escape makes stand for themselves.  The last four are operators in some
places only. -/
def escapable : List Char :=
  operators ++ ['#', '&', '-', '~']

/-- Reads items up to the anchor at the end. -/
def readItems : List Char → Option (List Item)
  | ['$'] => some []
  | '\\' :: c :: rest => if c ∈ escapable then (readItems rest).map (.char c :: ·) else none
  | '(' :: '[' :: '^' :: '/' :: ']' :: '+' :: ')' :: rest => (readItems rest).map (.part :: ·)
  | c :: rest => if c ∈ operators then none else (readItems rest).map (.char c :: ·)
  | [] => none

/-- Reads a regular expression that is anchored at both ends. -/
def readRegex (source : String) : Option (List Item) :=
  match source.toList with
  | '^' :: rest => readItems rest
  | _ => none

/-- A whole path matches items, and the groups take these values. -/
inductive Matches : List Item → List Char → List String → Prop
  | nil : Matches [] [] []
  | char {c items path values} (h : Matches items path values) :
      Matches (.char c :: items) (c :: path) values
  | part {value items path values} (hne : value ≠ []) (hslash : '/' ∉ value)
      (h : Matches items path values) :
      Matches (.part :: items) (value ++ path) (String.ofList value :: values)

lemma matches_nil {path : List Char} {values : List String} :
    Matches [] path values ↔ values = [] ∧ path = [] := by
  constructor
  · intro h
    cases h
    exact ⟨rfl, rfl⟩
  · rintro ⟨rfl, rfl⟩
    exact .nil

lemma matches_chars {text : List Char} {items : List Item} {path : List Char}
    {values : List String} :
    Matches (text.map .char ++ items) path values
      ↔ ∃ behind, path = text ++ behind ∧ Matches items behind values := by
  induction text generalizing path with
  | nil => simp
  | cons c text ih =>
      rw [List.map_cons, List.cons_append]
      constructor
      · intro h
        cases h with
        | char h =>
            obtain ⟨behind, rfl, hbehind⟩ := ih.mp h
            exact ⟨behind, rfl, hbehind⟩
      · rintro ⟨behind, rfl, hbehind⟩
        exact .char (ih.mpr ⟨behind, rfl, hbehind⟩)

lemma matches_part {items : List Item} {path : List Char} {values : List String} :
    Matches (.part :: items) path values
      ↔ ∃ value others behind, values = value :: others ∧ path = value.toList ++ behind
        ∧ value ≠ "" ∧ '/' ∉ value.toList ∧ Matches items behind others := by
  constructor
  · intro h
    cases h with
    | @part value _ behind others hne hslash h =>
        refine ⟨String.ofList value, others, behind, rfl, ?_, ?_, ?_, h⟩
        · rw [String.toList_ofList]
        · simpa using hne
        · rwa [String.toList_ofList]
  · rintro ⟨value, others, behind, rfl, rfl, hne, hslash, h⟩
    have hpart := Matches.part (mt String.toList_eq_nil_iff.mp hne) hslash h
    rwa [String.ofList_toList] at hpart

/-- The items that a segment becomes. -/
def Segment.items : Segment → List Item
  | literal text => text.toList.map .char
  | parameter _ => [.part]

/-- A character that is no operator is read as itself. -/
lemma readItems_plain {c : Char} {rest : List Char} (hc : c ∉ operators) :
    readItems (c :: rest) = (readItems rest).map (.char c :: ·) := by
  rw [readItems.eq_4, if_neg hc]
  all_goals
    intros
    subst c
    exact hc (by decide)

/-- An escaped text is read character by character. -/
lemma readItems_regexEscape (text rest : List Char) :
    readItems (regexEscape text ++ rest) = (readItems rest).map (text.map .char ++ ·) := by
  induction text with
  | nil => simp [regexEscape]
  | cons c text ih =>
      rw [regexEscape, List.flatMap_cons, List.append_assoc, ← regexEscape, List.map_cons]
      split_ifs with hmark
      · have hc : c ∈ escapable := List.contains_iff_mem.mp hmark
        rw [List.cons_append, List.singleton_append, readItems, if_pos hc, ih, Option.map_map]
        rfl
      · have hc : c ∉ operators := by
          intro hop
          exact hmark (List.contains_iff_mem.mpr (List.mem_append_left ['#', '&', '-', '~'] hop))
        rw [List.singleton_append, readItems_plain hc, ih, Option.map_map]
        rfl

/-- The expression of a segment is read as its items. -/
lemma readItems_segment (segment : Segment) (rest : List Char) :
    readItems (segment.regex.toList ++ rest) = (readItems rest).map (segment.items ++ ·) := by
  cases segment with
  | literal text => rw [Segment.regex, String.toList_ofList, readItems_regexEscape, Segment.items]
  | parameter name =>
      have hgroup : parameterGroup.toList = ['(', '[', '^', '/', ']', '+', ')'] := by decide
      simp only [Segment.regex, hgroup, List.cons_append, List.nil_append, readItems, Segment.items]

lemma readItems_segments (segments : List Segment) :
    readItems (segments.flatMap (fun segment => segment.regex.toList) ++ ['$'])
      = some (segments.flatMap Segment.items) := by
  induction segments with
  | nil => rfl
  | cons segment rest ih =>
      rw [List.flatMap_cons, List.append_assoc, readItems_segment, ih]
      rfl

/-- **The expression of a pattern is read.**  Its texts are read as their characters, and its
    parameters as groups: no text is taken for an operator. -/
lemma read_regex (pattern : Pattern) :
    readRegex pattern.regex = some (pattern.segments.flatMap Segment.items) := by
  have hsource : pattern.regex.toList
      = '^' :: (pattern.segments.flatMap (fun segment => segment.regex.toList) ++ ['$']) := by
    simp [Pattern.regex, String.toList_join, List.flatMap_map]
  rw [readRegex, hsource]
  exact readItems_segments pattern.segments

end Componentry.Route
