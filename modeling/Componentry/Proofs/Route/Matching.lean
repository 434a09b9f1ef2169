import Mathlib.Data.List.Basic
import Componentry.Proofs.Route.Regex
import Componentry.Proofs.Route.Segments
import Componentry.Proofs.Text.Mention

/-!
# Paths that a route matches

What it is for a path to match a route, said without a matcher: there are values for the parameters,
each a part of a path, and the route becomes the path when they are put in (`Fills`).

The matcher takes for every parameter all characters up to the next slash and never tries less.
That is enough because the segments of a route are well formed: whatever follows a parameter begins
with a slash (`partEnds_of_fills`).  So there is at most one choice of values.  The regular
expression of the route does not need this: what it matches is what `Fills` says, group by group
(`matches_items_iff`).
-/

namespace Componentry.Route

/-- The path that segments become with values in place of the parameters, in order. -/
def filled : List Segment → List String → List Char
  | [], _ => []
  | .literal text :: rest, values => text.toList ++ filled rest values
  | .parameter _ :: rest, value :: values => value.toList ++ filled rest values
  | .parameter _ :: rest, [] => filled rest []

/-- Segments become a path by these values: one for each parameter, each of them a part of a
path. -/
structure Fills (segments : List Segment) (values : List String) (path : List Char) : Prop where
  count : values.length = (segments.filterMap Segment.parameter?).length
  value_ne : ∀ value ∈ values, value ≠ ""
  slashFree : ∀ value ∈ values, '/' ∉ value.toList
  filled_eq : filled segments values = path

/-! ## Segment by segment -/

lemma fills_nil {values : List String} {path : List Char} :
    Fills [] values path ↔ values = [] ∧ path = [] := by
  constructor
  · rintro ⟨hcount, -, -, rfl⟩
    exact ⟨List.length_eq_zero_iff.mp hcount, rfl⟩
  · rintro ⟨rfl, rfl⟩
    exact ⟨rfl, by simp, by simp, rfl⟩

lemma fills_literal {text : String} {rest : List Segment} {values : List String}
    {path : List Char} :
    Fills (.literal text :: rest) values path
      ↔ ∃ behind, path = text.toList ++ behind ∧ Fills rest values behind := by
  constructor
  · rintro ⟨hcount, hne, hslash, rfl⟩
    exact ⟨filled rest values, rfl, hcount, hne, hslash, rfl⟩
  · rintro ⟨behind, rfl, hcount, hne, hslash, rfl⟩
    exact ⟨hcount, hne, hslash, rfl⟩

lemma fills_parameter {name : String} {rest : List Segment} {values : List String}
    {path : List Char} :
    Fills (.parameter name :: rest) values path
      ↔ ∃ value others behind, values = value :: others ∧ path = value.toList ++ behind
        ∧ value ≠ "" ∧ '/' ∉ value.toList ∧ Fills rest others behind := by
  constructor
  · rintro ⟨hcount, hne, hslash, rfl⟩
    cases values with
    | nil => exact absurd hcount (by simp [Segment.parameter?])
    | cons value others =>
        rw [List.forall_mem_cons] at hne hslash
        refine ⟨value, others, filled rest others, rfl, rfl, hne.1, hslash.1, ?_, hne.2, hslash.2,
          rfl⟩
        simpa [Segment.parameter?] using hcount
  · rintro ⟨value, others, behind, rfl, rfl, hne, hslash, hcount, hnes, hslashes, rfl⟩
    refine ⟨?_, List.forall_mem_cons.mpr ⟨hne, hnes⟩, List.forall_mem_cons.mpr ⟨hslash, hslashes⟩,
      rfl⟩
    simpa [Segment.parameter?] using hcount

/-- What stands in a path behind the value of a parameter. -/
lemma partEnds_of_fills {behind : List Segment} {values : List String} {path : List Char}
    (hnext : EndsParameter behind) (h : Fills behind values path) : PartEnds path := by
  cases behind with
  | nil =>
      rw [(fills_nil.mp h).2]
      exact partEnds_nil
  | cons next rest =>
      obtain ⟨text, rfl, hslash⟩ := hnext next rfl
      obtain ⟨path, rfl, -⟩ := fills_literal.mp h
      exact partEnds_append hslash

/-! ## The matcher -/

/-- **The matcher finds the values, if there are any.**  Induction on the segments; that they are
    well formed is used behind a parameter. -/
lemma values?_eq_some_iff {segments : List Segment} (hform : WellFormed segments)
    {path : List Char} {values : List String} :
    values? segments path = some values ↔ Fills segments values path := by
  induction segments generalizing path values with
  | nil =>
      rw [fills_nil]
      cases path <;> simp [values?, eq_comm]
  | cons segment rest ih =>
      obtain ⟨hfits, hrest⟩ := hform
      cases segment with
      | literal text =>
          rw [fills_literal, values?]
          simp only [Option.bind_eq_bind, Option.bind_eq_some_iff, Text.after?_eq_some, ih hrest]
      | parameter name =>
          rw [fills_parameter, values?]
          constructor
          · intro h
            split_ifs at h with hempty
            obtain ⟨others, hothers, rfl⟩ := Option.map_eq_some_iff.mp h
            refine ⟨_, others, _, rfl, ?_, ?_, ?_, (ih hrest).mp hothers⟩
            · rw [String.toList_ofList, List.takeWhile_append_dropWhile]
            · simpa using hempty
            · simpa using slash_notMem_takeWhile path
          · rintro ⟨value, others, behind, rfl, rfl, hne, hslash, hfills⟩
            have hends := partEnds_of_fills hfits.2.2 hfills
            rw [takeWhile_part hslash hends, dropWhile_part hslash hends, (ih hrest).mpr hfills]
            simp [hne]

/-- Texts alone become what they write. -/
lemma fills_of_literals {segments : List Segment} (hall : segments.all Segment.isLiteral = true)
    {values : List String} {path : List Char} :
    Fills segments values path ↔ values = [] ∧ path = written segments := by
  induction segments generalizing path with
  | nil => rw [fills_nil, written_nil]
  | cons segment rest ih =>
      rw [List.all_cons, Bool.and_eq_true] at hall
      cases segment with
      | parameter name => exact absurd hall.1 (by simp [Segment.isLiteral, Segment.parameter?])
      | literal text =>
          rw [fills_literal, written_literal]
          simp only [ih hall.2]
          constructor
          · rintro ⟨behind, rfl, hvalues, rfl⟩
            exact ⟨hvalues, rfl⟩
          · rintro ⟨hvalues, rfl⟩
            exact ⟨written rest, rfl, hvalues, rfl⟩

/-- A route without parameters becomes no other path. -/
lemma fills_of_static {route path : String} (hstatic : (Pattern.parse route).isStatic = true)
    {values : List String} :
    Fills (Pattern.parse route).segments values path.toList ↔ values = [] ∧ path = route := by
  rw [fills_of_literals hstatic, Pattern.parse, written_segments, String.toList_inj]

/-- The two ways of matching are one: a route without parameters is compared with the path, any
    other goes segment by segment, and what they find is what the values say. -/
lemma match?_parse_eq_some_iff {route path : String} {parameters : Parameters} :
    (Pattern.parse route).match? path = some parameters
      ↔ ∃ values, Fills (Pattern.parse route).segments values path.toList
        ∧ parameters = ⟨(Pattern.parse route).parameterNames.zip values⟩ := by
  unfold Pattern.match?
  split_ifs with hstatic hpath
  · obtain rfl : route = path := hpath
    simp only [fills_of_static hstatic, exists_eq_left, and_true, List.zip_nil_right,
      Option.some.injEq, eq_comm]
  · have hne : path ≠ route := Ne.symm hpath
    simp only [fills_of_static hstatic, hne, and_false, false_and, exists_false]
  · rw [Option.map_eq_some_iff]
    simp only [values?_eq_some_iff (wellFormed_segments _), Pattern.parse, eq_comm]

/-! ## The regular expression -/

/-- What the items of segments match is what the segments become. -/
lemma matches_items_iff {segments : List Segment} {path : List Char} {values : List String} :
    Matches (segments.flatMap Segment.items) path values ↔ Fills segments values path := by
  induction segments generalizing path values with
  | nil => rw [List.flatMap_nil, matches_nil, fills_nil]
  | cons segment rest ih =>
      rw [List.flatMap_cons]
      cases segment with
      | literal text =>
          rw [Segment.items, matches_chars, fills_literal]
          simp only [ih]
      | parameter name =>
          rw [Segment.items, List.singleton_append, matches_part, fills_parameter]
          simp only [ih]

/-- **A route matches the paths that it becomes.**  For every route and every path:

* the path matches if and only if there are values, one for each parameter and each a part of a
  path, by which the route becomes the path;
* such values are then the only ones, and the match pairs them with the names of the parameters, in
  order;
* the regular expression of the route can be read, and matches the same paths with the same
  values. -/
theorem match_iff_filled (route path : String) :
    (((Pattern.parse route).match? path).isSome = true
      ↔ ∃ values, Fills (Pattern.parse route).segments values path.toList)
    ∧ (∀ values, Fills (Pattern.parse route).segments values path.toList →
      (Pattern.parse route).match? path = some ⟨(Pattern.parse route).parameterNames.zip values⟩
      ∧ ∀ others, Fills (Pattern.parse route).segments others path.toList → others = values)
    ∧ ∃ items, readRegex (Pattern.parse route).regex = some items
      ∧ ∀ values, Matches items path.toList values
        ↔ Fills (Pattern.parse route).segments values path.toList := by
  refine ⟨?_, ?_, _, read_regex _, fun values => matches_items_iff⟩
  · rw [Option.isSome_iff_exists]
    constructor
    · rintro ⟨parameters, hmatch⟩
      obtain ⟨values, hfills, -⟩ := match?_parse_eq_some_iff.mp hmatch
      exact ⟨values, hfills⟩
    · rintro ⟨values, hfills⟩
      exact ⟨_, match?_parse_eq_some_iff.mpr ⟨values, hfills, rfl⟩⟩
  · intro values hfills
    refine ⟨match?_parse_eq_some_iff.mpr ⟨values, hfills, rfl⟩, fun others hothers => ?_⟩
    -- the matcher finds both
    have hform := wellFormed_segments route.toList
    have hfound := (values?_eq_some_iff hform).mpr hfills
    rw [(values?_eq_some_iff hform).mpr hothers] at hfound
    exact Option.some.inj hfound

/-- A parameter in the middle of a part, an operator in a text, and a line break as a value. -/
theorem match_iff_filled_dotted :
    Fills (Pattern.parse "/a.b:x/:y").segments ["c+d", "\n"] "/a.bc+d/\n".toList
    ∧ (Pattern.parse "/a.b:x/:y").match? "/a.bc+d/\n" = some ⟨[("x", "c+d"), ("y", "\n")]⟩ := by
  have hform : WellFormed [.literal "/a.b", .parameter "x", .literal "/", .parameter "y"] := by
    simp [WellFormed, Segment.Fits, EndsParameter]
  have hsegments : (Pattern.parse "/a.b:x/:y").segments
      = [.literal "/a.b", .parameter "x", .literal "/", .parameter "y"] := segments_written hform
  have hfills : Fills (Pattern.parse "/a.b:x/:y").segments ["c+d", "\n"] "/a.bc+d/\n".toList := by
    rw [hsegments]
    exact ⟨rfl, by decide, by decide, by decide⟩
  have hmatch := ((match_iff_filled _ _).2.1 _ hfills).1
  rw [Pattern.parameterNames, hsegments] at hmatch
  exact ⟨hfills, hmatch⟩

end Componentry.Route
