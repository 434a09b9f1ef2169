import Mathlib.Data.List.Basic
import Componentry.Route

/-!
# Paths and their segments

A path is read character by character, and what a colon means depends on what follows it.  The
segments that come out say the same as the path: they are put back together by `written`, and they
are exactly the lists in which every segment fits what follows it (`WellFormed`).

**Reading.**  `path_induction` goes over a path as reading does: in front is a parameter with its
whole part of the path, or one character of text.  `segments_parameter` and `segments_text` are the
two steps.

**Reading back.**  A text is read as a whole if none of its colons begins a parameter
(`segments_append_text`).
-/

namespace Componentry.Route

/-! ## Parts of a path -/

/-- A part of a path ends here: nothing follows, or a slash. -/
def PartEnds (path : List Char) : Prop :=
  ∀ c ∈ path.head?, c = '/'

@[simp]
lemma partEnds_nil : PartEnds [] := by
  simp [PartEnds]

@[simp]
lemma partEnds_cons {c : Char} {path : List Char} : PartEnds (c :: path) ↔ c = '/' := by
  simp [PartEnds]

lemma partEnds_append {text path : List Char} (h : text.head? = some '/') :
    PartEnds (text ++ path) := by
  obtain ⟨tail, rfl⟩ := List.head?_eq_some_iff.mp h
  simp

lemma partEnds_dropWhile (path : List Char) : PartEnds (path.dropWhile (fun c => !isSlash c)) := by
  induction path with
  | nil => simp
  | cons c path ih =>
      by_cases h : c = '/'
      · simp [h, isSlash]
      · rw [List.dropWhile_cons_of_pos (by simp [isSlash, h])]
        exact ih

lemma slash_notMem_takeWhile (path : List Char) : '/' ∉ path.takeWhile (fun c => !isSlash c) := by
  induction path with
  | nil => simp
  | cons c path ih =>
      by_cases h : c = '/'
      · simp [h, isSlash]
      · rw [List.takeWhile_cons_of_pos (by simp [isSlash, h]), List.mem_cons, not_or]
        exact ⟨Ne.symm h, ih⟩

lemma takeWhile_eq_nil_iff {path : List Char} :
    path.takeWhile (fun c => !isSlash c) = [] ↔ PartEnds path := by
  cases path with
  | nil => simp
  | cons c path => by_cases h : c = '/' <;> simp [h, isSlash]

lemma dropWhile_of_partEnds {path : List Char} (h : PartEnds path) :
    path.dropWhile (fun c => !isSlash c) = path := by
  cases path with
  | nil => rfl
  | cons c path => simp [partEnds_cons.mp h, isSlash]

lemma not_isSlash_of_mem {part : List Char} (hpart : '/' ∉ part) :
    ∀ c ∈ part, (!isSlash c) = true := by
  intro c hc
  simp [isSlash, ne_of_mem_of_not_mem hc hpart]

/-- The characters up to the end of a part are the part. -/
lemma takeWhile_part {part rest : List Char} (hpart : '/' ∉ part) (hrest : PartEnds rest) :
    (part ++ rest).takeWhile (fun c => !isSlash c) = part := by
  rw [List.takeWhile_append_of_pos (not_isSlash_of_mem hpart), takeWhile_eq_nil_iff.mpr hrest,
    List.append_nil]

lemma dropWhile_part {part rest : List Char} (hpart : '/' ∉ part) (hrest : PartEnds rest) :
    (part ++ rest).dropWhile (fun c => !isSlash c) = rest := by
  rw [List.dropWhile_append_of_pos (not_isSlash_of_mem hpart), dropWhile_of_partEnds hrest]

/-! ## Reading a path -/

/-- A character that begins no parameter is text. -/
lemma segments_text {c : Char} {path : List Char} (h : c = ':' → PartEnds path) :
    segments (c :: path) = pushChar c (segments path) := by
  rw [segments, if_neg]
  rintro ⟨hc, hname⟩
  exact hname (takeWhile_eq_nil_iff.mpr (h hc))

/-- A colon and the rest of its part are a parameter, unless that rest is empty. -/
lemma segments_parameter {name rest : List Char} (hne : name ≠ []) (hname : '/' ∉ name)
    (hrest : PartEnds rest) :
    segments (':' :: (name ++ rest)) = .parameter (String.ofList name) :: segments rest := by
  rw [segments, takeWhile_part hname hrest, dropWhile_part hname hrest, if_pos ⟨rfl, hne⟩]

/-- **Induction as a path is read.**  In front of a path is a parameter with its whole part, or a
    character of text: one that is no colon, or a colon that ends its part. -/
@[elab_as_elim]
theorem path_induction {motive : List Char → Prop} (nil : motive [])
    (parameter : ∀ name rest, name ≠ [] → '/' ∉ name → PartEnds rest → motive rest →
      motive (':' :: (name ++ rest)))
    (text : ∀ c path, (c = ':' → PartEnds path) → motive path → motive (c :: path))
    (path : List Char) : motive path := by
  induction path using segments.induct with
  | case1 => exact nil
  | case2 c rest name h ih =>
      have hsplit : rest = name ++ rest.dropWhile (fun d => !isSlash d) :=
        List.takeWhile_append_dropWhile.symm
      rw [h.1, hsplit]
      exact parameter _ _ h.2 (slash_notMem_takeWhile rest) (partEnds_dropWhile rest) ih
  | case3 c rest name h ih =>
      refine text c rest (fun hc => takeWhile_eq_nil_iff.mp ?_) ih
      by_contra hne
      exact h ⟨hc, hne⟩

/-! ## Segment lists that paths have -/

/-- A segment as it is written in a path. -/
def Segment.written : Segment → List Char
  | literal text => text.toList
  | parameter name => ':' :: name.toList

/-- The path that a segment list is read from. -/
def written (segments : List Segment) : List Char :=
  segments.flatMap Segment.written

@[simp]
lemma written_nil : written [] = [] := rfl

@[simp]
lemma written_literal {text : String} {rest : List Segment} :
    written (.literal text :: rest) = text.toList ++ written rest := rfl

@[simp]
lemma written_parameter {name : String} {rest : List Segment} :
    written (.parameter name :: rest) = ':' :: (name.toList ++ written rest) := rfl

/-- Segments that may follow a parameter: none, or a text that begins with a slash and whatever
follows it. -/
def EndsParameter (behind : List Segment) : Prop :=
  ∀ next ∈ behind.head?, ∃ text, next = .literal text ∧ text.toList.head? = some '/'

/-- What a segment asks of itself and of the segments behind it.

* A text is not empty, and no text follows it.  A colon in it has a slash right behind it, or ends
  the whole path.
* The name of a parameter is not empty and has no slash.  Nothing follows a parameter, or a text
  that begins with a slash. -/
def Segment.Fits : Segment → List Segment → Prop
  | literal text, behind =>
    text ≠ "" ∧ (∀ next, behind.head? ≠ some (literal next))
      ∧ text.toList.IsChain (fun c next => c = ':' → next = '/')
      ∧ (text.toList.getLast? = some ':' → behind = [])
  | parameter name, behind =>
    name ≠ "" ∧ '/' ∉ name.toList ∧ EndsParameter behind

/-- Every segment fits what follows it. -/
def WellFormed : List Segment → Prop
  | [] => True
  | segment :: behind => segment.Fits behind ∧ WellFormed behind

lemma partEnds_written {behind : List Segment} (h : EndsParameter behind) :
    PartEnds (written behind) := by
  cases behind with
  | nil => simp
  | cons next rest =>
      obtain ⟨text, rfl, hslash⟩ := h next rfl
      exact partEnds_append hslash

/-! ## Segments of a path -/

lemma written_pushChar {c : Char} {segments : List Segment} :
    written (pushChar c segments) = c :: written segments := by
  unfold pushChar
  split <;> simp

/-- The segments of a path give it back. -/
lemma written_segments (path : List Char) : written (segments path) = path := by
  induction path using path_induction with
  | nil => simp [segments]
  | parameter name rest hne hname hrest ih =>
      rw [segments_parameter hne hname hrest, written_parameter, ih, String.toList_ofList]
  | text c path hc ih => rw [segments_text hc, written_pushChar, ih]

/-- What is read from the end of a part may follow a parameter. -/
lemma endsParameter_segments {path : List Char} (h : PartEnds path) :
    EndsParameter (segments path) := by
  cases path with
  | nil => simp [segments, EndsParameter]
  | cons c path =>
      obtain rfl := partEnds_cons.mp h
      rw [segments_text (fun hc => absurd hc (by decide))]
      unfold pushChar
      split <;> simp [EndsParameter]

/-- A character of text may stand in front of segments unless it is a colon that would begin a
parameter. -/
lemma wellFormed_pushChar {c : Char} {segments : List Segment}
    (hc : c = ':' → PartEnds (written segments)) (h : WellFormed segments) :
    WellFormed (pushChar c segments) := by
  cases segments with
  | nil => simp [pushChar, WellFormed, Segment.Fits]
  | cons segment behind =>
      cases segment with
      | parameter name =>
          have hcolon : c ≠ ':' := by
            intro hcolon
            exact absurd (hc hcolon) (by simp)
          refine ⟨⟨?_, ?_, ?_, ?_⟩, h⟩ <;> simp [hcolon]
      | literal text =>
          obtain ⟨⟨hne, hnext, hchain, hlast⟩, hbehind⟩ := h
          obtain ⟨d, tail, htext⟩ := List.exists_cons_of_ne_nil (mt String.toList_eq_nil_iff.mp hne)
          rw [written_literal] at hc
          simp only [htext, List.cons_append, partEnds_cons] at hc hchain hlast
          refine ⟨⟨?_, hnext, ?_, ?_⟩, hbehind⟩
          · simp
          · rw [String.toList_ofList, htext, List.isChain_cons_cons]
            exact ⟨hc, hchain⟩
          · rw [String.toList_ofList, htext, List.getLast?_cons_cons]
            exact hlast

/-- Every segment of a path fits what follows it. -/
lemma wellFormed_segments (path : List Char) : WellFormed (segments path) := by
  induction path using path_induction with
  | nil => simp [segments, WellFormed]
  | parameter name rest hne hname hrest ih =>
      rw [segments_parameter hne hname hrest]
      refine ⟨⟨?_, ?_, endsParameter_segments hrest⟩, ih⟩
      · simpa using hne
      · simpa using hname
  | text c path hc ih =>
      rw [segments_text hc]
      refine wellFormed_pushChar ?_ ih
      rwa [written_segments]

/-- **A text in front of a path.**  If none of its colons begins a parameter and no text follows, it
    is read as one segment.  Induction on the text; the colon that may end it is the last step. -/
lemma segments_append_text {text path : List Char} (hne : text ≠ [])
    (hnext : ∀ next, (segments path).head? ≠ some (.literal next))
    (hchain : text.IsChain (fun c next => c = ':' → next = '/'))
    (hlast : text.getLast? = some ':' → path = []) :
    segments (text ++ path) = .literal (String.ofList text) :: segments path := by
  induction text with
  | nil => exact absurd rfl hne
  | cons c text ih =>
      cases text with
      | nil =>
          rw [List.singleton_append, segments_text]
          · unfold pushChar
            split
            · rename_i next rest heq
              exact absurd (by rw [heq]; rfl) (hnext next)
            · rfl
          · rintro rfl
            rw [hlast rfl]
            exact partEnds_nil
      | cons d text =>
          obtain ⟨hcd, hrest⟩ := List.isChain_cons_cons.mp hchain
          rw [List.getLast?_cons_cons] at hlast
          rw [List.cons_append, segments_text (fun hc => by simpa using hcd hc),
            ih (by simp) hrest hlast]
          simp [pushChar]

/-- A list in which every segment fits is read back from what it writes. -/
lemma segments_written {segments : List Segment} (h : WellFormed segments) :
    Route.segments (written segments) = segments := by
  induction segments with
  | nil => simp [Route.segments]
  | cons segment behind ih =>
      obtain ⟨hfits, hbehind⟩ := h
      cases segment with
      | literal text =>
          obtain ⟨hne, hnext, hchain, hlast⟩ := hfits
          rw [written_literal, segments_append_text, ih hbehind, String.ofList_toList]
          · exact mt String.toList_eq_nil_iff.mp hne
          · rwa [ih hbehind]
          · exact hchain
          · intro hcolon
            rw [hlast hcolon, written_nil]
      | parameter name =>
          obtain ⟨hne, hslash, hnext⟩ := hfits
          rw [written_parameter, segments_parameter (mt String.toList_eq_nil_iff.mp hne) hslash
            (partEnds_written hnext), ih hbehind, String.ofList_toList]

/-- **Paths are the well-formed segment lists.**  Every path is parsed into a list in which each
    segment fits what follows it, and which writes the path; and every such list is what the path it
    writes is parsed into. -/
theorem parse_bijection :
    (∀ path, String.ofList (written (Pattern.parse path).segments) = path
      ∧ WellFormed (Pattern.parse path).segments)
    ∧ ∀ segments, WellFormed segments →
      (Pattern.parse (String.ofList (written segments))).segments = segments := by
  refine ⟨fun path => ⟨?_, wellFormed_segments path.toList⟩, fun segments h => ?_⟩
  · rw [Pattern.parse, written_segments, String.ofList_toList]
  · rw [Pattern.parse, String.toList_ofList, segments_written h]

/-- Colons in all places: one that ends its part, one in a name, and one that ends the path. -/
theorem parse_bijection_colons :
    WellFormed [.literal "/:/a", .parameter "x:y", .literal "/b:"]
    ∧ (Pattern.parse "/:/a:x:y/b:").segments
      = [.literal "/:/a", .parameter "x:y", .literal "/b:"] := by
  have hfits : WellFormed [.literal "/:/a", .parameter "x:y", .literal "/b:"] := by
    simp [WellFormed, Segment.Fits, EndsParameter]
  exact ⟨hfits, parse_bijection.2 _ hfits⟩

end Componentry.Route
