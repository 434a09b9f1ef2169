import Mathlib.Data.List.Induction
import Mathlib.Data.Prod.Lex
import Componentry.Proofs.Script.Scanning

/-!
# Positions number a source

An offset is told as a line and a column, by two counts: the line feeds before it, and the
characters since the last of them.  This file says what the two amount to together.

**Offsets.**  An offset counts bytes, so it may lie inside a character or behind the end.
`LiesBefore` says which characters are before it all the same, in words of the string itself; there
is always exactly one answer (`liesBefore_iff`).

**Walking.**  `Position.walk` goes over a text character by character.  `Position.walk_eq` says that
the two counts give the place it comes to.

**Order.**  A single step leads to a later position, on the same line or on the next
(`Position.key_lt_after`), and so does every way that is not empty.  So offsets between characters
keep their order when they are told as positions.
-/

namespace Componentry

namespace Text

/-! ## Offsets -/

lemma size_toList (text : String) : size text.toList = text.utf8ByteSize := by
  have hsize : ∀ chars : List Char, size chars = (String.ofList chars).utf8ByteSize := by
    intro chars
    induction chars with
    | nil => rfl
    | cons c chars ih =>
        rw [size, ih, String.ofList_cons, String.utf8ByteSize_append, String.utf8ByteSize_singleton]
  rw [hsize, String.ofList_toList]

/-- `front` is what lies before an offset of a source: a beginning that fits into so many bytes,
whose next character does not fit any more. -/
def LiesBefore (source : String) (offset : Nat) (front : String) : Prop :=
  ∃ rest, source = front ++ rest ∧ front.utf8ByteSize ≤ offset
    ∧ ∀ c ∈ rest.toList.head?, offset < front.utf8ByteSize + c.utf8Size

lemma before_append_behind (text : List Char) (offset : Nat) :
    before text offset ++ behind text offset = text := by
  induction text generalizing offset with
  | nil => rfl
  | cons c rest ih =>
      rw [before, behind]
      split_ifs with hfits
      · rw [List.cons_append, ih]
      · rfl

lemma size_before_le (text : List Char) (offset : Nat) : size (before text offset) ≤ offset := by
  induction text generalizing offset with
  | nil => exact Nat.zero_le _
  | cons c rest ih =>
      rw [before]
      split_ifs with hfits
      · have hrest := ih (offset - c.utf8Size)
        rw [size]
        omega
      · exact Nat.zero_le _

/-- The first character that is not before an offset does not fit in front of it. -/
lemma lt_of_mem_behind {text : List Char} {offset : Nat} {c : Char}
    (h : c ∈ (behind text offset).head?) :
    offset < size (before text offset) + c.utf8Size := by
  induction text generalizing offset with
  | nil => simp [behind] at h
  | cons d rest ih =>
      rw [behind] at h
      rw [before]
      split_ifs at h ⊢ with hfits
      · have hrest := ih h
        rw [size]
        omega
      · obtain rfl : d = c := Option.some.inj h
        rw [size]
        omega

/-- Something lies before every offset, and there is only one way to say what. -/
lemma liesBefore_iff {source front : String} {offset : Nat} :
    LiesBefore source offset front ↔ front = String.ofList (before source.toList offset) := by
  constructor
  · rintro ⟨rest, rfl, hfits, hnext⟩
    rw [← size_toList] at hfits hnext
    rw [String.toList_append, before_of_fits hfits hnext, String.ofList_toList]
  · rintro rfl
    refine ⟨String.ofList (behind source.toList offset), ?_, ?_, ?_⟩
    · rw [← String.ofList_append, before_append_behind, String.ofList_toList]
    · rw [← size_toList, String.toList_ofList]
      exact size_before_le _ _
    · rw [← size_toList, String.toList_ofList, String.toList_ofList]
      exact fun c hc => lt_of_mem_behind hc

/-- Offsets between characters: the beginning up to there lies before them. -/
lemma liesBefore_append (front rest : String) :
    LiesBefore (front ++ rest) front.utf8ByteSize front :=
  ⟨rest, rfl, Nat.le_refl _, fun c _ => Nat.lt_add_of_pos_right c.utf8Size_pos⟩

/-- An offset inside a character is as good as the one in front of it. -/
lemma liesBefore_inside {front rest : String} {c : Char} {offset : Nat}
    (hfront : front.utf8ByteSize ≤ offset) (hinside : offset < front.utf8ByteSize + c.utf8Size) :
    LiesBefore (front ++ String.singleton c ++ rest) offset front := by
  refine ⟨String.singleton c ++ rest, String.append_assoc, hfront, fun d hd => ?_⟩
  obtain rfl : c = d := by simpa using hd
  exact hinside

/-- All of a source lies before an offset behind its end. -/
lemma liesBefore_of_le {source : String} {offset : Nat} (h : source.utf8ByteSize ≤ offset) :
    LiesBefore source offset source :=
  ⟨"", by simp, h, by simp⟩

end Text

namespace Position

open Text

/-! ## Walking -/

/-- The position behind a text, reached from the start character by character. -/
def walk (text : List Char) : Position := text.foldl after start

lemma walk_append (front piece : List Char) :
    walk (front ++ piece) = piece.foldl after (walk front) :=
  List.foldl_append

/-- **The two counts are the place that walking comes to.** -/
lemma walk_eq (text : List Char) :
    walk text = ⟨text.count '\n' + 1, (text.reverse.takeWhile (· != '\n')).length + 1⟩ := by
  -- From the back: the column counts back from the last character.
  induction text using List.reverseRecOn with
  | nil => rfl
  | append_singleton text c ih =>
      rw [walk_append, ih, List.foldl_cons, List.foldl_nil, after, List.count_append,
        List.reverse_append, List.reverse_singleton, List.singleton_append]
      split_ifs with hbreak
      · subst hbreak
        simp
      · simp [hbreak]

lemma ofOffset_eq_walk {source front : String} {offset : Nat} (h : LiesBefore source offset front) :
    ofOffset source.toList offset = walk front.toList := by
  rw [liesBefore_iff.mp h, String.toList_ofList, walk_eq]
  rfl

/-! ## Order -/

/-- A position by its place in reading order: first the line, then the column. -/
def key (position : Position) : ℕ ×ₗ ℕ := toLex (position.line, position.column)

/-- One step leads to a later position. -/
lemma key_lt_after (position : Position) (c : Char) : position.key < (position.after c).key := by
  rw [after]
  split_ifs with hbreak
  · exact Prod.Lex.toLex_lt_toLex.mpr (.inl (Nat.lt_succ_self _))
  · exact Prod.Lex.toLex_lt_toLex.mpr (.inr ⟨rfl, Nat.lt_succ_self _⟩)

/-- So does every way that is not empty. -/
lemma key_lt_foldl {piece : List Char} (h : piece ≠ []) (position : Position) :
    position.key < (piece.foldl after position).key := by
  induction piece generalizing position with
  | nil => exact absurd rfl h
  | cons c piece ih =>
      rw [List.foldl_cons]
      rcases eq_or_ne piece [] with rfl | hmore
      · exact key_lt_after position c
      · exact (key_lt_after position c).trans (ih hmore _)

/-- Of two beginnings of a source, the shorter one is a beginning of the longer one. -/
lemma exists_piece {front other rest behind : String} (h : front ++ rest = other ++ behind)
    (hlt : front.utf8ByteSize < other.utf8ByteSize) :
    ∃ piece, piece ≠ [] ∧ other.toList = front.toList ++ piece := by
  rw [← size_toList, ← size_toList] at hlt
  rw [← String.toList_inj, String.toList_append, String.toList_append] at h
  rcases List.append_eq_append_iff.mp h with ⟨piece, hother, -⟩ | ⟨piece, hfront, -⟩
  · refine ⟨piece, ?_, hother⟩
    rintro rfl
    rw [hother, List.append_nil] at hlt
    exact absurd hlt (Nat.lt_irrefl _)
  · -- the longer one cannot end before the shorter one does
    rw [hfront, size_append] at hlt
    omega

lemma key_ofOffset_lt {source : String} {i j : Nat} (hi : String.Pos.Raw.IsValid source ⟨i⟩)
    (hj : String.Pos.Raw.IsValid source ⟨j⟩) (h : i < j) :
    (ofOffset source.toList i).key < (ofOffset source.toList j).key := by
  obtain ⟨front, rest, rfl, hfront⟩ := String.Pos.Raw.isValid_iff_exists_append.mp hi
  obtain ⟨other, behind, hsource, hother⟩ := String.Pos.Raw.isValid_iff_exists_append.mp hj
  obtain rfl : i = front.utf8ByteSize := congrArg String.Pos.Raw.byteIdx hfront
  obtain rfl : j = other.utf8ByteSize := congrArg String.Pos.Raw.byteIdx hother
  obtain ⟨piece, hpiece, hlonger⟩ := exists_piece hsource h
  have hfrom := ofOffset_eq_walk (liesBefore_append front rest)
  have hto := ofOffset_eq_walk (hsource ▸ liesBefore_append other behind)
  rw [hfrom, hto, hlonger, walk_append]
  exact key_lt_foldl hpiece _

/-- **Positions number a source in its order.**  For every source:

* before every offset lies exactly one beginning of the source, and the position of the offset is
  the one that walking over that beginning comes to;
* an offset inside a character has the position of the start of the character, and one behind the
  end that of the end;
* of two places between characters the earlier one has the smaller position, by line and then by
  column.  So no two of them have the same. -/
theorem ofOffset_numbers (source : String) :
    (∀ offset, (∃! front, LiesBefore source offset front)
      ∧ ∀ front, LiesBefore source offset front → ofOffset source.toList offset = walk front.toList)
    ∧ (∀ (front rest : String) (c : Char) (offset : Nat),
      source = front ++ String.singleton c ++ rest →
        front.utf8ByteSize ≤ offset → offset < front.utf8ByteSize + c.utf8Size →
        ofOffset source.toList offset = ofOffset source.toList front.utf8ByteSize)
    ∧ (∀ offset, source.utf8ByteSize ≤ offset →
        ofOffset source.toList offset = ofOffset source.toList source.utf8ByteSize)
    ∧ (∀ i j, String.Pos.Raw.IsValid source ⟨i⟩ → String.Pos.Raw.IsValid source ⟨j⟩ → i < j →
        (ofOffset source.toList i).key < (ofOffset source.toList j).key)
    ∧ Set.InjOn (ofOffset source.toList) {i | String.Pos.Raw.IsValid source ⟨i⟩} := by
  refine ⟨fun offset => ⟨⟨_, liesBefore_iff.mpr rfl, fun front h => liesBefore_iff.mp h⟩,
    fun front h => ofOffset_eq_walk h⟩, ?_, ?_, fun i j => key_ofOffset_lt, ?_⟩
  · rintro front rest c offset rfl hfront hinside
    have hstart : front.utf8ByteSize < front.utf8ByteSize + c.utf8Size :=
      Nat.lt_add_of_pos_right c.utf8Size_pos
    rw [ofOffset_eq_walk (liesBefore_inside hfront hinside),
      ofOffset_eq_walk (liesBefore_inside (Nat.le_refl _) hstart)]
  · intro offset hend
    rw [ofOffset_eq_walk (liesBefore_of_le hend),
      ofOffset_eq_walk (liesBefore_of_le (Nat.le_refl _))]
  · intro i hi j hj hsame
    rcases Nat.lt_trichotomy i j with hlt | heq | hlt
    · exact absurd (congrArg key hsame) (key_ofOffset_lt hi hj hlt).ne
    · exact heq
    · exact absurd (congrArg key hsame) (key_ofOffset_lt hj hi hlt).ne'

/-- A source with characters of two, one and four bytes on two lines. -/
def mixedSource : String := "é\n😀b"

/-- The fifth byte is inside the third character, and the hundredth is behind the end; the places
around the third character are in order. -/
theorem ofOffset_numbers_mixed :
    ofOffset mixedSource.toList 5 = walk ['é', '\n']
    ∧ ofOffset mixedSource.toList 5 = ofOffset mixedSource.toList 3
    ∧ ofOffset mixedSource.toList 100 = ofOffset mixedSource.toList 8
    ∧ (ofOffset mixedSource.toList 3).key < (ofOffset mixedSource.toList 7).key := by
  obtain ⟨hwalk, hinside, hend, horder, -⟩ := ofOffset_numbers mixedSource
  have hbefore : LiesBefore mixedSource 5 "é\n" := liesBefore_iff.mpr rfl
  have hthree : String.Pos.Raw.IsValid mixedSource ⟨3⟩ :=
    String.Pos.Raw.isValid_iff_exists_append.mpr ⟨"é\n", "😀b", rfl, rfl⟩
  have hseven : String.Pos.Raw.IsValid mixedSource ⟨7⟩ :=
    String.Pos.Raw.isValid_iff_exists_append.mpr ⟨"é\n😀", "b", rfl, rfl⟩
  refine ⟨(hwalk 5).2 _ hbefore, ?_, hend 100 (by decide), horder 3 7 hthree hseven (by decide)⟩
  exact hinside "é\n" "b" '😀' 5 rfl (by decide) (by decide)

end Position

end Componentry
