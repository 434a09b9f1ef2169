import Mathlib.Data.List.SplitBy
import Componentry.Proofs.Text.Layout

/-!
# The spaces between words

`clean` goes over a text line by line.  What it leaves behind is easier to tell by the runs of
blanks between the words, which may go over several lines.

**Runs.**  `runs` cuts a text into its maximal runs of blanks and of other characters, and `tidied`
says what becomes of the blanks: where a run has a line break it is layout, and goes away at the
ends of the text and is one space between words; any other run stays, but for carriage returns at
the end.

**Lines.**  Behind a word it does not matter what stands in front of it.  `continued` is what a text
adds there, and it can be told run by run (`continued_flatten`).

`clean_eq_tidied` puts both together.
-/

namespace Componentry.Text

/-! ## Runs -/

/-- The maximal runs of a text: each is all blank, or has no blank. -/
def runs (text : List Char) : List (List Char) :=
  text.splitBy fun c d => isBlank c == isBlank d

/-- What is left of a run of blanks, by where it stands. -/
def tidyBlanks (isFirst isLast : Bool) (blanks : List Char) : List Char :=
  if '\n' ∈ blanks then if isFirst || isLast then [] else [' ']
  else if isLast then dropEndWhile (· == '\r') blanks
  else blanks

/-- What is left of runs in a row. -/
def tidyRuns (isFirst : Bool) : List (List Char) → List Char
  | [] => []
  | run :: rest =>
    (if run.all isBlank then tidyBlanks isFirst rest.isEmpty run else run) ++ tidyRuns false rest

/-- A text with every run of blanks put in order. -/
def tidied (text : List Char) : List Char :=
  tidyRuns true (runs text)

/-- Runs that are blank and not blank by turns. -/
def Alternate (blank : Bool) : List (List Char) → Prop
  | [] => True
  | run :: rest => run ≠ [] ∧ (∀ c ∈ run, isBlank c = blank) ∧ Alternate (!blank) rest

/-- A run has characters of one kind only. -/
lemma isBlank_of_mem_run {text run : List Char} (h : run ∈ runs text) {c d : Char} (hc : c ∈ run)
    (hd : d ∈ run) : isBlank c = isBlank d := by
  have hchain := List.isChain_of_mem_splitBy h
  clear h
  -- every character is of the kind of the first one
  have hfirst : ∀ e ∈ run, ∀ first ∈ run.head?, isBlank e = isBlank first := by
    clear hc hd
    induction run with
    | nil => simp
    | cons a rest ih =>
        rw [List.isChain_cons] at hchain
        intro e he first hhead
        obtain rfl : a = first := Option.some.inj hhead
        rcases List.mem_cons.mp he with rfl | he
        · rfl
        · cases rest with
          | nil => exact absurd he (by simp)
          | cons b more =>
              rw [ih hchain.2 e he b rfl]
              exact (beq_iff_eq.mp (hchain.1 b rfl)).symm
  cases run with
  | nil => exact absurd hc (by simp)
  | cons a rest => rw [hfirst c hc a rfl, hfirst d hd a rfl]

lemma alternate_of_isChain {all : List (List Char)} (hne : [] ∉ all)
    (hrun : ∀ run ∈ all, ∀ c ∈ run, ∀ d ∈ run, isBlank c = isBlank d)
    (hchain : all.IsChain fun a b =>
      ∃ ha hb, (isBlank (a.getLast ha) == isBlank (b.head hb)) = false) :
    ∃ blank, Alternate blank all := by
  induction all with
  | nil => exact ⟨true, trivial⟩
  | cons run rest ih =>
      rw [List.mem_cons, not_or] at hne
      rw [List.forall_mem_cons] at hrun
      rw [List.isChain_cons] at hchain
      obtain ⟨blank, hrest⟩ := ih hne.2 hrun.2 hchain.2
      obtain ⟨c, more, rfl⟩ := List.exists_cons_of_ne_nil (Ne.symm hne.1)
      refine ⟨isBlank c, by simp, fun d hd => hrun.1 d hd c List.mem_cons_self, ?_⟩
      cases rest with
      | nil => trivial
      | cons next others =>
          obtain ⟨hlast, hhead, hdiffer⟩ := hchain.1 next rfl
          rw [hrun.1 _ (List.getLast_mem hlast) c List.mem_cons_self,
            hrest.2.1 _ (List.head_mem hhead)] at hdiffer
          have hblank : blank = !isBlank c := by
            revert hdiffer
            cases blank <;> cases isBlank c <;> simp
          rwa [← hblank]

/-- The runs of a text are blank and not blank by turns. -/
lemma alternate_runs (text : List Char) : ∃ blank, Alternate blank (runs text) :=
  alternate_of_isChain (List.nil_notMem_splitBy _ text)
    (fun _ hrun _ hc _ hd => isBlank_of_mem_run hrun hc hd)
    (List.isChain_getLast_head_splitBy (fun c d => isBlank c == isBlank d) text)

lemma flatten_runs (text : List Char) : (runs text).flatten = text :=
  List.flatten_splitBy _ text

/-! ## Lines behind a word -/

/-- Characters behind one that stays cannot make it go. -/
lemma dropEndWhile_append {p : Char → Bool} {front : List Char}
    (h : ∀ c ∈ front.getLast?, p c = false) (text : List Char) :
    dropEndWhile p (front ++ text) = front ++ dropEndWhile p text := by
  rw [dropEndWhile, List.reverse_append, List.dropWhile_append, dropEndWhile]
  split_ifs with htext
  · rw [List.isEmpty_iff.mp htext, List.reverse_nil, List.append_nil]
    exact List.rdropWhile_eq_self_iff.mpr fun hne => by
      simpa using h _ (List.getLast?_eq_some_getLast hne)
  · rw [List.reverse_append, List.reverse_reverse]

/-- Nothing is left of blanks at the end of a line that was broken off. -/
lemma trimEnd_of_forall {text : List Char} (h : ∀ c ∈ text, isBlank c = true) : trimEnd text = [] :=
  List.rdropWhile_eq_nil_iff.mpr h

lemma exists_splitAt_append {front : List Char} (h : '\n' ∉ front) (text : List Char) :
    ∃ piece pieces, splitAt '\n' text = piece :: pieces
      ∧ splitAt '\n' (front ++ text) = (front ++ piece) :: pieces := by
  induction front with
  | nil =>
      cases htext : splitAt '\n' text with
      | cons piece pieces => exact ⟨piece, pieces, rfl, htext⟩
      | nil => exact absurd htext (splitAt_ne_nil '\n' text)
  | cons c front ih =>
      rw [List.mem_cons, not_or] at h
      obtain ⟨piece, pieces, htext, hfront⟩ := ih h.2
      refine ⟨piece, pieces, htext, ?_⟩
      rw [List.cons_append, splitAt, if_neg (Ne.symm h.1), hfront]
      rfl

/-- A front without a line break that does not end in a carriage return is added to the first
line. -/
lemma lines_append {front text line : List Char} {more : List (List Char)} (hfront : IsLine front)
    (htext : lines text = line :: more) : lines (front ++ text) = (front ++ line) :: more := by
  obtain ⟨piece, pieces, hsplit, hjoined⟩ := exists_splitAt_append hfront.unbroken text
  rw [lines, hsplit, List.map_cons, List.cons.injEq] at htext
  obtain ⟨rfl, rfl⟩ := htext
  rw [lines, hjoined, List.map_cons, dropEndWhile_append]
  intro c hc
  simpa using hfront.stop c hc

lemma lines_break {front : List Char} (h : '\n' ∉ front) (text : List Char) :
    lines (front ++ '\n' :: text) = dropEndWhile (· == '\r') front :: lines text := by
  rw [lines, splitAt_append, splitAt_of_notMem h]
  rfl

lemma exists_lines (text : List Char) : ∃ line more, lines text = line :: more := by
  refine List.exists_cons_of_ne_nil ?_
  simpa [lines] using splitAt_ne_nil '\n' text

lemma trimLines_cons (isFirst : Bool) (line : List Char) (more : List (List Char)) :
    trimLines isFirst (line :: more)
      = trimLine isFirst more.isEmpty line :: trimLines false more := by
  cases more <;> rfl

/-- The lines of a text that are left without its layout, where its first line may be cut as
well. -/
def linesLeft (isFirst : Bool) (text : List Char) : List (List Char) :=
  (trimLines isFirst (lines text)).filter fun line => !line.isEmpty

/-- Lines in a row, each behind a space. -/
def spaced (all : List (List Char)) : List Char :=
  all.flatMap fun line => ' ' :: line

lemma intercalate_cons_eq_spaced (line : List Char) (more : List (List Char)) :
    [' '].intercalate (line :: more) = line ++ spaced more := by
  induction more generalizing line with
  | nil => simp [spaced]
  | cons next others ih =>
      rw [List.intercalate_cons_cons, ih]
      simp [spaced]

/-- What a text adds behind a word: the rest of the line, and the other lines that are left. -/
def continued (text : List Char) : List Char :=
  match trimLines true (lines text) with
  | [] => []
  | line :: more => line ++ spaced (more.filter fun line => !line.isEmpty)

/-- A piece of a line that ends in a word, and starts with one where lines are cut. -/
structure EndsInWord (isFirst : Bool) (front : List Char) : Prop where
  unbroken : '\n' ∉ front
  start : isFirst = false → ∀ c ∈ front.head?, isBlank c = false
  stop : ∃ c ∈ front.getLast?, isBlank c = false

lemma EndsInWord.isLine {isFirst : Bool} {front : List Char} (h : EndsInWord isFirst front) :
    IsLine front := by
  refine ⟨h.unbroken, ?_⟩
  rintro _ hlast rfl
  obtain ⟨c, hc, hblank⟩ := h.stop
  obtain rfl : c = '\r' := Option.some.inj (hc.symm.trans hlast)
  exact absurd hblank (by decide)

/-- Such a piece stays when its line is trimmed. -/
lemma EndsInWord.trimLine_append {isFirst : Bool} {front : List Char} (h : EndsInWord isFirst front)
    (isLast : Bool) (line : List Char) :
    trimLine isFirst isLast (front ++ line) = front ++ trimLine true isLast line := by
  obtain ⟨c, hc, hblank⟩ := h.stop
  have hend : ∀ d ∈ front.getLast?, isBlank d = false := by
    intro d hd
    obtain rfl : c = d := Option.some.inj (hc.symm.trans hd)
    exact hblank
  have hstart : (if isFirst then front ++ line else trimStart (front ++ line)) = front ++ line := by
    split_ifs with hfirst
    · rfl
    · cases front with
      | nil => exact absurd hc (by simp)
      | cons d rest =>
          have hd := h.start (by simpa using hfirst) d rfl
          exact List.dropWhile_cons_of_neg (by simp [hd])
  simp only [trimLine, hstart, if_true]
  split_ifs
  · rfl
  · exact dropEndWhile_append hend line

/-- **Behind a word.**  The lines of a text that starts with such a piece are joined to the piece
and what the rest of the text adds behind it. -/
lemma EndsInWord.linesLeft_append {isFirst : Bool} {front : List Char}
    (h : EndsInWord isFirst front) (text : List Char) :
    ∃ line more, linesLeft isFirst (front ++ text) = (front ++ line) :: more
      ∧ continued text = line ++ spaced more := by
  obtain ⟨line, more, hlines⟩ := exists_lines text
  refine ⟨trimLine true more.isEmpty line, (trimLines false more).filter fun line =>
    !line.isEmpty, ?_, ?_⟩
  · have hne : ∀ tail, (front ++ tail).isEmpty = false := by
      intro tail
      obtain ⟨c, hc, -⟩ := h.stop
      cases front with
      | nil => exact absurd hc (by simp)
      | cons d rest => rfl
    rw [linesLeft, lines_append h.isLine hlines, trimLines_cons, h.trimLine_append,
      List.filter_cons_of_pos]
    simp [hne]
  · rw [continued, hlines, trimLines_cons]

lemma EndsInWord.continued_append {front : List Char} (h : EndsInWord true front)
    (text : List Char) :
    continued (front ++ text) = front ++ continued text := by
  obtain ⟨line, more, hlines⟩ := exists_lines text
  simp only [continued, lines_append h.isLine hlines, hlines, trimLines_cons, h.trimLine_append,
    List.append_assoc]

/-! ## Lines behind blanks -/

/-- Blanks at the start of a line that is cut there do not count, and neither do lines of blanks. -/
lemma linesLeft_cons_of_isBlank {c : Char} (h : isBlank c = true) (text : List Char) :
    linesLeft false (c :: text) = linesLeft false text := by
  by_cases hbreak : c = '\n'
  · subst hbreak
    have hlines : lines ('\n' :: text) = [] :: lines text := @lines_break [] List.not_mem_nil text
    rw [linesLeft, hlines, trimLines_cons]
    cases (lines text).isEmpty <;> rfl
  · have hunbroken : '\n' ∉ [c] := by simpa using Ne.symm hbreak
    obtain ⟨piece, pieces, htext, hjoined⟩ := exists_splitAt_append hunbroken text
    have htrim : trimStart (dropEndWhile (· == '\r') (c :: piece))
        = trimStart (dropEndWhile (· == '\r') piece) := by
      rw [dropEndWhile, List.reverse_cons, List.dropWhile_append, dropEndWhile]
      split_ifs with hpiece
      · rw [List.isEmpty_iff.mp hpiece]
        by_cases hreturn : c = '\r'
        · simp [hreturn]
        · simp [hreturn, trimStart, h]
      · simp [trimStart, h]
    rw [← List.singleton_append, linesLeft, linesLeft, lines, lines, htext, hjoined]
    simp only [List.map_cons, trimLines_cons, trimLine, List.singleton_append, htrim,
      Bool.false_eq_true, if_false]

lemma linesLeft_append_of_forall {blanks : List Char} (h : ∀ c ∈ blanks, isBlank c = true)
    (text : List Char) : linesLeft false (blanks ++ text) = linesLeft false text := by
  induction blanks with
  | nil => rfl
  | cons c rest ih =>
      rw [List.forall_mem_cons] at h
      rw [List.cons_append, linesLeft_cons_of_isBlank h.1, ih h.2]

/-- Blanks with a line break end the line that they start on, and nothing is left of them on the
next one. -/
lemma exists_trimLines_of_break {blanks : List Char} (h : ∀ c ∈ blanks, isBlank c = true)
    (hbreak : '\n' ∈ blanks) (text : List Char) : ∃ more, (∀ c ∈ more, isBlank c = true)
      ∧ trimLines true (lines (blanks ++ text)) = [] :: trimLines false (lines (more ++ text)) := by
  obtain ⟨front, more, rfl, hfront⟩ := List.eq_append_cons_of_mem hbreak
  rw [List.forall_mem_append, List.forall_mem_cons] at h
  refine ⟨more, h.2.2, ?_⟩
  obtain ⟨line, others, hlines⟩ := exists_lines (more ++ text)
  have hline : trimEnd (dropEndWhile (· == '\r') front) = [] :=
    trimEnd_of_forall fun c hc => h.1 c ((dropEndWhile_prefix_self _ front).subset hc)
  rw [List.append_assoc, List.cons_append, lines_break hfront, trimLines_cons, hlines]
  simp [trimLine, hline]

lemma linesLeft_of_break {blanks : List Char} (h : ∀ c ∈ blanks, isBlank c = true)
    (hbreak : '\n' ∈ blanks) (text : List Char) :
    linesLeft true (blanks ++ text) = linesLeft false text := by
  obtain ⟨more, hmore, hlines⟩ := exists_trimLines_of_break h hbreak text
  rw [← linesLeft_append_of_forall hmore text, linesLeft, hlines]
  rfl

lemma continued_of_break {blanks : List Char} (h : ∀ c ∈ blanks, isBlank c = true)
    (hbreak : '\n' ∈ blanks) (text : List Char) :
    continued (blanks ++ text) = spaced (linesLeft false text) := by
  obtain ⟨more, hmore, hlines⟩ := exists_trimLines_of_break h hbreak text
  rw [← linesLeft_append_of_forall hmore text, continued, hlines]
  rfl

/-- Blanks without a line break that end a text stay on the line. -/
lemma continued_of_unbroken {blanks : List Char} (h : '\n' ∉ blanks) :
    continued blanks = dropEndWhile (· == '\r') blanks := by
  rw [continued, lines, splitAt_of_notMem h]
  simp [trimLines, trimLine, spaced]

/-! ## Runs behind a word -/

section Words

variable {word : List Char} (hne : word ≠ []) (hword : ∀ c ∈ word, isBlank c = false)

include hne hword

lemma endsInWord_of_forall (isFirst : Bool) : EndsInWord isFirst word where
  unbroken := fun hbreak => absurd (hword _ hbreak) (by decide)
  start := fun _ c hc => hword c (List.mem_of_mem_head? hc)
  stop := ⟨word.getLast hne, List.getLast?_eq_some_getLast hne, hword _ (List.getLast_mem hne)⟩

lemma endsInWord_append {blanks : List Char} (hblanks : '\n' ∉ blanks) :
    EndsInWord true (blanks ++ word) where
  unbroken := by
    rw [List.mem_append, not_or]
    exact ⟨hblanks, (endsInWord_of_forall hne hword true).unbroken⟩
  start := by simp
  stop := by
    rw [List.getLast?_append_of_ne_nil _ hne]
    exact (endsInWord_of_forall hne hword true).stop

lemma spaced_linesLeft_append (text : List Char) :
    spaced (linesLeft false (word ++ text)) = ' ' :: (word ++ continued text) := by
  obtain ⟨line, more, hlines, htext⟩ := (endsInWord_of_forall hne hword false).linesLeft_append text
  rw [hlines, htext]
  simp [spaced]

end Words

/-- A word has a character that is not blank. -/
lemma all_isBlank_eq_false {word : List Char} (hne : word ≠ [])
    (hword : ∀ c ∈ word, isBlank c = false) :
    word.all isBlank = false := by
  rw [List.all_eq_false]
  exact ⟨word.head hne, List.head_mem hne, by simp [hword _ (List.head_mem hne)]⟩

lemma tidyRuns_word {word : List Char} (hne : word ≠ []) (hword : ∀ c ∈ word, isBlank c = false)
    (isFirst : Bool) (rest : List (List Char)) :
    tidyRuns isFirst (word :: rest) = word ++ tidyRuns false rest := by
  rw [tidyRuns, if_neg]
  simp [all_isBlank_eq_false hne hword]

lemma tidyRuns_blanks {blanks : List Char} (h : ∀ c ∈ blanks, isBlank c = true) (isFirst : Bool)
    (rest : List (List Char)) :
    tidyRuns isFirst (blanks :: rest)
      = tidyBlanks isFirst rest.isEmpty blanks ++ tidyRuns false rest := by
  rw [tidyRuns, if_pos (List.all_eq_true.mpr h)]

/-- **What runs add behind a word.** -/
lemma continued_flatten {blank : Bool} {all : List (List Char)} (h : Alternate blank all) :
    continued all.flatten = tidyRuns false all := by
  induction all generalizing blank with
  | nil => rfl
  | cons run rest ih =>
      obtain ⟨hne, hrun, hrest⟩ := h
      have htail := ih hrest
      rw [List.flatten_cons]
      cases blank with
      | false =>
          rw [tidyRuns_word hne hrun, ← htail]
          exact (endsInWord_of_forall hne hrun true).continued_append _
      | true =>
          rw [tidyRuns_blanks hrun, ← htail]
          cases rest with
          | nil =>
              -- blanks at the end of the text
              have hnil : continued [] = [] := rfl
              simp only [List.flatten_nil, List.append_nil, hnil, tidyBlanks, List.isEmpty_nil,
                Bool.or_true, if_true]
              split_ifs with hbreak
              · rw [← List.append_nil run, continued_of_break hrun hbreak]
                rfl
              · exact continued_of_unbroken hbreak
          | cons word more =>
              -- blanks between two words
              obtain ⟨hword, hchars, -⟩ := hrest
              rw [List.flatten_cons, (endsInWord_of_forall hword hchars true).continued_append]
              simp only [tidyBlanks, List.isEmpty_cons, Bool.or_self, Bool.false_eq_true, if_false]
              split_ifs with hbreak
              · rw [continued_of_break hrun hbreak]
                exact spaced_linesLeft_append hword hchars _
              · rw [← List.append_assoc, (endsInWord_append hword hchars hbreak).continued_append,
                  List.append_assoc]

/-! ## Words -/

lemma words_append_of_forall {blanks : List Char} (h : ∀ c ∈ blanks, isBlank c = true)
    (text : List Char) :
    words (blanks ++ text) = words text := by
  induction blanks with
  | nil => rfl
  | cons c rest ih =>
      rw [List.forall_mem_cons] at h
      rw [List.cons_append, words_cons_of_isBlank h.1, ih h.2]

/-- A word that is followed by blanks, or by nothing, is the first of the words. -/
lemma words_word_append {word : List Char} (hne : word ≠ []) (hword : ∀ c ∈ word, isBlank c = false)
    {text : List Char} (htext : ∀ c ∈ text.head?, isBlank c = true) :
    words (word ++ text) = word :: words text := by
  have hstart : (text.foldr pushWord ([], [])).1 = [] := by
    cases text with
    | nil => rfl
    | cons c rest => simp [pushWord, htext c rfl]
  have hfold : ∀ front : List Char, (∀ c ∈ front, isBlank c = false) →
      (front ++ text).foldr pushWord ([], []) = (front, (text.foldr pushWord ([], [])).2) := by
    intro front hfront
    induction front with
    | nil => exact Prod.ext hstart rfl
    | cons c rest ih =>
        rw [List.forall_mem_cons] at hfront
        rw [List.cons_append, List.foldr_cons, ih hfront.2, pushWord, if_neg (by simp [hfront.1])]
  simp only [words, hfold word hword, hstart, List.isEmpty_nil, if_true]
  simp [hne]

lemma isBlank_of_mem_tidyBlanks {isFirst isLast : Bool} {blanks : List Char}
    (h : ∀ c ∈ blanks, isBlank c = true) :
    ∀ c ∈ tidyBlanks isFirst isLast blanks, isBlank c = true := by
  unfold tidyBlanks
  split_ifs
  · simp
  · simp only [List.mem_singleton]
    rintro c rfl
    decide
  · exact fun c hc => h c ((dropEndWhile_prefix_self _ blanks).subset hc)
  · exact h

/-- Where blanks come first, what is left of them starts with a blank, if it starts at all. -/
lemma isBlank_of_head?_tidyRuns {all : List (List Char)} (h : Alternate true all) :
    ∀ c ∈ (tidyRuns false all).head?, isBlank c = true := by
  cases all with
  | nil => simp [tidyRuns]
  | cons blanks rest =>
      obtain ⟨hne, hblanks, -⟩ := h
      rw [tidyRuns_blanks hblanks]
      cases rest with
      | nil =>
          rw [tidyRuns, List.append_nil]
          exact fun c hc => isBlank_of_mem_tidyBlanks hblanks c (List.mem_of_mem_head? hc)
      | cons word more =>
          have hleft : tidyBlanks false false blanks ≠ [] := by
            unfold tidyBlanks
            split_ifs <;> simp_all
          rw [List.isEmpty_cons, List.head?_append_of_ne_nil _ hleft]
          exact fun c hc => isBlank_of_mem_tidyBlanks hblanks c (List.mem_of_mem_head? hc)

lemma isBlank_of_head?_flatten {all : List (List Char)} (h : Alternate true all) :
    ∀ c ∈ all.flatten.head?, isBlank c = true := by
  cases all with
  | nil => simp
  | cons blanks rest =>
      obtain ⟨hne, hblanks, -⟩ := h
      rw [List.flatten_cons, List.head?_append_of_ne_nil _ hne]
      exact fun c hc => hblanks c (List.mem_of_mem_head? hc)

/-- **The words stay as they are**, whatever becomes of the blanks. -/
lemma words_tidyRuns {blank : Bool} {all : List (List Char)} (h : Alternate blank all)
    (isFirst : Bool) :
    words (tidyRuns isFirst all) = words all.flatten := by
  induction all generalizing blank isFirst with
  | nil => rfl
  | cons run rest ih =>
      obtain ⟨hne, hrun, hrest⟩ := h
      rw [List.flatten_cons]
      cases blank with
      | false =>
          rw [tidyRuns_word hne hrun, words_word_append hne hrun (isBlank_of_head?_tidyRuns hrest),
            words_word_append hne hrun (isBlank_of_head?_flatten hrest), ih hrest]
      | true =>
          rw [tidyRuns_blanks hrun, words_append_of_forall (isBlank_of_mem_tidyBlanks hrun),
            words_append_of_forall hrun, ih hrest]

lemma words_tidied (text : List Char) : words (tidied text) = words text := by
  obtain ⟨blank, halternate⟩ := alternate_runs text
  rw [tidied, words_tidyRuns halternate, flatten_runs]

/-! ## The text that is left -/

lemma EndsInWord.joined_append {isFirst : Bool} {front : List Char} (h : EndsInWord isFirst front)
    (text : List Char) :
    [' '].intercalate (linesLeft isFirst (front ++ text)) = front ++ continued text := by
  obtain ⟨line, more, hlines, htext⟩ := h.linesLeft_append text
  rw [hlines, intercalate_cons_eq_spaced, htext, List.append_assoc]

/-- The lines of a text with a word in it are joined to the text with its blanks put in order. -/
lemma joined_eq_tidied {text : List Char} (h : ∃ c ∈ text, isBlank c = false) :
    [' '].intercalate (contentLines text) = tidied text := by
  obtain ⟨blank, halternate⟩ := alternate_runs text
  have hlines : contentLines text = linesLeft true (runs text).flatten := by
    rw [flatten_runs]
    rfl
  rw [← flatten_runs text] at h
  rw [hlines, tidied]
  generalize runs text = all at h halternate
  cases all with
  | nil => exact absurd h (by simp)
  | cons run rest =>
      obtain ⟨hne, hrun, hrest⟩ := halternate
      rw [List.flatten_cons]
      cases blank with
      | false =>
          rw [tidyRuns_word hne hrun, ← continued_flatten hrest]
          exact (endsInWord_of_forall hne hrun true).joined_append _
      | true =>
          cases rest with
          | nil =>
              obtain ⟨c, hc, hblank⟩ := h
              rw [hrun c (by simpa using hc)] at hblank
              exact absurd hblank (by simp)
          | cons word more =>
              -- blanks in front of the first word
              obtain ⟨hword, hchars, hmore⟩ := hrest
              rw [tidyRuns_blanks hrun, tidyRuns_word hword hchars, ← continued_flatten hmore,
                List.flatten_cons]
              simp only [tidyBlanks, List.isEmpty_cons, Bool.or_false, Bool.false_eq_true, if_true,
                if_false]
              split_ifs with hbreak
              · rw [linesLeft_of_break hrun hbreak]
                exact (endsInWord_of_forall hword hchars false).joined_append _
              · rw [← List.append_assoc, (endsInWord_append hword hchars hbreak).joined_append,
                  List.append_assoc]

/-- What is left of a text with a word in it. -/
lemma clean_of_word {raw : String} (h : ∃ c ∈ raw.toList, isBlank c = false) :
    clean raw = some (String.ofList (tidied raw.toList)) := by
  have hblank : ¬(tidied raw.toList).all isBlank = true := by
    intro hall
    -- a text that is all blank has no words, and the words are the same
    have hwords := words_eq_nil_iff.mpr (List.all_eq_true.mp hall)
    rw [words_tidied, words_eq_nil_iff] at hwords
    obtain ⟨c, hc, hword⟩ := h
    rw [hwords c hc] at hword
    exact absurd hword (by simp)
  rw [clean, joined_eq_tidied h, if_neg hblank]

/-- **What cleaning does to the blanks of a text.**  Nothing is left of a text *exactly if* it is
all blank.  What is left of any other text is the text with its runs of blanks put in order: a run
with a line break goes away at either end and is one space between words, and of the other runs only
carriage returns at the very end go away.  So cleaning again changes nothing, and the words of the
text stay. -/
theorem clean_eq_tidied (raw : String) :
    (clean raw = none ↔ ∀ c ∈ raw.toList, isBlank c = true)
    ∧ ∀ text, clean raw = some text →
        text.toList = tidied raw.toList ∧ clean text = some text
          ∧ words text.toList = words raw.toList := by
  by_cases hall : ∀ c ∈ raw.toList, isBlank c = true
  · have hnone : clean raw = none := clean_of_allBlank (List.all_eq_true.mpr hall)
    refine ⟨iff_of_true hnone hall, fun text htext => ?_⟩
    rw [hnone] at htext
    exact absurd htext (by simp)
  · have hclean : clean raw = some (String.ofList (tidied raw.toList)) := by
      refine clean_of_word ?_
      push Not at hall
      obtain ⟨c, hc, hblank⟩ := hall
      exact ⟨c, hc, by simpa using hblank⟩
    refine ⟨iff_of_false (by simp [hclean]) hall, fun text htext => ?_⟩
    obtain ⟨-, -, hagain⟩ := clean_eq_some htext
    rw [hclean] at htext
    obtain rfl := Option.some.inj htext
    rw [String.toList_ofList]
    exact ⟨rfl, hagain, words_tidied raw.toList⟩

/-- A line that starts and ends with blanks, and is broken between its first two words. -/
def brokenGreeting : String := "  Hello \r\n\t wide\u2003world \r"

/-- The blanks at both ends stay, but for the carriage return; the break is one space, and the wide
space between the last two words stays as it is. -/
theorem clean_brokenGreeting :
    clean brokenGreeting = some "  Hello wide\u2003world "
    ∧ "  Hello wide\u2003world ".toList = tidied brokenGreeting.toList := by
  have hclean : clean brokenGreeting = some "  Hello wide\u2003world " := by decide +kernel
  exact ⟨hclean, ((clean_eq_tidied brokenGreeting).2 _ hclean).1⟩

end Componentry.Text
