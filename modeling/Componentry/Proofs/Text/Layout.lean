import Mathlib.Data.List.DropRight
import Componentry.Text.Blank
import Componentry.Text.Word

/-!
# Text without layout

What the functions on blank characters leave behind.

**Ends.**  A text is `Tight` if it is not empty and no blank stands at either end.  Trimming makes a
text tight unless it is all blank (`tight_trim`), and every name of a script is
(`tight_of_isScriptName`).

**Lines.**  The lines that `clean` keeps have no line break and end in no carriage return
(`IsLine`); joined by spaces they still do.  Such a text is its own only line, so cleaning it again
changes nothing (`clean_of_isLine`).
-/

namespace Componentry.Text

/-! ## Ends of texts -/

/-- A text that is not empty and has no blank at either end. -/
structure Tight (text : List Char) : Prop where
  ne_nil : text ≠ []
  start : ∀ c ∈ text.head?, isBlank c = false
  stop : ∀ c ∈ text.getLast?, isBlank c = false

/-- What is left when trailing characters are dropped does not end in one of them. -/
lemma getLast?_dropEndWhile {p : Char → Bool} {text : List Char} {c : Char}
    (h : c ∈ (dropEndWhile p text).getLast?) : p c = false := by
  rw [dropEndWhile, List.getLast?_reverse] at h
  have hhead := List.head?_dropWhile_not p text.reverse
  rw [Option.mem_def.mp h] at hhead
  exact hhead

lemma dropEndWhile_prefix_self (p : Char → Bool) (text : List Char) :
    dropEndWhile p text <+: text :=
  List.rdropWhile_prefix p text

/-- A text with a character that is not blank is tight when it is trimmed. -/
lemma tight_trim {text : List Char} {c : Char} (hmem : c ∈ text) (hc : isBlank c = false) :
    Tight (trim text) := by
  have hne : trimStart text ≠ [] := by
    intro hnil
    rw [trimStart, List.dropWhile_eq_nil_iff] at hnil
    exact absurd (hnil c hmem) (by simp [hc])
  obtain ⟨d, rest, htext⟩ := List.exists_cons_of_ne_nil hne
  have hd : isBlank d = false := by
    have hhead := List.head?_dropWhile_not isBlank text
    rw [← trimStart, htext] at hhead
    exact hhead
  -- the first character is kept at the other end, too
  have hkeep : dropEndWhile isBlank (d :: rest) ≠ [] := by
    intro hnil
    have hall := List.rdropWhile_eq_nil_iff.mp hnil
    exact absurd (hall d List.mem_cons_self) (by simp [hd])
  have htrim : trim text = dropEndWhile isBlank (d :: rest) := by rw [trim, trimEnd, htext]
  rw [htrim]
  refine ⟨hkeep, ?_, fun e he => getLast?_dropEndWhile he⟩
  intro e he
  obtain ⟨behind, hbehind⟩ := dropEndWhile_prefix_self isBlank (d :: rest)
  cases hfront : dropEndWhile isBlank (d :: rest) with
  | nil => exact absurd hfront hkeep
  | cons first more =>
      rw [hfront] at hbehind he
      obtain rfl : first = d := (List.cons.inj hbehind).1
      obtain rfl : first = e := Option.some.inj he
      exact hd

/-- A text without any blank is tight unless it is empty. -/
lemma tight_of_forall {text : List Char} (hne : text ≠ []) (h : ∀ c ∈ text, isBlank c = false) :
    Tight text :=
  ⟨hne, fun c hc => h c (List.mem_of_mem_head? hc), fun c hc => h c (List.mem_of_getLast? hc)⟩

/-- There is nothing to trim at a tight text. -/
lemma trim_of_tight {text : List Char} (h : Tight text) : trim text = text := by
  have hstart : trimStart text = text := by
    cases text with
    | nil => rfl
    | cons c rest => exact List.dropWhile_cons_of_neg (by simp [h.start c rfl])
  rw [trim, hstart]
  exact List.rdropWhile_eq_self_iff.mpr fun hne => by
    simpa using h.stop _ (List.getLast?_eq_some_getLast hne)

/-! ## Names -/

/-- The code points of the blank characters. -/
def blankCodes : List Nat :=
  [0x09, 0x0A, 0x0B, 0x0C, 0x0D, 0x20, 0x85, 0xA0, 0x1680, 0x2000, 0x2001, 0x2002, 0x2003, 0x2004,
    0x2005, 0x2006, 0x2007, 0x2008, 0x2009, 0x200A, 0x2028, 0x2029, 0x202F, 0x205F, 0x3000]

lemma mem_blankCodes {c : Char} (h : isBlank c = true) : c.toNat ∈ blankCodes := by
  simp only [isBlank, Bool.or_eq_true, Bool.and_eq_true, decide_eq_true_eq, beq_iff_eq] at h
  simp only [blankCodes, List.mem_cons, List.not_mem_nil, or_false]
  omega

/-- No character of a name is blank. -/
lemma isBlank_of_isNamePart {c : Char} (h : isNamePart c = true) : isBlank c = false := by
  have htable : ∀ code ∈ blankCodes, isNamePart (Char.ofNat code) = false := by decide +kernel
  by_contra hblank
  rw [Bool.not_eq_false] at hblank
  have hno := htable _ (mem_blankCodes hblank)
  rw [Char.ofNat_toNat, h] at hno
  exact absurd hno (by simp)

lemma isNamePart_of_isNameStart {c : Char} (h : isNameStart c = true) : isNamePart c = true := by
  unfold isNamePart
  split_ifs with hascii
  · rw [isNameStart, if_pos hascii] at h
    revert h
    cases isAsciiLetter c <;> cases isAsciiDigit c <;> simp
  · simp [h]

lemma isScriptName_forall {text : List Char} (h : isScriptName text = true) :
    ∀ c ∈ text, isNamePart c = true := by
  cases text with
  | nil => simp
  | cons c rest =>
      rw [isScriptName, Bool.and_eq_true, List.all_eq_true] at h
      intro d hd
      rcases List.mem_cons.mp hd with rfl | hrest
      · exact isNamePart_of_isNameStart h.1
      · exact h.2 d hrest

/-- A name of a script is tight. -/
lemma tight_of_isScriptName {text : List Char} (h : isScriptName text = true) : Tight text := by
  refine tight_of_forall ?_ fun c hc => isBlank_of_isNamePart (isScriptName_forall h c hc)
  rintro rfl
  exact absurd h (by simp [isScriptName])

/-! ## Words -/

/-- The words of a text are not empty and have no blank in them. -/
lemma mem_words {text word : List Char} (h : word ∈ words text) :
    word ≠ [] ∧ ∀ c ∈ word, isBlank c = false := by
  -- the word under construction has no blank, and the finished words are as claimed
  have hfold : (∀ c ∈ (text.foldr pushWord ([], [])).1, isBlank c = false)
      ∧ ∀ w ∈ (text.foldr pushWord ([], [])).2, w ≠ [] ∧ ∀ c ∈ w, isBlank c = false := by
    clear h
    induction text with
    | nil => simp
    | cons c rest ih =>
        obtain ⟨hopen, hdone⟩ := ih
        rw [List.foldr_cons, pushWord]
        split_ifs with hblank hempty
        · exact ⟨by simp, hdone⟩
        · refine ⟨by simp, fun w hw => ?_⟩
          rcases List.mem_cons.mp hw with rfl | hw
          · exact ⟨by simpa using hempty, hopen⟩
          · exact hdone w hw
        · refine ⟨fun d hd => ?_, hdone⟩
          rcases List.mem_cons.mp hd with rfl | hd
          · simpa using hblank
          · exact hopen d hd
  rw [words] at h
  split_ifs at h with hempty
  · exact hfold.2 word h
  · rcases List.mem_cons.mp h with rfl | h
    · exact ⟨by simpa using hempty, hfold.1⟩
    · exact hfold.2 word h

lemma words_cons_of_isBlank {c : Char} (h : isBlank c = true) (text : List Char) :
    words (c :: text) = words text := by
  simp [words, pushWord, h]

lemma words_eq_nil_iff {text : List Char} : words text = [] ↔ ∀ c ∈ text, isBlank c = true := by
  induction text with
  | nil => simp [words]
  | cons c rest ih =>
      rw [List.forall_mem_cons]
      cases h : isBlank c with
      | true => rw [words_cons_of_isBlank h, ih, eq_self, true_and]
      | false => simp [words, pushWord, h]

lemma words_of_allBlank {raw : String} (h : allBlank raw = true) : words raw.toList = [] :=
  words_eq_nil_iff.mpr (List.all_eq_true.mp h)

/-! ## Lines -/

/-- A text without a line break that does not end in a carriage return. -/
structure IsLine (text : List Char) : Prop where
  unbroken : '\n' ∉ text
  stop : ∀ c ∈ text.getLast?, c ≠ '\r'

/-- The pieces of a split text are made of its characters other than the separator. -/
lemma mem_splitAt {separator : Char} {text piece : List Char} (h : piece ∈ splitAt separator text) :
    ∀ c ∈ piece, c ∈ text ∧ c ≠ separator := by
  fun_induction splitAt separator text generalizing piece with
  | case1 =>
      rw [List.mem_singleton.mp h]
      simp
  | case2 rest ih =>
      rcases List.mem_cons.mp h with rfl | hrest
      · simp
      · exact fun c hc => ⟨List.mem_cons_of_mem _ (ih hrest c hc).1, (ih hrest c hc).2⟩
  | case3 d rest hd hnil ih =>
      rw [List.mem_singleton.mp h]
      simp [hd]
  | case4 d rest hd first pieces hsplit ih =>
      rw [hsplit] at ih
      rcases List.mem_cons.mp h with rfl | hrest
      · intro c hc
        rcases List.mem_cons.mp hc with rfl | hc
        · exact ⟨List.mem_cons_self, hd⟩
        · have hfirst := ih List.mem_cons_self c hc
          exact ⟨List.mem_cons_of_mem _ hfirst.1, hfirst.2⟩
      · intro c hc
        have hmore := ih (List.mem_cons_of_mem _ hrest) c hc
        exact ⟨List.mem_cons_of_mem _ hmore.1, hmore.2⟩

/-- A text without the separator is one piece. -/
lemma splitAt_of_notMem {separator : Char} {text : List Char} (h : separator ∉ text) :
    splitAt separator text = [text] := by
  induction text with
  | nil => rfl
  | cons c rest ih =>
      rw [List.mem_cons, not_or] at h
      rw [splitAt, if_neg (Ne.symm h.1), ih h.2]

lemma splitAt_ne_nil (separator : Char) (text : List Char) : splitAt separator text ≠ [] := by
  cases text with
  | nil => simp [splitAt]
  | cons c rest =>
      rw [splitAt]
      split_ifs
      · simp
      · split <;> simp

/-- A text is split at a separator in it as the texts on both sides are. -/
lemma splitAt_append (separator : Char) (front rest : List Char) :
    splitAt separator (front ++ separator :: rest)
      = splitAt separator front ++ splitAt separator rest := by
  induction front with
  | nil => simp [splitAt]
  | cons c front ih =>
      rw [List.cons_append, splitAt, splitAt, ih]
      split_ifs
      · rfl
      · cases hfront : splitAt separator front with
        | nil => exact absurd hfront (splitAt_ne_nil separator front)
        | cons piece pieces => rfl

/-- Pieces without the separator are what a text put together from them is split into. -/
lemma splitAt_intercalate {separator : Char} {pieces : List (List Char)} (hsome : pieces ≠ [])
    (h : ∀ piece ∈ pieces, separator ∉ piece) :
    splitAt separator ([separator].intercalate pieces) = pieces := by
  induction pieces with
  | nil => exact absurd rfl hsome
  | cons piece rest ih =>
      rw [List.forall_mem_cons] at h
      cases rest with
      | nil => rw [List.intercalate_singleton, splitAt_of_notMem h.1]
      | cons next more =>
          rw [List.intercalate_cons_cons, List.append_assoc, List.singleton_append, splitAt_append,
            splitAt_of_notMem h.1, ih (List.cons_ne_nil _ _) h.2, List.singleton_append]

lemma mem_lines {raw line : List Char} (h : line ∈ lines raw) :
    IsLine line ∧ ∀ c ∈ line, c ∈ raw := by
  obtain ⟨piece, hpiece, rfl⟩ := List.mem_map.mp h
  have hmem : ∀ c ∈ dropEndWhile (· == '\r') piece, c ∈ raw ∧ c ≠ '\n' := fun c hc =>
    mem_splitAt hpiece c ((dropEndWhile_prefix_self _ piece).subset hc)
  refine ⟨⟨fun hbreak => (hmem _ hbreak).2 rfl, fun c hc => ?_⟩, fun c hc => (hmem c hc).1⟩
  have hno := getLast?_dropEndWhile hc
  simpa using hno

/-- Trimming a line takes characters away only, and no carriage return comes to its end. -/
lemma trimLine_isLine {isFirst isLast : Bool} {line : List Char} (h : IsLine line) :
    IsLine (trimLine isFirst isLast line) ∧ ∀ c ∈ trimLine isFirst isLast line, c ∈ line := by
  -- at the start a suffix is left, which ends as the line does
  have hfront : ∃ front, line = front ++ (if isFirst then line else trimStart line) := by
    split_ifs
    · exact ⟨[], rfl⟩
    · exact ⟨line.takeWhile isBlank, List.takeWhile_append_dropWhile.symm⟩
  unfold trimLine
  generalize (if isFirst then line else trimStart line) = kept at hfront ⊢
  obtain ⟨front, rfl⟩ := hfront
  have hkept : ∀ c ∈ kept, c ∈ front ++ kept := fun c hc => List.mem_append_right _ hc
  split_ifs
  · refine ⟨⟨fun hbreak => h.unbroken (hkept _ hbreak), fun c hc => h.stop c ?_⟩, hkept⟩
    rw [List.getLast?_append, Option.mem_def.mp hc]
    rfl
  · have hsub : ∀ c ∈ trimEnd kept, c ∈ kept := fun c hc =>
      (dropEndWhile_prefix_self isBlank kept).subset hc
    refine ⟨⟨fun hbreak => h.unbroken (hkept _ (hsub _ hbreak)), fun c hc => ?_⟩,
      fun c hc => hkept c (hsub c hc)⟩
    rintro rfl
    exact absurd (getLast?_dropEndWhile hc) (by decide)

lemma mem_trimLines {isFirst : Bool} {all : List (List Char)} {line : List Char}
    (h : line ∈ trimLines isFirst all) :
    ∃ source ∈ all, ∃ first last, line = trimLine first last source := by
  fun_induction trimLines isFirst all with
  | case1 => exact absurd h (by simp)
  | case2 isFirst source => exact ⟨source, List.mem_cons_self, _, _, List.mem_singleton.mp h⟩
  | case3 isFirst source rest _ ih =>
      rcases List.mem_cons.mp h with rfl | hrest
      · exact ⟨source, List.mem_cons_self, _, _, rfl⟩
      · obtain ⟨other, hother, hline⟩ := ih hrest
        exact ⟨other, List.mem_cons_of_mem _ hother, hline⟩

/-- The lines without layout are lines of characters of the text, and none is empty. -/
lemma mem_contentLines {raw line : List Char} (h : line ∈ contentLines raw) :
    line ≠ [] ∧ IsLine line ∧ ∀ c ∈ line, c ∈ raw := by
  obtain ⟨hline, hne⟩ := List.mem_filter.mp h
  obtain ⟨source, hsource, first, last, rfl⟩ := mem_trimLines hline
  obtain ⟨hisLine, hmem⟩ := mem_lines hsource
  obtain ⟨htrimmed, hsub⟩ := trimLine_isLine hisLine
  exact ⟨by simpa using hne, htrimmed, fun c hc => hmem c (hsub c hc)⟩

lemma mem_joined {separator : List Char} {all : List (List Char)} {c : Char}
    (h : c ∈ separator.intercalate all) : c ∈ separator ∨ ∃ line ∈ all, c ∈ line := by
  induction all with
  | nil => exact absurd h (by simp)
  | cons line rest ih =>
      cases rest with
      | nil => exact Or.inr ⟨line, List.mem_cons_self, by simpa using h⟩
      | cons next more =>
          rw [List.intercalate_cons_cons, List.mem_append, List.mem_append] at h
          rcases h with (h | h) | h
          · exact Or.inr ⟨line, List.mem_cons_self, h⟩
          · exact Or.inl h
          · rcases ih h with hspace | ⟨other, hother, hc⟩
            · exact Or.inl hspace
            · exact Or.inr ⟨other, List.mem_cons_of_mem _ hother, hc⟩

/-- Lines that are not empty make one line when they are joined by spaces. -/
lemma isLine_joined {all : List (List Char)} (h : ∀ line ∈ all, line ≠ [] ∧ IsLine line) :
    IsLine ([' '].intercalate all) := by
  refine ⟨fun hbreak => ?_, ?_⟩
  · rcases mem_joined hbreak with hspace | ⟨line, hline, hc⟩
    · exact absurd hspace (by decide)
    · exact (h line hline).2.unbroken hc
  · induction all with
    | nil => simp
    | cons line rest ih =>
        rw [List.forall_mem_cons] at h
        cases rest with
        | nil => simpa using h.1.2.stop
        | cons next more =>
            rw [List.intercalate_cons_cons, List.getLast?_append_of_ne_nil]
            · exact ih h.2
            · cases more <;> simp [(h.2 next List.mem_cons_self).1]

/-- **Cleaning a line again changes nothing.** -/
lemma clean_of_isLine {text : List Char} (h : IsLine text) (hblank : text.all isBlank = false) :
    clean (String.ofList text) = some (String.ofList text) := by
  have hends : dropEndWhile (· == '\r') text = text :=
    List.rdropWhile_eq_self_iff.mpr fun hne => by
      simpa using h.stop _ (List.getLast?_eq_some_getLast hne)
  have hne : text.isEmpty = false := by
    cases text with
    | nil => exact absurd hblank (by simp)
    | cons c rest => rfl
  have hlines : contentLines text = [text] := by
    rw [contentLines, lines, splitAt_of_notMem h.unbroken, List.map_singleton, hends]
    simp [trimLines, trimLine, hne]
  rw [clean, String.toList_ofList, hlines, List.intercalate_singleton, if_neg]
  simp [hblank]

/-- What is left of a text without its layout: one line that is not all blank, and stays as it
is. -/
lemma clean_eq_some {raw value : String} (h : clean raw = some value) :
    '\n' ∉ value.toList ∧ allBlank value = false ∧ clean value = some value := by
  have hline : IsLine ([' '].intercalate (contentLines raw.toList)) :=
    isLine_joined fun line hline =>
    ⟨(mem_contentLines hline).1, (mem_contentLines hline).2.1⟩
  dsimp only [clean] at h
  split_ifs at h with hblank
  cases h
  have hsome : ([' '].intercalate (contentLines raw.toList)).all isBlank = false := by
    simpa using hblank
  refine ⟨?_, ?_, clean_of_isLine hline hsome⟩
  · rw [String.toList_ofList]
    exact hline.unbroken
  · rw [allBlank, String.toList_ofList]
    exact hsome

/-- Nothing is left of a text that is all blank. -/
lemma clean_of_allBlank {raw : String} (h : allBlank raw = true) : clean raw = none := by
  rw [allBlank, List.all_eq_true] at h
  rw [clean, if_pos]
  rw [List.all_eq_true]
  intro c hc
  rcases mem_joined hc with hspace | ⟨line, hline, hc⟩
  · obtain rfl := List.mem_singleton.mp hspace
    decide
  · exact h c ((mem_contentLines hline).2.2 c hc)

end Componentry.Text
