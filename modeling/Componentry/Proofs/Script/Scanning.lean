import Mathlib.Data.List.Basic
import Componentry.Proofs.Text.Layout
import Componentry.Script.Scan

/-!
# What the scanner sees

The scanner is asked for one token at a time.  Here it is said what it finds where a given piece of
text stands at its cursor: a mark, a word, a number, a quoted value, or the text between two tags.

**Offsets.**  A cursor counts bytes.  `slice_append` and `Cursor.moveTo_append` turn offsets back
into pieces of text, so nothing else here has to count.

**Seeing.**  `Sees way piece rest kind` says all that the reader needs to know of a token: that it
is `piece`, up to the last character, and nothing of `rest`.  A word ends where no name can go on
(`EndsWordAt`), a mark where it is not the beginning of a longer one.
-/

namespace Componentry.Text

/-! ## Offsets -/

lemma size_append (front rest : List Char) : size (front ++ rest) = size front + size rest := by
  induction front with
  | nil => simp [size]
  | cons c front ih =>
      simp only [List.cons_append, size, ih]
      omega

/-- What lies before an offset is a beginning that fits, if the next character does not fit any
more. -/
lemma before_of_fits {piece rest : List Char} {offset : Nat} (hpiece : size piece ≤ offset)
    (hrest : ∀ c ∈ rest.head?, offset < size piece + c.utf8Size) :
    before (piece ++ rest) offset = piece := by
  induction piece generalizing offset with
  | nil =>
      cases rest with
      | nil => rfl
      | cons c rest =>
          have hc := hrest c rfl
          rw [size, Nat.zero_add] at hc
          rw [List.nil_append, before, if_neg (by omega)]
  | cons c piece ih =>
      rw [size] at hpiece hrest
      rw [List.cons_append, before, if_pos (by omega), ih (by omega) fun d hd => ?_]
      have := hrest d hd
      omega

lemma before_append (piece rest : List Char) : before (piece ++ rest) (size piece) = piece :=
  before_of_fits (Nat.le_refl _) fun c _ => Nat.lt_add_of_pos_right c.utf8Size_pos

lemma behind_append (front rest : List Char) : behind (front ++ rest) (size front) = rest := by
  induction front with
  | nil =>
      cases rest with
      | nil => rfl
      | cons c rest => simp [behind, size, Nat.ne_of_gt c.utf8Size_pos]
  | cons c front ih => simp [behind, size, ih]

/-- The text between the two ends of a piece is the piece. -/
lemma slice_append (front piece rest : List Char) :
    slice (front ++ (piece ++ rest)) (size front) (size front + size piece) = piece := by
  rw [slice, behind_append, Nat.add_sub_cancel_left, before_append]

/-! ## Characters of names -/

/-- What is checked of the first 128 codes holds of every character among them. -/
lemma forall_ascii {p : Char → Prop} (h : ∀ code < 128, p (Char.ofNat code)) {c : Char}
    (hc : c.toNat < 128) : p c := by
  have := h c.toNat hc
  rwa [Char.ofNat_toNat] at this

lemma isNameStart_of_isAsciiLetter {c : Char} (h : isAsciiLetter c = true) :
    isNameStart c = true := by
  have hascii : c.toNat < 128 := by
    simp only [isAsciiLetter, Char.le_def, UInt32.le_iff_toNat_le, Bool.or_eq_true,
      Bool.and_eq_true, decide_eq_true_eq] at h
    rcases h with h | h
    · exact Nat.lt_of_le_of_lt h.2 (by decide)
    · exact Nat.lt_of_le_of_lt h.2 (by decide)
  rw [isNameStart, if_pos hascii, h]
  rfl

lemma isDigit_spec {c : Char} (h : c.isDigit = true) :
    isNamePart c = true ∧ isNameStart c = false := by
  have hascii : c.toNat < 128 := by
    simp only [Char.isDigit, UInt32.le_iff_toNat_le, Bool.and_eq_true, decide_eq_true_eq] at h
    exact Nat.lt_of_le_of_lt h.2 (by decide)
  have hall : ∀ code < 128, (Char.ofNat code).isDigit = true →
      isNamePart (Char.ofNat code) = true ∧ isNameStart (Char.ofNat code) = false := by
    decide
  exact forall_ascii (p := fun c => c.isDigit = true → isNamePart c = true ∧ isNameStart c = false)
    hall hascii h

end Componentry.Text

namespace Componentry.Script

open Text

/-! ## Cursors -/

lemma Cursor.drop_append (piece rest : List Char) (offset : Nat) :
    (⟨piece ++ rest, offset⟩ : Cursor).drop piece.length = ⟨rest, offset + size piece⟩ := by
  simp [Cursor.drop]

lemma Cursor.moveTo_append (piece rest : List Char) (offset : Nat) :
    (⟨piece ++ rest, offset⟩ : Cursor).moveTo rest = ⟨rest, offset + size piece⟩ := by
  rw [Cursor.moveTo, ← Cursor.drop_append]
  simp

lemma Cursor.skipWhile_append {p : Char → Bool} {piece rest : List Char}
    (hpiece : ∀ c ∈ piece, p c = true) (hrest : ∀ c ∈ rest.head?, p c = false) (offset : Nat) :
    (⟨piece ++ rest, offset⟩ : Cursor).skipWhile p = ⟨rest, offset + size piece⟩ := by
  have hdrop : (piece ++ rest).dropWhile p = rest := by
    rw [List.dropWhile_append_of_pos hpiece]
    cases rest with
    | nil => rfl
    | cons c rest => exact List.dropWhile_cons_of_neg (by simp [hrest c rfl])
  rw [Cursor.skipWhile]
  simp only [hdrop]
  exact Cursor.moveTo_append piece rest offset

/-! ## Seeing -/

/-- Looking one `way` at `piece`, with `rest` behind it, the scanner sees one token of a `kind`,
which is all of `piece`. -/
structure Sees (way : Cursor → Scanned) (piece rest : List Char) (kind : Token.Kind) : Prop where
  kind_eq : ∀ offset, (way ⟨piece ++ rest, offset⟩).token.kind = kind
  start_eq : ∀ offset, (way ⟨piece ++ rest, offset⟩).token.start = offset
  stop_eq : ∀ offset, (way ⟨piece ++ rest, offset⟩).token.stop = offset + size piece
  escaped_eq : ∀ offset, (way ⟨piece ++ rest, offset⟩).token.escaped = false
  cursor_eq : ∀ offset, (way ⟨piece ++ rest, offset⟩).cursor = ⟨rest, offset + size piece⟩
  faults_eq : ∀ offset, (way ⟨piece ++ rest, offset⟩).faults = []

lemma Sees.of_plain {way : Cursor → Scanned} {piece rest : List Char} {kind : Token.Kind}
    (hword : kind.isWordLike = false)
    (h : ∀ offset, way ⟨piece ++ rest, offset⟩
      = ⟨.plain kind offset (offset + size piece) false hword,
      ⟨rest, offset + size piece⟩, []⟩) : Sees way piece rest kind := by
  constructor <;> intro offset <;> rw [h] <;> rfl

/-- A character that starts a token: no blank, and no comment. -/
def isVisible (c : Char) (rest : List Char) : Bool :=
  !isLineEnd c && !isGapChar c && !(c == '/' && (rest.head? == some '/' || rest.head? == some '*'))

lemma gap_of_isVisible {c : Char} {rest : List Char} (h : isVisible c rest = true) (offset : Nat) :
    (⟨c :: rest, offset⟩ : Cursor).gap = ⟨⟨c :: rest, offset⟩, false, none⟩ := by
  simp only [isVisible, Bool.and_eq_true, Bool.not_eq_true', Bool.and_eq_false_iff,
    Bool.or_eq_false_iff]
    at h
  obtain ⟨⟨hend, hgap⟩, hcomment⟩ := h
  simp only [Cursor.gap, gap, hend, hgap]
  rcases hcomment with hslash | ⟨hline, hblock⟩
  · simp [beq_eq_false_iff_ne.mp hslash]
  · simp [hline, hblock]

/-- A space in front of a token is skipped. -/
lemma scan_space (quoting : Quoting) (rest : List Char) (offset : Nat) :
    scan quoting ⟨' ' :: rest, offset⟩ = scan quoting ⟨rest, offset + 1⟩ := rfl

lemma sees_ending : Sees (scan .script) [] [] .ending :=
  Sees.of_plain rfl fun _ => rfl

/-! ## Marks -/

/-- A character that can only start a mark. -/
def startsMark (c : Char) (rest : List Char) : Bool :=
  isVisible c rest && !isNameStart c && c != '\\' && !c.isDigit
    && !(c == '.' && (rest.headD ' ').isDigit)
    && c != '"' && c != '\'' && c.toNat != 0x60 && c != '#'

lemma scan_of_startsMark {c : Char} {rest : List Char} (h : startsMark c rest = true)
    (quoting : Quoting) (offset : Nat) :
    scan quoting ⟨c :: rest, offset⟩ = scanMark ⟨⟨c :: rest, offset⟩, false, none⟩ := by
  simp only [startsMark, Bool.and_eq_true, Bool.not_eq_true', bne_iff_ne, ne_eq] at h
  obtain ⟨⟨⟨⟨⟨⟨⟨⟨hvisible, hname⟩, hslash⟩, hdigit⟩, hpoint⟩, hquote⟩, hsingle⟩, hback⟩, hhash⟩ := h
  have hnumber : (decide (c = '.') && (rest.headD ' ').isDigit) = false := hpoint
  rw [scan, gap_of_isVisible hvisible]
  simp only [scanBehind, hname, hslash, hdigit, hnumber, hquote, hsingle, hback, hhash,
    decide_false, Bool.or_self, Bool.false_eq_true, if_false]

lemma sees_mark {mark : Mark} {c : Char} {more rest : List Char}
    (hspelling : mark.spelling.toList = c :: more)
    (hread : Mark.read? Mark.inReadingOrder (c :: (more ++ rest)) = some mark)
    (hstart : startsMark c (more ++ rest) = true) (quoting : Quoting) :
    Sees (scan quoting) (c :: more) rest (.mark mark) := by
  refine Sees.of_plain rfl fun offset => ?_
  have hdrop : (⟨c :: (more ++ rest), offset⟩ : Cursor).drop mark.spelling.length
      = ⟨rest, offset + size (c :: more)⟩ := by
    rw [← String.length_toList, hspelling]
    exact Cursor.drop_append (c :: more) rest offset
  rw [List.cons_append, scan_of_startsMark hstart, scanMark]
  simp only [hread, hdrop]

lemma sees_greater (quoting : Quoting) (rest : List Char) :
    Sees (scan quoting) ['>'] rest (.mark .greater) :=
  sees_mark rfl rfl rfl quoting

lemma sees_openBrace (quoting : Quoting) (rest : List Char) :
    Sees (scan quoting) ['{'] rest (.mark .openBrace) :=
  sees_mark rfl rfl rfl quoting

lemma sees_closeBrace (quoting : Quoting) (rest : List Char) :
    Sees (scan quoting) ['}'] rest (.mark .closeBrace) :=
  sees_mark rfl rfl rfl quoting

lemma sees_ellipsis (quoting : Quoting) (rest : List Char) :
    Sees (scan quoting) ['.', '.', '.'] rest (.mark .ellipsis) :=
  sees_mark rfl rfl rfl quoting

/-- The `=` in front of a value. -/
lemma sees_assign {c : Char} (h : c = '"' ∨ c = '{') (quoting : Quoting) (rest : List Char) :
    Sees (scan quoting) ['='] (c :: rest) (.mark .assign) := by
  rcases h with rfl | rfl <;> exact sees_mark rfl rfl rfl quoting

/-- Only a mark whose spelling starts with the next character can be read there. -/
lemma Mark.read?_cons (marks : List Mark) (c : Char) (rest : List Char) :
    Mark.read? marks (c :: rest)
      = Mark.read? (marks.filter fun mark => mark.spelling.toList.head? == some c) (c :: rest) := by
  have hstart : ∀ mark : Mark, mark.spelling.toList.isPrefixOf (c :: rest) = true →
      (mark.spelling.toList.head? == some c) = true := by
    intro mark hread
    have hne : mark.spelling.toList ≠ [] := by cases mark <;> decide
    obtain ⟨d, more, hspelling⟩ := List.exists_cons_of_ne_nil hne
    rw [hspelling] at hread ⊢
    simp_all [List.isPrefixOf]
  rw [Mark.read?, Mark.read?, List.find?_filter]
  congr 2
  funext mark
  have := hstart mark
  grind

/-- The `<` in front of a name. -/
lemma sees_less {c : Char} (h : isNameStart c = true) (quoting : Quoting)
    (rest : List Char) : Sees (scan quoting) ['<'] (c :: rest) (.mark .less) := by
  have hne : '<' ≠ c ∧ '=' ≠ c := by
    constructor <;> rintro rfl <;> revert h <;> decide
  have hmarks : (Mark.inReadingOrder.filter fun mark => mark.spelling.toList.head? == some '<')
      = [.shiftLeftAssign, .shiftLeft, .lessEqual, .less] := by decide
  refine sees_mark rfl ?_ rfl quoting
  rw [Mark.read?_cons, hmarks]
  simp [Mark.read?, Mark.spelling, hne]

/-- The `/` of a tag, in front of a name or of the `>`. -/
lemma sees_slash {c : Char} (h : isNameStart c = true ∨ c = '>') (quoting : Quoting)
    (rest : List Char) : Sees (scan quoting) ['/'] (c :: rest) (.mark .slash) := by
  have hne : '/' ≠ c ∧ '*' ≠ c ∧ '=' ≠ c := by
    refine ⟨?_, ?_, ?_⟩ <;> rintro rfl <;> revert h <;> decide
  have hmarks : (Mark.inReadingOrder.filter fun mark => mark.spelling.toList.head? == some '/')
      = [.slashAssign, .slash] := by decide
  refine sees_mark rfl ?_ ?_ quoting
  · rw [Mark.read?_cons, hmarks]
    simp [Mark.read?, Mark.spelling, hne]
  · simp only [startsMark, isVisible, List.nil_append, List.head?_cons, Option.some_beq_some,
      beq_false_of_ne hne.1.symm, beq_false_of_ne hne.2.1.symm]
    rfl

/-! ## Words -/

/-- No name goes on at a place of the text. -/
def EndsWordAt (rest : List Char) : Prop :=
  ∀ c ∈ rest.head?, isNamePart c = false ∧ c ≠ '\\'

/-- No name goes on with a blank, nor with one of the characters that are skipped like blanks. -/
lemma isVisible_of_isNamePart {c : Char} (h : isNamePart c = true) (rest : List Char) :
    isVisible c rest = true := by
  have hblank := isBlank_of_isNamePart h
  have htable : ∀ code ∈ [0x2F, 0x200B, 0xFEFF], isNamePart (Char.ofNat code) = false := by
    decide +kernel
  have hcode : c.toNat ∉ [0x2F, 0x200B, 0xFEFF] := by
    intro hmem
    have hno := htable _ hmem
    rw [Char.ofNat_toNat, h] at hno
    cases hno
  simp only [isBlank, Bool.or_eq_false_iff, Bool.and_eq_false_iff, beq_eq_false_iff_ne, ne_eq,
    decide_eq_false_iff_not] at hblank
  simp only [List.mem_cons, List.not_mem_nil, or_false, not_or] at hcode
  simp only [isVisible, isLineEnd, isGapChar, Bool.and_eq_true, Bool.not_eq_true',
    Bool.or_eq_false_iff, Bool.and_eq_false_iff, beq_eq_false_iff_ne, ne_eq, ← Char.toNat_inj,
    decide_eq_false_iff_not, Char.reduceToNat]
  omega

lemma ne_backslash_of_isNamePart {c : Char} (h : isNamePart c = true) : c ≠ '\\' := by
  rintro rfl
  exact absurd h (by decide)

/-- A name is read up to where no name goes on. -/
lemma nameText_parts {word rest : List Char} (hword : ∀ c ∈ word, isNamePart c = true)
    (hrest : EndsWordAt rest) {steps : Nat} (hsteps : word.length < steps) :
    nameText steps isNamePart (word ++ rest) = ⟨word, rest, false, none⟩ := by
  induction word generalizing steps with
  | nil =>
      obtain ⟨steps, rfl⟩ := Nat.exists_eq_add_of_lt hsteps
      cases rest with
      | nil => simp [nameText]
      | cons c rest =>
          obtain ⟨hpart, hback⟩ := hrest c rfl
          simp [nameText, hpart]
  | cons c word ih =>
      obtain ⟨steps, rfl⟩ := Nat.exists_eq_add_of_lt hsteps
      have hpart := hword c List.mem_cons_self
      have hback := ne_backslash_of_isNamePart hpart
      have htail : nameText (word.length + 1 + steps) isNamePart (word ++ rest)
          = ⟨word, rest, false, none⟩ :=
        ih (fun d hd => hword d (List.mem_cons_of_mem c hd)) (by omega)
      simp [nameText, hpart, htail]

/-- What a word is read as. -/
def kindOfWord (word : List Char) : Token.Kind := NameText.kind ⟨word, [], false, none⟩

lemma nameText_of_isScriptName {word rest : List Char} (hword : isScriptName word = true)
    (hrest : EndsWordAt rest) :
    nameText ((word ++ rest).length + 1) isNameStart (word ++ rest)
      = ⟨word, rest, false, none⟩ := by
  cases word with
  | nil => simp [isScriptName] at hword
  | cons c word =>
      simp only [isScriptName, Bool.and_eq_true, List.all_eq_true] at hword
      obtain ⟨hstart, hword⟩ := hword
      have hback := ne_backslash_of_isNamePart (isNamePart_of_isNameStart hstart)
      have htail : nameText (word.length + rest.length + 1) isNamePart (word ++ rest)
          = ⟨word, rest, false, none⟩ := nameText_parts hword hrest (by omega)
      simp [nameText, hstart, htail]

lemma scan_of_isScriptName {word : List Char} (hword : isScriptName word = true) (rest : List Char)
    (quoting : Quoting) (offset : Nat) :
    scan quoting ⟨word ++ rest, offset⟩ = scanName ⟨⟨word ++ rest, offset⟩, false, none⟩ := by
  cases word with
  | nil => simp [isScriptName] at hword
  | cons c word =>
      simp only [isScriptName, Bool.and_eq_true] at hword
      have hvisible := isVisible_of_isNamePart (isNamePart_of_isNameStart hword.1)
      rw [List.cons_append, scan, gap_of_isVisible (hvisible _)]
      simp [scanBehind, hword.1]

/-- A word is seen up to where no name goes on. -/
lemma sees_word {word rest : List Char} (hword : isScriptName word = true) (hrest : EndsWordAt rest)
    (quoting : Quoting) : Sees (scan quoting) word rest (kindOfWord word) := by
  have hname := nameText_of_isScriptName hword hrest
  have hmove := Cursor.moveTo_append word rest
  have hscan := scan_of_isScriptName hword rest quoting
  constructor <;> intro offset <;> simp only [hscan, scanName, hname, hmove]
  rfl

lemma value_of_isScriptName {word rest : List Char} (hword : isScriptName word = true)
    (hrest : EndsWordAt rest) (quoting : Quoting) (offset : Nat) :
    (scan quoting ⟨word ++ rest, offset⟩).token.value = String.ofList word := by
  simp only [scan_of_isScriptName hword rest quoting offset, scanName,
    nameText_of_isScriptName hword hrest]

lemma kindOfWord_eq {word : List Char} (hword : isScriptName word = true) :
    kindOfWord word = if String.ofList word ∈ reservedWords ∨ String.ofList word ∈ contextualWords
      then .word (String.ofList word) else .name := by
  have hne : word.isEmpty = false := by
    cases word with
    | nil => simp [isScriptName] at hword
    | cons c word => rfl
  simp [kindOfWord, NameText.kind, hne]

lemma isWordLike_kindOfWord {word : List Char} (hword : isScriptName word = true) :
    (kindOfWord word).isWordLike = true := by
  rw [kindOfWord_eq hword]
  split_ifs <;> rfl

/-- A word that is not reserved is a name. -/
lemma isName_kindOfWord {word : List Char} (hword : isScriptName word = true)
    (hfree : String.ofList word ∉ reservedWords) : (kindOfWord word).isName = true := by
  rw [kindOfWord_eq hword]
  split_ifs with h
  · simpa [Token.Kind.isName] using h.resolve_left hfree
  · rfl

/-! ## Numbers -/

section Numbers

variable {written : List Char} (hdigits : ∀ c ∈ written, c.isDigit = true)

include hdigits

/-- Digits are read up to the brace behind them. -/
lemma digitsFrom_append {steps : Nat} (hsteps : written.length < steps) (rest : List Char)
    (offset : Nat) :
    digitsFrom Char.isDigit steps ⟨written ++ '}' :: rest, offset⟩
      = (⟨'}' :: rest, offset + size written⟩, []) := by
  induction written generalizing steps offset with
  | nil =>
      obtain ⟨steps, rfl⟩ := Nat.exists_eq_add_of_lt hsteps
      rfl
  | cons c written ih =>
      obtain ⟨steps, rfl⟩ := Nat.exists_eq_add_of_lt hsteps
      have hc := hdigits c List.mem_cons_self
      have hunderscore : c ≠ '_' := by
        rintro rfl
        exact absurd hc (by decide)
      have hdrop : (⟨c :: (written ++ '}' :: rest), offset⟩ : Cursor).drop 1
          = ⟨written ++ '}' :: rest, offset + c.utf8Size⟩ := by
        simp [Cursor.drop, size]
      have hmore := ih (fun d hd => hdigits d (List.mem_cons_of_mem c hd))
        (by simp only [List.length_cons]; omega : written.length < (c :: written).length + steps)
        (offset + c.utf8Size)
      rw [List.cons_append, digitsFrom]
      simp only [Cursor.nextIs, Cursor.peek?, List.head?_cons, Option.any_some,
        beq_false_of_ne hunderscore, hc, if_true, Bool.false_eq_true, if_false, hdrop, hmore, size,
        Nat.add_assoc]

lemma number_append (hne : written ≠ []) (hzero : written.head? = some '0' → written = ['0'])
    (rest : List Char) (offset : Nat) :
    number ⟨written ++ '}' :: rest, offset⟩
      = ⟨.decimal, ⟨'}' :: rest, offset + size written⟩, [], true⟩ := by
  obtain ⟨c, more, rfl⟩ := List.exists_cons_of_ne_nil hne
  have hpoint : c ≠ '.' := by
    rintro rfl
    exact absurd (hdigits '.' List.mem_cons_self) (by decide)
  by_cases hc : c = '0'
  · have hwritten := hzero (by rw [hc]; rfl)
    rw [hwritten]
    rfl
  · have hall : digits Char.isDigit ⟨c :: (more ++ '}' :: rest), offset⟩
        = (⟨'}' :: rest, offset + size (c :: more)⟩, []) :=
      digitsFrom_append hdigits (by simp only [List.length_cons, List.length_append]; omega) rest
        offset
    rw [List.cons_append, number]
    simp only [Cursor.nextIs, Cursor.peek?, List.head?_cons, Option.any_some,
      beq_false_of_ne hpoint, beq_false_of_ne hc, Bool.false_eq_true, if_false, hall]
    rfl

lemma scan_of_isDigit (hne : written ≠ []) (rest : List Char) (quoting : Quoting) (offset : Nat) :
    scan quoting ⟨written ++ rest, offset⟩
      = scanNumber ⟨⟨written ++ rest, offset⟩, false, none⟩ := by
  obtain ⟨c, more, rfl⟩ := List.exists_cons_of_ne_nil hne
  have hc := hdigits c List.mem_cons_self
  obtain ⟨hpart, hstart⟩ := isDigit_spec hc
  rw [List.cons_append, scan, gap_of_isVisible (isVisible_of_isNamePart hpart _)]
  simp [scanBehind, hc, hstart, ne_backslash_of_isNamePart hpart]

/-- Digits without a zero in front are one number. -/
lemma sees_number (hne : written ≠ []) (hzero : written.head? = some '0' → written = ['0'])
    (rest : List Char) : Sees (scan .script) written ('}' :: rest) (.number .decimal) := by
  have hscan := scan_of_isDigit hdigits hne ('}' :: rest) .script
  have hnumber := number_append hdigits hne hzero rest
  constructor <;> intro offset <;> simp only [hscan, scanNumber, hnumber] <;> rfl

end Numbers

/-! ## Quoted values and text between tags -/

/-- A value in double quotes is seen up to the quote behind it. -/
lemma sees_quoted {text : List Char} (h : '"' ∉ text) (rest : List Char) :
    Sees (scan .attribute) ('"' :: (text ++ ['"'])) rest (.string (String.ofList text) true) := by
  have hne : ∀ c ∈ text, (c != '"') = true := fun c hc => bne_iff_ne.mpr (ne_of_mem_of_not_mem hc h)
  have htake : (text ++ '"' :: rest).takeWhile (· != '"') = text := by
    rw [List.takeWhile_append_of_pos hne]
    simp
  have hdrop : (text ++ '"' :: rest).dropWhile (· != '"') = '"' :: rest := by
    rw [List.dropWhile_append_of_pos hne]
    simp
  refine Sees.of_plain rfl fun offset => ?_
  have hpiece : '"' :: (text ++ ['"']) ++ rest = '"' :: (text ++ '"' :: rest) := by simp
  have hmove := Cursor.moveTo_append ('"' :: (text ++ ['"'])) rest offset
  have hscan : scan .attribute ⟨'"' :: (text ++ '"' :: rest), offset⟩
      = scanString .attribute '"' ⟨⟨'"' :: (text ++ '"' :: rest), offset⟩, false, none⟩ := by
    rw [scan, gap_of_isVisible rfl]
    rfl
  rw [hpiece] at hmove ⊢
  rw [hscan]
  simp only [scanString, List.drop_one, List.tail_cons, hdrop, htake, hmove]

lemma sees_text {text rest : List Char} (hne : text ≠ [])
    (h : ∀ c ∈ text, endsContentText c = false)
    (hrest : rest.head? = some '<' ∨ rest.head? = some '{') : Sees scanContent text rest .text := by
  obtain ⟨c, more, rfl⟩ := List.exists_cons_of_ne_nil hne
  have htext : ∀ d ∈ c :: more, (!endsContentText d) = true := fun d hd => by rw [h d hd]; rfl
  have hstop : ∀ d ∈ rest.head?, (!endsContentText d) = false := by
    rcases hrest with hrest | hrest <;> simp [hrest, endsContentText]
  have hskip : ∀ offset,
      (⟨c :: (more ++ rest), offset⟩ : Cursor).skipWhile (fun c => !endsContentText c)
      = ⟨rest, offset + size (c :: more)⟩ := Cursor.skipWhile_append htext hstop
  obtain ⟨d, behind, rfl⟩ : ∃ d behind, rest = d :: behind := by
    rcases rest with _ | ⟨d, behind⟩
    · simp at hrest
    · exact ⟨d, behind, rfl⟩
  have hd : d = '<' ∨ d = '{' := by simpa using hrest
  refine Sees.of_plain rfl fun offset => ?_
  rw [List.cons_append, scanContent]
  split
  case h_1 heq => cases heq
  case h_2 heq =>
      rw [(List.cons.inj heq).1] at h
      exact absurd (h '<' List.mem_cons_self) (by decide)
  case h_3 heq =>
      rw [(List.cons.inj heq).1] at h
      exact absurd (h '{' List.mem_cons_self) (by decide)
  case h_4 => simp [hskip, hd]

/-- A tag between tags. -/
lemma sees_content_less (rest : List Char) : Sees scanContent ['<'] rest (.mark .less) :=
  Sees.of_plain rfl fun _ => rfl

/-- An expression between tags. -/
lemma sees_content_openBrace (rest : List Char) : Sees scanContent ['{'] rest (.mark .openBrace) :=
  Sees.of_plain rfl fun _ => rfl

end Componentry.Script
