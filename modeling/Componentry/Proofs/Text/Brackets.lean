import Mathlib.Data.List.Basic

/-!
# Nested brackets

A text is properly nested if its brackets come in pairs: every `(`, `[` and `{` is closed by the
bracket of its kind, and what stands between the two is properly nested itself (`Nested`).  No other
character matters.

`awaited` decides this.  It reads a text with the brackets that still have to be closed, the
innermost first, and gives those that have to be closed behind the text.  A nested text leaves them
as they were (`Nested.awaited_eq`), and a text that leaves nothing open is nested (`nested_iff`).
So texts can be read part by part, and only the brackets in them count (`awaited_filter`).
-/

namespace Componentry.Text

/-! ## Brackets -/

/-- The bracket that closes an opening one. -/
def closing? : Char → Option Char
  | '(' => some ')'
  | '[' => some ']'
  | '{' => some '}'
  | _ => none

/-- Whether a character is a closing bracket. -/
def isClosing (c : Char) : Bool := c == ')' || c == ']' || c == '}'

/-- Whether a character is a bracket. -/
def isBracket (c : Char) : Bool := (closing? c).isSome || isClosing c

/-- All brackets. -/
def brackets : List Char := ['(', ')', '[', ']', '{', '}']

/-- A text is properly nested. -/
inductive Nested : List Char → Prop
  | nil : Nested []
  | char {c text} (hc : isBracket c = false) (h : Nested text) : Nested (c :: text)
  | pair {opening closing inside behind} (hpair : closing? opening = some closing)
      (hinside : Nested inside) (hbehind : Nested behind) :
      Nested (opening :: (inside ++ closing :: behind))

/-- Closes the bracket that is awaited next, if this is how it is closed. -/
def close? (c : Char) : List Char → Option (List Char)
  | [] => none
  | closing :: stack => if closing = c then some stack else none

/-- Reads a character with the closing brackets that are awaited, the innermost first. -/
def await (stack : List Char) (c : Char) : Option (List Char) :=
  match closing? c with
  | some closing => some (closing :: stack)
  | none => if isClosing c then close? c stack else some stack

/-- Reads a text, and gives the closing brackets that are awaited behind it. -/
def awaited : List Char → List Char → Option (List Char)
  | stack, [] => some stack
  | stack, c :: text => (await stack c).bind fun left => awaited left text

/-! ## Reading -/

section Character

variable {c closing : Char} {stack : List Char}

lemma isBracket_eq_false : isBracket c = false ↔ closing? c = none ∧ isClosing c = false := by
  rw [isBracket, Bool.or_eq_false_iff, Option.isSome_eq_false_iff, Option.isNone_iff_eq_none]

lemma isBracket_iff : isBracket c = true ↔ c ∈ brackets := by
  constructor
  · intro h
    unfold isBracket closing? at h
    split at h <;> simp_all [isClosing, brackets, or_assoc]
  · intro h
    simp only [brackets, List.mem_cons, List.not_mem_nil, or_false] at h
    rcases h with rfl | rfl | rfl | rfl | rfl | rfl <;> rfl

/-- The characters of a class that no bracket is in. -/
lemma isBracket_eq_false_of {p : Char → Bool} (hp : brackets.any p = false) (hc : p c = true) :
    isBracket c = false := by
  rw [← Bool.not_eq_true, isBracket_iff]
  intro hmem
  exact List.any_eq_false.mp hp c hmem hc

lemma await_char (h : isBracket c = false) : await stack c = some stack := by
  obtain ⟨hopening, hclosing⟩ := isBracket_eq_false.mp h
  rw [await, hopening, hclosing]
  rfl

lemma await_opening (h : closing? c = some closing) : await stack c = some (closing :: stack) := by
  rw [await, h]

/-- What closes a bracket opens none. -/
lemma isClosing_of_closing? (h : closing? c = some closing) :
    closing? closing = none ∧ isClosing closing = true := by
  unfold closing? at h
  split at h
  · exact Option.some.inj h ▸ ⟨rfl, rfl⟩
  · exact Option.some.inj h ▸ ⟨rfl, rfl⟩
  · exact Option.some.inj h ▸ ⟨rfl, rfl⟩
  · exact absurd h (by simp)

lemma await_closing (h : closing? c = some closing) :
    await (closing :: stack) closing = some stack := by
  obtain ⟨hopening, hclosing⟩ := isClosing_of_closing? h
  simp [await, close?, hopening, hclosing]

lemma eq_cons_of_close? {left : List Char} (h : close? c stack = some left) :
    stack = c :: left := by
  cases stack with
  | nil => exact absurd h (by simp [close?])
  | cons closing rest =>
      obtain ⟨rfl, rfl⟩ : closing = c ∧ rest = left := by simpa [close?] using h
      rfl

end Character

/-- **Texts are read part by part.** -/
lemma awaited_append (stack front behind : List Char) :
    awaited stack (front ++ behind)
      = (awaited stack front).bind fun left => awaited left behind := by
  induction front generalizing stack with
  | nil => rfl
  | cons c front ih => simp only [List.cons_append, awaited, ih, Option.bind_assoc]

/-- **Only brackets count.** -/
lemma awaited_filter (stack text : List Char) :
    awaited stack (text.filter isBracket) = awaited stack text := by
  induction text generalizing stack with
  | nil => rfl
  | cons c text ih =>
      cases hc : isBracket c with
      | false =>
          rw [List.filter_cons_of_neg (by simp [hc]), awaited, await_char hc, ih, Option.bind_some]
      | true => simp only [List.filter_cons_of_pos hc, awaited, ih]

/-- A nested text leaves the awaited brackets as they were. -/
lemma Nested.awaited_eq {text : List Char} (h : Nested text) (stack : List Char) :
    awaited stack text = some stack := by
  induction h generalizing stack with
  | nil => rfl
  | char hc _ ih => rw [awaited, await_char hc, Option.bind_some, ih]
  | pair hpair _ _ hinside hbehind =>
      rw [awaited, await_opening hpair, Option.bind_some, awaited_append, hinside, Option.bind_some,
        awaited, await_closing hpair, Option.bind_some, hbehind]

/-- A text closes the awaited brackets one by one, with nested texts between them. -/
def Closes : List Char → List Char → Prop
  | [], text => Nested text
  | closing :: stack, text => ∃ inside behind, text = inside ++ closing :: behind
      ∧ Nested inside ∧ Closes stack behind

lemma Closes.char {stack text : List Char} {c : Char} (hc : isBracket c = false)
    (h : Closes stack text) :
    Closes stack (c :: text) := by
  cases stack with
  | nil => exact Nested.char hc h
  | cons closing stack =>
      obtain ⟨inside, behind, rfl, hinside, hbehind⟩ := h
      exact ⟨c :: inside, behind, rfl, Nested.char hc hinside, hbehind⟩

lemma Closes.pair {stack text : List Char} {opening closing : Char}
    (hpair : closing? opening = some closing) (h : Closes (closing :: stack) text) :
    Closes stack (opening :: text) := by
  obtain ⟨inside, behind, rfl, hinside, hbehind⟩ := h
  cases stack with
  | nil => exact Nested.pair hpair hinside hbehind
  | cons next stack =>
      obtain ⟨more, rest, rfl, hmore, hrest⟩ := hbehind
      exact ⟨opening :: (inside ++ closing :: more), rest, by simp, Nested.pair hpair hinside hmore,
        hrest⟩

/-- A text behind which nothing is awaited closes what was awaited in front of it. -/
lemma closes_of_awaited {stack text : List Char} (h : awaited stack text = some []) :
    Closes stack text := by
  induction text generalizing stack with
  | nil =>
      obtain rfl := Option.some.inj h
      exact .nil
  | cons c text ih =>
      obtain ⟨left, hread, hrest⟩ := Option.bind_eq_some_iff.mp h
      unfold await at hread
      split at hread
      · rename_i closing hpair
        obtain rfl := Option.some.inj hread
        exact .pair hpair (ih hrest)
      · rename_i hopening
        split_ifs at hread with hclosing
        · obtain rfl := eq_cons_of_close? hread
          exact ⟨[], text, rfl, .nil, ih hrest⟩
        · obtain rfl := Option.some.inj hread
          exact .char (isBracket_eq_false.mpr ⟨hopening, Bool.eq_false_iff.mpr hclosing⟩) (ih hrest)

/-- **The reader decides nesting.** -/
theorem nested_iff {text : List Char} : Nested text ↔ awaited [] text = some [] :=
  ⟨fun h => h.awaited_eq [], closes_of_awaited⟩

instance (text : List Char) : Decidable (Nested text) :=
  decidable_of_iff _ nested_iff.symm

/-! ## Nested texts -/

lemma Nested.append {front behind : List Char} (hfront : Nested front) (hbehind : Nested behind) :
    Nested (front ++ behind) := by
  rw [nested_iff, awaited_append, hfront.awaited_eq, Option.bind_some, hbehind.awaited_eq]

lemma Nested.flatMap {α : Type} {f : α → List Char} {parts : List α}
    (h : ∀ part ∈ parts, Nested (f part)) :
    Nested (parts.flatMap f) := by
  induction parts with
  | nil => exact .nil
  | cons part rest ih =>
      rw [List.forall_mem_cons] at h
      exact h.1.append (ih h.2)

/-- A text without brackets is nested. -/
lemma nested_of_forall {text : List Char} (h : ∀ c ∈ text, isBracket c = false) : Nested text := by
  induction text with
  | nil => exact .nil
  | cons c text ih =>
      rw [List.forall_mem_cons] at h
      exact .char h.1 (ih h.2)

/-- Texts with the same brackets are nested alike. -/
lemma Nested.of_filter {text other : List Char} (h : Nested text)
    (hfilter : other.filter isBracket = text.filter isBracket) : Nested other := by
  rw [nested_iff, ← awaited_filter, hfilter, awaited_filter, ← nested_iff]
  exact h

/-- A text is nested if each character is written by the same brackets. -/
lemma Nested.of_flatMap {text : List Char} (h : Nested text) {f : Char → List Char}
    (hf : ∀ c ∈ text, (f c).filter isBracket = [c].filter isBracket) : Nested (text.flatMap f) := by
  refine h.of_filter ?_
  rw [List.filter_flatMap, List.flatMap_congr hf, ← List.filter_flatMap, List.flatMap_singleton']

end Componentry.Text
