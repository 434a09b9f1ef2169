import Mathlib.Algebra.Ring.Parity
import Mathlib.Data.List.Basic
import Componentry.Script.Literal
import Componentry.Text.Word

/-!
# Quoted texts are read back

`Text.quote` writes a text between double quotes.  Scripts read such a literal with `stringBody`,
which knows nothing of how it was written: it takes many more escapes, and half pairs.
`readLiteral_quote` says that it reads the text again, whatever stands behind the literal; so no
character of a text ends its literal early or takes a character behind it along.

How a literal looks can be said without a reader: where it is escaped is a matter of counting
backslashes.  `isEnclosed_quote` says that the two quotes around a text are the only ones that are
not escaped, and that no control character is left.
-/

namespace Componentry.Script

open Text

/-- The text that a literal in double quotes stands for, and what follows the literal.  One that is
not closed or has an escape that is not well formed is refused. -/
def readLiteral : List Char → Option (List Char × List Char)
  | '"' :: inside =>
    let body := stringBody '"' (inside.length + 1) inside
    if body.closed && body.broken.isEmpty then some (stringOfUnits body.units, body.rest) else none
  | _ => none

/-- An escape from behind its backslash stands for one character. -/
def Escapes (code : List Char) (c : Char) : Prop :=
  ∀ rest, escape false (code ++ rest) = ⟨[.char c], rest, true⟩

/-- Four digits name a control character. -/
lemma escapes_control {n : Nat} (h : n < 0x20) :
    Escapes ['u', '0', '0', hexDigit (n / 16), hexDigit (n % 16)] (Char.ofNat n) := by
  have htable : ∀ code < 0x20,
      ['0', '0', hexDigit (code / 16), hexDigit (code % 16)].all isHexDigit = true
        ∧ hexNumber ['0', '0', hexDigit (code / 16), hexDigit (code % 16)] = code := by decide
  intro rest
  have hdigits : hexDigits? 4 ('0' :: '0' :: hexDigit (n / 16) :: hexDigit (n % 16) :: rest)
      = some (n, rest) := by
    simp only [hexDigits?, List.take_succ_cons, List.take_zero, List.drop_succ_cons, List.drop_zero,
      List.length_cons, List.length_nil, (htable n h).1, (htable n h).2, and_self, if_true]
  -- the code is no half of a pair, so nothing behind it is joined to it
  have hpaired : pairedEscape? ('0' :: '0' :: hexDigit (n / 16) :: hexDigit (n % 16) :: rest)
      = some (n, rest) := by
    rw [pairedEscape?, hdigits, Option.map_some]
    · dsimp only
      split
      · rw [if_neg (by omega)]
      · rfl
    · intro behind hbehind
      exact absurd hbehind (by simp)
  have hcode : StringUnit.ofCode n = .char (Char.ofNat n) := by
    rw [StringUnit.ofCode, if_neg (by omega)]
  simp only [escape, List.cons_append, List.nil_append, hpaired, hcode]

/-- A character as it is written in a literal: an escape, or itself. -/
lemma escaped_cases (c : Char) :
    (∃ code, escaped c = '\\' :: code ∧ Escapes code c)
      ∨ (escaped c = [c] ∧ c ≠ '"' ∧ c ≠ '\\' ∧ c ≠ '\n' ∧ c ≠ '\r') := by
  unfold escaped
  split_ifs with hquote hslash hcontrol
  · subst hquote
    exact Or.inl ⟨['"'], rfl, fun rest => rfl⟩
  · subst hslash
    exact Or.inl ⟨['\\'], rfl, fun rest => rfl⟩
  · left
    have hc : Char.ofNat c.toNat = c := Char.ofNat_toNat c
    generalize c.toNat = n at hcontrol hc
    subst hc
    split
    · exact ⟨['b'], rfl, fun rest => rfl⟩
    · exact ⟨['t'], rfl, fun rest => rfl⟩
    · exact ⟨['n'], rfl, fun rest => rfl⟩
    · exact ⟨['f'], rfl, fun rest => rfl⟩
    · exact ⟨['r'], rfl, fun rest => rfl⟩
    · exact ⟨_, rfl, escapes_control hcontrol⟩
  · refine Or.inr ⟨rfl, hquote, hslash, ?_, ?_⟩
    · rintro rfl
      exact hcontrol (by decide)
    · rintro rfl
      exact hcontrol (by decide)

/-- A written text is read character by character up to the closing quote. -/
lemma stringBody_escaped (text rest : List Char) (steps : Nat) :
    stringBody '"' (text.length + 1 + steps) (text.flatMap escaped ++ '"' :: rest)
      = ⟨text.map .char, rest, [], true⟩ := by
  induction text with
  | nil =>
      rw [List.flatMap_nil, List.nil_append, List.length_nil, Nat.zero_add, Nat.add_comm,
        stringBody, if_pos rfl]
      rfl
  | cons c text ih =>
      have hsteps : (c :: text).length + 1 + steps = (text.length + 1 + steps) + 1 := by
        rw [List.length_cons]
        omega
      rw [List.flatMap_cons, List.append_assoc, hsteps]
      rcases escaped_cases c with ⟨code, hcode, hescape⟩ | ⟨hself, hquote, hslash, hbreak, hreturn⟩
      · rw [hcode, List.cons_append, stringBody, if_neg (by decide), if_pos rfl, hescape]
        dsimp only
        rw [ih]
        rfl
      · rw [hself, List.singleton_append, stringBody, if_neg hquote, if_neg hslash,
          if_neg (not_or.mpr ⟨hbreak, hreturn⟩), ih]
        rfl

lemma stringOfUnits_chars (text : List Char) : stringOfUnits (text.map .char) = text := by
  rw [stringOfUnits, if_pos (by simp [StringUnit.isChar]), List.flatMap_map,
    List.flatMap_singleton']

lemma length_le_escaped (text : List Char) : text.length ≤ (text.flatMap escaped).length := by
  induction text with
  | nil => exact Nat.le_refl _
  | cons c text ih =>
      rw [List.flatMap_cons, List.length_append, List.length_cons]
      rcases escaped_cases c with ⟨code, hcode, -⟩ | ⟨hself, -⟩
      · rw [hcode, List.length_cons]
        omega
      · rw [hself, List.length_singleton]
        omega

lemma quote_append (text rest : List Char) :
    quote text ++ rest = '"' :: (text.flatMap escaped ++ '"' :: rest) := by
  simp [quote]

/-- The length of what follows the opening quote is steps enough. -/
lemma stringBody_quote (text rest : List Char) :
    stringBody '"' ((text.flatMap escaped ++ '"' :: rest).length + 1)
      (text.flatMap escaped ++ '"' :: rest) = ⟨text.map .char, rest, [], true⟩ := by
  obtain ⟨steps, hsteps⟩ : ∃ steps, (text.flatMap escaped ++ '"' :: rest).length + 1
      = text.length + 1 + steps := by
    refine Nat.exists_eq_add_of_le ?_
    rw [List.length_append]
    have := length_le_escaped text
    omega
  rw [hsteps, stringBody_escaped]

/-- **A quoted text is read back**, and nothing of what follows it. -/
theorem readLiteral_quote (text rest : List Char) :
    readLiteral (quote text ++ rest) = some (text, rest) := by
  rw [quote_append, readLiteral, stringBody_quote]
  simp [stringOfUnits_chars]

end Componentry.Script

namespace Componentry.Text

/-! ## The look of a literal -/

/-- The character behind a text is escaped: the backslashes in front of it do not pair off. -/
def EscapesNext (front : List Char) : Prop :=
  Odd (front.reverse.takeWhile (· == '\\')).length

/-- A code is one text between double quotes.  There is no control character inside; a quote inside
is escaped, and the closing one is not. -/
def IsEnclosed (code : List Char) : Prop :=
  ∃ inside, code = '"' :: inside ++ ['"'] ∧ (∀ c ∈ inside, 0x20 ≤ c.toNat)
    ∧ (∀ before behind, inside = before ++ '"' :: behind → EscapesNext before)
      ∧ ¬ EscapesNext inside

/-- A character that needs no escape. -/
def IsPlain (c : Char) : Prop := c ≠ '"' ∧ c ≠ '\\' ∧ 0x20 ≤ c.toNat

lemma escapesNext_backslash (front : List Char) :
    EscapesNext (front ++ ['\\']) ↔ ¬ EscapesNext front := by
  rw [EscapesNext, EscapesNext, List.reverse_append, List.reverse_singleton, List.singleton_append,
    List.takeWhile_cons_of_pos rfl, List.length_cons, Nat.odd_add_one]

lemma not_escapesNext_of_ne {c : Char} (h : c ≠ '\\') (front : List Char) :
    ¬ EscapesNext (front ++ [c]) := by
  rw [EscapesNext, List.reverse_append, List.reverse_singleton, List.singleton_append,
    List.takeWhile_cons_of_neg (by simpa using h)]
  decide

lemma not_escapesNext_plain {code : List Char} (hne : code ≠ []) (hcode : ∀ c ∈ code, IsPlain c)
    (front : List Char) : ¬ EscapesNext (front ++ code) := by
  rw [← List.dropLast_append_getLast hne, ← List.append_assoc]
  exact not_escapesNext_of_ne (hcode _ (List.getLast_mem hne)).2.1 _

/-- A character is written with a backslash in front, as a backslash and a name, or as it is. -/
lemma escaped_shape (c : Char) :
    ((c = '"' ∨ c = '\\') ∧ escaped c = ['\\', c])
      ∨ (∃ code, code ≠ [] ∧ escaped c = '\\' :: code ∧ ∀ d ∈ code, IsPlain d)
      ∨ (escaped c = [c] ∧ IsPlain c) := by
  have hdigit : ∀ n < 16, (hexDigit n ≠ '"' ∧ hexDigit n ≠ '\\' ∧ 0x20 ≤ (hexDigit n).toNat) := by
    decide
  unfold escaped
  split_ifs with hquote hslash hcontrol
  · exact .inl ⟨.inl hquote, by rw [hquote]⟩
  · exact .inl ⟨.inr hslash, by rw [hslash]⟩
  · right; left
    generalize c.toNat = n at hcontrol
    have hhigh := hdigit (n / 16) (by omega)
    have hlow := hdigit (n % 16) (by omega)
    split
    case h_6 => exact ⟨_, by simp, rfl, by simp [IsPlain, hhigh, hlow]⟩
    all_goals exact ⟨_, by simp, rfl, by simp [IsPlain]⟩
  · exact .inr (.inr ⟨rfl, hquote, hslash, Nat.le_of_not_lt hcontrol⟩)

/-- One step: behind a text that leaves nothing escaped, the code of a character leaves nothing
escaped either, and a quote in it is escaped. -/
lemma escaped_step {front : List Char} (hfront : ¬ EscapesNext front) (c : Char) :
    ¬ EscapesNext (front ++ escaped c)
      ∧ ∀ before behind, escaped c = before ++ '"' :: behind → EscapesNext (front ++ before) := by
  have hslash : EscapesNext (front ++ ['\\']) := (escapesNext_backslash front).mpr hfront
  rcases escaped_shape c with ⟨hc, hcode⟩ | ⟨code, hne, hcode, hplain⟩ | ⟨hcode, hplain⟩
  · rw [hcode]
    constructor
    · rw [← List.singleton_append, ← List.append_assoc]
      rcases hc with rfl | rfl
      · exact not_escapesNext_of_ne (by decide) _
      · exact mt (escapesNext_backslash _).mp (not_not_intro hslash)
    · intro before behind hsplit
      rcases before with _ | ⟨d, _ | ⟨d', before⟩⟩
      · simp at hsplit
      · obtain rfl : '\\' = d := (List.cons.inj hsplit).1
        exact hslash
      · simp at hsplit
  · rw [hcode]
    constructor
    · rw [← List.singleton_append, ← List.append_assoc]
      exact not_escapesNext_plain hne hplain _
    · intro before behind hsplit
      have hmem : '"' ∈ '\\' :: code := hsplit ▸ List.mem_append_right _ List.mem_cons_self
      exact absurd rfl (hplain '"' (by simpa using hmem)).1
  · rw [hcode]
    refine ⟨not_escapesNext_of_ne hplain.2.1 _, fun before behind hsplit => ?_⟩
    have hmem : '"' ∈ [c] := hsplit ▸ List.mem_append_right _ List.mem_cons_self
    exact absurd (List.mem_singleton.mp hmem).symm hplain.1

/-- The same for a whole text. -/
lemma flatMap_escaped {front : List Char} (hfront : ¬ EscapesNext front) (text : List Char) :
    ¬ EscapesNext (front ++ text.flatMap escaped)
      ∧ ∀ before behind, text.flatMap escaped = before ++ '"' :: behind →
        EscapesNext (front ++ before) := by
  induction text generalizing front with
  | nil =>
      refine ⟨by simpa using hfront, fun before behind hsplit => ?_⟩
      simp at hsplit
  | cons c text ih =>
      obtain ⟨hstep, hquotes⟩ := escaped_step hfront c
      obtain ⟨hend, hmore⟩ := ih hstep
      rw [List.flatMap_cons]
      refine ⟨by rwa [← List.append_assoc], fun before behind hsplit => ?_⟩
      rcases List.append_eq_append_iff.mp hsplit with ⟨piece, rfl, hpiece⟩ | ⟨piece, hpiece, hrest⟩
      · rw [← List.append_assoc]
        exact hmore piece behind hpiece
      · rcases piece with _ | ⟨d, piece⟩
        · rw [List.append_nil] at hpiece
          have hfirst := hmore [] behind hrest.symm
          rwa [List.append_nil, hpiece] at hfirst
        · obtain rfl : '"' = d := (List.cons.inj hrest).1
          exact hquotes before piece hpiece

/-- **The quotes around a text are the only ones that are not escaped**, and no control character is
left. -/
theorem isEnclosed_quote (text : List Char) : IsEnclosed (quote text) := by
  have hstart : ¬ EscapesNext [] := by simp [EscapesNext]
  obtain ⟨hend, hquotes⟩ := flatMap_escaped hstart text
  refine ⟨text.flatMap escaped, rfl, fun c hc => ?_, hquotes, hend⟩
  obtain ⟨d, -, hd⟩ := List.mem_flatMap.mp hc
  rcases escaped_shape d with ⟨hmark, hcode⟩ | ⟨code, -, hcode, hplain⟩ | ⟨hcode, hplain⟩
  · have hcases : c = '\\' ∨ c = d := by simpa [hcode] using hd
    rcases hmark with rfl | rfl <;> rcases hcases with rfl | rfl <;> decide
  · rw [hcode] at hd
    rcases List.mem_cons.mp hd with rfl | hd
    · decide
    · exact (hplain c hd).2.2
  · rw [hcode, List.mem_singleton] at hd
    exact hd ▸ hplain.2.2

end Componentry.Text
