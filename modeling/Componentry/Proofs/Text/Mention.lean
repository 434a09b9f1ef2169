import Mathlib.Tactic.Common
import Componentry.Text.Word

/-!
# Names that stand alone

What it is for a script to mention a name, said without a scanner: the name occurs, and neither the
character in front of the occurrence nor the one behind it continues an identifier.  `mentions_iff`
says that the scanner finds exactly the names that stand alone.
-/

namespace Componentry.Text

/-- A name stands alone in a text. -/
def StandsIn (name text : List Char) : Prop :=
  ∃ before behind, text = before ++ name ++ behind
    ∧ (∀ c ∈ before.getLast?, isIdentifierChar c = false)
    ∧ ∀ c ∈ behind.head?, isIdentifierChar c = false

lemma after?_eq_some {start text rest : List Char} :
    after? start text = some rest ↔ text = start ++ rest := by
  induction start generalizing text with
  | nil => simp [after?]
  | cons c start ih =>
      cases text with
      | nil => simp [after?]
      | cons d text =>
          simp only [after?]
          split_ifs with h
          · rw [ih, h, List.cons_append, List.cons.injEq, and_iff_right rfl]
          · simp [Ne.symm h]

lemma beginsWithName_iff {name text : List Char} :
    beginsWithName name text = true
      ↔ ∃ behind, text = name ++ behind ∧ ∀ c ∈ behind.head?, isIdentifierChar c = false := by
  unfold beginsWithName
  rw [Option.any_eq_true]
  simp only [after?_eq_some]
  refine exists_congr fun behind => and_congr_right fun _ => ?_
  cases behind <;> simp

/-- The scanner with a flag: the name may stand at the very front only if the flag is set.  A step
    of the scanner moves one character over to the text in front. -/
lemma mentionsFrom_iff {free : Bool} {name text : List Char} :
    mentionsFrom free name text = true
      ↔ ∃ before behind, text = before ++ name ++ behind ∧ (before = [] → free = true)
        ∧ (∀ c ∈ before.getLast?, isIdentifierChar c = false)
        ∧ ∀ c ∈ behind.head?, isIdentifierChar c = false := by
  induction text generalizing free with
  | nil =>
      simp only [mentionsFrom, Bool.and_eq_true, beginsWithName_iff]
      constructor
      · rintro ⟨hfree, behind, htext, hhead⟩
        exact ⟨[], behind, htext, fun _ => hfree, by simp, hhead⟩
      · rintro ⟨before, behind, htext, hfree, -, hhead⟩
        have hnil : before = [] := by
          simp only [List.nil_eq, List.append_eq_nil_iff] at htext
          exact htext.1.1
        subst hnil
        exact ⟨hfree rfl, behind, htext, hhead⟩
  | cons c rest ih =>
      simp only [mentionsFrom, Bool.or_eq_true, Bool.and_eq_true, beginsWithName_iff, ih]
      constructor
      · rintro (⟨hfree, behind, htext, hhead⟩ | ⟨before, behind, htext, hfree, hlast, hhead⟩)
        · exact ⟨[], behind, htext, fun _ => hfree, by simp, hhead⟩
        · refine ⟨c :: before, behind, by rw [htext]; rfl, by simp, ?_, hhead⟩
          cases before with
          | nil => simpa using hfree
          | cons d more => simpa using hlast
      · rintro ⟨before, behind, htext, hfree, hlast, hhead⟩
        cases before with
        | nil => exact Or.inl ⟨hfree rfl, behind, htext, hhead⟩
        | cons d before =>
            obtain ⟨rfl, hrest⟩ := List.cons.inj htext
            refine Or.inr ⟨before, behind, hrest, ?_, ?_, hhead⟩
            · rintro rfl
              simpa using hlast
            · intro e he
              cases before with
              | nil => simp at he
              | cons f more => exact hlast e (by simpa using he)

/-- **A script mentions exactly the names that stand alone in it.** -/
theorem mentions_iff {script name : String} :
    mentions script name = true ↔ StandsIn name.toList script.toList := by
  unfold mentions StandsIn
  rw [mentionsFrom_iff]
  simp

/-- A name keeps standing alone when a character follows that continues no identifier. -/
lemma StandsIn.append {name text : List Char} (h : StandsIn name text) {c : Char}
    (hc : isIdentifierChar c = false) : StandsIn name (text ++ [c]) := by
  obtain ⟨before, behind, rfl, hlast, hhead⟩ := h
  refine ⟨before, behind ++ [c], by simp, hlast, ?_⟩
  cases behind with
  | nil => simpa using hc
  | cons d rest => simpa using hhead

end Componentry.Text
