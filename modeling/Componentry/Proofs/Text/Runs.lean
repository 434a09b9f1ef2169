import Mathlib.Data.List.Basic
import Componentry.Proofs.Text.Mention

/-!
# Runs of identifier characters

A script falls into its longest runs of identifier characters and what is between them.  A name that
is made of such characters stands alone in a script exactly if it is one of the runs, so to look for
a name that stands alone is to compare whole identifiers (`standsIn_iff_mem_identifierRuns`).
-/

namespace Componentry.Text

/-- The longest runs of identifier characters in a text, in order. -/
def identifierRuns (text : List Char) : List (List Char) :=
  (text.splitOnP fun c => !isIdentifierChar c).filter (· ≠ [])

section Runs

variable {front rest run : List Char} {c : Char}

/-- A text without any other characters is one run. -/
lemma identifierRuns_of_forall (h : ∀ d ∈ front, isIdentifierChar d = true) (hne : front ≠ []) :
    identifierRuns front = [front] := by
  rw [identifierRuns, List.splitOnP_eq_singleton fun d hd => by simp [h d hd]]
  simp [hne]

/-- No run goes over a character that belongs to no identifier. -/
lemma identifierRuns_append_cons (hc : isIdentifierChar c = false) :
    identifierRuns (front ++ c :: rest) = identifierRuns front ++ identifierRuns rest := by
  rw [identifierRuns, List.splitOnP_append_cons _ _ (by simp [hc]), List.filter_append]
  rfl

lemma identifierRuns_append_singleton (hc : isIdentifierChar c = false) :
    identifierRuns (front ++ [c]) = identifierRuns front := by
  rw [identifierRuns_append_cons hc]
  exact List.append_nil _

/-- A text is all identifier characters, or it has a first character that is none. -/
lemma forall_or_exists_append_cons (text : List Char) :
    (∀ d ∈ text, isIdentifierChar d = true)
      ∨ ∃ front c rest, text = front ++ c :: rest ∧ (∀ d ∈ front, isIdentifierChar d = true)
        ∧ isIdentifierChar c = false := by
  induction text with
  | nil => exact .inl (by simp)
  | cons d text ih =>
      cases hd : isIdentifierChar d with
      | false => exact .inr ⟨[], d, text, rfl, by simp, hd⟩
      | true =>
          rcases ih with hall | ⟨front, c, rest, rfl, hfront, hc⟩
          · exact .inl (List.forall_mem_cons.mpr ⟨hd, hall⟩)
          · exact .inr ⟨d :: front, c, rest, rfl, List.forall_mem_cons.mpr ⟨hd, hfront⟩, hc⟩

/-- A run stands alone. -/
lemma standsIn_of_mem_identifierRuns {run text : List Char} (h : run ∈ identifierRuns text) :
    StandsIn run text := by
  rcases forall_or_exists_append_cons text with hall | ⟨front, c, rest, rfl, hfront, hc⟩
  · by_cases hnil : text = []
    · rw [hnil] at h
      exact absurd h (by simp [identifierRuns])
    · rw [identifierRuns_of_forall hall hnil, List.mem_singleton] at h
      exact ⟨[], [], by simp [h], by simp, by simp⟩
  · rw [identifierRuns_append_cons hc, List.mem_append] at h
    rcases h with h | h
    · by_cases hnil : front = []
      · rw [hnil] at h
        exact absurd h (by simp [identifierRuns])
      · rw [identifierRuns_of_forall hfront hnil, List.mem_singleton] at h
        exact ⟨[], c :: rest, by simp [h], by simp, by simpa using hc⟩
    · obtain ⟨before, behind, rfl, hlast, hhead⟩ := standsIn_of_mem_identifierRuns h
      refine ⟨front ++ c :: before, behind, by simp, ?_, hhead⟩
      -- in front of the run is what is in front of it in the rest, or the character that ended
      -- the first one
      cases before with
      | nil => simpa using hc
      | cons d before => simpa [List.getLast?_append] using hlast
termination_by text.length
decreasing_by simp_all; omega

/-- **A name stands alone exactly if it is a run.** -/
theorem standsIn_iff_mem_identifierRuns {text : List Char}
    (hrun : ∀ d ∈ run, isIdentifierChar d = true) (hne : run ≠ []) :
    StandsIn run text ↔ run ∈ identifierRuns text := by
  refine ⟨?_, standsIn_of_mem_identifierRuns⟩
  rintro ⟨before, behind, rfl, hlast, hhead⟩
  have hbehind : run ∈ identifierRuns (run ++ behind) := by
    cases behind with
    | nil => simp [identifierRuns_of_forall hrun hne]
    | cons c rest =>
        rw [identifierRuns_append_cons (hhead c rfl), identifierRuns_of_forall hrun hne]
        exact List.mem_cons_self
  rcases List.eq_nil_or_concat' before with rfl | ⟨front, c, rfl⟩
  · exact hbehind
  · have hc : isIdentifierChar c = false := hlast c (by simp)
    rw [List.append_assoc, List.append_assoc, List.singleton_append, identifierRuns_append_cons hc]
    exact List.mem_append_right _ hbehind

end Runs

end Componentry.Text
