import Mathlib.Data.List.Basic
import Componentry.Proofs.Component.Generation
import Componentry.Proofs.Text.Mention

/-!
# Setters that are called

A state that is written out is declared as a cell unless its setter is mentioned; a cell has no
setter.  So a script that mentions the setter of a cell fails when it runs.  Whether that can happen
depends on where setters are searched (`Parts.searched`): in all scripts of the body, and in the
statements on mount.

Rendering writes no other scripts into the body (`Generated.searched_of_body`), so no setter that
the body or the effect on mount mentions goes undeclared.  Initial values of states are *not*
searched.  `setter_declared` says exactly when that matters.
-/

namespace Componentry

open Text

section Generated

variable {document : Document} {name : String} {options : Options} {m : Module}
  {warnings : List Warning}

/-! ## Declarations -/

/-- Every state has a name, and is declared in the form that its value and the mentions ask for. -/
lemma Generated.declared_mem (h : Generated document name options m warnings)
    {state : StateDeclaration} (hstate : state ∈ document.parts.value.states) :
    ∃ stateName, state.name = some stateName
      ∧ Declaration.ofState document.parts.value.mentioned stateName state
        ∈ m.setup.declarations := by
  have hall := forall₂_of_declareStates h.declared
  generalize document.parts.value.states = states at hstate hall
  generalize m.setup.declarations = declarations at hall ⊢
  induction hall with
  | nil => simp at hstate
  | @cons first declaration rest more hfirst _ ih =>
      rcases List.mem_cons.mp hstate with rfl | hrest
      · obtain ⟨stateName, hname, rfl⟩ := hfirst
        exact ⟨stateName, hname, List.mem_cons_self⟩
      · obtain ⟨stateName, hname, hmem⟩ := ih hrest
        exact ⟨stateName, hname, List.mem_cons_of_mem _ hmem⟩

lemma Generated.ofState_mem (h : Generated document name options m warnings)
    {state : StateDeclaration} (hstate : state ∈ document.parts.value.states)
    {stateName : String} (hname : state.name = some stateName) :
    Declaration.ofState document.parts.value.mentioned stateName state ∈ m.setup.declarations := by
  obtain ⟨found, hfound, hmem⟩ := h.declared_mem hstate
  rw [hname] at hfound
  cases hfound
  exact hmem

/-- Every declaration is that of a named state. -/
lemma Generated.state_of_declaration (h : Generated document name options m warnings)
    {declaration : Declaration} (hd : declaration ∈ m.setup.declarations) :
    ∃ state ∈ document.parts.value.states, ∃ stateName, state.name = some stateName
      ∧ declaration = .ofState document.parts.value.mentioned stateName state := by
  have hall := forall₂_of_declareStates h.declared
  generalize document.parts.value.states = states at hall ⊢
  generalize m.setup.declarations = declarations at hd hall
  induction hall with
  | nil => simp at hd
  | @cons first found rest more hfirst _ ih =>
      rcases List.mem_cons.mp hd with rfl | hmore
      · exact ⟨first, List.mem_cons_self, hfirst⟩
      · obtain ⟨state, hs, hstate⟩ := ih hmore
        exact ⟨state, List.mem_cons_of_mem _ hs, hstate⟩

/-- A state is a cell exactly if its value is written out and its setter is not found. -/
lemma Generated.cell_mem (h : Generated document name options m warnings)
    {stateName value : String} :
    Declaration.cell stateName value ∈ m.setup.declarations
      ↔ ∃ state ∈ document.parts.value.states, state.name = some stateName ∧ state.isHook = false
        ∧ document.parts.value.mentioned (setterName stateName) = false
          ∧ state.value.script = value := by
  constructor
  · intro hcell
    obtain ⟨state, hs, found, hname, heq⟩ := h.state_of_declaration hcell
    unfold Declaration.ofState at heq
    split_ifs at heq with hreactive
    simp only [Bool.or_eq_true, not_or, Bool.not_eq_true] at hreactive
    obtain ⟨rfl, rfl⟩ := Declaration.cell.inj heq
    exact ⟨state, hs, hname, hreactive.1, hreactive.2, rfl⟩
  · rintro ⟨state, hs, hname, hhook, hmention, rfl⟩
    have hmem := h.ofState_mem hs hname
    simpa [Declaration.ofState, hhook, hmention] using hmem

lemma Declaration.value_ofState (mentioned : String → Bool) (stateName : String)
    (state : StateDeclaration) :
    (ofState mentioned stateName state).value = state.value.script := by
  unfold ofState
  split_ifs <;> rfl

/-! ## Where setters are searched -/

lemma Parts.mentioned_iff {parts : Parts} {word : String} :
    parts.mentioned word = true ↔ ∃ text ∈ parts.searched, StandsIn word.toList text.toList := by
  simp only [mentioned, List.any_eq_true, mentions_iff]

/-- Every script in the body is searched: rendering reaches only nodes that the analysis goes
over. -/
lemma Generated.searched_of_body (h : Generated document name options m warnings) {source : String}
    (hs : Piece.script source ∈ m.body) :
    source ∈ document.parts.value.searched := by
  rw [h.body, ← mem_marksOf rfl, marksOf_renderNodes, List.mem_flatMap] at hs
  obtain ⟨placed, hp, hmark⟩ := hs
  have hscript : source ∈ (usageOfNodes document.parts.value.body).scripts :=
    mem_scripts.mpr ⟨placed.node, visitedNodes_of_rendered hp, Node.script_mem_marks.mp hmark⟩
  exact List.mem_append_left _ hscript

/-- A name that stands alone in the body or in a statement on mount is found. -/
lemma Generated.mentioned_of_shown (h : Generated document name options m warnings)
    {source word : String}
    (hs : Piece.script source ∈ m.body ∨ ∃ e ∈ document.parts.value.mounts, e.source = source)
    (hword : StandsIn word.toList source.toList) : document.parts.value.mentioned word = true := by
  rw [Parts.mentioned_iff]
  rcases hs with hbody | ⟨e, he, rfl⟩
  · exact ⟨source, h.searched_of_body hbody, hword⟩
  · -- a statement on mount is searched with the semicolon behind it
    refine ⟨e.source ++ ";", List.mem_append_right _ (List.mem_map_of_mem he), ?_⟩
    rw [String.toList_append]
    exact hword.append (by decide)

/-! ## Undeclared setters -/

/-- A module holds an expression of the author: in its body, among the statements on mount, or as
the initial value of a state. -/
inductive Emitted (parts : Parts) (m : Module) : String → Prop
  | body {source} (h : Piece.script source ∈ m.body) : Emitted parts m source
  | mount {e} (h : e ∈ parts.mounts) : Emitted parts m e.source
  | initial {state e} (h : state ∈ parts.states) (hvalue : state.value = .expression e) :
      Emitted parts m e.source

/-- The setter of a state is mentioned in initial values only, and the state is written out: then
nothing makes it reactive. -/
structure Parts.OverlooksSetter (parts : Parts) (stateName : String) : Prop where
  literal : ∃ state ∈ parts.states, state.name = some stateName ∧ state.isHook = false
  initial : ∃ state ∈ parts.states, ∃ e, state.value = .expression e
    ∧ StandsIn (setterName stateName).toList e.source.toList
  unsearched : ∀ text ∈ parts.searched, ¬ StandsIn (setterName stateName).toList text.toList

/-- What a module holds is written out with it. -/
lemma Generated.script_of_emitted (h : Generated document name options m warnings) {source : String}
    (hs : Emitted document.parts.value m source) :
    Piece.script source ∈ m.pieces := by
  rw [← mem_marksOf rfl, h.marksOf_pieces, List.mem_append, Setup.script_mem_lines,
    mem_marksOf rfl, h.mounts]
  cases hs with
  | body hbody => exact Or.inr hbody
  | mount he => exact Or.inl (Or.inr ⟨_, he, rfl⟩)
  | initial hstate hvalue =>
      obtain ⟨stateName, -, hmem⟩ := h.declared_mem hstate
      refine Or.inl (Or.inl ⟨_, hmem, ?_⟩)
      rw [Declaration.value_ofState, hvalue]
      rfl

/-- A state is declared with its setter, and no state of this name is a cell. -/
def Setup.DeclaresSetter (setup : Setup) (stateName value : String) : Prop :=
  Declaration.reactive stateName value ∈ setup.declarations
    ∧ ∀ other, Declaration.cell stateName other ∉ setup.declarations

/-- A state is declared with its setter exactly if the setter is found, or all states of its name
have computed values. -/
lemma Generated.declaresSetter_iff (h : Generated document name options m warnings)
    {state : StateDeclaration} (hstate : state ∈ document.parts.value.states)
    {stateName : String} (hname : state.name = some stateName) :
    m.setup.DeclaresSetter stateName state.value.script
      ↔ document.parts.value.mentioned (setterName stateName) = true
        ∨ ∀ other ∈ document.parts.value.states, other.name = some stateName →
          other.isHook = true := by
  have hmem := h.ofState_mem hstate hname
  constructor
  · rintro ⟨-, hnocell⟩
    by_contra hno
    push Not at hno
    obtain ⟨hmention, other, hother, hothername, hliteral⟩ := hno
    refine hnocell other.value.script (h.cell_mem.mpr ⟨other, hother, hothername, ?_, ?_, rfl⟩)
    · exact Bool.eq_false_iff.mpr hliteral
    · exact Bool.eq_false_iff.mpr hmention
  · rintro (hmention | hhooks)
    · refine ⟨by simpa [Declaration.ofState, hmention] using hmem, fun other hcell => ?_⟩
      obtain ⟨_, -, -, -, hno, -⟩ := h.cell_mem.mp hcell
      exact absurd hmention (Bool.eq_false_iff.mp hno)
    · refine ⟨by simpa [Declaration.ofState, hhooks state hstate hname] using hmem,
        fun other hcell => ?_⟩
      obtain ⟨found, hfound, hfoundname, hno, -, -⟩ := h.cell_mem.mp hcell
      exact absurd (hhooks found hfound hfoundname) (Bool.eq_false_iff.mp hno)

end Generated

/-- **When setters are declared.**  For every module that is generated and every state of it:

* what the module holds of the author's expressions is written out with it;
* if an expression in the body or a statement on mount mentions the setter, the state is declared
  with it;
* if any expression that the module holds mentions the setter, the state is declared with it,
  *unless* the setter is overlooked: it is mentioned in initial values only, and some state of this
  name is written out. -/
theorem setter_declared {document : Document} {name : String} {options : Options}
    {m : Module} {warnings : List Warning}
    (h : generate document name options = .ok ⟨m, warnings⟩)
    {state : StateDeclaration} (hstate : state ∈ document.parts.value.states)
    {stateName : String} (hname : state.name = some stateName) :
    (∀ source, Emitted document.parts.value m source → Piece.script source ∈ m.pieces)
    ∧ ((∃ source, (Piece.script source ∈ m.body
            ∨ ∃ e ∈ document.parts.value.mounts, e.source = source)
          ∧ StandsIn (setterName stateName).toList source.toList) →
        m.setup.DeclaresSetter stateName state.value.script)
    ∧ (((∃ source, Emitted document.parts.value m source
          ∧ StandsIn (setterName stateName).toList source.toList) →
        m.setup.DeclaresSetter stateName state.value.script)
      ↔ ¬ document.parts.value.OverlooksSetter stateName) := by
  have hm : Generated document name options m warnings := generated_of_generate h
  have hdeclares := hm.declaresSetter_iff hstate hname
  refine ⟨fun source hs => hm.script_of_emitted hs, ?_, ?_, ?_⟩
  · rintro ⟨source, hshown, hword⟩
    exact hdeclares.mpr (Or.inl (hm.mentioned_of_shown hshown hword))
  · rintro himp ⟨⟨other, hother, hothername, hliteral⟩, ⟨holder, hholder, e, hvalue, hword⟩, hno⟩
    rcases hdeclares.mp (himp ⟨e.source, .initial hholder hvalue, hword⟩) with hmention | hhooks
    · obtain ⟨text, htext, hfound⟩ := Parts.mentioned_iff.mp hmention
      exact hno text htext hfound
    · exact absurd (hhooks other hother hothername) (Bool.eq_false_iff.mp hliteral)
  · rintro hkeep ⟨source, hemitted, hword⟩
    refine hdeclares.mpr (or_iff_not_imp_left.mpr fun hmention other hother hothername => ?_)
    cases hemitted with
    | body hbody => exact absurd (hm.mentioned_of_shown (Or.inl hbody) hword) hmention
    | mount he => exact absurd (hm.mentioned_of_shown (Or.inr ⟨_, he, rfl⟩) hword) hmention
    | @initial holder e hholder hvalue =>
        -- the mention is in an initial value only, so no state of this name can be written out
        by_contra hliteral
        refine hkeep ⟨⟨other, hother, hothername, Bool.eq_false_iff.mpr hliteral⟩,
          ⟨holder, hholder, e, hvalue, hword⟩, fun text htext hfound => ?_⟩
        exact hmention (Parts.mentioned_iff.mpr ⟨text, htext, hfound⟩)

/-- A counter whose second state is a function that calls the setter of the first. -/
def counterDocument (shown : Expression) : Document where
  body := [.component "div" [] [
    .state ⟨some "count", .number "0", false, ⟨1, 6⟩⟩,
    .state ⟨some "reset", .expression ⟨"() => setCount(0)", .arrow⟩, true, ⟨1, 25⟩⟩,
    .component "p" [] [.expression shown]]]

/-- Shown by an expression that calls the setter as well, the count is declared with it. -/
theorem setter_declared_counter : ∃ m warnings,
    generate (counterDocument ⟨"setCount(count + 1)", .call⟩) "Counter" {} = .ok ⟨m, warnings⟩
    ∧ m.setup.DeclaresSetter "count" "0" := by
  refine ⟨_, _, rfl, ?_⟩
  have hshown := (setter_declared
    (show generate (counterDocument ⟨"setCount(count + 1)", .call⟩) "Counter" {}
      = .ok ⟨_, _⟩ from rfl)
    (show ⟨some "count", .number "0", false, ⟨1, 6⟩⟩ ∈ _ from List.mem_cons_self) rfl).2.1
  refine hshown ⟨"setCount(count + 1)", Or.inl (by decide), [], "(count + 1)".toList, ?_, ?_, ?_⟩
  · decide
  · simp
  · intro c hc
    obtain rfl : '(' = c := Option.some.inj hc
    decide

/-- **An undeclared setter.**  Shown by an expression that does not, the count is a cell, although
the initial value of the other state calls the setter: the module calls a function that it does not
declare. -/
theorem setter_undeclared_in_initial_value : ∃ m warnings,
    generate (counterDocument ⟨"count", .identifier "count"⟩) "Counter" {} = .ok ⟨m, warnings⟩
    ∧ Emitted (counterDocument ⟨"count", .identifier "count"⟩).parts.value m "() => setCount(0)"
    ∧ StandsIn (setterName "count").toList "() => setCount(0)".toList
    ∧ ¬ m.setup.DeclaresSetter "count" "0"
    ∧ Declaration.cell "count" "0" ∈ m.setup.declarations := by
  refine ⟨_, _, rfl, ?_, ⟨"() => ".toList, "(0)".toList, ?_, ?_, ?_⟩, ?_, ?_⟩
  · exact Emitted.initial
      (show ⟨some "reset", .expression ⟨"() => setCount(0)", .arrow⟩, true, ⟨1, 25⟩⟩ ∈ _ from
        List.mem_cons_of_mem _ List.mem_cons_self) rfl
  · decide
  · intro c hc
    obtain rfl : ' ' = c := Option.some.inj hc
    decide
  · intro c hc
    obtain rfl : '(' = c := Option.some.inj hc
    decide
  · exact fun hdeclares => hdeclares.2 "0" List.mem_cons_self
  · exact List.mem_cons_self

end Componentry
