import Mathlib.Data.List.Basic
import Componentry.Proofs.Component.ModuleText

/-!
# Imports and props against the body

A module imports hooks and takes props by what the usage analysis found; its body is what rendering
wrote.  The two go over the document separately.  This file shows that they agree.

**Hooks.**  The generated code calls exactly the hooks of its setup and of the rendered nodes
(`Generated.hook_mem_function`), and the import lists those of the setup and of the *outline*
(`Generated.mem_hooks`).  The outline contains every rendered node, so no call lacks its import; and
where no content for a slot is dropped the two are the same nodes, so no import is idle.

**Slots.**  A slot is a variable or a field of the props by the names in the frame, which never
change on the way down (`Node.rendered_props`).  They are the names in the parameter of the
component function.

What is imported and which parameter there is, is said of the text of the module, by
`Module.text_eq`.
-/

namespace Componentry

/-! ## Signatures -/

/-- With names there is a pattern, and without any the props are one object. -/
lemma parameter_signatureOf (names : List String) (usage : Usage) :
    (signatureOf names usage).parameter
      = if names = [] then "props" else propsPattern names (usage.readsProps names) := by
  unfold signatureOf
  simp only [List.isEmpty_iff]
  split_ifs <;> rfl

/-- The props are bound as one object as soon as a slot is read that has no variable. -/
lemma bindsProps_of_slotRead {names : List String} {usage : Usage} {slot : Option String}
    (hread : slot ∈ usage.slotReads) (hname : slotName slot ∉ names) :
    (signatureOf names usage).parameter = "props"
      ∨ (signatureOf names usage).parameter = propsPattern names true := by
  have hreads : usage.readsProps names = true :=
    List.any_eq_true.mpr ⟨slot, hread, by simpa using hname⟩
  rw [parameter_signatureOf, hreads]
  split_ifs
  · exact .inl rfl
  · exact .inr rfl

/-- The rest of the props is asked for only if a slot is read that has no variable. -/
lemma slotRead_of_rest {names : List String} {usage : Usage}
    (h : (signatureOf names usage).parameter = propsPattern names true) :
    ∃ slot ∈ usage.slotReads, slotName slot ∉ names := by
  rw [parameter_signatureOf] at h
  split_ifs at h
  · exact absurd h.symm (propsPattern_ne_props names true)
  · obtain ⟨slot, hread, hname⟩ := List.any_eq_true.mp (propsPattern_inj.mp h)
    exact ⟨slot, hread, by simpa using hname⟩

/-! ## Frames -/

/-- All nodes are rendered with the same props. -/
lemma Node.rendered_props {frame : Frame} {node : Node} {placed : Placed}
    (h : placed ∈ node.rendered frame) : placed.frame.props = frame.props := by
  induction node using Node.induction generalizing frame with
  | step node ih =>
    rcases Node.mem_rendered.mp h with rfl | ⟨next, hnext, hfound⟩
    · rfl
    · rw [ih _ (Node.entered_inner hnext) hfound, Node.entered_props hnext]

lemma Parts.rendered_props {parts : Parts} {name : String} {placed : Placed}
    (h : placed ∈ parts.rendered name) : placed.frame.props = parts.propNames := by
  obtain ⟨node, -, hp⟩ := List.mem_flatMap.mp h
  exact Node.rendered_props hp

/-- A slot, as it is read from the props. -/
def propsField : Option String → String
  | none => "props.children"
  | some name => "props[" ++ Text.quoted name ++ "]"

/-- A slot is a variable if the frame has its name, and a field of the props otherwise. -/
lemma textOf_slot (frame : Frame) (slot : Option String) :
    textOf (renderNode frame (.slot slot))
      = if slotName slot ∈ frame.props then "\x7b" ++ slotName slot ++ "\x7d"
        else "\x7b" ++ propsField slot ++ "\x7d" := by
  rw [renderNode, slotPieces]
  simp only [List.contains_iff_mem]
  split_ifs
  · simp [braced, Piece.text, String.append_assoc]
  · cases slot <;> simp [braced, Piece.text, propsField, String.append_assoc]

/-! ## Hooks -/

lemma Setup.needsState_iff {setup : Setup} : setup.needsState = true ↔ setup.Calls .state := by
  simp only [needsState, Bool.not_eq_true', List.isEmpty_eq_false_iff, List.ne_nil_iff_exists_cons]
  constructor
  · rintro ⟨declaration, rest, h⟩
    cases declaration with
    | reactive name value => exact .reactive (h ▸ List.mem_cons_self)
    | cell name value => exact .forceRender (h ▸ List.mem_cons_self)
  · intro h
    cases h with
    | reactive h => exact List.exists_cons_of_ne_nil (List.ne_nil_of_mem h)
    | forceRender h => exact List.exists_cons_of_ne_nil (List.ne_nil_of_mem h)

lemma Setup.cells_iff {setup : Setup} : setup.cells ≠ [] ↔ setup.Calls .ref := by
  rw [ne_eq, cells_eq_nil]
  constructor
  · intro h
    push Not at h
    obtain ⟨name, value, hc⟩ := h
    exact .cell hc
  · rintro ⟨⟩ hno
    exact hno _ _ ‹_›

lemma Setup.needsEffect_iff {setup : Setup} : setup.needsEffect = true ↔ setup.Calls .effect := by
  simp only [needsEffect, Bool.not_eq_true', List.isEmpty_eq_false_iff]
  constructor
  · exact .mount
  · rintro ⟨⟩
    assumption

/-- The import lists the hooks of the setup and of all nodes of the outline. -/
lemma mem_hooksOf {setup : Setup} {nodes : List Node} {hook : Hook} :
    hook ∈ hooksOf setup (usageOfNodes nodes)
      ↔ setup.Calls hook ∨ ∃ node ∈ visitedNodes nodes, node.Calls hook := by
  have hstate : Hook.state ∈ hooksOf setup (usageOfNodes nodes)
      ↔ setup.needsState = true ∨ (usageOfNodes nodes).needsState = true := by
    simp [hooksOf]
  have href : Hook.ref ∈ hooksOf setup (usageOfNodes nodes) ↔ setup.cells ≠ [] := by
    simp [hooksOf]
  have heffect : Hook.effect ∈ hooksOf setup (usageOfNodes nodes)
      ↔ setup.needsEffect = true ∨ (usageOfNodes nodes).needsEffect = true := by
    simp [hooksOf]
  cases hook with
  | state => rw [hstate, Setup.needsState_iff, needsState_iff]
  | ref =>
      rw [href, Setup.cells_iff]
      exact (or_iff_left (by rintro ⟨node, -, ⟨⟩⟩)).symm
  | effect => rw [heffect, Setup.needsEffect_iff, needsEffect_iff]

section Generated

variable {document : Document} {name : String} {options : Options} {m : Module}
  {warnings : List Warning}

/-- The generated code calls the hooks of the setup and of the rendered nodes. -/
lemma Generated.hook_mem_function (h : Generated document name options m warnings) {hook : Hook} :
    Piece.hook hook ∈ m.function
      ↔ m.setup.Calls hook
        ∨ ∃ placed ∈ document.parts.value.rendered name, placed.node.Calls hook := by
  rw [← mem_marksOf rfl, h.marksOf_function, List.mem_append, Setup.hook_mem_lines, h.body,
    marksOf_renderNodes, List.mem_flatMap]
  simp only [Node.hook_mem_marks]
  rfl

lemma Generated.mem_hooks (h : Generated document name options m warnings) {hook : Hook} :
    hook ∈ m.hooks
      ↔ m.setup.Calls hook
        ∨ ∃ node ∈ visitedNodes document.parts.value.body, node.Calls hook := by
  rw [h.hooks, mem_hooksOf]

/-! ## Agreement -/

/-- No call lacks its import. -/
lemma Generated.imported (h : Generated document name options m warnings) {hook : Hook}
    (hcall : Piece.hook hook ∈ m.function) : hook ∈ m.hooks := by
  rw [h.mem_hooks]
  rcases h.hook_mem_function.mp hcall with hsetup | ⟨placed, hp, hnode⟩
  · exact Or.inl hsetup
  · exact Or.inr ⟨placed.node, visitedNodes_of_rendered hp, hnode⟩

/-- No import is idle where nothing is dropped. -/
lemma Generated.called (h : Generated document name options m warnings)
    (hkeep : ∀ placed ∈ document.parts.value.rendered name, ¬ placed.DropsContent) {hook : Hook}
    (himport : hook ∈ m.hooks) : Piece.hook hook ∈ m.function := by
  rw [h.hook_mem_function]
  rcases h.mem_hooks.mp himport with hsetup | ⟨node, hv, hnode⟩
  · exact Or.inl hsetup
  · obtain ⟨placed, hp, rfl⟩ := rendered_of_visitedNodes hkeep hv
    exact Or.inr ⟨placed, hp, hnode⟩

/-- A rendered slot that is no variable is written as a field of the props. -/
lemma textOf_field {placed : Placed} (hp : placed ∈ document.parts.value.rendered name)
    {slot : Option String} (hslot : placed.node = .slot slot)
    (hname : slotName slot ∉ document.parts.value.propNames) :
    textOf (renderNode placed.frame placed.node) = "\x7b" ++ propsField slot ++ "\x7d" := by
  rw [hslot, textOf_slot, Parts.rendered_props hp, if_neg hname]

/-- What a rendered slot is written as can be read where it stands. -/
lemma Generated.slot_bound (h : Generated document name options m warnings) {placed : Placed}
    (hp : placed ∈ document.parts.value.rendered name) {slot : Option String}
    (hslot : placed.node = .slot slot) :
    slotName slot ∉ document.parts.value.propNames
      ∧ textOf (renderNode placed.frame placed.node) = "\x7b" ++ propsField slot ++ "\x7d"
      ∧ (m.signature.parameter = "props"
        ∨ m.signature.parameter = propsPattern document.parts.value.propNames true)
    ∨ slotName slot ∈ document.parts.value.propNames
      ∧ textOf (renderNode placed.frame placed.node) = "\x7b" ++ slotName slot ++ "\x7d"
      ∧ ∃ rest, m.signature.parameter = propsPattern document.parts.value.propNames rest := by
  rw [h.signature]
  by_cases hname : slotName slot ∈ document.parts.value.propNames
  · refine .inr ⟨hname, ?_, ?_⟩
    · rw [hslot, textOf_slot, Parts.rendered_props hp, if_pos hname]
    · rw [parameter_signatureOf, if_neg (List.ne_nil_of_mem hname)]
      exact ⟨_, rfl⟩
  · have hvisited : Node.slot slot ∈ visitedNodes document.parts.value.body :=
      hslot ▸ visitedNodes_of_rendered hp
    exact .inl ⟨hname, textOf_field hp hslot hname,
      bindsProps_of_slotRead (mem_slotReads.mpr hvisited) hname⟩

/-- The rest of the props is asked for only by a rendered slot, where nothing is dropped. -/
lemma Generated.slot_of_rest (h : Generated document name options m warnings)
    (hkeep : ∀ placed ∈ document.parts.value.rendered name, ¬ placed.DropsContent)
    (hrest : m.signature.parameter = propsPattern document.parts.value.propNames true) :
    ∃ placed ∈ document.parts.value.rendered name, ∃ slot, placed.node = .slot slot
      ∧ slotName slot ∉ document.parts.value.propNames
      ∧ textOf (renderNode placed.frame placed.node) = "\x7b" ++ propsField slot ++ "\x7d" := by
  rw [h.signature] at hrest
  obtain ⟨slot, hread, hname⟩ := slotRead_of_rest hrest
  obtain ⟨placed, hp, hslot⟩ := rendered_of_visitedNodes hkeep (mem_slotReads.mp hread)
  exact ⟨placed, hp, slot, hslot, hname, textOf_field hp hslot hname⟩

end Generated

/-- **The usage analysis and rendering agree.**  For every module that is generated:

* its text is a header, the import lines, the component function up to its brace with a parameter,
  and the code of this function.  The hooks are imported on a line of their own, if there are any;
* the marks of its body are those of the rendered nodes;
* its code calls the hooks that its setup and its rendered nodes call for, and no others, and all of
  them are imported;
* every rendered slot is written as a field of the props, and then the parameter binds the props, or
  as a variable, and then the parameter is a pattern that names it;
* if no rendered node drops content for a slot, then conversely every imported hook is called, and
  the rest of the props is asked for only if some rendered slot is written as a field of the
  props. -/
theorem usage_agrees_with_rendering {document : Document} {name : String} {options : Options}
    {m : Module} {warnings : List Warning}
    (h : generate document name options = .ok ⟨m, warnings⟩) :
    (m.text = Module.header ++ "\n// This file was compiled from a ." ++ options.sourceExtension
      ++ " component.\n\n"
      ++ importLine [options.jsxPragma] options.jsxModule
      ++ importLine (m.hooks.map Hook.name) options.hooksModule
      ++ importLine m.components options.registryModule
      ++ "\nexport default function " ++ name ++ "(" ++ m.signature.parameter ++ ") \x7b\n"
      ++ textOf m.function)
    ∧ (marksOf m.body = (document.parts.value.rendered name).flatMap fun placed =>
      placed.node.marks placed.frame)
    ∧ (∀ hook, Piece.hook hook ∈ m.function
      ↔ m.setup.Calls hook
        ∨ ∃ placed ∈ document.parts.value.rendered name, placed.node.Calls hook)
    ∧ (∀ hook, Piece.hook hook ∈ m.function → hook ∈ m.hooks)
    ∧ (∀ placed ∈ document.parts.value.rendered name, ∀ slot, placed.node = .slot slot →
        slotName slot ∉ document.parts.value.propNames
          ∧ textOf (renderNode placed.frame placed.node) = "\x7b" ++ propsField slot ++ "\x7d"
          ∧ (m.signature.parameter = "props"
            ∨ m.signature.parameter = propsPattern document.parts.value.propNames true)
        ∨ slotName slot ∈ document.parts.value.propNames
          ∧ textOf (renderNode placed.frame placed.node) = "\x7b" ++ slotName slot ++ "\x7d"
          ∧ ∃ rest, m.signature.parameter = propsPattern document.parts.value.propNames rest)
    ∧ ((∀ placed ∈ document.parts.value.rendered name, ¬ placed.DropsContent) →
        (∀ hook ∈ m.hooks, Piece.hook hook ∈ m.function)
        ∧ (m.signature.parameter = propsPattern document.parts.value.propNames true →
            ∃ placed ∈ document.parts.value.rendered name, ∃ slot, placed.node = .slot slot
              ∧ slotName slot ∉ document.parts.value.propNames
              ∧ textOf (renderNode placed.frame placed.node)
                = "\x7b" ++ propsField slot ++ "\x7d")) := by
  have hm : Generated document name options m warnings := generated_of_generate h
  refine ⟨?_, ?_, fun _ => hm.hook_mem_function, fun _ hcall => hm.imported hcall,
    fun placed hp slot hslot => hm.slot_bound hp hslot, fun hkeep => ⟨?_, ?_⟩⟩
  · rw [m.text_eq, hm.name_eq, hm.options_eq]
  · rw [hm.body, marksOf_renderNodes]
    rfl
  · exact fun _ himport => hm.called hkeep himport
  · exact fun hrest => hm.slot_of_rest hkeep hrest

/-- A component with a cell, a named prop, and content for a slot that waits for a promise. -/
def cardDocument : Document where
  body := [.component "section" [] [
    .state ⟨some "count", .number "0", false, ⟨1, 1⟩⟩,
    .props false ["title"],
    .component "Panel" [] [
      .slotContent "head" (.async ⟨"load()", .call⟩ none [.slot none] [] [] "data" "error"),
      .slot (some "title")],
    .fragment [.onMount [.expression ⟨"start()", .call⟩]]]]

/-- The content for the slot is kept, so all three hooks are imported and called, and the slot
without a variable is why the rest of the props is asked for. -/
theorem usage_agrees_with_rendering_card : ∃ m warnings,
    generate cardDocument "Card" {} = .ok ⟨m, warnings⟩
    ∧ m.text = Module.header ++ "\n// This file was compiled from a ." ++ "speck"
      ++ " component.\n\n"
      ++ "import \x7b h \x7d from 'preact';\n"
      ++ "import \x7b useState, useRef, useEffect \x7d from 'preact/hooks';\n"
      ++ importLine m.components "./_componentRegistry.js"
      ++ "\nexport default function " ++ "Card" ++ "(" ++ "\x7b title, ...props \x7d" ++ ") \x7b\n"
      ++ textOf m.function
    ∧ (∀ hook, Piece.hook hook ∈ m.function)
    ∧ ∃ placed ∈ cardDocument.parts.value.rendered "Card", ∃ slot, placed.node = .slot slot
        ∧ textOf (renderNode placed.frame placed.node) = "\x7b" ++ propsField slot ++ "\x7d" := by
  have hbody : cardDocument.parts.value.body = [.component "Panel" [] [
      .slotContent "head" (.async ⟨"load()", .call⟩ none [.slot none] [] [] "data" "error"),
      .slot (some "title")],
    .fragment [.onMount [.expression ⟨"start()", .call⟩]]] := rfl
  have htakes : (cardDocument.parts.value.frame "Card").takesSlots "Panel" = true := by decide
  have hpanel : isCustomTag "Panel" = true
      ∧ (cardDocument.parts.value.frame "Card").scope.isSelfReference "Panel" = false := by decide
  have hkeep : ∀ placed ∈ cardDocument.parts.value.rendered "Card", ¬ placed.DropsContent := by
    simp [Parts.rendered, renderedNodes, hbody, Node.rendered_eq _ (.component _ _ _),
      Node.rendered_eq _ (.slotContent _ _), Node.rendered_eq _ (.fragment _),
      Node.rendered_eq _ (.onMount _), Node.rendered_eq _ (.slot _),
      Node.rendered_eq _ (.async _ _ _ _ _ _ _), Node.entered, Node.isSlotContent, htakes,
      Placed.DropsContent, List.filter_cons, hpanel]
  obtain ⟨m, warnings, h, hhooks, hsignature⟩ : ∃ m warnings,
      generate cardDocument "Card" {} = .ok ⟨m, warnings⟩ ∧ m.hooks = [.state, .ref, .effect]
      ∧ m.signature = .named ["title"] true :=
    ⟨_, _, rfl, rfl, rfl⟩
  obtain ⟨htext, -, -, -, -, hconverse⟩ := usage_agrees_with_rendering h
  obtain ⟨hcalled, hslot⟩ := hconverse hkeep
  have hfactory : importLine ["h"] "preact" = "import \x7b h \x7d from 'preact';\n" := by decide
  have hline : importLine (m.hooks.map Hook.name) "preact/hooks"
      = "import \x7b useState, useRef, useEffect \x7d from 'preact/hooks';\n" := by
    rw [hhooks]
    decide
  have hparameter : m.signature.parameter = "\x7b title, ...props \x7d" := by
    rw [hsignature]
    decide
  obtain ⟨placed, hp, slot, hnode, -, hwritten⟩ := hslot (congrArg Signature.parameter hsignature)
  refine ⟨m, warnings, h, ?_, fun hook => hcalled hook ?_, placed, hp, slot, hnode, hwritten⟩
  · rw [hfactory, hline, hparameter] at htext
    exact htext
  · rw [hhooks]
    cases hook <;> decide

end Componentry
