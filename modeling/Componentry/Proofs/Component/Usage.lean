import Mathlib.Data.List.Basic
import Componentry.Component.Usage
import Componentry.Proofs.Component.Rendering

/-!
# What the usage analysis reaches

The analysis adds up what nodes need.  `Node.need` is the share of a single node, and
`usageOfNodes_eq` says that the usage of a row of nodes is the total over its outline: the analysis
goes over *all* nodes but the children of mount blocks.  The lemmas below it read the fields off.

Rendering reaches no other nodes (`Node.visited_of_rendered`), and it reaches all of them unless
some content for a slot is dropped (`Node.rendered_of_visited`).
-/

namespace Componentry

/-! ## Totals -/

namespace Usage

@[simp] lemma append_empty (usage : Usage) : usage ++ ({} : Usage) = usage := by
  show Usage.append usage {} = usage
  simp [Usage.append]

@[simp] lemma empty_append (usage : Usage) : ({} : Usage) ++ usage = usage := by
  show Usage.append {} usage = usage
  simp [Usage.append]

lemma append_assoc (a b c : Usage) : a ++ b ++ c = a ++ (b ++ c) := by
  show Usage.append (Usage.append a b) c = Usage.append a (Usage.append b c)
  simp [Usage.append, Nat.add_assoc]

/-- What parts need together. -/
def total (parts : List Usage) : Usage := parts.foldr (· ++ ·) {}

@[simp] lemma total_nil : total [] = {} := rfl

@[simp] lemma total_cons (part : Usage) (rest : List Usage) :
    total (part :: rest) = part ++ total rest := rfl

@[simp] lemma total_append (parts rest : List Usage) :
    total (parts ++ rest) = total parts ++ total rest := by
  induction parts with
  | nil => simp
  | cons part more ih => simp [ih, append_assoc]

/-- Totals of totals are totals. -/
lemma total_map_flatMap {α β : Type} (f : β → Usage) (g : α → List β) (parts : List α) :
    total ((parts.flatMap g).map f) = total (parts.map fun part => total ((g part).map f)) := by
  induction parts with
  | nil => rfl
  | cons part rest ih => simp [ih]

lemma scripts_total (parts : List Usage) : (total parts).scripts = parts.flatMap Usage.scripts := by
  induction parts with
  | nil => rfl
  | cons part rest ih => rw [List.flatMap_cons, ← ih]; rfl

lemma slotReads_total (parts : List Usage) :
    (total parts).slotReads = parts.flatMap Usage.slotReads := by
  induction parts with
  | nil => rfl
  | cons part rest ih => rw [List.flatMap_cons, ← ih]; rfl

lemma asyncBlocks_total (parts : List Usage) :
    0 < (total parts).asyncBlocks ↔ ∃ part ∈ parts, 0 < part.asyncBlocks := by
  induction parts with
  | nil => simp
  | cons part rest ih =>
      have happend : (total (part :: rest)).asyncBlocks
          = part.asyncBlocks + (total rest).asyncBlocks := rfl
      rw [List.exists_mem_cons_iff, ← ih]
      omega

lemma mounts_total (parts : List Usage) :
    0 < (total parts).mounts ↔ ∃ part ∈ parts, 0 < part.mounts := by
  induction parts with
  | nil => simp
  | cons part rest ih =>
      have happend : (total (part :: rest)).mounts = part.mounts + (total rest).mounts := rfl
      rw [List.exists_mem_cons_iff, ← ih]
      omega

end Usage

/-! ## The share of a node -/

/-- What a node needs itself, without the nodes in it. -/
def Node.need : Node → Usage
  | .state _ => { misplaced := ["state"] }
  | .props _ _ => { misplaced := ["props"] }
  | .ifBlock condition _ => .ofScripts [condition.source]
  | .loop items _ _ => .ofScripts [items.source]
  | .async promise key _ _ _ _ _ =>
    { asyncBlocks := 1, scripts := promise.source :: (key.map Expression.source).toList }
  | .switch value _ => .ofScripts [value.source]
  | .slot name => { slotReads := [name] }
  | .onMount children => mountUsage children
  | .component _ properties _ => .ofScripts (properties.filterMap Property.script?)
  | .expression e => .ofScripts [e.source]
  | _ => {}

lemma usageOfNodes_eq_total (nodes : List Node) :
    usageOfNodes nodes = Usage.total (nodes.map Node.usage) := by
  induction nodes with
  | nil => simp [usageOfNodes]
  | cons node rest ih => simp [usageOfNodes, ih]

lemma usageOfRoutes_eq_total (routes : List (Route Node)) :
    usageOfRoutes routes = Usage.total ((routes.flatMap Route.children).map Node.usage) := by
  induction routes with
  | nil => simp [usageOfRoutes]
  | cons route rest ih => simp [usageOfRoutes, usageOfNodes_eq_total, ih]

lemma usageOfCases_eq_total (cases : List (Case Node)) :
    usageOfCases cases = Usage.total ((cases.flatMap Case.children).map Node.usage) := by
  induction cases with
  | nil => simp [usageOfCases]
  | cons c rest ih => simp [usageOfCases, usageOfNodes_eq_total, ih]

/-- One step: a node needs its own share, and what its inner nodes need. -/
lemma Node.usage_step (node : Node) :
    node.usage = node.need ++ Usage.total (node.inner.map Node.usage) := by
  cases node <;>
    simp [Node.usage, need, inner, usageOfNodes_eq_total, usageOfRoutes_eq_total,
      usageOfCases_eq_total, Usage.append_assoc]

/-- The usage of a node is the total over its outline. -/
theorem Node.usage_eq (node : Node) : node.usage = Usage.total (node.visited.map Node.need) := by
  induction node using Node.induction with
  | step node ih =>
    rw [usage_step, visited_eq, List.map_cons, Usage.total_cons, Usage.total_map_flatMap]
    congr 2
    exact List.map_congr_left ih

/-- **The analysis goes over the whole outline.** -/
theorem usageOfNodes_eq (nodes : List Node) :
    usageOfNodes nodes = Usage.total ((visitedNodes nodes).map Node.need) := by
  rw [usageOfNodes_eq_total, visitedNodes_eq_flatMap, Usage.total_map_flatMap]
  congr 1
  exact List.map_congr_left fun node _ => node.usage_eq

/-! ## Reading usage off -/

/-- Generated code calls a hook for a node: asynchronous blocks keep state and have an effect, and
so have mount blocks that run something. -/
inductive Node.Calls : Node → Hook → Prop
  | asyncState {promise key done failed loading doneAlias failedAlias} :
      Calls (.async promise key done failed loading doneAlias failedAlias) .state
  | asyncEffect {promise key done failed loading doneAlias failedAlias} :
      Calls (.async promise key done failed loading doneAlias failedAlias) .effect
  | mount {children} (h : mountExpressions children ≠ []) : Calls (.onMount children) .effect

lemma Node.need_asyncBlocks {node : Node} : 0 < node.need.asyncBlocks ↔ node.Calls .state := by
  constructor
  · intro h
    cases node with
    | async promise key done failed loading doneAlias failedAlias => exact .asyncState
    | _ => simp [need, Usage.ofScripts, mountUsage] at h
  · rintro ⟨⟩
    simp [need]

lemma Node.need_effect {node : Node} :
    0 < node.need.asyncBlocks ∨ 0 < node.need.mounts ↔ node.Calls .effect := by
  constructor
  · intro h
    cases node with
    | async promise key done failed loading doneAlias failedAlias => exact .asyncEffect
    | onMount children =>
        refine .mount fun hnil => ?_
        simp [need, mountUsage, hnil] at h
    | _ => simp [need, Usage.ofScripts] at h
  · intro h
    cases h with
    | asyncEffect => simp [need]
    | mount hne => simp [need, mountUsage, hne]

lemma needsState_iff {nodes : List Node} :
    (usageOfNodes nodes).needsState = true ↔ ∃ node ∈ visitedNodes nodes, node.Calls .state := by
  simp only [Usage.needsState, usageOfNodes_eq, gt_iff_lt, decide_eq_true_eq,
    Usage.asyncBlocks_total, List.mem_map, exists_exists_and_eq_and, Node.need_asyncBlocks]

lemma needsEffect_iff {nodes : List Node} :
    (usageOfNodes nodes).needsEffect = true ↔ ∃ node ∈ visitedNodes nodes, node.Calls .effect := by
  simp only [Usage.needsEffect, usageOfNodes_eq, gt_iff_lt, Bool.or_eq_true, decide_eq_true_eq,
    Usage.asyncBlocks_total, Usage.mounts_total, List.mem_map, exists_exists_and_eq_and,
    ← Node.need_effect]
  rw [← exists_or]
  simp only [and_or_left]

lemma mem_slotReads {nodes : List Node} {name : Option String} :
    name ∈ (usageOfNodes nodes).slotReads ↔ Node.slot name ∈ visitedNodes nodes := by
  simp only [usageOfNodes_eq, Usage.slotReads_total, List.mem_flatMap, List.mem_map,
    exists_exists_and_eq_and]
  constructor
  · rintro ⟨node, hv, hn⟩
    cases node with
    | slot found =>
        rw [List.mem_singleton.mp hn]
        exact hv
    | _ => simp [Node.need, Usage.ofScripts, mountUsage] at hn
  · intro hv
    exact ⟨_, hv, List.mem_singleton.mpr rfl⟩

lemma mem_scripts {nodes : List Node} {script : String} :
    script ∈ (usageOfNodes nodes).scripts
      ↔ ∃ node ∈ visitedNodes nodes, script ∈ node.need.scripts := by
  simp only [usageOfNodes_eq, Usage.scripts_total, List.mem_flatMap, List.mem_map,
    exists_exists_and_eq_and]

/-! ## The two reaches -/

/-- A rendered node leaves out content for slots: it is a native element, or it refers to the bound
name, and a child of it is content for a slot. -/
def Placed.DropsContent (placed : Placed) : Prop :=
  ∃ name properties children, placed.node = .component name properties children
    ∧ (isCustomTag name = false ∨ placed.frame.scope.isSelfReference name = true)
    ∧ ∃ slot element, Node.slotContent slot element ∈ children

/-- Rendering reaches only nodes of the outline. -/
theorem Node.visited_of_rendered {frame : Frame} {node : Node} {placed : Placed}
    (h : placed ∈ node.rendered frame) : placed.node ∈ node.visited := by
  induction node using Node.induction generalizing frame with
  | step node ih =>
    rcases Node.mem_rendered.mp h with rfl | ⟨next, hnext, hfound⟩
    · exact Node.mem_visited.mpr (Or.inl rfl)
    · have hinner := Node.entered_inner hnext
      exact Node.mem_visited.mpr (Or.inr ⟨next.node, hinner, ih _ hinner hfound⟩)

/-- A tag that takes no slots is native or refers to the bound name. -/
lemma Frame.takesSlots_eq_false {frame : Frame} {name : String}
    (h : frame.takesSlots name = false) :
    isCustomTag name = false ∨ frame.scope.isSelfReference name = true := by
  simpa only [Frame.takesSlots, Bool.and_eq_false_iff, Bool.not_eq_false'] using h

/-- One step: a node that leaves nothing out enters all of its inner nodes. -/
lemma Node.entered_of_inner {frame : Frame} {node child : Node}
    (hkeep : ¬ (Placed.mk frame node).DropsContent) (h : child ∈ node.inner) :
    ∃ placed ∈ node.entered frame, placed.node = child := by
  cases node with
  | async promise key done failed loading doneAlias failedAlias =>
      simp only [inner, List.mem_append] at h
      simp only [entered, List.mem_append, List.mem_map]
      rcases h with (h | h) | h
      · exact ⟨_, Or.inl (Or.inl ⟨child, h, rfl⟩), rfl⟩
      · exact ⟨_, Or.inl (Or.inr ⟨child, h, rfl⟩), rfl⟩
      · exact ⟨_, Or.inr ⟨child, h, rfl⟩, rfl⟩
  | router routes =>
      obtain ⟨route, hroute, hchild⟩ := List.mem_flatMap.mp h
      exact ⟨_, List.mem_flatMap.mpr ⟨route, hroute, List.mem_map_of_mem hchild⟩, rfl⟩
  | switch value cases =>
      obtain ⟨c, hcase, hchild⟩ := List.mem_flatMap.mp h
      exact ⟨_, List.mem_flatMap.mpr ⟨c, hcase, List.mem_map_of_mem hchild⟩, rfl⟩
  | component name properties children =>
      simp only [entered, List.mem_append, List.mem_map, List.mem_filter]
      cases hslot : child.isSlotContent with
      | false => exact ⟨_, Or.inr ⟨child, ⟨h, by simp [hslot]⟩, rfl⟩, rfl⟩
      | true =>
          -- content for a slot is entered because the tag takes slots: otherwise it is dropped
          have htakes : frame.takesSlots name = true := by
            by_contra hno
            cases child with
            | slotContent slot element =>
                exact hkeep ⟨name, properties, children, rfl,
                  Frame.takesSlots_eq_false (Bool.eq_false_iff.mpr hno), slot, element, h⟩
            | _ => simp [isSlotContent] at hslot
          refine ⟨_, Or.inl ⟨child, ?_, rfl⟩, rfl⟩
          rw [if_pos htakes]
          exact List.mem_filter.mpr ⟨h, hslot⟩
  | slotContent name element =>
      rw [List.mem_singleton.mp h]
      exact ⟨⟨frame, element⟩, List.mem_singleton.mpr rfl, rfl⟩
  | ifBlock _ _ | loop _ _ _ | fragment _ => exact ⟨_, List.mem_map_of_mem h, rfl⟩
  | _ => simp [inner] at h

/-- **Rendering reaches the whole outline**, unless it drops content for a slot on the way. -/
theorem Node.rendered_of_visited {frame : Frame} {node found : Node}
    (hkeep : ∀ placed ∈ node.rendered frame, ¬ placed.DropsContent) (h : found ∈ node.visited) :
    ∃ placed ∈ node.rendered frame, placed.node = found := by
  induction node using Node.induction generalizing frame with
  | step node ih =>
    rcases Node.mem_visited.mp h with rfl | ⟨child, hinner, hfound⟩
    · exact ⟨⟨frame, found⟩, Node.mem_rendered.mpr (Or.inl rfl), rfl⟩
    · have hself := hkeep ⟨frame, node⟩ (Node.mem_rendered.mpr (Or.inl rfl))
      obtain ⟨next, hnext, rfl⟩ := Node.entered_of_inner hself hinner
      have hdown : ∀ placed ∈ next.node.rendered next.frame, placed ∈ node.rendered frame :=
        fun placed hp => Node.mem_rendered.mpr (Or.inr ⟨next, hnext, hp⟩)
      obtain ⟨placed, hp, heq⟩ :=
        ih _ hinner (fun placed hp => hkeep placed (hdown placed hp)) hfound
      exact ⟨placed, hdown placed hp, heq⟩

lemma visitedNodes_of_rendered {frame : Frame} {nodes : List Node} {placed : Placed}
    (h : placed ∈ renderedNodes frame nodes) : placed.node ∈ visitedNodes nodes := by
  obtain ⟨node, hn, hp⟩ := List.mem_flatMap.mp h
  rw [visitedNodes_eq_flatMap]
  exact List.mem_flatMap.mpr ⟨node, hn, Node.visited_of_rendered hp⟩

lemma rendered_of_visitedNodes {frame : Frame} {nodes : List Node} {found : Node}
    (hkeep : ∀ placed ∈ renderedNodes frame nodes, ¬ placed.DropsContent)
    (h : found ∈ visitedNodes nodes) :
    ∃ placed ∈ renderedNodes frame nodes, placed.node = found := by
  rw [visitedNodes_eq_flatMap] at h
  obtain ⟨node, hn, hv⟩ := List.mem_flatMap.mp h
  have hdown : ∀ placed ∈ node.rendered frame, placed ∈ renderedNodes frame nodes :=
    fun placed hp => List.mem_flatMap.mpr ⟨node, hn, hp⟩
  obtain ⟨placed, hp, heq⟩ :=
    Node.rendered_of_visited (fun placed hp => hkeep placed (hdown placed hp)) hv
  exact ⟨placed, hdown placed hp, heq⟩

/-! ## Marks and needs of a node -/

lemma Node.hook_mem_marks {frame : Frame} {node : Node} {hook : Hook} :
    Piece.hook hook ∈ node.marks frame ↔ node.Calls hook := by
  constructor
  · intro h
    cases node with
    | async promise key done failed loading doneAlias failedAlias =>
        cases key <;> cases hook <;> simp [marks] at h <;> constructor
    | onMount children =>
        simp only [marks] at h
        split_ifs at h with hnil
        · exact absurd h (by simp)
        · have heffect : hook = .effect := by simpa using h
          rw [heffect]
          exact .mount (by simpa using hnil)
    | slot name =>
        simp only [marks] at h
        split_ifs at h <;> simp at h
    | _ => simp [marks] at h
  · intro h
    cases h with
    | asyncState => simp [marks]
    | asyncEffect => simp [marks]
    | mount hne => simp [marks, hne]

lemma Node.script_mem_marks {frame : Frame} {node : Node} {source : String} :
    Piece.script source ∈ node.marks frame ↔ source ∈ node.need.scripts := by
  cases node with
  | async promise key done failed loading doneAlias failedAlias =>
      cases key <;> simp [marks, need]
  | onMount children =>
      simp only [marks, need, mountUsage]
      split_ifs with hnil
      · simp_all
      · simp [eq_comm]
  | slot name =>
      simp only [marks, need]
      split_ifs <;> simp
  | component name properties children => simp [marks, need, Usage.ofScripts]
  | _ => simp [marks, need, Usage.ofScripts]

end Componentry
