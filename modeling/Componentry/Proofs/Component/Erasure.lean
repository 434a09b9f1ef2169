import Mathlib.Data.List.Basic
import Componentry.Component.Module
import Componentry.Proofs.Component.Generation

/-!
# What generation does not look at

Two things about a document leave no trace in the module that is generated from it: where a state is
declared, and whether a component that takes no props by name says so by an empty list or by no list
at all.

`Node.erased` takes both out of a node, at any depth.  Rendering and the usage analysis give the
same for an erased node (`renderNode_erased`, `usage_erased`), and the parts of an erased document
are those of the document.  So `generate_erased`: generation does the same, but for the position in
an error.
-/

namespace Componentry

/-! ## Erased nodes -/

mutual

/-- A node without the positions of states, and with an empty list for props that are not taken by
name. -/
def Node.erased : Node → Node
  | .state declaration => .state { declaration with position := default }
  | .props spread names => .props false (if spread then [] else names)
  | .ifBlock condition children => .ifBlock condition (erasedNodes children)
  | .loop items itemName children => .loop items itemName (erasedNodes children)
  | .async promise key done failed loading doneAlias failedAlias =>
    .async promise key (erasedNodes done) (erasedNodes failed) (erasedNodes loading) doneAlias
      failedAlias
  | .router routes => .router (erasedRoutes routes)
  | .switch value cases => .switch value (erasedCases cases)
  | .slot name => .slot name
  | .slotContent name element => .slotContent name element.erased
  | .onMount children => .onMount (erasedNodes children)
  | .component name properties children => .component name properties (erasedNodes children)
  | .fragment children => .fragment (erasedNodes children)
  | .text value => .text value
  | .expression e => .expression e

/-- Nodes in a row, each erased. -/
def erasedNodes : List Node → List Node
  | [] => []
  | node :: rest => node.erased :: erasedNodes rest

/-- Routes with their nodes erased. -/
def erasedRoutes : List (Route Node) → List (Route Node)
  | [] => []
  | ⟨path, boundAs, children⟩ :: rest => ⟨path, boundAs, erasedNodes children⟩ :: erasedRoutes rest

/-- Cases with their nodes erased. -/
def erasedCases : List (Case Node) → List (Case Node)
  | [] => []
  | ⟨value, children⟩ :: rest => ⟨value, erasedNodes children⟩ :: erasedCases rest

end

/-- A route with its nodes erased. -/
def Route.erased (route : Route Node) : Route Node :=
  { route with children := route.children.map Node.erased }

/-- A case with its nodes erased. -/
def Case.erased (c : Case Node) : Case Node :=
  { c with children := c.children.map Node.erased }

lemma erasedNodes_eq_map (nodes : List Node) : erasedNodes nodes = nodes.map Node.erased := by
  induction nodes with
  | nil => rfl
  | cons node rest ih => rw [erasedNodes, ih, List.map_cons]

lemma erasedRoutes_eq_map (routes : List (Route Node)) :
    erasedRoutes routes = routes.map Route.erased := by
  induction routes with
  | nil => rfl
  | cons route rest ih => rw [erasedRoutes, ih, erasedNodes_eq_map, List.map_cons, Route.erased]

lemma erasedCases_eq_map (cases : List (Case Node)) :
    erasedCases cases = cases.map Case.erased := by
  induction cases with
  | nil => rfl
  | cons c rest ih => rw [erasedCases, ih, erasedNodes_eq_map, List.map_cons, Case.erased]

section Kind

variable (node : Node)

@[simp] lemma isSlotContent_erased : node.erased.isSlotContent = node.isSlotContent := by
  cases node <;> rfl

@[simp] lemma isDeclaration_erased : node.erased.isDeclaration = node.isDeclaration := by
  cases node <;> rfl

@[simp] lemma asExpression?_erased : node.erased.asExpression? = node.asExpression? := by
  cases node <;> rfl

@[simp] lemma isExpression_erased : node.erased.isExpression = node.isExpression := by
  cases node <;> rfl

@[simp] lemma typeName_erased : node.erased.typeName = node.typeName := by
  cases node <;> rfl

@[simp] lemma componentChildren?_erased :
    node.erased.componentChildren? = node.componentChildren?.map (List.map Node.erased) := by
  cases node <;> simp [Node.erased, Node.componentChildren?, erasedNodes_eq_map]

@[simp] lemma isComponent_erased : node.erased.isComponent = node.isComponent := by
  simp [Node.isComponent]

end Kind

@[simp] lemma mountExpressions_erased (children : List Node) :
    mountExpressions (children.map Node.erased) = mountExpressions children := by
  rw [mountExpressions, List.filterMap_map]
  exact List.filterMap_congr fun node _ => asExpression?_erased node

/-! ## Rendering and usage -/

lemma slotContentPieces_erased (name : String) (element : Node) (content : List Piece) :
    slotContentPieces name element.erased content = slotContentPieces name element content := by
  cases element <;> rfl

lemma filter_map_erased (p : Node → Bool) (h : ∀ node : Node, p node.erased = p node)
    (nodes : List Node) :
    (nodes.map Node.erased).filter p = (nodes.filter p).map Node.erased := by
  rw [List.filter_map]
  congr 1
  exact List.filter_congr fun node _ => h node

section Rows

variable {nodes : List Node}

/-- Nodes in a row are rendered the same if each of them is. -/
lemma flatMap_erased {f : Node → List Piece} (h : ∀ node ∈ nodes, f node.erased = f node) :
    (nodes.map Node.erased).flatMap f = nodes.flatMap f := by
  rw [List.flatMap_map]
  exact List.flatMap_congr h

variable (h : ∀ node ∈ nodes, ∀ frame, renderNode frame node.erased = renderNode frame node)

include h

lemma renderNodes_erased_of (frame : Frame) :
    renderNodes frame (nodes.map Node.erased) = renderNodes frame nodes := by
  rw [renderNodes_eq_flatMap, renderNodes_eq_flatMap]
  exact flatMap_erased fun node hnode => h node hnode frame

lemma renderContent_erased (frame : Frame) :
    renderContent frame (nodes.map Node.erased) = renderContent frame nodes := by
  rw [renderContent_eq_flatMap, renderContent_eq_flatMap, filter_map_erased _ (by simp)]
  exact flatMap_erased fun node hnode => h node (List.mem_of_mem_filter hnode) frame

lemma renderSlots_erased (frame : Frame) :
    renderSlots frame (nodes.map Node.erased) = renderSlots frame nodes := by
  rw [renderSlots_eq_flatMap, renderSlots_eq_flatMap, filter_map_erased _ (by simp)]
  exact flatMap_erased fun node hnode => by rw [h node (List.mem_of_mem_filter hnode) frame]

end Rows

lemma renderRoutes_erased {routes : List (Route Node)}
    (h : ∀ route ∈ routes, ∀ node ∈ route.children, ∀ frame,
      renderNode frame node.erased = renderNode frame node) (frame : Frame) (index : Nat) :
    renderRoutes frame index (routes.map Route.erased) = renderRoutes frame index routes := by
  induction routes generalizing index with
  | nil => rfl
  | cons route rest ih =>
      rw [List.forall_mem_cons] at h
      rw [List.map_cons, Route.erased, renderRoutes, renderRoutes, renderNodes_erased_of h.1,
        ih h.2]

lemma renderCases_erased {cases : List (Case Node)}
    (h : ∀ c ∈ cases, ∀ node ∈ c.children,
      ∀ frame, renderNode frame node.erased = renderNode frame node)
    (frame : Frame) : renderCases frame (cases.map Case.erased) = renderCases frame cases := by
  induction cases with
  | nil => rfl
  | cons c rest ih =>
      rw [List.forall_mem_cons] at h
      rw [List.map_cons, Case.erased, renderCases, renderCases, renderNodes_erased_of h.1, ih h.2]

/-- **Rendering gives the same for an erased node.** -/
lemma renderNode_erased (node : Node) :
    ∀ frame, renderNode frame node.erased = renderNode frame node := by
  induction node using Node.induction with
  | step node ih =>
    intro frame
    cases node with
    | ifBlock condition children =>
        simp only [Node.inner] at ih
        rw [Node.erased, erasedNodes_eq_map, renderNode, renderNode, renderNodes_erased_of ih]
    | loop items itemName children =>
        simp only [Node.inner] at ih
        rw [Node.erased, erasedNodes_eq_map, renderNode, renderNode, renderNodes_erased_of ih]
    | async promise key done failed loading doneAlias failedAlias =>
        simp only [Node.inner, List.forall_mem_append] at ih
        simp only [Node.erased, erasedNodes_eq_map, renderNode, renderSettled_eq_renderNodes,
          renderNodes_erased_of ih.1.1, renderNodes_erased_of ih.1.2, renderNodes_erased_of ih.2]
    | router routes =>
        rw [Node.erased, erasedRoutes_eq_map, renderNode, renderNode,
          renderRoutes_erased (List.forall_mem_flatMap.mp ih)]
    | switch value cases =>
        rw [Node.erased, erasedCases_eq_map, renderNode, renderNode,
          renderCases_erased (List.forall_mem_flatMap.mp ih)]
    | slotContent name element =>
        rw [Node.erased, renderNode, renderNode, slotContentPieces_erased,
          ih element (List.mem_singleton_self element)]
    | onMount children =>
        simp only [Node.erased, erasedNodes_eq_map, renderNode, mountExpressions_erased]
    | component name properties children =>
        simp only [Node.inner] at ih
        simp only [Node.erased, erasedNodes_eq_map, renderNode, renderContent_erased ih,
          renderSlots_erased ih]
    | fragment children =>
        simp only [Node.inner] at ih
        rw [Node.erased, erasedNodes_eq_map, renderNode, renderNode, renderNodes_erased_of ih]
    | _ => rfl

lemma renderNodes_erased (frame : Frame) (nodes : List Node) :
    renderNodes frame (nodes.map Node.erased) = renderNodes frame nodes :=
  renderNodes_erased_of (fun node _ => renderNode_erased node) frame

lemma need_erased (node : Node) : node.erased.need = node.need := by
  cases node with
  | onMount children =>
      simp only [Node.erased, erasedNodes_eq_map, Node.need, mountUsage, mountExpressions_erased]
  | _ => rfl

lemma inner_erased (node : Node) : node.erased.inner = node.inner.map Node.erased := by
  cases node with
  | router routes =>
      simp only [Node.erased, erasedRoutes_eq_map, Node.inner, List.flatMap_map, List.map_flatMap]
      rfl
  | switch value cases =>
      simp only [Node.erased, erasedCases_eq_map, Node.inner, List.flatMap_map, List.map_flatMap]
      rfl
  | _ => simp [Node.erased, erasedNodes_eq_map, Node.inner]

/-- **The usage analysis gives the same for an erased node.** -/
lemma usage_erased (node : Node) : node.erased.usage = node.usage := by
  induction node using Node.induction with
  | step node ih =>
    rw [Node.usage_step, Node.usage_step, need_erased, inner_erased, List.map_map]
    congr 2
    exact List.map_congr_left ih

lemma usageOfNodes_erased (nodes : List Node) :
    usageOfNodes (nodes.map Node.erased) = usageOfNodes nodes := by
  rw [usageOfNodes_eq_total, usageOfNodes_eq_total, List.map_map]
  congr 1
  exact List.map_congr_left fun node _ => usage_erased node

/-! ## Parts -/

/-- A document with all its nodes erased. -/
def Document.erased (document : Document) : Document := ⟨document.body.map Node.erased⟩

namespace Document

variable (document : Document)

lemma rootChildren?_erased :
    document.erased.rootChildren? = document.rootChildren?.map (List.map Node.erased) := by
  rw [rootChildren?, rootChildren?, erased, List.findSome?_map, List.map_findSome?]
  congr 1
  exact funext componentChildren?_erased

lemma declarations_erased :
    document.erased.declarations = document.declarations.map Node.erased := by
  have hroot : document.erased.rootChildren?.getD []
      = (document.rootChildren?.getD []).map Node.erased := by
    rw [rootChildren?_erased]
    cases document.rootChildren? <;> rfl
  rw [declarations, declarations, hroot, filter_map_erased _ isDeclaration_erased, List.map_append]
  congr 1
  exact filter_map_erased _ isDeclaration_erased _

lemma shownNodes_erased (nodes : List Node) :
    shownNodes (nodes.map Node.erased) = (shownNodes nodes).map Node.erased :=
  filter_map_erased _ (fun node => by rw [isDeclaration_erased]) nodes

lemma shown_erased : document.erased.shown = document.shown.map Node.erased := by
  have hunaddressed : ∀ node : Node, node.erased.unaddressed = node.unaddressed.erased := by
    intro node
    cases node <;> rfl
  rw [shown, shown, rootChildren?_erased]
  cases document.rootChildren? with
  | none => exact shownNodes_erased document.body
  | some children =>
      simp only [Option.map_some, shownNodes_erased, List.map_map]
      exact List.map_congr_left fun node _ => hunaddressed node

lemma ignored_erased : document.erased.ignored = document.ignored.map Node.erased := by
  have heraseP : ∀ nodes : List Node, (nodes.map Node.erased).eraseP Node.isComponent
      = (nodes.eraseP Node.isComponent).map Node.erased := by
    intro nodes
    rw [List.eraseP_map]
    congr 2
    exact funext isComponent_erased
  rw [ignored, ignored, rootChildren?_erased, Option.isSome_map]
  split_ifs
  · rw [erased, shownNodes_erased, heraseP]
  · rfl

end Document

/-- A state without its position. -/
def StateDeclaration.unplaced (state : StateDeclaration) : StateDeclaration :=
  { state with position := default }

/-- The parts of an erased document are those of the document, but for the positions of states and
    the way to say that no props are taken by name. -/
lemma parts_erased (document : Document) :
    document.erased.parts.value.propNames = document.parts.value.propNames
      ∧ document.erased.parts.value.states
        = document.parts.value.states.map StateDeclaration.unplaced
      ∧ document.erased.parts.value.mounts = document.parts.value.mounts
      ∧ document.erased.parts.value.body = document.parts.value.body.map Node.erased
      ∧ document.erased.parts.warnings = document.parts.warnings := by
  have hprops : ∀ node : Node, node.erased.props?
      = node.props?.map fun taken => (false, if taken.1 then [] else taken.2) := by
    intro node
    cases node <;> rfl
  have hstate : ∀ node : Node, node.erased.state? = node.state?.map StateDeclaration.unplaced := by
    intro node
    cases node <;> rfl
  have hmounts : ∀ node : Node, node.erased.mounts = node.mounts := by
    intro node
    cases node with
    | onMount children =>
        simp only [Node.erased, erasedNodes_eq_map, Node.mounts, mountExpressions_erased]
    | _ => rfl
  have hdeclared : (document.declarations.map Node.erased).filterMap Node.props?
      = (document.declarations.filterMap Node.props?).map
          fun taken => (false, if taken.1 then [] else taken.2) := by
    rw [List.filterMap_map, List.map_filterMap]
    exact List.filterMap_congr fun node _ => hprops node
  simp only [Document.parts, Document.declarations_erased, Document.shown_erased,
    Document.ignored_erased, hdeclared]
  refine ⟨?_, ?_, ?_, trivial, ?_⟩
  · rw [Parts.propNames, Parts.propNames, List.head?_map]
    rcases (document.declarations.filterMap Node.props?).head? with _ | ⟨_ | _, names⟩ <;> rfl
  · rw [List.filterMap_map, List.map_filterMap]
    exact List.filterMap_congr fun node _ => hstate node
  · rw [List.flatMap_map]
    exact List.flatMap_congr fun node _ => hmounts node
  · rw [← List.map_tail, List.map_map, List.map_map]
    congr 1
    exact List.map_congr_left fun node _ => by rw [Function.comp_apply, typeName_erased]

/-! ## Generation -/

/-- An error without its position. -/
def GenerationError.unplaced : GenerationError → GenerationError
  | missingStateName _ => missingStateName default
  | error => error

/-- What fails alike up to a view of the errors goes on alike. -/
lemma mapError_bind_congr {ε α β : Type} {view : ε → ε} {first second : Except ε α}
    (h : first.mapError view = second.mapError view) (next : α → Except ε β) :
    (first >>= next).mapError view = (second >>= next).mapError view := by
  cases first <;> cases second <;> simp_all [Except.mapError, bind, Except.bind]

lemma mapError_map_congr {ε α β : Type} {view : ε → ε} {first second : Except ε α}
    (h : first.mapError view = second.mapError view) (f : α → β) :
    (first.map f).mapError view = (second.map f).mapError view := by
  cases first <;> cases second <;> simp_all [Except.mapError, Except.map]

lemma declareStates_unplaced (mentioned : String → Bool) (states : List StateDeclaration) :
    (declareStates mentioned (states.map StateDeclaration.unplaced)).mapError
      GenerationError.unplaced
      = (declareStates mentioned states).mapError GenerationError.unplaced := by
  induction states with
  | nil => rfl
  | cons state rest ih =>
      rw [List.map_cons, declareStates, declareStates]
      simp only [StateDeclaration.unplaced]
      cases state.name with
      | none => rfl
      | some name => exact mapError_bind_congr ih _

/-- **Generation does the same for an erased document**, but for the position in an error. -/
theorem generate_erased (document : Document) (name : String) (options : Options) :
    (generate document.erased name options).mapError GenerationError.unplaced
      = (generate document name options).mapError GenerationError.unplaced := by
  obtain ⟨hprops, hstates, hmounts, hbody, hwarnings⟩ := parts_erased document
  have hempty : document.erased.body.isEmpty = document.body.isEmpty := List.isEmpty_map
  have hmentioned : document.erased.parts.value.mentioned = document.parts.value.mentioned := by
    funext word
    simp only [Parts.mentioned, Parts.searched, hmounts, hbody, usageOfNodes_erased]
  have hassembled : document.erased.parts.value.assembled name options
      = document.parts.value.assembled name options := by
    funext declarations
    simp only [Parts.assembled, Parts.frame, hprops, hmounts, hbody, usageOfNodes_erased,
      renderNodes_erased]
  have hall : document.erased.generationWarnings = document.generationWarnings := by
    simp only [Document.generationWarnings, hwarnings, hbody, usageOfNodes_erased]
  rw [generate_eq, generate_eq, hempty]
  split_ifs
  · rfl
  · rfl
  · rw [hstates, hmentioned, hassembled, hall]
    exact mapError_map_congr (declareStates_unplaced _ _) _

end Componentry
