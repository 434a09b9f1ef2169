import Mathlib.Data.List.Basic
import Componentry.Component.Body
import Componentry.Component.Usage
import Componentry.Proofs.Document.Nesting

/-!
# What rendering reaches

Rendering goes from a node to some of its inner nodes, each in a frame of its own.  This file says
which ones and reads off what the reached nodes write.

**Reach.**  `Node.entered` is one step: the inner nodes that are rendered with a node, in the order
of the text.  Content for slots is entered only if the tag takes slots; a loop directly in the
branch for a settled value keeps the frame around the block.  `Node.rendered` is all steps together.

**Marks.**  A piece that is not fixed text is a *mark* if it is an expression of the author, a call
of a hook, the beginning of a tag, or a slot.  `Node.marks` lists the marks that a node writes
itself, and `marksOf_renderNode` says that the marks of a rendered node are those of the reached
nodes, in order: nothing is written by a node that is not reached, and no reached node is lost.
-/

namespace Componentry

/-! ## Reach -/

/-- A node in the frame that it is rendered in. -/
structure Placed where
  frame : Frame
  node : Node

/-- Whether a node is content for a slot. -/
def Node.isSlotContent : Node → Bool
  | .slotContent _ _ => true
  | _ => false

/-- The frame of a node in the branch for a settled value. -/
def Frame.settled (frame : Frame) (doneAlias : String) : Node → Frame
  | .loop _ _ _ => frame
  | _ => frame.bind doneAlias

/-- The inner nodes that are rendered with a node, in the order of the text. -/
def Node.entered (frame : Frame) : Node → List Placed
  | .ifBlock _ children => children.map (Placed.mk frame)
  | .loop _ itemName children => children.map (Placed.mk (frame.bind itemName))
  | .async _ _ done failed loading doneAlias failedAlias =>
    done.map (fun node => ⟨frame.settled doneAlias node, node⟩)
      ++ failed.map (Placed.mk (frame.bind failedAlias)) ++ loading.map (Placed.mk frame)
  | .router routes =>
    routes.flatMap fun route => route.children.map (Placed.mk (frame.bind? route.boundAs))
  | .switch _ cases => cases.flatMap fun c => c.children.map (Placed.mk frame)
  | .slotContent _ element => [⟨frame, element⟩]
  | .component name _ children =>
    (if frame.takesSlots name then children.filter Node.isSlotContent else []).map (Placed.mk frame)
      ++ (children.filter fun child => !child.isSlotContent).map (Placed.mk frame)
  | .fragment children => children.map (Placed.mk frame)
  | _ => []

/-- Rendering never leaves the tree: an entered node is an inner node. -/
lemma Node.entered_inner {frame : Frame} {node : Node} {placed : Placed}
    (h : placed ∈ node.entered frame) : placed.node ∈ node.inner := by
  cases node with
  | async promise key done failed loading doneAlias failedAlias =>
      simp only [entered, List.mem_append, List.mem_map] at h
      simp only [inner, List.mem_append]
      rcases h with (⟨child, hc, rfl⟩ | ⟨child, hc, rfl⟩) | ⟨child, hc, rfl⟩
      · exact Or.inl (Or.inl hc)
      · exact Or.inl (Or.inr hc)
      · exact Or.inr hc
  | router routes =>
      simp only [entered, List.mem_flatMap, List.mem_map] at h
      obtain ⟨route, hr, child, hc, rfl⟩ := h
      exact List.mem_flatMap.mpr ⟨route, hr, hc⟩
  | switch value cases =>
      simp only [entered, List.mem_flatMap, List.mem_map] at h
      obtain ⟨c, hcase, child, hc, rfl⟩ := h
      exact List.mem_flatMap.mpr ⟨c, hcase, hc⟩
  | component name properties children =>
      simp only [entered, List.mem_append, List.mem_map] at h
      rcases h with ⟨child, hc, rfl⟩ | ⟨child, hc, rfl⟩
      · split_ifs at hc
        · exact (List.mem_filter.mp hc).1
        · exact absurd hc (by simp)
      · exact (List.mem_filter.mp hc).1
  | slotContent name element =>
      rw [List.mem_singleton.mp h]
      simp [inner]
  | ifBlock _ _ | loop _ _ _ | fragment _ =>
      obtain ⟨child, hc, rfl⟩ := List.mem_map.mp h
      exact hc
  | _ => simp [entered] at h

/-- A node and all nodes that are rendered with it, in the order of the text. -/
def Node.rendered (frame : Frame) (node : Node) : List Placed :=
  ⟨frame, node⟩ :: (node.entered frame).attach.flatMap fun placed =>
    placed.1.node.rendered placed.1.frame
termination_by sizeOf node
decreasing_by exact Node.sizeOf_inner (Node.entered_inner placed.2)

lemma Node.rendered_eq (frame : Frame) (node : Node) :
    node.rendered frame
      = ⟨frame, node⟩ :: (node.entered frame).flatMap fun placed =>
          placed.node.rendered placed.frame := by
  rw [rendered]
  congr 1
  conv_rhs => rw [← List.attach_map_subtype_val (node.entered frame), List.flatMap_map]

/-- All nodes that are rendered with nodes in a row. -/
def renderedNodes (frame : Frame) (nodes : List Node) : List Placed :=
  nodes.flatMap fun node => node.rendered frame

/-- Rendering reaches a node directly, or through an entered one. -/
lemma Node.mem_rendered {frame : Frame} {node : Node} {found : Placed} :
    found ∈ node.rendered frame
      ↔ found = ⟨frame, node⟩
        ∨ ∃ placed ∈ node.entered frame, found ∈ placed.node.rendered placed.frame := by
  rw [rendered_eq, List.mem_cons, List.mem_flatMap]

/-- Rendering leaves the props of the frame alone: only the bound name changes on the way. -/
lemma Node.entered_props {frame : Frame} {node : Node} {placed : Placed}
    (h : placed ∈ node.entered frame) : placed.frame.props = frame.props := by
  cases node with
  | async promise key done failed loading doneAlias failedAlias =>
      simp only [entered, List.mem_append, List.mem_map] at h
      rcases h with (⟨child, -, rfl⟩ | ⟨child, -, rfl⟩) | ⟨child, -, rfl⟩
      · cases child <;> rfl
      · rfl
      · rfl
  | router routes =>
      simp only [entered, List.mem_flatMap, List.mem_map] at h
      obtain ⟨⟨path, boundAs, children⟩, -, child, -, rfl⟩ := h
      cases boundAs <;> rfl
  | switch value cases =>
      simp only [entered, List.mem_flatMap, List.mem_map] at h
      obtain ⟨c, -, child, -, rfl⟩ := h
      rfl
  | component name properties children =>
      simp only [entered, List.mem_append, List.mem_map] at h
      rcases h with ⟨child, -, rfl⟩ | ⟨child, -, rfl⟩ <;> rfl
  | slotContent name element => rw [List.mem_singleton.mp h]
  | ifBlock _ _ | loop _ _ _ | fragment _ =>
      obtain ⟨child, -, rfl⟩ := List.mem_map.mp h
      rfl
  | _ => simp [entered] at h

/-! ## Marks -/

/-- Whether a piece says what the text around it uses: an expression of the author, a call of a
hook, a tag or a slot. -/
def Piece.isMark : Piece → Bool
  | .script _ | .hook _ | .opening _ | .slotVariable _ | .slotField _ => true
  | _ => false

/-- The marks among pieces. -/
def marksOf (pieces : List Piece) : List Piece := pieces.filter Piece.isMark

section Marks

variable (pieces others : List Piece)

@[simp] lemma marksOf_nil : marksOf [] = [] := rfl

@[simp] lemma marksOf_append : marksOf (pieces ++ others) = marksOf pieces ++ marksOf others :=
  List.filter_append ..

@[simp] lemma marksOf_code (text : String) : marksOf (.code text :: pieces) = marksOf pieces := rfl

@[simp] lemma marksOf_authored (text : String) :
    marksOf (.authored text :: pieces) = marksOf pieces := rfl

@[simp] lemma marksOf_literal (value : String) :
    marksOf (.literal value :: pieces) = marksOf pieces := rfl

@[simp] lemma marksOf_script (source : String) :
    marksOf (.script source :: pieces) = .script source :: marksOf pieces := rfl

@[simp] lemma marksOf_hook (hook : Hook) :
    marksOf (.hook hook :: pieces) = .hook hook :: marksOf pieces := rfl

@[simp] lemma marksOf_opening (tag : String) :
    marksOf (.opening tag :: pieces) = .opening tag :: marksOf pieces := rfl

@[simp] lemma marksOf_slotVariable (name : String) :
    marksOf (.slotVariable name :: pieces) = .slotVariable name :: marksOf pieces := rfl

@[simp] lemma marksOf_slotField (name : Option String) :
    marksOf (.slotField name :: pieces) = .slotField name :: marksOf pieces := rfl

@[simp] lemma marksOf_braced : marksOf (braced pieces) = marksOf pieces := by simp [braced]

@[simp] lemma marksOf_fragmentOf : marksOf (fragmentOf pieces) = marksOf pieces := by
  simp [fragmentOf]

@[simp] lemma marksOf_returnOf : marksOf (returnOf pieces) = marksOf pieces := by simp [returnOf]

@[simp] lemma marksOf_immediately : marksOf (immediately pieces) = marksOf pieces := by
  simp [immediately]

@[simp] lemma marksOf_flatMap {α : Type} (f : α → List Piece) (parts : List α) :
    marksOf (parts.flatMap f) = parts.flatMap fun part => marksOf (f part) :=
  List.filter_flatMap ..

end Marks

/-- The name that a slot has among the props. -/
abbrev slotName (name : Option String) : String := name.getD "children"

/-- The marks that a node writes itself, without those of the nodes it enters. -/
def Node.marks (frame : Frame) : Node → List Piece
  | .ifBlock condition _ => [.script condition.source]
  | .loop items _ _ => [.script items.source]
  | .async promise key _ _ _ _ _ =>
    [.hook .state, .hook .state, .hook .state, .hook .effect, .script promise.source]
      ++ (key.map fun e => Piece.script e.source).toList
  | .switch value _ => [.script value.source]
  | .slot name =>
    if slotName name ∈ frame.props then [.slotVariable (slotName name)] else [.slotField name]
  | .onMount children =>
    if (mountExpressions children).isEmpty then []
    else .hook .effect :: (mountExpressions children).map fun e => .script e.source
  | .component name properties _ =>
    .opening name :: (properties.filterMap Property.script?).map .script
  | .expression e => [.script e.source]
  | _ => []

/-! ### Rows of nodes

The row functions of the renderer are maps over the row. -/

lemma renderNodes_eq_flatMap (frame : Frame) (nodes : List Node) :
    renderNodes frame nodes = nodes.flatMap (renderNode frame) := by
  induction nodes with
  | nil => simp [renderNodes]
  | cons node rest ih => simp [renderNodes, ih]

lemma renderSettled_eq_flatMap (frame : Frame) (doneAlias : String) (nodes : List Node) :
    renderSettled frame doneAlias nodes
      = nodes.flatMap fun node => renderNode (frame.settled doneAlias node) node := by
  induction nodes with
  | nil => simp [renderSettled]
  | cons node rest ih => cases node <;> simp [renderSettled, renderNode, Frame.settled, ih]

/-- **A loop in the branch for a settled value.**  It keeps the frame around the block, and this
does not show: it binds a name of its own. -/
lemma renderSettled_eq_renderNodes (frame : Frame) (doneAlias : String) (nodes : List Node) :
    renderSettled frame doneAlias nodes = renderNodes (frame.bind doneAlias) nodes := by
  rw [renderSettled_eq_flatMap, renderNodes_eq_flatMap]
  refine List.flatMap_congr fun node _ => ?_
  cases node with
  | loop items itemName children => rw [Frame.settled, renderNode, renderNode]; rfl
  | _ => rfl

lemma renderContent_eq_flatMap (frame : Frame) (nodes : List Node) :
    renderContent frame nodes
      = (nodes.filter fun node => !node.isSlotContent).flatMap (renderNode frame) := by
  induction nodes with
  | nil => simp [renderContent]
  | cons node rest ih => cases node <;> simp [renderContent, Node.isSlotContent, ih]

lemma renderSlots_eq_flatMap (frame : Frame) (nodes : List Node) :
    renderSlots frame nodes
      = (nodes.filter Node.isSlotContent).flatMap fun node =>
        .code " " :: renderNode frame node := by
  induction nodes with
  | nil => simp [renderSlots]
  | cons node rest ih =>
      cases node <;> simp [renderSlots, renderNode, Node.isSlotContent, List.filter_cons, ih]

lemma renderCases_eq_flatMap (frame : Frame) (cases : List (Case Node)) :
    renderCases frame cases
      = cases.flatMap fun c => casePieces c.value (renderNodes frame c.children) := by
  induction cases with
  | nil => simp [renderCases]
  | cons c rest ih => simp [renderCases, ih]

/-- What holds of the pieces of every route holds of all rows of a router. -/
lemma forall_renderRoutes {P : List Piece → Prop} {frame : Frame} {routes : List (Route Node)}
    (h : ∀ route ∈ routes, ∀ index, P (routePieces index route.path route.boundAs
      (route.children.flatMap (renderNode (frame.bind? route.boundAs))))) (index : Nat) :
    ∀ row ∈ renderRoutes frame index routes, P row := by
  induction routes generalizing index with
  | nil => simp [renderRoutes]
  | cons route rest ih =>
      rw [List.forall_mem_cons] at h
      rw [renderRoutes, List.forall_mem_cons, renderNodes_eq_flatMap]
      exact ⟨h.1 index, ih h.2 (index + 1)⟩

/-- **What a node inherits from the nodes that it enters holds of whole bodies**, where every node
that is reached allows the step. -/
lemma renderNodes_of_step {P : List Piece → Prop} {Q : Node → Prop}
    (hrow : ∀ (frame : Frame) (nodes : List Node), (∀ node ∈ nodes, P (renderNode frame node)) →
      P (nodes.flatMap (renderNode frame)))
    (hstep : ∀ (frame : Frame) (node : Node), Q node →
      (∀ placed ∈ node.entered frame, P (renderNode placed.frame placed.node)) →
        P (renderNode frame node))
    {frame : Frame} {nodes : List Node} (h : ∀ placed ∈ renderedNodes frame nodes, Q placed.node) :
    P (renderNodes frame nodes) := by
  have hnode : ∀ node frame, (∀ placed ∈ node.rendered frame, Q placed.node) →
      P (renderNode frame node) := by
    intro node
    induction node using Node.induction with
    | step node ih =>
      intro frame hall
      refine hstep frame node (hall _ (Node.mem_rendered.mpr (Or.inl rfl))) fun placed hplaced => ?_
      refine ih _ (Node.entered_inner hplaced) placed.frame fun found hfound => ?_
      exact hall found (Node.mem_rendered.mpr (Or.inr ⟨placed, hplaced, hfound⟩))
  rw [renderNodes_eq_flatMap]
  exact hrow frame nodes fun node hmem =>
    hnode node frame fun placed hplaced => h placed (List.mem_flatMap.mpr ⟨node, hmem, hplaced⟩)

/-! ### Marks of blocks -/

lemma marksOf_casePieces (value : CaseValue) (content : List Piece) :
    marksOf (casePieces value content) = marksOf content := by
  cases value <;> simp [casePieces]

lemma marksOf_itemsPieces (items : Expression) :
    marksOf (itemsPieces items) = [.script items.source] := by
  unfold itemsPieces
  split <;> simp

lemma marksOf_renamePieces (boundAs variableName : String) :
    marksOf (renamePieces boundAs variableName) = [] := by
  unfold renamePieces
  split_ifs <;> simp

/-- Separators of fixed text add no marks. -/
lemma marksOf_intercalate (separator : String) (rows : List (List Piece)) :
    marksOf ([Piece.code separator].intercalate rows) = rows.flatMap marksOf := by
  induction rows with
  | nil => rfl
  | cons row rest ih =>
      cases rest with
      | nil => simp
      | cons next more =>
          rw [List.intercalate_cons_cons]
          simp [ih]

lemma marksOf_fieldPieces (variableName : String) (names : List String) (group : Nat) :
    (fieldPieces variableName group names).flatMap marksOf = [] := by
  induction names generalizing group with
  | nil => rfl
  | cons name rest ih =>
      simp only [fieldPieces, List.flatMap_cons, ih, fieldKey]
      split_ifs <;> simp

lemma marksOf_routePieces (index : Nat) (path : String) (boundAs : Option String)
    (content : List Piece) :
    marksOf (routePieces index path boundAs content) = marksOf content := by
  unfold routePieces
  cases boundAs <;>
    simp only [emptyBinding, matchBinding] <;> split_ifs <;>
    simp [marksOf_intercalate, marksOf_fieldPieces]

lemma marksOf_renderRoutes (frame : Frame) (routes : List (Route Node)) (index : Nat) :
    (renderRoutes frame index routes).flatMap marksOf
      = routes.flatMap fun route =>
          marksOf (renderNodes (frame.bind? route.boundAs) route.children) := by
  induction routes generalizing index with
  | nil => simp [renderRoutes]
  | cons route rest ih => simp [renderRoutes, marksOf_routePieces, ih]

lemma marksOf_propertyPieces (property : Property) :
    marksOf (propertyPieces property) = (property.script?.map Piece.script).toList := by
  cases property with
  | spread argument => simp [propertyPieces, Property.script?]
  | named key value =>
      cases value with
      | text text =>
          simp only [propertyPieces, valuePieces, Property.script?, marksOf_authored]
          split <;> simp_all
      | _ => simp [propertyPieces, valuePieces, Property.script?, Value.script?]

lemma marksOf_propertiesPieces (properties : List Property) :
    marksOf (propertiesPieces properties)
      = (properties.filterMap Property.script?).map .script := by
  induction properties with
  | nil => rfl
  | cons property rest ih =>
      simp only [propertiesPieces, List.flatMap_cons] at ih ⊢
      cases h : property.script? <;> simp_all [marksOf_propertyPieces]

/-! ### Blocks are never empty -/

/-- Fixed text that is not empty shows. -/
lemma writesNothing_code {text : String} (h : text.isEmpty = false) (pieces : List Piece) :
    writesNothing (.code text :: pieces) = false := by
  simp only [writesNothing, List.all_cons, Piece.text, h, Bool.false_and]

lemma writesNothing_braced (pieces : List Piece) : writesNothing (braced pieces) = false :=
  writesNothing_code (by decide) _

lemma writesNothing_immediately (pieces : List Piece) :
    writesNothing (immediately pieces) = false :=
  writesNothing_code (by decide) _

lemma writesNothing_opening (tag : String) (pieces : List Piece) :
    writesNothing (.opening tag :: pieces) = false := by
  simp [writesNothing, Piece.text]

lemma writesNothing_elementPieces (name : String) (properties content : List Piece) :
    writesNothing (elementPieces name properties content) = false := by
  unfold elementPieces
  split_ifs <;> exact writesNothing_opening name _

lemma writesNothing_slotContentPieces (name : String) (element : Node) (content : List Piece) :
    writesNothing (slotContentPieces name element content) = false := by
  cases element <;> simp [slotContentPieces, writesNothing, Piece.text]

/-- A rendering without any text has no marks: next to a mark there is fixed text. -/
lemma marksOf_of_writesNothing {frame : Frame} {node : Node}
    (h : writesNothing (renderNode frame node) = true) : marksOf (renderNode frame node) = [] := by
  induction node using Node.induction generalizing frame with
  | step node ih =>
    cases node with
    | fragment children =>
        simp only [renderNode, renderNodes_eq_flatMap, writesNothing, List.all_flatMap,
          List.all_eq_true] at h
        simp only [renderNode, renderNodes_eq_flatMap, marksOf_flatMap, List.flatMap_eq_nil_iff]
        intro child hc
        exact ih child hc (List.all_eq_true.mpr (h child hc))
    | onMount children =>
        simp only [renderNode, mountPieces] at h ⊢
        split_ifs at h ⊢
        · rfl
        · exact absurd h (Bool.eq_false_iff.mp (writesNothing_immediately _))
    | slot name =>
        simp only [renderNode, slotPieces] at h
        split_ifs at h <;> exact absurd h (Bool.eq_false_iff.mp (writesNothing_braced _))
    | component name properties children =>
        rw [renderNode] at h
        exact absurd h (Bool.eq_false_iff.mp (writesNothing_elementPieces ..))
    | slotContent name element =>
        rw [renderNode] at h
        exact absurd h (Bool.eq_false_iff.mp (writesNothing_slotContentPieces ..))
    | async _ _ _ _ _ _ _ | router _ | switch _ _ =>
        rw [renderNode] at h
        exact absurd h (Bool.eq_false_iff.mp (writesNothing_immediately _))
    | ifBlock _ _ | loop _ _ _ | expression _ =>
        rw [renderNode] at h
        exact absurd h (Bool.eq_false_iff.mp (writesNothing_braced _))
    | _ => simp [renderNode]

lemma marksOf_elementPieces {name : String} {properties content : List Piece}
    (h : writesNothing content = true → marksOf content = []) :
    marksOf (elementPieces name properties content)
      = .opening name :: (marksOf properties ++ marksOf content) := by
  unfold elementPieces
  split_ifs with hn
  · simp [h hn]
  · simp

lemma marksOf_slotContentPieces (name : String) (element : Node) (content : List Piece) :
    marksOf (slotContentPieces name element content) = marksOf content := by
  cases element <;> simp [slotContentPieces]

/-! ## The marks of a rendered node -/

/-- One step: a node writes its own marks, then the nodes that it enters write theirs. -/
lemma marksOf_renderNode_step (frame : Frame) (node : Node) :
    marksOf (renderNode frame node)
      = node.marks frame ++ (node.entered frame).flatMap fun placed =>
          marksOf (renderNode placed.frame placed.node) := by
  cases node with
  | ifBlock condition children =>
      simp [renderNode, ifPieces, Node.marks, Node.entered, renderNodes_eq_flatMap,
        List.flatMap_map]
  | loop items itemName children =>
      simp [renderNode, loopPieces, marksOf_itemsPieces, Node.marks, Node.entered,
        renderNodes_eq_flatMap, List.flatMap_map]
  | async promise key done failed loading doneAlias failedAlias =>
      cases key <;>
        simp [renderNode, asyncPieces, marksOf_renamePieces, Node.marks, Node.entered,
          renderNodes_eq_flatMap, renderSettled_eq_flatMap, List.flatMap_map]
  | router routes =>
      simp [renderNode, routerPieces, marksOf_intercalate, marksOf_renderRoutes, Node.marks,
        Node.entered, renderNodes_eq_flatMap, List.flatMap_map, List.flatMap_assoc]
  | switch value cases =>
      simp [renderNode, switchPieces, renderCases_eq_flatMap, marksOf_casePieces, Node.marks,
        Node.entered, renderNodes_eq_flatMap, List.flatMap_map, List.flatMap_assoc]
  | slotContent name element =>
      simp [renderNode, marksOf_slotContentPieces, Node.marks, Node.entered]
  | onMount children =>
      simp only [renderNode, mountPieces, Node.marks, Node.entered]
      split_ifs <;> simp [List.map_eq_flatMap]
  | component name properties children =>
      have hcontent : writesNothing (renderContent frame children) = true →
          marksOf (renderContent frame children) = [] := by
        simp only [renderContent_eq_flatMap, writesNothing, List.all_flatMap, marksOf_flatMap,
          List.flatMap_eq_nil_iff]
        intro h child hc
        exact marksOf_of_writesNothing (List.all_eq_true.mp h child hc)
      rw [renderNode, marksOf_elementPieces hcontent]
      simp only [Node.marks, Node.entered, marksOf_append, marksOf_propertiesPieces]
      split_ifs <;>
        simp [renderContent_eq_flatMap, renderSlots_eq_flatMap, List.flatMap_map]
  | slot name =>
      simp only [renderNode, slotPieces, Node.marks, Node.entered, List.contains_iff_mem]
      split_ifs <;> simp
  | fragment children =>
      simp [renderNode, Node.marks, Node.entered, renderNodes_eq_flatMap, List.flatMap_map]
  | _ => simp [renderNode, Node.marks, Node.entered]

/-- **The marks of a rendered node are those of the reached nodes, in the order of the text.** -/
theorem marksOf_renderNode (frame : Frame) (node : Node) :
    marksOf (renderNode frame node)
      = (node.rendered frame).flatMap fun placed => placed.node.marks placed.frame := by
  induction node using Node.induction generalizing frame with
  | step node ih =>
    rw [marksOf_renderNode_step, Node.rendered_eq, List.flatMap_cons, List.flatMap_assoc]
    congr 1
    exact List.flatMap_congr fun placed h => ih _ (Node.entered_inner h) placed.frame

/-- The same for nodes in a row. -/
theorem marksOf_renderNodes (frame : Frame) (nodes : List Node) :
    marksOf (renderNodes frame nodes)
      = (renderedNodes frame nodes).flatMap fun placed => placed.node.marks placed.frame := by
  simp only [renderNodes_eq_flatMap, renderedNodes, marksOf_flatMap, marksOf_renderNode,
    List.flatMap_assoc]

end Componentry
