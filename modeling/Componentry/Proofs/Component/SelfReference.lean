import Componentry.Proofs.Component.Rendering
import Componentry.Proofs.Document.Depth

/-!
# References of a component to itself

A tag with the name that is bound around it refers to what is bound, so its content for slots has
nowhere to go.  This is the one place where rendering looks at the bound name.

**Scopes.**  Loops, routes with a name, and the branches for a settled value and for a failure bind
a name of their own.  `Node.inScope` lists the nodes that are reached without entering one of these:
they have the name that is bound around the node.

**Two names.**  `scope_shows_in_self_references` renders the same nodes under two names.  The texts
are the same unless a component with content for slots has one of these names and is in the same
scope.
-/

namespace Componentry

/-! ## Scopes -/

/-- The nodes directly in a node for which the same name is bound. -/
def Node.sameScope : Node → List Node
  | .loop _ _ _ => []
  | .async _ _ _ _ loading _ _ => loading
  | .router routes => (routes.filter fun route => route.boundAs.isNone).flatMap Route.children
  | node => node.children

lemma Node.sameScope_children {node child : Node} (h : child ∈ node.sameScope) :
    child ∈ node.children := by
  cases node with
  | loop items itemName children => exact absurd h (by simp [sameScope])
  | async promise key done failed loading doneAlias failedAlias =>
      exact List.mem_append_right _ h
  | router routes =>
      obtain ⟨route, hroute, hchild⟩ := List.mem_flatMap.mp h
      exact List.mem_flatMap.mpr ⟨route, List.mem_of_mem_filter hroute, hchild⟩
  | _ => exact h

/-- A node and all nodes that are reached from it without entering a block that binds a name. -/
def Node.inScope (node : Node) : List Node :=
  node :: node.sameScope.attach.flatMap fun child => child.1.inScope
termination_by sizeOf node
decreasing_by exact Node.sizeOf_children (Node.sameScope_children child.2)

lemma Node.inScope_eq (node : Node) :
    node.inScope = node :: node.sameScope.flatMap Node.inScope := by
  rw [inScope]
  congr 1
  conv_rhs => rw [← List.attach_map_subtype_val node.sameScope, List.flatMap_map]

/-- The name of a component of the project that has content for slots. -/
def Node.filledName? : Node → Option String
  | .component name _ children =>
    if isCustomTag name && children.any Node.isSlotContent then some name else none
  | _ => none

/-! ## Rows in two frames -/

section Rows

variable {frame other : Frame}

lemma renderNodes_congr {nodes : List Node}
    (h : ∀ node ∈ nodes, renderNode frame node = renderNode other node) :
    renderNodes frame nodes = renderNodes other nodes := by
  rw [renderNodes_eq_flatMap, renderNodes_eq_flatMap]
  exact List.flatMap_congr h

lemma renderContent_congr {nodes : List Node}
    (h : ∀ node ∈ nodes, renderNode frame node = renderNode other node) :
    renderContent frame nodes = renderContent other nodes := by
  rw [renderContent_eq_flatMap, renderContent_eq_flatMap]
  exact List.flatMap_congr fun node hnode => h node (List.mem_of_mem_filter hnode)

lemma renderSlots_congr {nodes : List Node}
    (h : ∀ node ∈ nodes, renderNode frame node = renderNode other node) :
    renderSlots frame nodes = renderSlots other nodes := by
  rw [renderSlots_eq_flatMap, renderSlots_eq_flatMap]
  exact List.flatMap_congr fun node hnode => congrArg _ (h node (List.mem_of_mem_filter hnode))

lemma renderRoutes_congr {routes : List (Route Node)}
    (h : ∀ route ∈ routes, renderNodes (frame.bind? route.boundAs) route.children
      = renderNodes (other.bind? route.boundAs) route.children) (index : Nat) :
    renderRoutes frame index routes = renderRoutes other index routes := by
  induction routes generalizing index with
  | nil => rw [renderRoutes, renderRoutes]
  | cons route rest ih =>
      rw [List.forall_mem_cons] at h
      rw [renderRoutes, renderRoutes, h.1, ih h.2]

lemma renderCases_congr {cases : List (Case Node)}
    (h : ∀ c ∈ cases, renderNodes frame c.children = renderNodes other c.children) :
    renderCases frame cases = renderCases other cases := by
  rw [renderCases_eq_flatMap, renderCases_eq_flatMap]
  exact List.flatMap_congr fun c hc => by rw [h c hc]

end Rows

/-- A row without content for slots gives none. -/
lemma renderSlots_of_not_any {children : List Node} (h : children.any Node.isSlotContent = false)
    (frame : Frame) : renderSlots frame children = [] := by
  rw [renderSlots_eq_flatMap, List.filter_eq_nil_iff.mpr]
  · rfl
  · simpa using h

/-! ## Two names -/

/-- Whether a component takes content for slots does not depend on the bound name, unless it has
this name. -/
lemma takesSlots_of_ne {name a : String} (props : List String) (h : name ≠ a) :
    Frame.takesSlots ⟨.root a, props⟩ name = isCustomTag name := by
  simp [Frame.takesSlots, Scope.isSelfReference, Scope.root, h.symm]

/-- **One node under two names.** -/
lemma renderNode_of_inScope {a b : String} {props : List String} (node : Node)
    (h : ∀ found ∈ node.inScope, ∀ name ∈ found.filledName?, name ≠ a ∧ name ≠ b) :
    renderNode ⟨.root a, props⟩ node = renderNode ⟨.root b, props⟩ node := by
  induction node using Node.induction with
  | step node ih =>
    rw [Node.inScope_eq, List.forall_mem_cons] at h
    obtain ⟨hself, hbelow⟩ := h
    have hinner : ∀ child ∈ node.inner, child ∈ node.sameScope →
        renderNode ⟨.root a, props⟩ child = renderNode ⟨.root b, props⟩ child := by
      intro child hchild hscope
      exact ih child hchild fun found hfound =>
        hbelow found (List.mem_flatMap.mpr ⟨child, hscope, hfound⟩)
    cases node with
    | ifBlock condition children =>
        have hrow : ∀ child ∈ children, _ := fun child hchild => hinner child hchild hchild
        rw [renderNode, renderNode, renderNodes_congr hrow]
    | fragment children =>
        have hrow : ∀ child ∈ children, _ := fun child hchild => hinner child hchild hchild
        rw [renderNode, renderNode, renderNodes_congr hrow]
    | loop items itemName children =>
        rw [renderNode, renderNode]
        rfl
    | async promise key done failed loading doneAlias failedAlias =>
        have hrow : ∀ child ∈ loading, _ := fun child hchild =>
          hinner child (List.mem_append_right _ hchild) hchild
        rw [renderNode, renderNode, renderSettled_eq_renderNodes, renderSettled_eq_renderNodes,
          renderNodes_congr hrow]
        rfl
    | router routes =>
        rw [renderNode, renderNode, renderRoutes_congr]
        intro route hroute
        cases hbound : route.boundAs with
        | some name => rfl
        | none =>
            have hkept : route ∈ routes.filter fun route => route.boundAs.isNone :=
              List.mem_filter.mpr ⟨hroute, by rw [hbound]; rfl⟩
            refine renderNodes_congr fun child hchild => hinner child ?_ ?_
            · exact List.mem_flatMap.mpr ⟨route, hroute, hchild⟩
            · exact List.mem_flatMap.mpr ⟨route, hkept, hchild⟩
    | switch value cases =>
        rw [renderNode, renderNode, renderCases_congr]
        intro c hc
        refine renderNodes_congr fun child hchild => ?_
        have hmem : child ∈ cases.flatMap Case.children := List.mem_flatMap.mpr ⟨c, hc, hchild⟩
        exact hinner child hmem hmem
    | slotContent name element =>
        have hmem : element ∈ [element] := List.mem_singleton_self element
        rw [renderNode, renderNode, hinner element hmem hmem]
    | component name properties children =>
        have hrow : ∀ child ∈ children, _ := fun child hchild => hinner child hchild hchild
        rw [renderNode, renderNode, renderContent_congr hrow, renderSlots_congr hrow]
        cases hany : children.any Node.isSlotContent with
        | false => simp only [renderSlots_of_not_any hany, ite_self]
        | true =>
            -- here the two names could be told apart
            cases hcustom : isCustomTag name with
            | false => simp [Frame.takesSlots, hcustom]
            | true =>
                obtain ⟨ha, hb⟩ := hself name (by simp [Node.filledName?, hcustom, hany])
                rw [takesSlots_of_ne props ha, takesSlots_of_ne props hb]
    | slot name =>
        rw [renderNode, renderNode]
        rfl
    | _ => rw [renderNode, renderNode]

/-- A component with the bound name is shown as if it had no content for slots. -/
lemma renderNode_of_selfReference (frame : Frame) (properties : List Property)
    (children : List Node) :
    renderNode frame (.component frame.scope.name properties children)
      = renderNode frame (.component frame.scope.name properties
          (children.filter fun child => !child.isSlotContent)) := by
  have hslots : frame.takesSlots frame.scope.name = false := by
    simp [Frame.takesSlots, Scope.isSelfReference]
  rw [renderNode, renderNode, renderContent_eq_flatMap, renderContent_eq_flatMap,
    List.filter_filter]
  simp [hslots]

/-- **The bound name shows in references to it only.**  Nodes are rendered under two names to the
same text, if no component with content for slots has one of these names where it is bound.  So a
loop in the branch for a settled value may keep the frame around the block: the block is rendered as
if all of this branch were in the frame of the branch.  A component with the bound name is shown as
if it had no content for slots. -/
theorem scope_shows_in_self_references (props : List String) (a b : String) (nodes : List Node)
    (h : ∀ node ∈ nodes.flatMap Node.inScope, ∀ name ∈ node.filledName?, name ≠ a ∧ name ≠ b) :
    textOf (renderNodes ⟨.root a, props⟩ nodes) = textOf (renderNodes ⟨.root b, props⟩ nodes)
    ∧ (∀ frame promise key done failed loading doneAlias failedAlias,
        textOf (renderNode frame (.async promise key done failed loading doneAlias failedAlias))
          = textOf (asyncPieces promise key doneAlias failedAlias
            (renderNodes (frame.bind doneAlias) done)
              (renderNodes (frame.bind failedAlias) failed) (renderNodes frame loading)))
    ∧ ∀ properties children,
        textOf (renderNode ⟨.root a, props⟩ (.component a properties children))
          = textOf (renderNode ⟨.root a, props⟩ (.component a properties
              (children.filter fun child => !child.isSlotContent))) := by
  refine ⟨?_, ?_, ?_⟩
  · rw [renderNodes_congr fun node hnode => ?_]
    refine renderNode_of_inScope node fun found hfound => ?_
    exact h found (List.mem_flatMap.mpr ⟨node, hnode, hfound⟩)
  · intro frame promise key done failed loading doneAlias failedAlias
    rw [renderNode, renderSettled_eq_renderNodes]
  · intro properties children
    exact congrArg textOf (renderNode_of_selfReference ⟨.root a, props⟩ properties children)

/-- A card with content for its slot. -/
def titledCard : Node := .component "Card" [] [.slotContent "title" (.text "Title")]

/-- A loop over such cards, and a panel with an empty card in its slot. -/
def cardShelf : List Node :=
  [.loop ⟨"cards", .identifier "cards"⟩ "card" [titledCard],
    .component "Panel" [] [.slotContent "title" (.component "Card" [] [])]]

/-- In a card this shelf looks as it does on a page: the cards with titles are in a loop, which
binds another name. -/
theorem scope_shows_in_self_references_cardShelf :
    textOf (renderNodes ⟨.root "Card", []⟩ cardShelf)
      = textOf (renderNodes ⟨.root "Page", []⟩ cardShelf) := by
  refine (scope_shows_in_self_references [] "Card" "Page" cardShelf ?_).1
  simp [cardShelf, Node.inScope_eq, Node.sameScope, Node.children, Node.inner, Node.filledName?]

/-- By itself a card with a title does not. -/
example : textOf (renderNodes ⟨.root "Card", []⟩ [titledCard])
    ≠ textOf (renderNodes ⟨.root "Page", []⟩ [titledCard]) := by decide +kernel

end Componentry
