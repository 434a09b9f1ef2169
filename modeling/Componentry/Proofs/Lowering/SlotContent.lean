import Componentry.Proofs.Component.Generation
import Componentry.Proofs.Lowering.Regularity

/-!
# Where content for slots ends up

An element is addressed to a slot by an attribute, and only a component has slots to pass it to.
Every content is lowered in the same way, though, so an address counts in all of it: the element is
wrapped in a condition, a loop or a fragment just as in a component.

**Structure.**  `Document.SlotContentInComponents` is the condition that rendering relies on.  A
lowered document meets it exactly if the addresses do (`Program.AddressesComponents`): lowering adds
no content for slots and takes none away.

**Rendering.**  Content for a slot is written as `name={…}`, which belongs into a tag.  What stands
between tags is what is shown in the node (`Node.shownIn`), and under the condition none of it is
content for a slot (`SlotContentInComponents.writesSlotsInTags`).
-/

namespace Componentry

open Markup

/-! ## The condition -/

/-- Content for slots stands in components, and in nothing else. -/
def Node.SlotContentInComponent (node : Node) : Prop :=
  ∀ child ∈ node.children, child.isSlotContent = true → node.isComponent = true

/-- Every node that is content for a slot is an immediate child of a component. -/
def Document.SlotContentInComponents (document : Document) : Prop :=
  (∀ node ∈ document.body, node.isSlotContent = false)
    ∧ ∀ node ∈ document.nodes, node.SlotContentInComponent

namespace Markup

/-- Whether a child is addressed to a slot. -/
def Child.isAddressed : Child → Bool
  | .element tag _ => tag.slotTarget?.isSome
  | _ => false

/-- Whether a tag is one of a component. -/
def Tag.isComponent (tag : Tag) : Bool := (ReservedTag.ofName? tag.name).isNone

/-- Whether a child is an element that is a component. -/
def Child.isComponent : Child → Bool
  | .element tag _ => tag.isComponent
  | _ => false

/-- Whether a statement is an element that is a component. -/
def Statement.isComponent : Statement → Bool
  | .element tag _ => tag.isComponent
  | _ => false

/-- Every element that is reached and has an address stands in a component. -/
def Program.AddressesComponents (program : Program) : Prop :=
  ∀ statement ∈ program.body,
    (∀ inner ∈ statement.content, inner.isAddressed = true → statement.isComponent = true)
      ∧ ∀ child ∈ statement.reached, ∀ inner ∈ child.content,
          inner.isAddressed = true → child.isComponent = true

end Markup

/-! ## Lowering -/

/-- A child is wrapped for a slot exactly if it is addressed. -/
lemma isSlotContent_lowerChild (child : Child) :
    (lowerChild child).value.any Node.isSlotContent = child.isAddressed := by
  cases child with
  | element tag children =>
      rw [lowerChild_element, Child.isAddressed]
      cases htarget : tag.slotTarget? with
      | some name => rfl
      | none => exact isSlotContent_lowerElement tag children _
  | fragment children position => rfl
  | text raw =>
      rw [lowerChild]
      cases Text.clean raw <;> rfl
  | expression e =>
      rw [lowerChild]
      cases e.isEmpty <;> rfl

/-- Of lowered children something follows for content for slots exactly if it does for addressed
children. -/
lemma forall_isSlotContent_lowerChildren (row : List Child) (p : Prop) :
    (∀ node ∈ (lowerChildren row).value, node.isSlotContent = true → p)
      ↔ ∀ child ∈ row, child.isAddressed = true → p := by
  simp only [lowerChildren_value, List.mem_flatMap, Option.mem_toList, ← isSlotContent_lowerChild,
    Option.any_eq_true]
  constructor
  · rintro h child hchild ⟨node, hnode, hslot⟩
    exact h node ⟨child, hchild, hnode⟩ hslot
  · rintro h node ⟨child, hchild, hnode⟩ hslot
    exact h child hchild ⟨node, hnode, hslot⟩

lemma isComponent_lowerElement (tag : Tag) (children : List Child) (contents : Contents) :
    (lowerElement tag children contents).value.isComponent = tag.isComponent := by
  cases hname : ReservedTag.ofName? tag.name with
  | none =>
      rw [lowerElement_component children contents hname]
      simp [Tag.isComponent, hname, Node.isComponent, Node.componentChildren?]
  | some reserved =>
      have hblock := isBlock_lowerElement children contents hname
      cases hnode : (lowerElement tag children contents).value <;>
        simp_all [Node.isBlock, Tag.isComponent, Node.isComponent, Node.componentChildren?]

/-- The shell of an element meets the condition exactly if the addresses in its content do. -/
lemma slotContentInComponent_shell (tag : Tag) (children : List Child) :
    (∀ node ∈ tag.shell children, node.SlotContentInComponent)
      ↔ ∀ inner ∈ tag.content children, inner.isAddressed = true → tag.isComponent = true := by
  rw [← forall_isSlotContent_lowerChildren]
  cases hawaits : tag.awaits with
  | false =>
      simp only [Tag.shell, hawaits, Bool.false_eq_true, if_false, List.mem_singleton, forall_eq]
      rw [Node.SlotContentInComponent, children_lowerElement children hawaits,
        isComponent_lowerElement]
  | true =>
      -- the block around the loop holds nothing but the loop
      have hcomponent : tag.isComponent = false := by
        rw [Tag.awaits, Bool.and_eq_true, beq_iff_eq] at hawaits
        simp [Tag.isComponent, hawaits.1]
      simp only [Tag.shell, hawaits, if_true, lowerElement_of_awaits children hawaits, hcomponent]
      simp [Node.SlotContentInComponent, Node.children, Node.inner, Node.isSlotContent,
        Node.isComponent, Node.componentChildren?]

/-- **One step.**  The shell of a child meets the condition exactly if the addresses in its content
do. -/
lemma Markup.Child.slotContentInComponent_shell (child : Child) :
    (∀ node ∈ child.shell, node.SlotContentInComponent)
      ↔ ∀ inner ∈ child.content, inner.isAddressed = true → child.isComponent = true := by
  cases child with
  | element tag children =>
      rw [Child.shell]
      cases htarget : tag.slotTarget? with
      | none => exact Componentry.slotContentInComponent_shell tag children
      | some name =>
          rw [List.forall_mem_cons,
            Componentry.slotContentInComponent_shell tag.withoutSlot children]
          refine and_iff_right_of_imp fun _ element helement hslot => ?_
          obtain rfl := List.mem_singleton.mp helement
          rw [isSlotContent_lowerElement] at hslot
          exact absurd hslot (by simp)
  | fragment children position =>
      rw [Child.shell, List.forall_mem_singleton, Child.content]
      exact forall_isSlotContent_lowerChildren children _
  | text raw =>
      cases hclean : Text.clean raw <;>
        simp [Child.shell, Child.content, hclean, Node.SlotContentInComponent, Node.children,
          Node.inner]
  | expression e =>
      cases hempty : e.isEmpty <;>
        simp [Child.shell, Child.content, hempty, Node.SlotContentInComponent, Node.children,
          Node.inner]

lemma Markup.Statement.slotContentInComponent_shell (statement : Statement) :
    (∀ node ∈ statement.shell, node.SlotContentInComponent)
      ↔ ∀ inner ∈ statement.content, inner.isAddressed = true → statement.isComponent = true := by
  cases statement with
  | element tag children => exact Componentry.slotContentInComponent_shell tag children
  | fragment children position =>
      rw [Statement.shell, List.forall_mem_singleton, Statement.content]
      exact forall_isSlotContent_lowerChildren children _
  | other text => simp [Statement.shell, Statement.content]

/-- **All steps.**  A lowered document meets the condition exactly if the addresses in its markup
do. -/
lemma slotContentInComponents_iff (program : Program) :
    program.lower.value.SlotContentInComponents ↔ program.AddressesComponents := by
  rw [Document.SlotContentInComponents, and_iff_right (isSlotContent_body program), nodes_lower]
  simp only [List.forall_mem_flatMap, List.forall_mem_append]
  refine forall₂_congr fun statement _ => and_congr statement.slotContentInComponent_shell ?_
  exact forall₂_congr fun child _ => child.slotContentInComponent_shell

/-! ## Rendering -/

/-- The inner nodes that are written as content.  Content for the slots of a component is not: it is
    written in the tag. -/
def Node.shownIn (frame : Frame) : Node → List Placed
  | .component _ _ children =>
    (children.filter fun child => !child.isSlotContent).map (Placed.mk frame)
  | node => node.entered frame

/-- Content for slots is written in tags and nowhere else. -/
def Parts.WritesSlotsInTags (parts : Parts) (name : String) : Prop :=
  (∀ node ∈ parts.body, node.isSlotContent = false)
    ∧ ∀ placed ∈ parts.rendered name, ∀ child ∈ placed.node.shownIn placed.frame,
        child.node.isSlotContent = false

lemma Node.shownIn_children {frame : Frame} {node : Node} {placed : Placed}
    (h : placed ∈ node.shownIn frame) : placed.node ∈ node.children := by
  cases node with
  | component name properties children =>
      obtain ⟨child, hchild, rfl⟩ := List.mem_map.mp h
      exact (List.mem_filter.mp hchild).1
  | _ => exact inner_children (@entered_inner frame _ _ h)

/-- What is shown in a node is no content for a slot, if the node meets the condition. -/
lemma isSlotContent_of_shownIn {frame : Frame} {node : Node} {placed : Placed}
    (hnode : node.SlotContentInComponent) (h : placed ∈ node.shownIn frame) :
    placed.node.isSlotContent = false := by
  cases hslot : placed.node.isSlotContent with
  | false => rfl
  | true =>
      have hcomponent := hnode placed.node (Node.shownIn_children h) hslot
      cases node with
      | component name properties children =>
          obtain ⟨child, hchild, rfl⟩ := List.mem_map.mp h
          exact absurd (List.mem_filter.mp hchild).2 (by simpa using hslot)
      | _ => exact absurd hcomponent (by simp [Node.isComponent, Node.componentChildren?])

namespace Document

variable {document : Document}

/-- Rendering stays among the nodes of the document. -/
lemma mem_nodes_of_rendered {node : Node} :
    ∀ {frame : Frame} {placed : Placed}, node ∈ document.nodes → placed ∈ node.rendered frame →
      placed.node ∈ document.nodes := by
  induction node using Node.induction with
  | step node ih =>
    intro frame placed hnode hplaced
    rcases Node.mem_rendered.mp hplaced with rfl | ⟨entered, hentered, hplaced⟩
    · exact hnode
    · have hinner := Node.entered_inner hentered
      exact ih entered.node hinner (mem_nodes_of_children hnode (Node.inner_children hinner))
        hplaced

lemma mem_nodes_of_rootChildren? {children : List Node}
    (h : document.rootChildren? = some children) :
    ∃ root ∈ document.nodes, root.children = children := by
  obtain ⟨root, hroot, hchildren⟩ := List.exists_of_findSome?_eq_some h
  refine ⟨root, mem_nodes_of_body hroot, ?_⟩
  cases root with
  | component name properties inner => exact Option.some.inj hchildren
  | _ => exact absurd hchildren (by simp [Node.componentChildren?])

/-- The body of a component is made of nodes of the document: what is addressed to the root is shown
itself. -/
lemma mem_nodes_of_shown {node : Node} (h : node ∈ document.shown) : node ∈ document.nodes := by
  unfold Document.shown at h
  split at h
  · rename_i children hroot
    obtain ⟨root, hmem, rfl⟩ := mem_nodes_of_rootChildren? hroot
    obtain ⟨child, hchild, rfl⟩ := List.mem_map.mp h
    have hchild := mem_nodes_of_children hmem (List.mem_of_mem_filter hchild)
    cases child with
    | slotContent name element =>
        exact mem_nodes_of_children hchild (List.mem_singleton_self element)
    | _ => exact hchild
  · exact mem_nodes_of_body (List.mem_of_mem_filter h)

/-- What is rendered in the body of a component are nodes of the document. -/
lemma mem_nodes_of_parts {name : String} {placed : Placed}
    (h : placed ∈ document.parts.value.rendered name) : placed.node ∈ document.nodes := by
  obtain ⟨top, htop, hplaced⟩ := List.mem_flatMap.mp h
  exact mem_nodes_of_rendered (mem_nodes_of_shown htop) hplaced

/-- No node of the body is content for a slot. -/
lemma SlotContentInComponents.shown (h : document.SlotContentInComponents) :
    ∀ node ∈ document.shown, node.isSlotContent = false := by
  intro node hnode
  unfold Document.shown at hnode
  split at hnode
  · rename_i children hroot
    obtain ⟨root, hmem, rfl⟩ := mem_nodes_of_rootChildren? hroot
    obtain ⟨child, hchild, rfl⟩ := List.mem_map.mp hnode
    have hchild := mem_nodes_of_children hmem (List.mem_of_mem_filter hchild)
    cases child with
    | slotContent name element =>
        have helement : element ∈ (Node.slotContent name element).children :=
          List.mem_singleton_self element
        cases hslot : element.isSlotContent with
        | false => exact hslot
        | true =>
            have hcomponent := h.2 _ hchild element helement hslot
            exact absurd hcomponent (by simp [Node.isComponent, Node.componentChildren?])
    | _ => rfl
  · exact h.1 node (List.mem_of_mem_filter hnode)

/-- **Under the condition content for slots is written in tags.** -/
lemma SlotContentInComponents.writesSlotsInTags (h : document.SlotContentInComponents)
    (name : String) :
    document.parts.value.WritesSlotsInTags name := by
  refine ⟨h.shown, fun placed hplaced child hchild => ?_⟩
  exact isSlotContent_of_shownIn (h.2 _ (mem_nodes_of_parts hplaced)) hchild

end Document

/-- **Content for slots is in components exactly where its address is.**  Lowered markup has content
    for slots in components only, exactly if all addresses are; then the generated body writes it in
    tags only. -/
theorem slotContent_in_components_iff (program : Program) :
    (program.lower.value.SlotContentInComponents ↔ program.AddressesComponents)
      ∧ (program.AddressesComponents → ∀ name options result,
          generate program.lower.value name options = .ok result →
            result.value.body = renderNodes (program.lower.value.parts.value.frame name)
                program.lower.value.parts.value.body
              ∧ program.lower.value.parts.value.WritesSlotsInTags name) := by
  refine ⟨slotContentInComponents_iff program, fun h name options result hresult => ?_⟩
  refine ⟨(generated_of_generate hresult).body, ?_⟩
  exact ((slotContentInComponents_iff program).mpr h).writesSlotsInTags name

/-- A page with a paragraph that is addressed to the slot `a` of the element around it. -/
def addressedPage (parent : Tag) : Program :=
  ⟨[.element ⟨"div", [], false, ⟨1, 1⟩⟩ [.element parent
    [.element ⟨"p", [.named "slot" (some (.text "a")) ⟨1, 20⟩], false, ⟨1, 17⟩⟩ [.text "hi"]]]]⟩

/-- The tag of a component. -/
def cardTag : Tag := ⟨"Card", [], false, ⟨1, 6⟩⟩

/-- The tag of a condition. -/
def conditionTag : Tag :=
  ⟨"if", [.named "x" (some (.expression ⟨"ok", .identifier "ok"⟩)) ⟨1, 10⟩], false, ⟨1, 6⟩⟩

/-- In a component the paragraph is passed on by the tag. -/
theorem slotContent_in_card : ∃ result,
    generate (addressedPage cardTag).lower.value "Page" {} = .ok result
    ∧ textOf result.value.body = "<Card a=\x7b<p>hi</p>\x7d />"
    ∧ (addressedPage cardTag).lower.value.SlotContentInComponents
    ∧ (addressedPage cardTag).lower.value.parts.value.WritesSlotsInTags "Page" := by
  have haddresses : (addressedPage cardTag).AddressesComponents := by
    intro statement hstatement
    obtain rfl := List.mem_singleton.mp hstatement
    refine ⟨fun _ _ _ => rfl, ?_⟩
    simp [Statement.reached, Statement.content, Tag.content, ReservedTag.ofName?, Child.reached_eq,
      Child.content, Child.isComponent, Tag.isComponent, cardTag]
  refine ⟨_, rfl, by decide, (slotContent_in_components_iff _).1.mpr haddresses, ?_⟩
  exact ((slotContent_in_components_iff _).2 haddresses "Page" {} _ rfl).2

/-- **Content for a slot of nothing.**  In a condition the paragraph is wrapped all the same, and
    the body of the module has `a={…}` where content belongs. -/
theorem slotContent_in_condition : ∃ result,
    generate (addressedPage conditionTag).lower.value "Page" {} = .ok result
    ∧ textOf result.value.body = "\x7bBoolean(ok) && (<>a=\x7b<p>hi</p>\x7d</>)\x7d"
    ∧ ¬ (addressedPage conditionTag).lower.value.SlotContentInComponents := by
  have hlower : (addressedPage conditionTag).lower.value = ⟨[.component "div" []
      [.ifBlock ⟨"ok", .identifier "ok"⟩ [.slotContent "a" (.component "p" [] [.text "hi"])]]]⟩ :=
    rfl
  refine ⟨_, rfl, by decide, fun h => ?_⟩
  rw [hlower] at h
  simp [Document.SlotContentInComponents, Document.nodes, Node.subnodes_eq,
    Node.SlotContentInComponent, Node.children, Node.inner, Node.isSlotContent, Node.isComponent,
    Node.componentChildren?] at h

end Componentry
