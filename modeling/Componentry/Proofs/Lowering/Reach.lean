import Mathlib.Data.List.Basic
import Componentry.Lowering
import Componentry.Proofs.Document.Depth

/-!
# What lowering reaches

Lowering goes from an element to some of its content.  This file says to which, and what each piece
of markup that is reached turns into.

**Reach.**  `Tag.content` is one step: the children that an element passes on, in the order of their
nodes.  Most tags pass all children on; an asynchronous block passes on the content of the first
branch of each kind, a switch that of its cases unless their value is there already, a router that
of its routes.  `Child.reached` is all steps together.

**Shells.**  `Child.shell` lists the nodes that a child turns into itself, without those of its
content.  It is one node at most, but for elements that are meant for a slot and for loops over a
call: these are wrapped.

`subnodes_lowerChild` says that the nodes of lowered markup are the shells of the reached children,
in order: nothing comes from markup that is not reached, and no reached markup is lost.
-/

namespace Componentry

open Markup

/-! ## Results with warnings -/

namespace Reported

variable {α β : Type}

@[simp] lemma value_pure (a : α) : (pure a : Reported α).value = a := rfl

@[simp] lemma warnings_pure (a : α) : (pure a : Reported α).warnings = [] := rfl

@[simp] lemma value_bind (x : Reported α) (f : α → Reported β) :
    (x >>= f).value = (f x.value).value := rfl

@[simp] lemma warnings_bind (x : Reported α) (f : α → Reported β) :
    (x >>= f).warnings = x.warnings ++ (f x.value).warnings := rfl

@[simp] lemma warnings_warn (cause : Warning.Cause) (position : Position) :
    (warn cause position).warnings = [⟨cause, some position⟩] := rfl

@[simp] lemma value_orElse (found : Option α) (default : α) (cause : Warning.Cause)
    (position : Position) : (orElse found default cause position).value = found.getD default := by
  cases found <;> rfl

end Reported

/-! ## Content -/

/-- The content of the first child that is a given branch. -/
def branchContent (branch : AsyncBranch) : List Child → List Child
  | [] => []
  | .element tag children :: rest =>
    if AsyncBranch.ofName? tag.name = some branch then children else branchContent branch rest
  | _ :: rest => branchContent branch rest

/-- The content of the cases whose value is not there already. -/
def caseContent (seen : List CaseValue) : List Child → List Child
  | [] => []
  | .element tag children :: rest =>
    if tag.name = caseTag then
      let value := (lowerCaseValue tag).value
      if seen.contains value then caseContent seen rest
      else children ++ caseContent (value :: seen) rest
    else caseContent seen rest
  | _ :: rest => caseContent seen rest

/-- The content of the routes. -/
def routeContent : List Child → List Child
  | [] => []
  | .element tag children :: rest =>
    if ReservedTag.ofName? tag.name = some .route then children ++ routeContent rest
    else routeContent rest
  | _ :: rest => routeContent rest

/-- The content that an element passes on. -/
def Markup.Tag.content (tag : Tag) (children : List Child) : List Child :=
  match ReservedTag.ofName? tag.name with
  | some .state | some .props | some .slot => []
  | some .async =>
    branchContent .done children ++ branchContent .failed children
      ++ branchContent .loading children
  | some .switch => caseContent [] children
  | some .router => routeContent children
  | _ => children

/-- The content that a child passes on. -/
def Markup.Child.content : Child → List Child
  | .element tag children => tag.content children
  | .fragment children _ => children
  | _ => []

section Inside

variable {child : Child} {children : List Child}

/-- A child stands among children, or directly in an element among them. -/
def IsInside (child : Child) (children : List Child) : Prop :=
  child ∈ children ∨ ∃ tag row, Child.element tag row ∈ children ∧ child ∈ row

lemma IsInside.cons {first : Child} (h : IsInside child children) :
    IsInside child (first :: children) := by
  rcases h with hmem | ⟨tag, row, hrow, hmem⟩
  · exact Or.inl (List.mem_cons_of_mem _ hmem)
  · exact Or.inr ⟨tag, row, List.mem_cons_of_mem _ hrow, hmem⟩

lemma isInside_element {tag : Tag} {row : List Child} (h : child ∈ row) :
    IsInside child (.element tag row :: children) :=
  Or.inr ⟨tag, row, List.mem_cons_self, h⟩

lemma isInside_of_branchContent {branch : AsyncBranch} (h : child ∈ branchContent branch children) :
    IsInside child children := by
  fun_induction branchContent branch children with
  | case1 => exact absurd h (by simp)
  | case2 tag row rest _ => exact isInside_element h
  | case3 tag row rest _ ih => exact (ih h).cons
  | case4 other rest _ ih => exact (ih h).cons

lemma isInside_of_caseContent {seen : List CaseValue} (h : child ∈ caseContent seen children) :
    IsInside child children := by
  fun_induction caseContent seen children with
  | case1 => exact absurd h (by simp)
  | case2 seen tag row rest _ _ _ ih => exact (ih h).cons
  | case3 seen tag row rest _ _ _ ih =>
      rcases List.mem_append.mp h with hrow | hrest
      · exact isInside_element hrow
      · exact (ih hrest).cons
  | case4 seen tag row rest _ ih => exact (ih h).cons
  | case5 seen other rest _ ih => exact (ih h).cons

lemma isInside_of_routeContent (h : child ∈ routeContent children) : IsInside child children := by
  fun_induction routeContent children with
  | case1 => exact absurd h (by simp)
  | case2 tag row rest _ ih =>
      rcases List.mem_append.mp h with hrow | hrest
      · exact isInside_element hrow
      · exact (ih hrest).cons
  | case3 tag row rest _ ih => exact (ih h).cons
  | case4 other rest _ ih => exact (ih h).cons

/-- An element passes on nothing but children of its own and of its branches, cases and routes. -/
lemma isInside_of_content {tag : Tag} (h : child ∈ tag.content children) :
    IsInside child children := by
  unfold Tag.content at h
  split at h
  · exact absurd h (by simp)
  · exact absurd h (by simp)
  · exact absurd h (by simp)
  · rw [List.mem_append, List.mem_append] at h
    rcases h with (h | h) | h <;> exact isInside_of_branchContent h
  · exact isInside_of_caseContent h
  · exact isInside_of_routeContent h
  · exact Or.inl h

end Inside

/-- What a child passes on is smaller than the child. -/
lemma Markup.Child.sizeOf_content {child inner : Child} (h : inner ∈ child.content) :
    sizeOf inner < sizeOf child := by
  cases child with
  | element tag children =>
      rw [Child.element.sizeOf_spec]
      rcases isInside_of_content h with hmem | ⟨branch, row, hrow, hmem⟩
      · have := List.sizeOf_lt_of_mem hmem
        omega
      · have h1 := List.sizeOf_lt_of_mem hmem
        have h2 := List.sizeOf_lt_of_mem hrow
        rw [Child.element.sizeOf_spec] at h2
        omega
  | fragment children position =>
      have hsize : sizeOf inner < sizeOf children := List.sizeOf_lt_of_mem h
      rw [Child.fragment.sizeOf_spec]
      omega
  | text raw => exact absurd h (by simp [Child.content])
  | expression e => exact absurd h (by simp [Child.content])

/-! ## Children in a row -/

lemma lowerChildren_value (row : List Child) :
    (lowerChildren row).value = row.flatMap fun child => (lowerChild child).value.toList := by
  induction row with
  | nil => rfl
  | cons child rest ih => simp [lowerChildren, ih]

lemma lowerChildren_warnings (row : List Child) :
    (lowerChildren row).warnings = row.flatMap fun child => (lowerChild child).warnings := by
  induction row with
  | nil => rfl
  | cons child rest ih => simp [lowerChildren, ih]

lemma lowerChildren_append_value (row others : List Child) :
    (lowerChildren (row ++ others)).value
      = (lowerChildren row).value ++ (lowerChildren others).value := by
  simp only [lowerChildren_value, List.flatMap_append]

/-- A branch is lowered as the content it passes on. -/
lemma lowerBranch_eq (branch : AsyncBranch) (children : List Child) :
    lowerBranch branch children = lowerChildren (branchContent branch children) := by
  fun_induction branchContent branch children with
  | case1 => rfl
  | case2 tag children rest h => rw [lowerBranch, if_pos h]
  | case3 tag children rest h ih => rw [lowerBranch, if_neg h, ih]
  | case4 child rest h ih => rw [lowerBranch.eq_3 _ _ _ h, ih]

/-- The nodes of the cases are those of the content they pass on. -/
lemma children_lowerCases (position : Position) (seen : List CaseValue) (children : List Child) :
    (lowerCases position seen children).value.flatMap Case.children
      = (lowerChildren (caseContent seen children)).value := by
  fun_induction caseContent seen children with
  | case1 => rfl
  | case2 seen tag children rest hcase value hseen ih =>
      rw [lowerCases, if_pos hcase, Reported.value_bind, if_pos hseen]
      exact ih
  | case3 seen tag children rest hcase value hseen ih =>
      rw [lowerCases, if_pos hcase, Reported.value_bind, if_neg hseen, lowerChildren_append_value,
        ← ih]
      rfl
  | case4 seen tag children rest hcase ih =>
      rw [lowerCases, if_neg hcase]
      exact ih
  | case5 seen child rest h ih =>
      rw [lowerCases.eq_3 _ _ _ _ h, ← ih]
      cases child.isContent <;> rfl

/-- The nodes of the routes are those of the content they pass on. -/
lemma children_lowerRoutes (position : Position) (children : List Child) :
    (lowerRoutes position children).value.flatMap Route.children
      = (lowerChildren (routeContent children)).value := by
  fun_induction routeContent children with
  | case1 => rfl
  | case2 tag children rest h ih =>
      rw [lowerRoutes, if_pos h, lowerChildren_append_value, ← ih]
      rfl
  | case3 tag children rest h ih =>
      rw [lowerRoutes, if_neg h]
      exact ih
  | case4 child rest h ih =>
      rw [lowerRoutes.eq_3 _ _ _ h, ← ih]
      cases child.isContent <;> rfl

/-! ## Elements -/

lemma lowerState_value (tag : Tag) : ∃ name value,
    (lowerState tag).value = .state ⟨name, value, !value.isLiteral, tag.position⟩ := by
  unfold lowerState
  split
  split_ifs <;> exact ⟨_, _, rfl⟩

lemma lowerSlot_value (tag : Tag) : ∃ name, (lowerSlot tag).value = .slot name := by
  unfold lowerSlot
  split
  · exact ⟨_, rfl⟩
  · split <;> exact ⟨_, rfl⟩

/-- The items of a loop. -/
def Markup.Tag.items (tag : Tag) : Expression := (tag.expression? "of").getD noItemsExpression

/-- The name that a loop binds its items to. -/
def Markup.Tag.itemName (tag : Tag) : String := (tag.binding? "let").getD "item"

/-- A loop over a call is the block that waits for it, with a loop in it. -/
lemma lowerLoop_value (tag : Tag) (nodes : Unit → Reported (List Node)) :
    (lowerLoop tag nodes).value
      = if tag.items.isAsyncSource then
          .async tag.items none [.loop settledExpression tag.itemName (nodes ()).value] [] []
            settledValue settledError
        else .loop tag.items tag.itemName (nodes ()).value := by
  simp only [lowerLoop, Reported.value_bind, Reported.value_orElse]
  exact apply_ite Reported.value _ _ _

/-- A tag without a meaning of its own makes a component. -/
lemma lowerElement_component {tag : Tag} (children : List Child) (contents : Contents)
    (h : ReservedTag.ofName? tag.name = none) :
    (lowerElement tag children contents).value
      = .component tag.name (tag.attributes.map lowerProperty) (contents.nodes ()).value := by
  simp only [lowerElement, h]
  rfl

/-- Whether a node is of a kind that a reserved tag makes. -/
def Node.isBlock : Node → Bool
  | .slotContent _ _ | .component _ _ _ | .fragment _ | .text _ | .expression _ => false
  | _ => true

lemma isBlock_lowerElement {tag : Tag} {reserved : ReservedTag} (children : List Child)
    (contents : Contents) (h : ReservedTag.ofName? tag.name = some reserved) :
    (lowerElement tag children contents).value.isBlock = true := by
  simp only [lowerElement, h]
  cases reserved with
  | state =>
      obtain ⟨name, value, hstate⟩ := lowerState_value tag
      rw [hstate]
      rfl
  | props =>
      unfold lowerProps
      split_ifs <;> rfl
  | loop =>
      rw [lowerLoop_value]
      split_ifs <;> rfl
  | slot =>
      obtain ⟨name, hslot⟩ := lowerSlot_value tag
      rw [hslot]
      rfl
  | onMount =>
      simp only [Reported.value_bind]
      split_ifs <;> rfl
  | _ => rfl

/-- Whether a tag is a loop over something that has to be waited for. -/
def Markup.Tag.awaits (tag : Tag) : Bool :=
  ReservedTag.ofName? tag.name == some .loop && tag.items.isAsyncSource

/-- The nodes that an element turns into itself. -/
def Markup.Tag.shell (tag : Tag) (children : List Child) : List Node :=
  let node := (lowerElement tag children (.ofChildren children)).value
  if tag.awaits then node :: node.children else [node]

/-- An element holds the nodes of the content it passes on, unless it waits for its items. -/
lemma children_lowerElement {tag : Tag} (children : List Child) (h : tag.awaits = false) :
    (lowerElement tag children (.ofChildren children)).value.children
      = (lowerChildren (tag.content children)).value := by
  cases hname : ReservedTag.ofName? tag.name with
  | none =>
      simp only [lowerElement, Tag.content, hname]
      rfl
  | some reserved =>
      simp only [lowerElement, Tag.content, hname]
      cases reserved with
      | state =>
          obtain ⟨name, value, hstate⟩ := lowerState_value tag
          rw [hstate]
          rfl
      | props =>
          unfold lowerProps
          split_ifs <;> rfl
      | slot =>
          obtain ⟨name, hslot⟩ := lowerSlot_value tag
          rw [hslot]
          rfl
      | loop =>
          have hitems : tag.items.isAsyncSource = false := by simpa [Tag.awaits, hname] using h
          rw [lowerLoop_value, hitems]
          rfl
      | onMount =>
          simp only [Reported.value_bind]
          split_ifs <;> rfl
      | async =>
          simp only [lowerChildren_append_value, ← lowerBranch_eq]
          rfl
      | switch => exact children_lowerCases tag.position [] children
      | router => exact children_lowerRoutes tag.position children
      | route => exact List.append_nil _
      | ifTag => rfl

/-- An element that waits for its items holds a loop over them, which holds the nodes of the
content. -/
lemma lowerElement_of_awaits {tag : Tag} (children : List Child) (h : tag.awaits = true) :
    (lowerElement tag children (.ofChildren children)).value
      = .async tag.items none
          [.loop settledExpression tag.itemName (lowerChildren (tag.content children)).value] [] []
          settledValue settledError := by
  rw [Tag.awaits, Bool.and_eq_true, beq_iff_eq] at h
  simp only [lowerElement, Tag.content, h.1]
  rw [lowerLoop_value, h.2]
  rfl

/-- The nodes of an element are its shell and those of its content. -/
lemma subnodes_lowerElement (tag : Tag) (children : List Child) :
    (lowerElement tag children (.ofChildren children)).value.subnodes
      = tag.shell children
        ++ (lowerChildren (tag.content children)).value.flatMap Node.subnodes := by
  cases h : tag.awaits with
  | false => simp [Tag.shell, h, Node.subnodes_eq, children_lowerElement children h]
  | true =>
      simp only [Tag.shell, h, lowerElement_of_awaits children h, if_true]
      rw [Node.subnodes_eq]
      simp only [Node.children, Node.inner, List.append_nil, List.flatMap_singleton]
      rw [Node.subnodes_eq]
      rfl

/-! ## All steps -/

/-- What an element is lowered to as a child: addressed to a slot, or by itself. -/
def Markup.Child.shell : Child → List Node
  | .element tag children =>
    match tag.slotTarget? with
    | some name =>
      .slotContent name (lowerElement tag.withoutSlot children (.ofChildren children)).value
        :: tag.withoutSlot.shell children
    | none => tag.shell children
  | .fragment children _ => [.fragment (lowerChildren children).value]
  | .text raw => ((Text.clean raw).map Node.text).toList
  | .expression e => if e.isEmpty then [] else [.expression e]

lemma lowerChild_element (tag : Tag) (children : List Child) :
    lowerChild (.element tag children) = match tag.slotTarget? with
      | some name => do
        return some (.slotContent name
          (← lowerElement tag.withoutSlot children (.ofChildren children)))
      | none => do return some (← lowerElement tag children (.ofChildren children)) := by
  rw [lowerChild]
  rfl

/-- One step: a child turns into its shell, and what it passes on follows. -/
lemma subnodes_lowerChild_step (child : Child) :
    (lowerChild child).value.toList.flatMap Node.subnodes
      = child.shell ++ (lowerChildren child.content).value.flatMap Node.subnodes := by
  cases child with
  | element tag children =>
      rw [lowerChild_element, Child.shell]
      cases htarget : tag.slotTarget? with
      | some name =>
          simp [Node.subnodes_eq (.slotContent _ _), Node.children, Node.inner,
            subnodes_lowerElement]
          rfl
      | none =>
          simp [subnodes_lowerElement]
          rfl
  | fragment children position =>
      simp [lowerChild, Child.shell, Child.content, Node.subnodes_eq (.fragment _), Node.children,
        Node.inner]
  | text raw =>
      cases h : Text.clean raw <;>
        simp [lowerChild, Child.shell, Child.content, h, Node.subnodes_eq, Node.children,
          Node.inner, lowerChildren]
  | expression e =>
      cases h : e.isEmpty <;>
        simp [lowerChild, Child.shell, Child.content, h, Node.subnodes_eq, Node.children,
          Node.inner, lowerChildren]

/-- A child and all markup that lowering reaches from it, in the order of the nodes. -/
def Markup.Child.reached (child : Child) : List Child :=
  child :: child.content.attach.flatMap fun inner => inner.1.reached
termination_by sizeOf child
decreasing_by exact Child.sizeOf_content inner.2

lemma Markup.Child.reached_eq (child : Child) :
    child.reached = child :: child.content.flatMap Child.reached := by
  rw [reached]
  congr 1
  conv_rhs => rw [← List.attach_map_subtype_val child.content, List.flatMap_map]

/-- **Induction over reached markup.**  In the step the property is known of everything passed
on. -/
@[elab_as_elim]
theorem Markup.Child.induction {motive : Child → Prop}
    (step : ∀ child : Child, (∀ inner ∈ child.content, motive inner) → motive child) :
    ∀ child, motive child := by
  intro child
  exact step child fun inner _ => Child.induction step inner
termination_by child => sizeOf child
decreasing_by exact Child.sizeOf_content ‹_›

/-- **The nodes of lowered markup are the shells of the reached children, in order.** -/
theorem subnodes_lowerChild (child : Child) :
    (lowerChild child).value.toList.flatMap Node.subnodes = child.reached.flatMap Child.shell := by
  induction child using Child.induction with
  | step child ih =>
    rw [subnodes_lowerChild_step, Child.reached_eq, List.flatMap_cons, lowerChildren_value,
      List.flatMap_assoc, List.flatMap_assoc]
    congr 1
    exact List.flatMap_congr ih

/-! ## Programs -/

/-- The nodes that a statement turns into itself.  At the top level no element is meant for a
slot. -/
def Markup.Statement.shell : Statement → List Node
  | .element tag children => tag.shell children
  | .fragment children _ => [.fragment (lowerChildren children).value]
  | .other _ => []

/-- The content that a statement passes on. -/
def Markup.Statement.content : Statement → List Child
  | .element tag children => tag.content children
  | .fragment children _ => children
  | .other _ => []

/-- All markup that lowering reaches from a statement. -/
def Markup.Statement.reached (statement : Statement) : List Child :=
  statement.content.flatMap Child.reached

lemma subnodes_lowerStatement (statement : Statement) :
    (lowerStatement statement).value.toList.flatMap Node.subnodes
      = statement.shell ++ statement.reached.flatMap Child.shell := by
  have hrow : ∀ row : List Child, (lowerChildren row).value.flatMap Node.subnodes
      = (row.flatMap Child.reached).flatMap Child.shell := by
    intro row
    rw [lowerChildren_value, List.flatMap_assoc, List.flatMap_assoc]
    exact List.flatMap_congr fun child _ => subnodes_lowerChild child
  cases statement with
  | element tag children =>
      simp [lowerStatement, Statement.shell, Statement.reached, Statement.content,
        subnodes_lowerElement, hrow]
  | fragment children position =>
      simp [lowerStatement, Statement.shell, Statement.reached, Statement.content,
        Node.subnodes_eq (.fragment _), Node.children, Node.inner, hrow]
  | other text => rfl

lemma lowerStatements_value (statements : List Statement) :
    (lowerStatements statements).value
      = statements.flatMap fun statement => (lowerStatement statement).value.toList := by
  induction statements with
  | nil => rfl
  | cons statement rest ih => simp [lowerStatements, ih]

lemma lowerStatements_warnings (statements : List Statement) :
    (lowerStatements statements).warnings
      = statements.flatMap fun statement => (lowerStatement statement).warnings := by
  induction statements with
  | nil => rfl
  | cons statement rest ih => simp [lowerStatements, ih]

/-- **The nodes of a lowered program are the shells of its statements and of the markup that is
    reached from them.** -/
theorem nodes_lower (program : Program) :
    program.lower.value.nodes
      = program.body.flatMap fun statement =>
          statement.shell ++ statement.reached.flatMap Child.shell := by
  simp only [Program.lower, Document.nodes, Reported.value_bind, Reported.value_pure,
    lowerStatements_value, List.flatMap_assoc, subnodes_lowerStatement]

end Componentry
