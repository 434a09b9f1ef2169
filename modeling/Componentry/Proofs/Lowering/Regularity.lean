import Mathlib.Data.List.Nodup
import Componentry.Proofs.Component.Rendering
import Componentry.Proofs.Lowering.Reach
import Componentry.Proofs.Script.Names
import Componentry.Proofs.Text.Layout

/-!
# Lowered documents are regular

What later steps rely on without a check: every node of a lowered document is `Regular`, whatever
was written.

**Names.**  A bound name is a trimmed text or an identifier.  The first is tight because it was
trimmed, the second because the reader takes nothing else for an identifier (`tight_binding?`).  So
the markup has to hold expressions that were read, and `Expression.IsRead` says so.

**Nodes.**  By `nodes_lower` the nodes of a document are the shells of the reached markup, and a
shell is made by `lowerElement` alone.  `regular_lowerElement` goes through the tags; all the rest
is inheritance: what is reached has no expressions but those of the program
(`Child.expressions_reached`).
-/

namespace Componentry

open Markup Text

/-! ## Regular nodes -/

/-- Whether an expression is more than blanks and comments. -/
def Expression.IsWritten (e : Expression) : Prop := e.kind ≠ .empty

/-- What may stand in a slot of another component: one block, or a component without an address. -/
def Node.IsSlotElement : Node → Prop
  | .slotContent _ _ | .fragment _ | .text _ | .expression _ => False
  | .component _ properties _ => ∀ value, Property.named "slot" value ∉ properties
  | _ => True

/-- What holds of each node of a lowered document by itself. -/
def Node.Regular : Node → Prop
  | .state declaration => declaration.isHook = !declaration.value.isLiteral
  | .props spread names =>
    names.Nodup ∧ (∀ name ∈ names, name ≠ "" ∧ ∀ c ∈ name.toList, isBlank c = false)
      ∧ (spread = true → names = [])
  | .ifBlock condition _ => condition.IsWritten
  | .loop items itemName _ =>
    items.IsWritten ∧ items.kind ≠ .call ∧ items.kind ≠ .await ∧ Tight itemName.toList
  | .async promise key _ _ _ doneAlias failedAlias =>
    promise.IsWritten ∧ (∀ e ∈ key, e.IsWritten) ∧ Tight doneAlias.toList ∧ Tight failedAlias.toList
  | .router routes => ∀ route ∈ routes, ∀ name ∈ route.boundAs, Tight name.toList
  | .switch value cases => value.IsWritten ∧ (cases.map Case.value).Nodup
  | .slotContent _ element => element.IsSlotElement
  | .component name _ _ => ReservedTag.ofName? name = none
  | .text value => '\n' ∉ value.toList ∧ allBlank value = false ∧ clean value = some value
  | .expression e => e.IsWritten
  | .slot _ | .onMount _ | .fragment _ => True

/-! ## Attributes -/

lemma Expression.isWritten_of_isEmpty {e : Expression} (h : e.isEmpty = false) : e.IsWritten := by
  intro hkind
  exact absurd h (by simp [Expression.isEmpty, hkind])

lemma Markup.NamedAttribute.isWritten_expression? {a : NamedAttribute} {e : Expression}
    (h : a.expression? = some e) : e.IsWritten := by
  unfold NamedAttribute.expression? at h
  split at h
  · split_ifs at h with hempty
    cases h
    exact Expression.isWritten_of_isEmpty (by simpa using hempty)
  · exact absurd h (by simp)

/-- The expression of an attribute is written, and so is a default that is. -/
lemma Markup.Tag.isWritten_expression? {tag : Tag} {name : String} {e : Expression}
    (h : tag.expression? name = some e) : e.IsWritten := by
  obtain ⟨a, _, ha⟩ := Option.bind_eq_some_iff.mp h
  exact a.isWritten_expression? ha

lemma Markup.Tag.isWritten_getD {tag : Tag} {name : String} {default : Expression}
    (h : default.IsWritten) : ((tag.expression? name).getD default).IsWritten := by
  cases hfound : tag.expression? name with
  | none => exact h
  | some e => exact tag.isWritten_expression? hfound

/-- An attribute that is found stands in the tag. -/
lemma Markup.Tag.mem_of_attribute? {tag : Tag} {name : String} {a : NamedAttribute}
    (h : tag.attribute? name = some a) :
    Attribute.named a.name a.value a.position ∈ tag.attributes := by
  obtain ⟨written, hwritten, ha⟩ := List.mem_filterMap.mp (List.mem_of_find?_eq_some h)
  cases written with
  | named key value position =>
      cases Option.some.inj ha
      exact hwritten
  | spread argument position => exact absurd ha (by simp [Attribute.asNamed])

/-- An expression binds its name, if it is one. -/
lemma Value.binding?_expression (e : Expression) :
    (Value.ofAttribute (some (.expression e))).binding? = e.identifier? := by
  cases hkind : e.kind <;> simp [Value.ofAttribute, Value.binding?, Expression.identifier?, hkind]

/-- A name that a tag binds has no blanks around it. -/
lemma Markup.Tag.tight_binding? {tag : Tag} {key name : String} (hspelt : AllSpelt tag.expressions)
    (h : tag.binding? key = some name) : Tight name.toList := by
  obtain ⟨a, ha, hname⟩ := Option.bind_eq_some_iff.mp h
  have hmem := tag.mem_of_attribute? ha
  cases hvalue : a.value with
  | none => simp [hvalue, Value.ofAttribute, Value.binding?] at hname
  | some value =>
      rw [hvalue] at hname hmem
      cases value with
      | text written =>
          simp only [Value.ofAttribute, Value.binding?] at hname
          split_ifs at hname with hblank
          cases hname
          obtain ⟨c, hc, hcblank⟩ : ∃ c ∈ written.toList, isBlank c = false := by
            simpa [allBlank] using hblank
          rw [trimmed, String.toList_ofList]
          exact tight_trim hc hcblank
      | expression e =>
          have he : e.Spelt := hspelt e (List.mem_flatMap.mpr ⟨_, hmem, List.mem_singleton_self e⟩)
          rw [Value.binding?_expression] at hname
          exact tight_of_isScriptName (he name hname)

lemma Markup.Tag.tight_getD {tag : Tag} {key default : String} (hspelt : AllSpelt tag.expressions)
    (h : Tight default.toList) : Tight ((tag.binding? key).getD default).toList := by
  cases hfound : tag.binding? key with
  | none => exact h
  | some name => exact tag.tight_binding? hspelt hfound

/-- A tag without its address has no more expressions. -/
lemma Markup.Tag.allSpelt_withoutSlot {tag : Tag} (h : AllSpelt tag.expressions) :
    AllSpelt tag.withoutSlot.expressions := by
  intro e he
  obtain ⟨a, ha, he⟩ := List.mem_flatMap.mp he
  exact h e (List.mem_flatMap.mpr ⟨a, List.mem_of_mem_filter ha, he⟩)

/-! ## Inheritance -/

lemma expressionsOf_eq_flatMap (row : List Child) :
    expressionsOf row = row.flatMap Child.expressions := by
  induction row with
  | nil => rfl
  | cons child rest ih => rw [expressionsOf, ih, List.flatMap_cons]

/-- A child in a row brings no expressions but those of the row. -/
lemma AllSpelt.of_mem {child : Child} {row : List Child} (h : AllSpelt (expressionsOf row))
    (hmem : child ∈ row) : AllSpelt child.expressions := by
  rw [expressionsOf_eq_flatMap] at h
  exact fun e he => h e (List.mem_flatMap.mpr ⟨child, hmem, he⟩)

/-- An element is spelt if its tag and its content are. -/
lemma allSpelt_element {tag : Tag} {row : List Child} :
    AllSpelt (Child.element tag row).expressions
      ↔ AllSpelt tag.expressions ∧ AllSpelt (expressionsOf row) := by
  rw [Child.expressions, allSpelt_append]

lemma AllSpelt.of_content {tag : Tag} {row : List Child} {inner : Child}
    (h : AllSpelt (expressionsOf row)) (hmem : inner ∈ tag.content row) :
    AllSpelt inner.expressions := by
  rcases isInside_of_content hmem with hrow | ⟨other, inside, hinside, hinner⟩
  · exact h.of_mem hrow
  · exact (allSpelt_element.mp (h.of_mem hinside)).2.of_mem hinner

/-- All that is reached from a child is spelt if the child is. -/
lemma Markup.Child.allSpelt_reached (child : Child) :
    AllSpelt child.expressions → ∀ inner ∈ child.reached, AllSpelt inner.expressions := by
  induction child using Child.induction with
  | step child ih =>
    intro h inner hinner
    have hstep : ∀ next ∈ child.content, AllSpelt next.expressions := by
      intro next hnext
      cases child with
      | element tag row => exact (allSpelt_element.mp h).2.of_content hnext
      | fragment row position =>
          rw [Child.expressions] at h
          exact h.of_mem hnext
      | text raw => exact absurd hnext (by simp [Child.content])
      | expression e => exact absurd hnext (by simp [Child.content])
    rw [Child.reached_eq] at hinner
    rcases List.mem_cons.mp hinner with rfl | hinner
    · exact h
    · obtain ⟨next, hnext, hinner⟩ := List.mem_flatMap.mp hinner
      exact ih next hnext (hstep next hnext) inner hinner

/-! ## Blocks -/

lemma mem_addProp {position : Position} {names : List String} {name : String} :
    ∀ other ∈ (addProp position names name).value, other ∈ names ∨ other = name := by
  intro other hother
  unfold addProp at hother
  split_ifs at hother with hmem
  · exact Or.inl hother
  · simpa using hother

lemma nodup_addProp {position : Position} {names : List String} {name : String} (h : names.Nodup) :
    (addProp position names name).value.Nodup := by
  unfold addProp
  split_ifs with hmem
  · exact h
  · have hnew : name ∉ names := by simpa using hmem
    exact List.nodup_append.mpr ⟨h, List.nodup_singleton name, by
      rintro other hother _ hname rfl
      exact hnew (List.mem_singleton.mp hname ▸ hother)⟩

/-- Names of props: distinct, not empty, and without blanks. -/
def ArePropNames (names : List String) : Prop :=
  names.Nodup ∧ ∀ name ∈ names, name ≠ "" ∧ ∀ c ∈ name.toList, isBlank c = false

/-- Words that are added to names of props leave names of props. -/
lemma arePropNames_foldlM {position : Position} {found names : List String}
    (hfound : ∀ word ∈ found, word ≠ "" ∧ ∀ c ∈ word.toList, isBlank c = false)
    (h : ArePropNames names) : ArePropNames (found.foldlM (addProp position) names).value := by
  induction found generalizing names with
  | nil => exact h
  | cons word rest ih =>
      rw [List.foldlM_cons, Reported.value_bind]
      rw [List.forall_mem_cons] at hfound
      refine ih hfound.2 ⟨nodup_addProp h.1, fun name hname => ?_⟩
      rcases mem_addProp name hname with hold | rfl
      · exact h.2 name hold
      · exact hfound.1

lemma arePropNames_lowerPropNames (position : Position) {names : List String}
    (children : List Child) (h : ArePropNames names) :
    ArePropNames (lowerPropNames position names children).value := by
  induction children generalizing names with
  | nil => exact h
  | cons child rest ih =>
      cases child with
      | text raw =>
          refine ih (arePropNames_foldlM (fun word hword => ?_) h)
          obtain ⟨text, htext, rfl⟩ := List.mem_map.mp hword
          obtain ⟨hne, hblank⟩ := mem_words htext
          refine ⟨fun hempty => hne ?_, by rwa [String.toList_ofList]⟩
          rw [← String.toList_ofList (l := text), hempty]
          rfl
      | element tag children => exact ih h
      | fragment children start => exact ih h
      | expression e => exact ih h

lemma regular_lowerProps (tag : Tag) (children : List Child) :
    (lowerProps tag children).value.Regular := by
  unfold lowerProps
  split_ifs
  · exact ⟨List.nodup_nil, by simp, fun _ => rfl⟩
  · have hnone : ArePropNames [] := ⟨List.nodup_nil, by simp⟩
    obtain ⟨hnodup, hnames⟩ := arePropNames_lowerPropNames tag.position children hnone
    exact ⟨hnodup, hnames, fun h => absurd h (by simp)⟩

/-- The values of cases are distinct, and none is there already. -/
lemma nodup_lowerCases (position : Position) (seen : List CaseValue) (children : List Child) :
    ((lowerCases position seen children).value.map Case.value).Nodup
      ∧ ∀ value ∈ (lowerCases position seen children).value.map Case.value, value ∉ seen := by
  fun_induction caseContent seen children with
  | case1 => exact ⟨List.nodup_nil, by simp [lowerCases]⟩
  | case2 seen tag row rest hcase value hseen ih =>
      rw [lowerCases, if_pos hcase, Reported.value_bind, if_pos hseen]
      exact ih
  | case3 seen tag row rest hcase value hseen ih =>
      rw [lowerCases, if_pos hcase, Reported.value_bind, if_neg hseen]
      -- behind this case its value counts as seen
      obtain ⟨hnodup, hfresh⟩ := ih
      refine ⟨List.nodup_cons.mpr ⟨fun hmem => hfresh _ hmem List.mem_cons_self, hnodup⟩, ?_⟩
      intro other hother
      rcases List.mem_cons.mp hother with rfl | hrest
      · simpa using hseen
      · exact fun hmem => hfresh other hrest (List.mem_cons_of_mem _ hmem)
  | case4 seen tag row rest hcase ih =>
      rw [lowerCases, if_neg hcase]
      exact ih
  | case5 seen child rest h ih =>
      rw [lowerCases.eq_3 _ _ _ _ h]
      cases child.isContent <;> exact ih

/-- A route binds what its tag does. -/
lemma boundAs_lowerRoutes {position : Position} {children : List Child} {route : Route Node}
    (h : route ∈ (lowerRoutes position children).value) :
    ∃ tag row, Child.element tag row ∈ children ∧ route.boundAs = tag.binding? "let" := by
  fun_induction routeContent children with
  | case1 => exact absurd h (by simp [lowerRoutes])
  | case2 tag row rest hroute ih =>
      rw [lowerRoutes, if_pos hroute] at h
      rcases List.mem_cons.mp h with rfl | hrest
      · exact ⟨tag, row, List.mem_cons_self, rfl⟩
      · obtain ⟨other, others, hmem, hbound⟩ := ih hrest
        exact ⟨other, others, List.mem_cons_of_mem _ hmem, hbound⟩
  | case3 tag row rest hroute ih =>
      rw [lowerRoutes, if_neg hroute] at h
      obtain ⟨other, others, hmem, hbound⟩ := ih h
      exact ⟨other, others, List.mem_cons_of_mem _ hmem, hbound⟩
  | case4 child rest hchild ih =>
      rw [lowerRoutes.eq_3 _ _ _ hchild] at h
      have hrest := by cases hcontent : child.isContent <;> simpa [hcontent] using h
      obtain ⟨other, others, hmem, hbound⟩ := ih hrest
      exact ⟨other, others, List.mem_cons_of_mem _ hmem, hbound⟩

lemma tight_branchAlias {branch : AsyncBranch} {default : String} {children : List Child}
    (hspelt : AllSpelt (expressionsOf children)) (h : Tight default.toList) :
    Tight (branchAlias branch default children).toList := by
  unfold branchAlias
  cases hfound : branchTag? branch children with
  | none => exact h
  | some tag =>
      obtain ⟨child, hchild, htag⟩ := List.exists_of_findSome?_eq_some hfound
      cases child with
      | element found row =>
          dsimp only at htag
          split_ifs at htag
          cases htag
          exact tag.tight_getD (allSpelt_element.mp (hspelt.of_mem hchild)).1 h
      | _ => exact absurd htag (by simp)

lemma isWritten_lowerCondition (tag : Tag) : (lowerCondition tag).value.IsWritten := by
  unfold lowerCondition
  dsimp only
  rw [Reported.value_orElse]
  cases hfound : tag.attributes.head?.bind fun a => a.asNamed.bind NamedAttribute.expression? with
  | none => simp [Expression.IsWritten, neverExpression]
  | some e =>
      obtain ⟨a, _, ha⟩ := Option.bind_eq_some_iff.mp hfound
      obtain ⟨named, _, he⟩ := Option.bind_eq_some_iff.mp ha
      exact named.isWritten_expression? he

lemma regular_lowerLoop {tag : Tag} (hspelt : AllSpelt tag.expressions)
    (nodes : Unit → Reported (List Node)) : (lowerLoop tag nodes).value.Regular := by
  have hitems : tag.items.IsWritten :=
    tag.isWritten_getD (by simp [Expression.IsWritten, noItemsExpression])
  rw [lowerLoop_value]
  split_ifs with hasync
  · exact ⟨hitems, by simp, tight_of_isScriptName (by decide), tight_of_isScriptName (by decide)⟩
  · refine ⟨hitems, ?_, ?_, tag.tight_getD hspelt (tight_of_isScriptName (by decide))⟩
    · intro hkind
      exact hasync (by simp [Expression.isAsyncSource, hkind])
    · intro hkind
      exact hasync (by simp [Expression.isAsyncSource, hkind])

/-- **Every tag makes a regular node.** -/
lemma regular_lowerElement {tag : Tag} {children : List Child} (htag : AllSpelt tag.expressions)
    (hchildren : AllSpelt (expressionsOf children)) :
    (lowerElement tag children (.ofChildren children)).value.Regular := by
  have hundefined : undefinedExpression.IsWritten := by
    simp [Expression.IsWritten, undefinedExpression]
  cases hname : ReservedTag.ofName? tag.name with
  | none =>
      simp only [lowerElement, hname]
      exact hname
  | some reserved =>
      simp only [lowerElement, hname]
      cases reserved with
      | state =>
          obtain ⟨name, value, hstate⟩ := lowerState_value tag
          rw [hstate]
          exact rfl
      | props => exact regular_lowerProps tag children
      | ifTag => exact isWritten_lowerCondition tag
      | loop => exact regular_lowerLoop htag _
      | slot =>
          obtain ⟨name, hslot⟩ := lowerSlot_value tag
          rw [hslot]
          exact trivial
      | onMount =>
          simp only [Reported.value_bind]
          split_ifs <;> exact trivial
      | async =>
          refine ⟨?_, fun e he => tag.isWritten_expression? he, ?_, ?_⟩
          · rw [Reported.value_orElse]
            exact tag.isWritten_getD hundefined
          · exact tight_branchAlias hchildren (tight_of_isScriptName (by decide))
          · exact tight_branchAlias hchildren (tight_of_isScriptName (by decide))
      | switch =>
          refine ⟨?_, (nodup_lowerCases tag.position [] children).1⟩
          rw [Reported.value_orElse]
          exact tag.isWritten_getD hundefined
      | router =>
          intro route hroute name hbound
          obtain ⟨other, row, hmem, hroute⟩ := boundAs_lowerRoutes hroute
          rw [hroute] at hbound
          exact other.tight_binding? (allSpelt_element.mp (hchildren.of_mem hmem)).1 hbound
      | route =>
          intro route hroute name hbound
          cases List.mem_singleton.mp hroute
          exact tag.tight_binding? htag hbound

/-! ## Shells -/

lemma regular_shell {tag : Tag} {children : List Child} (htag : AllSpelt tag.expressions)
    (hchildren : AllSpelt (expressionsOf children)) :
    ∀ node ∈ tag.shell children, node.Regular := by
  have hnode := regular_lowerElement htag hchildren
  intro node hmem
  unfold Tag.shell at hmem
  dsimp only at hmem
  split_ifs at hmem with hawaits
  · rcases List.mem_cons.mp hmem with rfl | hmem
    · exact hnode
    · -- the loop inside of the block that waits
      rw [lowerElement_of_awaits children hawaits] at hmem
      obtain rfl := List.mem_singleton.mp hmem
      refine ⟨?_, ?_, ?_, tag.tight_getD htag (tight_of_isScriptName (by decide))⟩ <;>
        simp [Expression.IsWritten, settledExpression]
  · exact List.mem_singleton.mp hmem ▸ hnode

/-- Without its own address an element can stand in a slot. -/
lemma isSlotElement_lowerElement (tag : Tag) (children : List Child) (contents : Contents) :
    (lowerElement tag.withoutSlot children contents).value.IsSlotElement := by
  cases hname : ReservedTag.ofName? tag.withoutSlot.name with
  | none =>
      rw [lowerElement_component children contents hname]
      intro value hvalue
      obtain ⟨a, ha, hproperty⟩ := List.mem_map.mp hvalue
      have hkept := (List.mem_filter.mp ha).2
      cases a with
      | named key written position =>
          obtain ⟨rfl, -⟩ := Property.named.inj hproperty
          exact absurd hkept (by simp [Attribute.isNamed])
      | spread argument position => exact absurd hproperty (by simp [lowerProperty])
  | some reserved =>
      have hblock := isBlock_lowerElement children contents hname
      cases hnode : (lowerElement tag.withoutSlot children contents).value <;>
        simp_all [Node.isBlock, Node.IsSlotElement]

lemma Markup.Child.regular_shell {child : Child} (h : AllSpelt child.expressions) :
    ∀ node ∈ child.shell, node.Regular := by
  intro node hnode
  cases child with
  | element tag children =>
      obtain ⟨htag, hchildren⟩ := allSpelt_element.mp h
      rw [Child.shell] at hnode
      split at hnode
      · rcases List.mem_cons.mp hnode with rfl | hnode
        · exact isSlotElement_lowerElement tag children _
        · exact Componentry.regular_shell (tag.allSpelt_withoutSlot htag) hchildren node hnode
      · exact Componentry.regular_shell htag hchildren node hnode
  | fragment children position =>
      obtain rfl := List.mem_singleton.mp hnode
      exact trivial
  | text raw =>
      obtain ⟨value, hvalue, rfl⟩ := Option.map_eq_some_iff.mp (Option.mem_toList.mp hnode)
      exact clean_eq_some hvalue
  | expression e =>
      rw [Child.shell] at hnode
      split_ifs at hnode with hempty
      · exact absurd hnode (by simp)
      · obtain rfl := List.mem_singleton.mp hnode
        exact Expression.isWritten_of_isEmpty (by simpa using hempty)

lemma Markup.Statement.regular_shell {statement : Statement} (h : AllSpelt statement.expressions) :
    ∀ node ∈ statement.shell, node.Regular := by
  intro node hnode
  cases statement with
  | element tag children =>
      obtain ⟨htag, hchildren⟩ := allSpelt_append.mp h
      exact Componentry.regular_shell htag hchildren node hnode
  | fragment children position =>
      obtain rfl := List.mem_singleton.mp hnode
      exact trivial
  | other text => exact absurd hnode (by simp [Statement.shell])

lemma Markup.Statement.allSpelt_reached {statement : Statement}
    (h : AllSpelt statement.expressions) :
    ∀ child ∈ statement.reached, AllSpelt child.expressions := by
  intro child hchild
  obtain ⟨first, hfirst, hchild⟩ := List.mem_flatMap.mp hchild
  refine first.allSpelt_reached ?_ child hchild
  cases statement with
  | element tag children => exact (allSpelt_append.mp h).2.of_content hfirst
  | fragment children position => exact AllSpelt.of_mem h hfirst
  | other text => exact absurd hfirst (by simp [Statement.content])

/-- An element by itself is never wrapped for a slot. -/
lemma isSlotContent_lowerElement (tag : Tag) (children : List Child) (contents : Contents) :
    (lowerElement tag children contents).value.isSlotContent = false := by
  cases hname : ReservedTag.ofName? tag.name with
  | none =>
      rw [lowerElement_component children contents hname]
      rfl
  | some reserved =>
      have hblock := isBlock_lowerElement children contents hname
      cases hnode : (lowerElement tag children contents).value <;>
        simp_all [Node.isBlock, Node.isSlotContent]

lemma Markup.Statement.isSlotContent_lower {statement : Statement} {node : Node}
    (h : (lowerStatement statement).value = some node) : node.isSlotContent = false := by
  cases statement with
  | element tag children =>
      cases Option.some.inj h
      exact isSlotContent_lowerElement tag children _
  | fragment children position =>
      cases Option.some.inj h
      rfl
  | other text => exact absurd h (by simp [lowerStatement])

/-! ## Documents -/

/-- No content for a slot stands at the top level. -/
lemma isSlotContent_body (program : Program) :
    ∀ node ∈ program.lower.value.body, node.isSlotContent = false := by
  intro node hnode
  obtain ⟨statement, -, hstatement⟩ :
      ∃ statement ∈ program.body, (lowerStatement statement).value = some node := by
    simpa [Program.lower, lowerStatements_value] using hnode
  exact statement.isSlotContent_lower hstatement

/-- An expression that was read: from a text of its own, or in the markup of a source file.  There
    are no others; an expression keeps the outermost shape that the reader found. -/
def Expression.IsRead (e : Expression) : Prop :=
  (∃ text, e = .ofText text)
    ∨ ∃ text program, Program.parse text = .ok program ∧ e ∈ program.expressions

lemma Expression.IsRead.spelt {e : Expression} (h : e.IsRead) : e.Spelt := by
  rcases h with ⟨text, rfl⟩ | ⟨text, program, hprogram, hmem⟩
  · exact Expression.spelt_ofText text
  · exact Program.spelt_parse hprogram e hmem

/-- **Lowered documents are regular.**  Every node at any depth is regular, and no content for a
    slot stands at the top level. -/
theorem lower_regular (program : Program) (h : ∀ e ∈ program.expressions, e.IsRead) :
    (∀ node ∈ program.lower.value.nodes, node.Regular)
      ∧ ∀ node ∈ program.lower.value.body, node.isSlotContent = false := by
  have hspelt : ∀ statement ∈ program.body, AllSpelt statement.expressions :=
    fun statement hmem e he => (h e (List.mem_flatMap.mpr ⟨statement, hmem, he⟩)).spelt
  refine ⟨fun node hnode => ?_, isSlotContent_body program⟩
  rw [nodes_lower] at hnode
  obtain ⟨statement, hmem, hnode⟩ := List.mem_flatMap.mp hnode
  rcases List.mem_append.mp hnode with hown | hreached
  · exact statement.regular_shell (hspelt statement hmem) node hown
  · obtain ⟨child, hchild, hnode⟩ := List.mem_flatMap.mp hreached
    have hchildSpelt := statement.allSpelt_reached (hspelt statement hmem) child hchild
    exact child.regular_shell hchildSpelt node hnode

/-- A list of tasks: a loop over a call with a padded name, content for a slot, and a case written
twice. -/
def taskSource : String :=
  "<Board><loop let=' task ' of=\x7bload()\x7d><p slot='row'>\x7btask\x7d</p></loop>"
    ++ "<switch on=\x7bmode\x7d><case when='a'>x</case><case when='a'>y</case></switch></Board>"

/-- The document of the tasks is regular. -/
theorem lower_regular_tasks : ∃ program, Program.parse taskSource = .ok program
    ∧ program.expressions.map Expression.source = ["load()", "task", "mode"]
    ∧ (∀ node ∈ program.lower.value.nodes, node.Regular)
    ∧ ∀ node ∈ program.lower.value.body, node.isSlotContent = false := by
  have hread : (Program.parse taskSource).toOption.map (·.expressions.map Expression.source)
      = some ["load()", "task", "mode"] := by decide +kernel
  cases hprogram : Program.parse taskSource with
  | error e =>
      rw [hprogram] at hread
      exact absurd hread (by simp [Except.toOption])
  | ok program =>
      rw [hprogram] at hread
      refine ⟨program, rfl, Option.some.inj hread, ?_⟩
      exact lower_regular program fun e he => Or.inr ⟨taskSource, program, hprogram, he⟩

end Componentry
