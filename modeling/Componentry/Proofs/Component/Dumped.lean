import Mathlib.Data.List.Basic
import Componentry.Proofs.Component.Erasure
import Componentry.Proofs.Document.DumpText

/-!
# The dump of a document determines its module

A dump leaves two things out: the positions of states, and the values behind the shapes of
expressions.  This file shows that generation looks at neither.

Everything is said about two nodes with the same dump.  `Node.Dumped` is the inversion of that:
which fields of the nodes are the same, and which are so only in their dumps.  From it each function
that generation is made of is shown to give the same for both nodes; rows of nodes go through
`map_of_dump`.  Rendering and the usage analysis are inductions over the node (`renderNode_of_dump`,
`usage_of_dump`).  `dump_determines_module` is the result, for the printed text of the dumps.
-/

namespace Componentry

/-! ## Rows -/

section Rows

variable {α β : Type} {dump : α → Dump} {as bs : List α}

/-- What depends on dumps only is the same along rows with the same dumps. -/
lemma map_of_dump {f : α → β} (h : as.map dump = bs.map dump)
    (hf : ∀ a ∈ as, ∀ b, dump a = dump b → f a = f b) : as.map f = bs.map f := by
  induction as generalizing bs with
  | nil =>
      obtain rfl : bs = [] := by simpa using h.symm
      rfl
  | cons a as ih =>
      cases bs with
      | nil => simp at h
      | cons b bs =>
          rw [List.map_cons, List.map_cons, List.cons.injEq] at h
          rw [List.map_cons, List.map_cons, hf a List.mem_cons_self b h.1,
            ih h.2 fun c hc => hf c (List.mem_cons_of_mem a hc)]

lemma flatMap_of_dump {f : α → List β} (h : as.map dump = bs.map dump)
    (hf : ∀ a ∈ as, ∀ b, dump a = dump b → f a = f b) : as.flatMap f = bs.flatMap f := by
  rw [List.flatMap_def, List.flatMap_def, map_of_dump h hf]

lemma filterMap_of_dump {f : α → Option β} (h : as.map dump = bs.map dump)
    (hf : ∀ a b, dump a = dump b → f a = f b) : as.filterMap f = bs.filterMap f := by
  have hmap := map_of_dump h fun a _ b => hf a b
  have hid : ∀ row : List α, row.filterMap f = (row.map f).filterMap id := by
    intro row
    rw [List.filterMap_map, Function.id_comp]
  rw [hid, hid, hmap]

lemma findSome?_of_dump {f : α → Option β} (h : as.map dump = bs.map dump)
    (hf : ∀ a b, dump a = dump b → f a = f b) : as.findSome? f = bs.findSome? f := by
  have hmap := map_of_dump h fun a _ b => hf a b
  have hid : ∀ row : List α, row.findSome? f = (row.map f).findSome? id := by
    intro row
    rw [List.findSome?_map, Function.id_comp]
  rw [hid, hid, hmap]

lemma filter_of_dump {p : α → Bool} (h : as.map dump = bs.map dump)
    (hp : ∀ a b, dump a = dump b → p a = p b) :
    (as.filter p).map dump = (bs.filter p).map dump := by
  have hkept : ∀ row : List α, (row.filter p).map dump
      = row.filterMap fun a => if p a then some (dump a) else none := by
    intro row
    rw [← List.filterMap_eq_map, List.filterMap_filter]
    rfl
  rw [hkept, hkept]
  refine filterMap_of_dump h fun a b hab => ?_
  rw [hp a b hab, hab]

end Rows

/-! ## Expressions, values and attributes -/

namespace Expression

variable {e other : Expression}

lemma source_of_dump (h : e.dump = other.dump) : e.source = other.source := by
  simp only [dump, Dump.record.injEq, List.cons.injEq, Prod.mk.injEq, Dump.text.injEq] at h
  exact h.1.2

lemma label_of_dump (h : e.dump = other.dump) : e.kind.label = other.kind.label := by
  simp only [dump, Dump.record.injEq, List.cons.injEq, Prod.mk.injEq, Dump.text.injEq] at h
  exact h.2.1.2

end Expression

/-- Whether the items of a loop need parentheses is told by the word for their shape. -/
lemma itemsPieces_eq (items : Expression) :
    itemsPieces items = if items.kind.label = "identifier" ∨ items.kind.label = "call"
      then [.script items.source] else [.code "(", .script items.source, .code ")"] := by
  rcases items with ⟨source, kind⟩
  cases kind <;> simp [itemsPieces, Expression.Kind.label]

lemma itemsPieces_of_dump {items other : Expression} (h : items.dump = other.dump) :
    itemsPieces items = itemsPieces other := by
  rw [itemsPieces_eq, itemsPieces_eq, Expression.source_of_dump h, Expression.label_of_dump h]

/-- The keys of expressions that may be missing. -/
lemma key_of_dump {key other : Option Expression}
    (h : (key.map Expression.dump).getD .null = (other.map Expression.dump).getD .null) :
    key.map Expression.source = other.map Expression.source := by
  cases key with
  | none => cases other with
    | none => rfl
    | some e => simp [Expression.dump] at h
  | some e => cases other with
    | none => simp [Expression.dump] at h
    | some e' => exact congrArg some (Expression.source_of_dump h)

lemma Dump.ofText?_injective {value other : Option String}
    (h : Dump.ofText? value = Dump.ofText? other) :
    value = other := by
  cases value <;> cases other <;> simp [Dump.ofText?] at h ⊢
  exact h

/-- Values with the same dump are the same, or expressions with the same source. -/
lemma Value.eq_or_source_of_dump {value other : Value} (h : value.dump = other.dump) :
    value = other ∨ ∃ e e', value = .expression e ∧ other = .expression e'
      ∧ e.source = e'.source := by
  cases value with
  | expression e => cases other with
    | expression e' =>
        refine .inr ⟨e, e', rfl, rfl, Expression.source_of_dump ?_⟩
        simpa [dump, Dump.tagged] using h
    | _ => simp [dump, Dump.tagged, Dump.tag] at h
  | _ => cases other <;> simp [dump, Dump.tagged, Dump.tag] at h ⊢ <;> exact h

lemma Value.script_of_dump {value other : Value} (h : value.dump = other.dump) :
    value.script = other.script := by
  rcases eq_or_source_of_dump h with rfl | ⟨e, e', rfl, rfl, hsource⟩
  · rfl
  · exact hsource

lemma CaseValue.dump_injective {value other : CaseValue} (h : value.dump = other.dump) :
    value = other := by
  cases value <;> cases other <;> simp [dump, Dump.tagged, Dump.tag] at h ⊢ <;> exact h

/-- Attributes with the same dump are the same, but for the values behind their expressions. -/
lemma Property.pieces_of_dump {property other : Property} (h : property.dump = other.dump) :
    propertyPieces property = propertyPieces other ∧ property.script? = other.script? := by
  cases property with
  | named key value => cases other with
    | spread e => simp [dump] at h
    | named key' value' =>
        simp only [dump, Dump.record.injEq, List.cons.injEq, Prod.mk.injEq, Dump.text.injEq,
          and_true, true_and] at h
        obtain ⟨rfl, hvalue⟩ := h
        rcases Value.eq_or_source_of_dump hvalue with rfl | ⟨e, e', rfl, rfl, hsource⟩
        · exact ⟨rfl, rfl⟩
        · simp [propertyPieces, valuePieces, script?, Value.script?, hsource]
  | spread e => cases other with
    | named key value => simp [dump] at h
    | spread e' =>
        have hsource : e.source = e'.source := Expression.source_of_dump (by simpa [dump] using h)
        simp [propertyPieces, script?, hsource]

lemma propertiesPieces_of_dump {properties others : List Property}
    (h : properties.map Property.dump = others.map Property.dump) :
    propertiesPieces properties = propertiesPieces others :=
  flatMap_of_dump h fun property _ other hdump => by rw [(Property.pieces_of_dump hdump).1]

/-! ## Nodes -/

/-- The dump of a route. -/
def Route.dump (route : Route Node) : Dump :=
  .record [("path", .text route.path), ("let_var", .ofText? route.boundAs),
    ("children", .list (dumpNodes route.children))]

/-- The dump of a case. -/
def Case.dump (c : Case Node) : Dump :=
  .record [("value", c.value.dump), ("children", .list (dumpNodes c.children))]

lemma dumpNodes_eq_map (nodes : List Node) : dumpNodes nodes = nodes.map Node.dump := by
  induction nodes with
  | nil => simp [dumpNodes]
  | cons node rest ih => simp [dumpNodes, ih]

lemma dumpRoutes_eq_map (routes : List (Route Node)) :
    dumpRoutes routes = routes.map Route.dump := by
  induction routes with
  | nil => simp [dumpRoutes]
  | cons route rest ih => simp [dumpRoutes, Route.dump, ih]

lemma dumpCases_eq_map (cases : List (Case Node)) : dumpCases cases = cases.map Case.dump := by
  induction cases with
  | nil => simp [dumpCases]
  | cons c rest ih => simp [dumpCases, Case.dump, ih]

lemma Route.fields_of_dump {route other : Route Node} (h : route.dump = other.dump) :
    route.path = other.path ∧ route.boundAs = other.boundAs
      ∧ route.children.map Node.dump = other.children.map Node.dump := by
  simp only [dump, dumpNodes_eq_map, Dump.record.injEq, List.cons.injEq, Prod.mk.injEq,
    Dump.text.injEq, Dump.list.injEq] at h
  exact ⟨h.1.2, Dump.ofText?_injective h.2.1.2, h.2.2.1.2⟩

lemma Case.fields_of_dump {c other : Case Node} (h : c.dump = other.dump) :
    c.value = other.value ∧ c.children.map Node.dump = other.children.map Node.dump := by
  simp only [dump, dumpNodes_eq_map, Dump.record.injEq, List.cons.injEq, Prod.mk.injEq,
    Dump.list.injEq] at h
  exact ⟨CaseValue.dump_injective h.1.2, h.2.1.2⟩

/-- What is the same in two nodes with the same dump. -/
inductive Node.Dumped : Node → Node → Prop
  | state {declaration other : StateDeclaration} (hname : declaration.name = other.name)
      (hvalue : declaration.value.dump = other.value.dump)
      (hhook : declaration.isHook = other.isHook) :
      Dumped (.state declaration) (.state other)
  | props (spread : Bool) (names : List String) : Dumped (.props spread names) (.props spread names)
  | ifBlock {condition other : Expression} {children others : List Node}
      (hcondition : condition.dump = other.dump)
      (hchildren : children.map Node.dump = others.map Node.dump) :
      Dumped (.ifBlock condition children) (.ifBlock other others)
  | loop {items other : Expression} {children others : List Node} (hitems : items.dump = other.dump)
      (itemName : String) (hchildren : children.map Node.dump = others.map Node.dump) :
      Dumped (.loop items itemName children) (.loop other itemName others)
  | async {promise promise' : Expression} {key key' : Option Expression}
      {done done' failed failed' loading loading' : List Node}
      (hpromise : promise.dump = promise'.dump)
      (hkey : key.map Expression.source = key'.map Expression.source)
      (hdone : done.map Node.dump = done'.map Node.dump)
      (hfailed : failed.map Node.dump = failed'.map Node.dump)
      (hloading : loading.map Node.dump = loading'.map Node.dump) (doneAlias failedAlias : String) :
      Dumped (.async promise key done failed loading doneAlias failedAlias)
        (.async promise' key' done' failed' loading' doneAlias failedAlias)
  | router {routes others : List (Route Node)}
      (hroutes : routes.map Route.dump = others.map Route.dump) :
      Dumped (.router routes) (.router others)
  | switch {value other : Expression} {cases others : List (Case Node)}
      (hvalue : value.dump = other.dump) (hcases : cases.map Case.dump = others.map Case.dump) :
      Dumped (.switch value cases) (.switch other others)
  | slot (name : Option String) : Dumped (.slot name) (.slot name)
  | slotContent (name : String) {element other : Node} (helement : element.dump = other.dump) :
      Dumped (.slotContent name element) (.slotContent name other)
  | onMount {children others : List Node}
      (hchildren : children.map Node.dump = others.map Node.dump) :
      Dumped (.onMount children) (.onMount others)
  | component (name : String) {properties properties' : List Property} {children others : List Node}
      (hproperties : properties.map Property.dump = properties'.map Property.dump)
      (hchildren : children.map Node.dump = others.map Node.dump) :
      Dumped (.component name properties children) (.component name properties' others)
  | fragment {children others : List Node}
      (hchildren : children.map Node.dump = others.map Node.dump) :
      Dumped (.fragment children) (.fragment others)
  | text (value : String) : Dumped (.text value) (.text value)
  | expression {e other : Expression} (he : e.dump = other.dump) :
      Dumped (.expression e) (.expression other)

/-- The record of a node tells its kind. -/
lemma Node.typeName_of_dump {node other : Node} (h : node.dump = other.dump) :
    node.typeName = other.typeName := by
  have hrecord : ∀ node : Node, ∃ fields, node.dump = node.record fields := by
    intro node
    cases node <;> exact ⟨_, by rw [dump]⟩
  obtain ⟨fields, hfields⟩ := hrecord node
  obtain ⟨others, hothers⟩ := hrecord other
  rw [hfields, hothers] at h
  simp only [record, Dump.record.injEq, List.cons.injEq, Prod.mk.injEq, Dump.text.injEq] at h
  exact h.1.2

/-- **The dump of a node tells all of its fields**, but positions and the values behind
expressions. -/
theorem Node.dumped_of_dump {node other : Node} (h : node.dump = other.dump) :
    Dumped node other := by
  have htype := typeName_of_dump h
  cases node <;> cases other <;> simp [typeName] at htype
  all_goals
    simp only [dump, record, typeName, dumpNodes_eq_map, dumpRoutes_eq_map, dumpCases_eq_map,
      Dump.record.injEq, List.cons.injEq, Prod.mk.injEq, Dump.text.injEq, Dump.boolean.injEq,
      Dump.list.injEq, true_and, and_true] at h
  case state.state => exact .state (Dump.ofText?_injective h.1) h.2.1 h.2.2
  case props.props spread names spread' names' =>
    obtain ⟨rfl, hnames⟩ := h
    obtain rfl : names = names' := List.map_injective_iff.mpr (fun _ _ => Dump.text.inj) hnames
    exact .props spread names
  case ifBlock.ifBlock => exact .ifBlock h.1 h.2
  case loop.loop =>
    obtain ⟨hitems, rfl, hchildren⟩ := h
    exact .loop hitems _ hchildren
  case async.async =>
    obtain ⟨hpromise, hkey, hdone, hfailed, hloading, rfl, rfl⟩ := h
    exact .async hpromise (key_of_dump hkey) hdone hfailed hloading _ _
  case router.router => exact .router h
  case switch.switch => exact .switch h.1 h.2
  case slot.slot =>
    obtain rfl := Dump.ofText?_injective h
    exact .slot _
  case slotContent.slotContent =>
    obtain ⟨rfl, helement⟩ := h
    exact .slotContent _ helement
  case onMount.onMount => exact .onMount h
  case component.component =>
    obtain ⟨rfl, hproperties, hchildren⟩ := h
    exact .component _ hproperties hchildren
  case fragment.fragment => exact .fragment h
  case text.text =>
    obtain rfl := h
    exact .text _
  case expression.expression => exact .expression h

section Kind

variable {node other : Node} (h : node.dump = other.dump)

include h

lemma isDeclaration_of_dump : node.isDeclaration = other.isDeclaration := by
  cases Node.dumped_of_dump h <;> rfl

lemma isSlotContent_of_dump : node.isSlotContent = other.isSlotContent := by
  cases Node.dumped_of_dump h <;> rfl

lemma isComponent_of_dump : node.isComponent = other.isComponent := by
  cases Node.dumped_of_dump h <;> rfl

lemma slotContentPieces_of_dump (name : String) (content : List Piece) :
    slotContentPieces name node content = slotContentPieces name other content := by
  cases Node.dumped_of_dump h <;> rfl

lemma asExpression?_of_dump :
    node.asExpression?.map Expression.source = other.asExpression?.map Expression.source := by
  cases Node.dumped_of_dump h with
  | expression he => exact congrArg some (Expression.source_of_dump he)
  | _ => rfl

lemma componentChildren?_of_dump :
    node.componentChildren?.map (List.map Node.dump)
      = other.componentChildren?.map (List.map Node.dump) := by
  cases Node.dumped_of_dump h with
  | component _ _ hchildren => exact congrArg some hchildren
  | _ => rfl

lemma unaddressed_of_dump : node.unaddressed.dump = other.unaddressed.dump := by
  cases hdumped : Node.dumped_of_dump h with
  | slotContent _ helement => exact helement
  | _ => exact h

lemma props?_of_dump : node.props? = other.props? := by
  cases Node.dumped_of_dump h <;> rfl

end Kind

/-- The sources of what a mount block runs. -/
lemma mountExpressions_of_dump {children others : List Node}
    (h : children.map Node.dump = others.map Node.dump) :
    (mountExpressions children).map Expression.source
      = (mountExpressions others).map Expression.source := by
  rw [mountExpressions, mountExpressions, List.map_filterMap, List.map_filterMap]
  exact filterMap_of_dump h fun node other => asExpression?_of_dump

/-- A mount block is written from the sources of its expressions. -/
lemma mountPieces_of_sources {expressions others : List Expression}
    (h : expressions.map Expression.source = others.map Expression.source) :
    mountPieces expressions = mountPieces others := by
  have hempty : expressions.isEmpty = others.isEmpty := by simpa using congrArg List.isEmpty h
  have hpieces := congrArg (List.flatMap fun source => [Piece.script source, .code ";\n"]) h
  simp only [List.flatMap_map] at hpieces
  simp only [mountPieces, hempty, hpieces]

/-! ## Rendering and usage -/

section Rendering

variable {nodes others : List Node} (h : nodes.map Node.dump = others.map Node.dump)
  (hnodes : ∀ node ∈ nodes, ∀ other, node.dump = other.dump →
    ∀ frame, renderNode frame node = renderNode frame other)

include h hnodes

lemma renderNodes_of_each (frame : Frame) : renderNodes frame nodes = renderNodes frame others := by
  rw [renderNodes_eq_flatMap, renderNodes_eq_flatMap]
  exact flatMap_of_dump h fun node hnode other hdump => hnodes node hnode other hdump frame

lemma renderContent_of_each (frame : Frame) :
    renderContent frame nodes = renderContent frame others := by
  rw [renderContent_eq_flatMap, renderContent_eq_flatMap]
  refine flatMap_of_dump (filter_of_dump h fun a b hab => by rw [isSlotContent_of_dump hab]) ?_
  intro node hnode other hdump
  exact hnodes node (List.mem_of_mem_filter hnode) other hdump frame

lemma renderSlots_of_each (frame : Frame) : renderSlots frame nodes = renderSlots frame others := by
  rw [renderSlots_eq_flatMap, renderSlots_eq_flatMap]
  refine flatMap_of_dump (filter_of_dump h fun a b => isSlotContent_of_dump) ?_
  intro node hnode other hdump
  rw [hnodes node (List.mem_of_mem_filter hnode) other hdump frame]

end Rendering

lemma renderRoutes_of_each {routes others : List (Route Node)}
    (h : routes.map Route.dump = others.map Route.dump)
    (hnodes : ∀ route ∈ routes, ∀ node ∈ route.children, ∀ other, node.dump = other.dump →
      ∀ frame, renderNode frame node = renderNode frame other) (frame : Frame) (index : Nat) :
    renderRoutes frame index routes = renderRoutes frame index others := by
  induction routes generalizing others index with
  | nil =>
      obtain rfl : others = [] := by simpa using h.symm
      rfl
  | cons route rest ih =>
      cases others with
      | nil => simp at h
      | cons other others =>
          rw [List.map_cons, List.map_cons, List.cons.injEq] at h
          rw [List.forall_mem_cons] at hnodes
          obtain ⟨hpath, hbound, hchildren⟩ := Route.fields_of_dump h.1
          rw [renderRoutes, renderRoutes, renderNodes_of_each hchildren hnodes.1, ih h.2 hnodes.2,
            hpath, hbound]

lemma renderCases_of_each {cases others : List (Case Node)}
    (h : cases.map Case.dump = others.map Case.dump)
    (hnodes : ∀ c ∈ cases, ∀ node ∈ c.children, ∀ other, node.dump = other.dump →
      ∀ frame, renderNode frame node = renderNode frame other) (frame : Frame) :
    renderCases frame cases = renderCases frame others := by
  rw [renderCases_eq_flatMap, renderCases_eq_flatMap]
  refine flatMap_of_dump h fun c hc other hdump => ?_
  obtain ⟨hvalue, hchildren⟩ := Case.fields_of_dump hdump
  rw [renderNodes_of_each hchildren (hnodes c hc), hvalue]

/-- **Nodes with the same dump are rendered alike.** -/
theorem renderNode_of_dump (node : Node) :
    ∀ other, node.dump = other.dump → ∀ frame, renderNode frame node = renderNode frame other := by
  induction node using Node.induction with
  | step node ih =>
    intro other h frame
    cases Node.dumped_of_dump h with
    | state | props | slot | text => simp only [renderNode]
    | ifBlock hcondition hchildren =>
        simp only [Node.inner] at ih
        simp only [renderNode, ifPieces, Expression.source_of_dump hcondition,
          renderNodes_of_each hchildren ih]
    | loop hitems itemName hchildren =>
        simp only [Node.inner] at ih
        simp only [renderNode, loopPieces, itemsPieces_of_dump hitems,
          renderNodes_of_each hchildren ih]
    | @async promise promise' key key' _ _ _ _ _ _ hpromise hkey hdone hfailed hloading =>
        simp only [Node.inner, List.forall_mem_append] at ih
        have hscript : key.map (fun e => Piece.script e.source)
            = key'.map fun e => Piece.script e.source := by
          simpa only [Option.map_map, Function.comp_def]
            using congrArg (Option.map Piece.script) hkey
        simp only [renderNode, asyncPieces, Expression.source_of_dump hpromise, hscript,
          renderSettled_eq_renderNodes, renderNodes_of_each hdone ih.1.1,
          renderNodes_of_each hfailed ih.1.2, renderNodes_of_each hloading ih.2]
    | router hroutes =>
        simp only [renderNode, renderRoutes_of_each hroutes (List.forall_mem_flatMap.mp ih)]
    | switch hvalue hcases =>
        simp only [renderNode, switchPieces, Expression.source_of_dump hvalue,
          renderCases_of_each hcases (List.forall_mem_flatMap.mp ih)]
    | slotContent name helement =>
        rw [renderNode, renderNode, slotContentPieces_of_dump helement,
          ih _ (List.mem_singleton_self _) _ helement]
    | onMount hchildren =>
        simp only [renderNode, mountPieces_of_sources (mountExpressions_of_dump hchildren)]
    | component name hproperties hchildren =>
        simp only [Node.inner] at ih
        simp only [renderNode, propertiesPieces_of_dump hproperties,
          renderContent_of_each hchildren ih, renderSlots_of_each hchildren ih]
    | fragment hchildren =>
        simp only [Node.inner] at ih
        simp only [renderNode, renderNodes_of_each hchildren ih]
    | expression he => simp only [renderNode, Expression.source_of_dump he]

lemma need_of_dump {node other : Node} (h : node.dump = other.dump) : node.need = other.need := by
  cases Node.dumped_of_dump h with
  | ifBlock hcondition _ => simp only [Node.need, Expression.source_of_dump hcondition]
  | loop hitems _ _ => simp only [Node.need, Expression.source_of_dump hitems]
  | async hpromise hkey _ _ _ => simp only [Node.need, Expression.source_of_dump hpromise, hkey]
  | switch hvalue _ => simp only [Node.need, Expression.source_of_dump hvalue]
  | onMount hchildren => simp only [Node.need, mountUsage, mountExpressions_of_dump hchildren]
  | component _ hproperties _ =>
      simp only [Node.need,
        filterMap_of_dump hproperties fun a b hab => (Property.pieces_of_dump hab).2]
  | expression he => simp only [Node.need, Expression.source_of_dump he]
  | _ => rfl

lemma inner_of_dump {node other : Node} (h : node.dump = other.dump) :
    node.inner.map Node.dump = other.inner.map Node.dump := by
  cases Node.dumped_of_dump h with
  | ifBlock _ hchildren | loop _ _ hchildren | component _ _ hchildren | fragment hchildren =>
      exact hchildren
  | async _ _ hdone hfailed hloading =>
      simp only [Node.inner, List.map_append, hdone, hfailed, hloading]
  | router hroutes =>
      simp only [Node.inner, List.map_flatMap]
      exact flatMap_of_dump hroutes fun route _ other hdump => (Route.fields_of_dump hdump).2.2
  | switch _ hcases =>
      simp only [Node.inner, List.map_flatMap]
      exact flatMap_of_dump hcases fun c _ other hdump => (Case.fields_of_dump hdump).2
  | slotContent _ helement => simp only [Node.inner, List.map_cons, helement, List.map_nil]
  | _ => rfl

/-- **Nodes with the same dump need the same.** -/
theorem usage_of_dump (node : Node) :
    ∀ other : Node, node.dump = other.dump → node.usage = other.usage := by
  induction node using Node.induction with
  | step node ih =>
    intro other h
    rw [Node.usage_step, Node.usage_step, need_of_dump h, map_of_dump (inner_of_dump h) ih]

section Rows

variable {nodes others : List Node} (h : nodes.map Node.dump = others.map Node.dump)

include h

lemma renderNodes_of_dump (frame : Frame) : renderNodes frame nodes = renderNodes frame others :=
  renderNodes_of_each h (fun node _ => renderNode_of_dump node) frame

lemma usageOfNodes_of_dump : usageOfNodes nodes = usageOfNodes others := by
  rw [usageOfNodes_eq_total, usageOfNodes_eq_total, map_of_dump h fun node _ => usage_of_dump node]

end Rows

/-! ## Parts -/

/-- What generation takes from a state. -/
def StateDeclaration.told (state : StateDeclaration) : Option String × String × Bool :=
  (state.name, state.value.script, state.isHook)

lemma state?_of_dump {node other : Node} (h : node.dump = other.dump) :
    node.state?.map StateDeclaration.told = other.state?.map StateDeclaration.told := by
  cases Node.dumped_of_dump h with
  | state hname hvalue hhook =>
      simp only [Node.state?, Option.map_some, StateDeclaration.told, hname,
        Value.script_of_dump hvalue, hhook]
  | _ => rfl

lemma mounts_of_dump {node other : Node} (h : node.dump = other.dump) :
    node.mounts.map Expression.source = other.mounts.map Expression.source := by
  cases Node.dumped_of_dump h with
  | onMount hchildren => exact mountExpressions_of_dump hchildren
  | _ => rfl

namespace Document

variable {document other : Document} (h : document.dump = other.dump)

include h

lemma body_of_dump : document.body.map Node.dump = other.body.map Node.dump := by
  simpa [dump, dumpNodes_eq_map] using h

lemma rootChildren?_of_dump :
    document.rootChildren?.map (List.map Node.dump)
      = other.rootChildren?.map (List.map Node.dump) := by
  rw [rootChildren?, rootChildren?, List.map_findSome?, List.map_findSome?]
  exact findSome?_of_dump (body_of_dump h) fun node found => componentChildren?_of_dump

/-- The roots of both documents have children with the same dumps, or there is none in both. -/
lemma rootChildren?_cases :
    (document.rootChildren? = none ∧ other.rootChildren? = none)
      ∨ ∃ children others, document.rootChildren? = some children
        ∧ other.rootChildren? = some others
        ∧ children.map Node.dump = others.map Node.dump := by
  have hroot := rootChildren?_of_dump h
  cases hd : document.rootChildren? <;> cases ho : other.rootChildren? <;> simp [hd, ho] at hroot ⊢
  exact hroot

lemma declarations_of_dump :
    document.declarations.map Node.dump = other.declarations.map Node.dump := by
  have hfilter : ∀ {nodes others : List Node}, nodes.map Node.dump = others.map Node.dump →
      (nodes.filter Node.isDeclaration).map Node.dump
        = (others.filter Node.isDeclaration).map Node.dump :=
    fun hnodes => filter_of_dump hnodes fun node found => isDeclaration_of_dump
  rw [declarations, declarations, List.map_append, List.map_append, hfilter (body_of_dump h)]
  congr 1
  rcases rootChildren?_cases h with ⟨hd, ho⟩ | ⟨children, others, hd, ho, hchildren⟩
  · rw [hd, ho]
  · rw [hd, ho]
    exact hfilter hchildren

omit h in
lemma shownNodes_of_dump {nodes others : List Node}
    (h : nodes.map Node.dump = others.map Node.dump) :
    (shownNodes nodes).map Node.dump = (shownNodes others).map Node.dump :=
  filter_of_dump h fun node found hdump => by rw [isDeclaration_of_dump hdump]

lemma shown_of_dump : document.shown.map Node.dump = other.shown.map Node.dump := by
  rw [shown, shown]
  rcases rootChildren?_cases h with ⟨hd, ho⟩ | ⟨children, others, hd, ho, hchildren⟩
  · rw [hd, ho]
    exact shownNodes_of_dump (body_of_dump h)
  · rw [hd, ho]
    simp only [List.map_map]
    exact map_of_dump (shownNodes_of_dump hchildren) fun node _ found => unaddressed_of_dump

omit h in
/-- The row without its first component. -/
lemma eraseP_of_dump {nodes others : List Node} (h : nodes.map Node.dump = others.map Node.dump) :
    (nodes.eraseP Node.isComponent).map Node.dump
      = (others.eraseP Node.isComponent).map Node.dump := by
  induction nodes generalizing others with
  | nil =>
      obtain rfl : others = [] := by simpa using h.symm
      rfl
  | cons node nodes ih =>
      cases others with
      | nil => simp at h
      | cons other others =>
          rw [List.map_cons, List.map_cons, List.cons.injEq] at h
          rw [List.eraseP_cons, List.eraseP_cons, isComponent_of_dump h.1]
          cases other.isComponent <;> simp [h.1, h.2, ih h.2]

lemma ignored_of_dump : document.ignored.map Node.typeName = other.ignored.map Node.typeName := by
  refine map_of_dump ?_ fun node _ found => Node.typeName_of_dump
  rw [ignored, ignored]
  rcases rootChildren?_cases h with ⟨hd, ho⟩ | ⟨children, others, hd, ho, -⟩
  · rw [hd, ho]
    rfl
  · rw [hd, ho, Option.isSome_some, Option.isSome_some, if_pos rfl, if_pos rfl]
    exact eraseP_of_dump (shownNodes_of_dump (body_of_dump h))

end Document

/-- What generation takes from the parts of a document. -/
lemma parts_of_dump {document other : Document} (h : document.dump = other.dump) :
    document.parts.value.propNames = other.parts.value.propNames
      ∧ document.parts.value.states.map StateDeclaration.told
        = other.parts.value.states.map StateDeclaration.told
      ∧ document.parts.value.mounts.map Expression.source
        = other.parts.value.mounts.map Expression.source
      ∧ document.parts.value.body.map Node.dump = other.parts.value.body.map Node.dump
      ∧ document.parts.warnings = other.parts.warnings := by
  have hdeclared := Document.declarations_of_dump h
  have hprops : document.declarations.filterMap Node.props?
      = other.declarations.filterMap Node.props? :=
    filterMap_of_dump hdeclared fun node found => props?_of_dump
  refine ⟨?_, ?_, ?_, Document.shown_of_dump h, ?_⟩
  · simp only [Document.parts, Parts.propNames, hprops]
  · simp only [Document.parts, List.map_filterMap]
    exact filterMap_of_dump hdeclared fun node found => state?_of_dump
  · simp only [Document.parts, List.map_flatMap]
    exact flatMap_of_dump hdeclared fun node _ found => mounts_of_dump
  · have hignored := congrArg (List.map fun name => (⟨.ignoredTopLevel name, none⟩ : Warning))
      (Document.ignored_of_dump h)
    simp only [List.map_map, Function.comp_def] at hignored
    simp only [Document.parts, hprops, hignored]

/-! ## Generation -/

/-- What the generated module of a component comes to: its code, the components it uses, and the
warnings. -/
def Reported.written (generated : Reported Module) : String × List String × List Warning :=
  (generated.value.text, generated.value.components, generated.warnings)

lemma declareStates_of_told (mentioned : String → Bool) {states others : List StateDeclaration}
    (h : states.map StateDeclaration.told = others.map StateDeclaration.told) :
    (declareStates mentioned states).mapError GenerationError.unplaced
      = (declareStates mentioned others).mapError GenerationError.unplaced := by
  induction states generalizing others with
  | nil =>
      obtain rfl : others = [] := by simpa using h.symm
      rfl
  | cons state states ih =>
      cases others with
      | nil => simp at h
      | cons other others =>
          rw [List.map_cons, List.map_cons, List.cons.injEq, StateDeclaration.told,
            StateDeclaration.told, Prod.mk.injEq, Prod.mk.injEq] at h
          obtain ⟨⟨hname, hvalue, hhook⟩, hrest⟩ := h
          rw [declareStates, declareStates, hname]
          cases other.name with
          | none => rfl
          | some name =>
              simp only [Declaration.ofState, hvalue, hhook]
              exact mapError_bind_congr (ih hrest) _

/-- A setup is written from its declarations and the sources of what it runs on mount. -/
lemma lines_of_sources {declarations : List Declaration} {mounts others : List Expression}
    (h : mounts.map Expression.source = others.map Expression.source) :
    (Setup.mk declarations mounts).lines = (Setup.mk declarations others).lines := by
  have hempty : mounts.isEmpty = others.isEmpty := by simpa using congrArg List.isEmpty h
  have hlines := congrArg (List.map fun source => [Piece.code "  ", .script source, .code ";"]) h
  simp only [List.map_map, Function.comp_def] at hlines
  simp only [Setup.lines, Setup.cells, Setup.mountLines, hempty, hlines]

/-- The text of a module depends on what it runs on mount by the sources only. -/
lemma text_assembled {parts other : Parts} (hprops : parts.propNames = other.propNames)
    (hmounts : parts.mounts.map Expression.source = other.mounts.map Expression.source)
    (hbody : parts.body.map Node.dump = other.body.map Node.dump) (name : String)
    (options : Options) (declarations : List Declaration) :
    (parts.assembled name options declarations).text
      = (other.assembled name options declarations).text
      ∧ (parts.assembled name options declarations).components
        = (other.assembled name options declarations).components := by
  have heffect : (Setup.mk declarations parts.mounts).needsEffect
      = (Setup.mk declarations other.mounts).needsEffect := by
    simpa [Setup.needsEffect] using congrArg List.isEmpty hmounts
  have hhooks : (parts.assembled name options declarations).hooks
      = (other.assembled name options declarations).hooks := by
    simp only [Parts.assembled]
    rw [hooksOf, hooksOf, heffect, usageOfNodes_of_dump hbody]
    rfl
  have hrendered : (parts.assembled name options declarations).body
      = (other.assembled name options declarations).body := by
    simp only [Parts.assembled, Parts.frame, hprops, renderNodes_of_dump hbody]
  have hcomponents : (parts.assembled name options declarations).components
      = (other.assembled name options declarations).components :=
    congrArg (fun body => usedComponents name (textOf body)) hrendered
  have hsignature : (parts.assembled name options declarations).signature
      = (other.assembled name options declarations).signature := by
    simp only [Parts.assembled, hprops, usageOfNodes_of_dump hbody]
  have hlines : (parts.assembled name options declarations).setup.lines
      = (other.assembled name options declarations).setup.lines := lines_of_sources hmounts
  refine ⟨?_, hcomponents⟩
  have hhead : (parts.assembled name options declarations).head
      = (other.assembled name options declarations).head := by
    rw [Module.head, Module.head, hhooks, hcomponents, hsignature]
    rfl
  have hfunction : (parts.assembled name options declarations).function
      = (other.assembled name options declarations).function := by
    rw [Module.function, Module.function, Module.result, Module.result, hlines, hrendered]
    rfl
  rw [Module.text, Module.text, Module.pieces, Module.pieces, hhead, hfunction]

/-- **The printed dump of a document determines its module.**  Two documents whose dumps are printed
    alike are both generated with the same code, the same components in use and the same warnings,
    or both fail with the same error up to its position. -/
theorem dump_determines_module {document other : Document}
    (h : document.dump.asText = other.dump.asText) (name : String) (options : Options) :
    ((generate document name options).map Reported.written).mapError GenerationError.unplaced
      = ((generate other name options).map Reported.written).mapError GenerationError.unplaced := by
  have hdump := Dump.asText_injective h
  obtain ⟨hprops, hstates, hmounts, hbody, hwarnings⟩ := parts_of_dump hdump
  have hempty : document.body.isEmpty = other.body.isEmpty := by
    simpa using congrArg List.isEmpty (Document.body_of_dump hdump)
  have hmentioned : document.parts.value.mentioned = other.parts.value.mentioned := by
    have hstatements := congrArg (List.map (· ++ ";")) hmounts
    simp only [List.map_map, Function.comp_def] at hstatements
    funext word
    simp only [Parts.mentioned, Parts.searched, usageOfNodes_of_dump hbody, hstatements]
  rw [generate_eq, generate_eq, hempty]
  split_ifs
  · rfl
  · rfl
  · have hdeclared := declareStates_of_told other.parts.value.mentioned hstates
    have hall : document.generationWarnings = other.generationWarnings := by
      rw [Document.generationWarnings, hwarnings, usageOfNodes_of_dump hbody]
      rfl
    rw [hmentioned, hall]
    -- both sides declare states, and then write a module for the same declarations
    cases hd : declareStates other.parts.value.mentioned document.parts.value.states <;>
      cases ho : declareStates other.parts.value.mentioned other.parts.value.states <;>
      rw [hd, ho] at hdeclared
    case error.error => simpa [Except.map, Except.mapError] using hdeclared
    case ok.ok declarations others =>
      obtain rfl : declarations = others := by simpa [Except.mapError] using hdeclared
      obtain ⟨htext, hcomponents⟩ := text_assembled hprops hmounts hbody name options declarations
      simp only [Except.map, Except.mapError, Reported.written, htext, hcomponents]
    all_goals simp [Except.mapError] at hdeclared

/-- A list with a counter, as it is declared in the first line. -/
def plainTally : Document :=
  ⟨[.component "ul" [] [.state ⟨some "count", .number "0", false, ⟨1, 5⟩⟩,
    .loop ⟨"items", .identifier "items"⟩ "item" [.expression ⟨"setCount(item)", .call⟩]]]⟩

/-- The same further down, with a value behind an expression that its source does not have. -/
def movedTally : Document :=
  ⟨[.component "ul" [] [.state ⟨some "count", .number "0", false, ⟨7, 3⟩⟩,
    .loop ⟨"items", .identifier "entries"⟩ "item" [.expression ⟨"setCount(item)", .call⟩]]]⟩

/-- The position and the value do not show, neither in the dump nor in the module. -/
theorem dump_determines_tally : plainTally.dump.asText = movedTally.dump.asText
    ∧ (generate plainTally "Tally" {}).toOption.isSome
    ∧ ((generate plainTally "Tally" {}).map Reported.written).mapError GenerationError.unplaced
      = ((generate movedTally "Tally" {}).map Reported.written).mapError
        GenerationError.unplaced := by
  have hdump : plainTally.dump = movedTally.dump := by
    simp [plainTally, movedTally, Document.dump, dumpNodes, Node.dump, Node.record, Node.typeName,
      Expression.dump, Expression.Kind.label]
  have htext := congrArg Dump.asText hdump
  exact ⟨htext, by decide +kernel, dump_determines_module htext "Tally" {}⟩

end Componentry
