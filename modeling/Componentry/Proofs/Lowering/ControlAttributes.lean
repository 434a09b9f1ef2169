import Mathlib.Data.List.Forall2
import Componentry.Proofs.Lowering.Leaves

/-!
# Attributes of control blocks

The attributes of a control block say what it does: `of`, `promise`, `on`, `when`, `path` and `name`
what it goes over, waits for, compares or shows, `let` which name it binds, and `key` when it starts
anew.  Lowering reads the first attribute of each name and has a default for one that it cannot
read.

**Silence.**  If a program is lowered without a warning, then so is every element that is reached
(`Program.silent_elements`).  So the first `of`, `promise`, `on`, `when`, `path` or `name` was read:
a default in its place is reported.  A default in the place of `let` or `key` is not, and neither is
an attribute that is written again.

**Effect.**  `Element.Obeyed` says that every attribute of a control block took effect, those of its
branches, cases and routes included.  `control_attributes_obeyed_iff` says exactly when this is so
in a program without warnings: if every `let` and `key` can be read, and attributes that are written
twice agree.
-/

namespace Componentry

open Markup

/-! ## Reading attributes -/

namespace Markup

/-- The name that an attribute binds. -/
def NamedAttribute.binding? (a : NamedAttribute) : Option String :=
  (Value.ofAttribute a.value).binding?

/-- The text of an attribute. -/
def NamedAttribute.text? (a : NamedAttribute) : Option String :=
  (Value.ofAttribute a.value).staticText?

/-- The literal of an attribute, as the value of a case. -/
def NamedAttribute.caseValue? (a : NamedAttribute) : Option CaseValue :=
  match a.value with
  | some (.text value) => some (.text value)
  | some (.expression e) =>
    match e.kind with
    | .string value => some (.text value)
    | .number => some (.number e.source)
    | .boolean b => some (.boolean b)
    | .null => some .null
    | _ => none
  | none => none

/-- All attributes of a tag with a given name. -/
def Tag.named (tag : Tag) (key : String) : List NamedAttribute :=
  (tag.attributes.filterMap Attribute.asNamed).filter fun a => a.name == key

section Reading

variable {α : Type} {tag : Tag} {key : String} {reading : NamedAttribute → Option α}

/-- What was found is what every attribute of this name says. -/
def Tag.Says (tag : Tag) (key : String) (reading : NamedAttribute → Option α) (found : Option α) :
    Prop :=
  ∀ a ∈ tag.named key, ∃ x, reading a = some x ∧ found = some x

/-- Attributes of this name agree, as far as they can be read. -/
def Tag.Agrees (tag : Tag) (key : String) (reading : NamedAttribute → Option α) : Prop :=
  ∀ a ∈ tag.named key, ∀ b ∈ tag.named key, reading a = reading b

/-- All attributes of this name can be read, and they agree. -/
def Tag.Settles (tag : Tag) (key : String) (reading : NamedAttribute → Option α) : Prop :=
  (∀ a ∈ tag.named key, (reading a).isSome) ∧ tag.Agrees key reading

lemma Tag.attribute?_eq_head? : tag.attribute? key = (tag.named key).head? :=
  (List.head?_filter ..).symm

/-- Everything written under a name is said by the first attribute exactly if it can be read and
agrees. -/
lemma Tag.says_iff {found : Option α}
    (hfound : ∀ a x, tag.attribute? key = some a → reading a = some x →
    found = some x) : tag.Says key reading found ↔ tag.Settles key reading := by
  rw [attribute?_eq_head?] at hfound
  constructor
  · intro h
    refine ⟨fun a ha => ?_, fun a ha b hb => ?_⟩
    · obtain ⟨x, hx, -⟩ := h a ha
      rw [hx]
      rfl
    · obtain ⟨x, hx, rfl⟩ := h a ha
      obtain ⟨y, hy, hxy⟩ := h b hb
      rw [hx, hy, hxy]
  · rintro ⟨hread, hagree⟩ a ha
    obtain ⟨x, hx⟩ := Option.isSome_iff_exists.mp (hread a ha)
    refine ⟨x, hx, ?_⟩
    cases hhead : (tag.named key).head? with
    | none => exact absurd ha (by simp [List.head?_eq_none_iff.mp hhead])
    | some first =>
        refine hfound first x hhead ?_
        rw [← hx]
        exact hagree first (List.mem_of_head? hhead) a ha

lemma Tag.says_bind_iff :
    tag.Says key reading ((tag.attribute? key).bind reading) ↔ tag.Settles key reading :=
  says_iff fun a x ha hx => by rw [ha, Option.bind_some, hx]

lemma Tag.says_getD_iff {default : α} :
    tag.Says key reading (some (((tag.attribute? key).bind reading).getD default))
      ↔ tag.Settles key reading :=
  says_iff fun a x ha hx => by rw [ha, Option.bind_some, hx, Option.getD_some]

/-- If the first attribute of a name was read, it is enough that the others agree. -/
lemma Tag.settles_iff (h : ∀ a, tag.attribute? key = some a → (reading a).isSome) :
    tag.Settles key reading ↔ tag.Agrees key reading := by
  refine ⟨And.right, fun hagree => ⟨fun a ha => ?_, hagree⟩⟩
  rw [attribute?_eq_head?] at h
  cases hhead : (tag.named key).head? with
  | none => exact absurd ha (by simp [List.head?_eq_none_iff.mp hhead])
  | some first =>
      rw [hagree a ha first (List.mem_of_head? hhead)]
      exact h first hhead

end Reading

end Markup

/-! ## Silent lowering -/

lemma Reported.orElse_warnings_eq_nil {α : Type} {found : Option α} {default : α}
    {cause : Warning.Cause} {position : Position} :
    (orElse found default cause position).warnings = [] ↔ found.isSome = true := by
  cases found <;> simp [orElse]

/-- Without a warning, what was found is what is used. -/
lemma Reported.eq_some_of_orElse {α : Type} {found : Option α} {default : α} {cause : Warning.Cause}
    {position : Position} (h : (orElse found default cause position).warnings = []) :
    found = some (orElse found default cause position).value := by
  obtain ⟨x, rfl⟩ := Option.isSome_iff_exists.mp (orElse_warnings_eq_nil.mp h)
  rfl

/-- A value that was found was read off the first attribute. -/
lemma isSome_of_bind {α β : Type} {found : Option α} {reading : α → Option β}
    (h : (found.bind reading).isSome = true) (a : α) (ha : found = some a) :
    (reading a).isSome = true := by
  rwa [ha, Option.bind_some] at h

lemma lowerChildren_append_warnings (row others : List Child) :
    (lowerChildren (row ++ others)).warnings
      = (lowerChildren row).warnings ++ (lowerChildren others).warnings := by
  simp only [lowerChildren_warnings, List.flatMap_append]

/-- The tags among children that have a property. -/
def tagsWhere (p : Tag → Bool) : List Child → List Tag
  | [] => []
  | .element tag _ :: rest => if p tag then tag :: tagsWhere p rest else tagsWhere p rest
  | _ :: rest => tagsWhere p rest

/-- The cases of a switch. -/
def caseTags : List Child → List Tag := tagsWhere fun tag => tag.name = caseTag

/-- The routes of a router. -/
def routeTags : List Child → List Tag :=
  tagsWhere fun tag => ReservedTag.ofName? tag.name = some .route

/-- The branches of an asynchronous block that are of one kind. -/
def branchTags (branch : AsyncBranch) : List Child → List Tag :=
  tagsWhere fun tag => AsyncBranch.ofName? tag.name = some branch

/-- Silent cases are all there, each with the value that was read, and their content is silent. -/
lemma silent_lowerCases {position : Position} {seen : List CaseValue} {children : List Child}
    (h : (lowerCases position seen children).warnings = []) :
    List.Forall₂ (fun tag c => caseValue? tag = some c.value) (caseTags children)
        (lowerCases position seen children).value
      ∧ (lowerChildren (caseContent seen children)).warnings = [] := by
  fun_induction caseContent seen children with
  | case1 => exact ⟨.nil, rfl⟩
  | case2 seen tag row rest hcase value hseen ih =>
      rw [lowerCases, if_pos hcase, Reported.warnings_bind, if_pos hseen] at h
      exact absurd h (by simp)
  | case3 seen tag row rest hcase value hseen ih =>
      rw [lowerCases, if_pos hcase, Reported.warnings_bind, if_neg hseen] at h
      simp only [Reported.warnings_bind, List.append_eq_nil_iff] at h
      obtain ⟨hvalue, hrow, hrest, -⟩ := h
      obtain ⟨hcases, hcontent⟩ := ih hrest
      refine ⟨?_, by rw [lowerChildren_append_warnings, hrow, hcontent, List.append_nil]⟩
      rw [lowerCases, if_pos hcase, Reported.value_bind, if_neg hseen, caseTags, tagsWhere,
        if_pos (by simpa)]
      exact .cons (Reported.eq_some_of_orElse hvalue) hcases
  | case4 seen tag row rest hcase ih =>
      rw [lowerCases, if_neg hcase] at h
      exact absurd h (by simp)
  | case5 seen child rest hchild ih =>
      rw [lowerCases.eq_3 _ _ _ _ hchild] at h ⊢
      rw [caseTags, tagsWhere.eq_3 _ _ _ hchild]
      cases hcontent : child.isContent with
      | true =>
          rw [hcontent] at h
          exact absurd h (by simp)
      | false =>
          rw [hcontent] at h
          exact ih h

/-- What a route takes from its tag if nothing is reported. -/
def RouteRead (tag : Tag) (route : Route Node) : Prop :=
  (∀ a, tag.attribute? "path" = some a → a.text?.isSome = true)
    ∧ route.path = ((tag.attribute? "path").bind NamedAttribute.text?).getD "/"
    ∧ route.boundAs = (tag.attribute? "let").bind NamedAttribute.binding?

lemma lowerPath_value (tag : Tag) :
    (lowerPath tag).value = ((tag.attribute? "path").bind NamedAttribute.text?).getD "/" := by
  unfold lowerPath
  cases tag.attribute? "path" with
  | none => rfl
  | some a => exact Reported.value_orElse ..

lemma silent_lowerRoute {tag : Tag} {nodes : Unit → Reported (List Node)}
    (h : (lowerRoute tag nodes).warnings = []) :
    RouteRead tag (lowerRoute tag nodes).value ∧ (nodes ()).warnings = [] := by
  simp only [lowerRoute, Reported.warnings_bind, List.append_eq_nil_iff] at h
  refine ⟨⟨fun a ha => ?_, lowerPath_value tag, rfl⟩, h.2.1⟩
  have hpath := h.1
  simp only [lowerPath, ha, Reported.warnings_bind, List.append_eq_nil_iff] at hpath
  exact Reported.orElse_warnings_eq_nil.mp hpath.1

/-- Silent routes are all there, each as its tag says, and their content is silent. -/
lemma silent_lowerRoutes {position : Position} {children : List Child}
    (h : (lowerRoutes position children).warnings = []) :
    List.Forall₂ RouteRead (routeTags children) (lowerRoutes position children).value
      ∧ (lowerChildren (routeContent children)).warnings = [] := by
  fun_induction routeContent children with
  | case1 => exact ⟨.nil, rfl⟩
  | case2 tag row rest hroute ih =>
      rw [lowerRoutes, if_pos hroute] at h
      simp only [Reported.warnings_bind, List.append_eq_nil_iff] at h
      obtain ⟨hfirst, hrest, -⟩ := h
      obtain ⟨hread, hrow⟩ := silent_lowerRoute hfirst
      obtain ⟨hroutes, hcontent⟩ := ih hrest
      refine ⟨?_, by rw [lowerChildren_append_warnings, hrow, hcontent, List.append_nil]⟩
      rw [lowerRoutes, if_pos hroute, routeTags, tagsWhere, if_pos (by simpa)]
      exact .cons hread hroutes
  | case3 tag row rest hroute ih =>
      rw [lowerRoutes, if_neg hroute] at h
      exact absurd h (by simp)
  | case4 child rest hchild ih =>
      rw [lowerRoutes.eq_3 _ _ _ hchild] at h ⊢
      rw [routeTags, tagsWhere.eq_3 _ _ _ hchild]
      cases hcontent : child.isContent with
      | true =>
          rw [hcontent] at h
          exact absurd h (by simp)
      | false =>
          rw [hcontent] at h
          exact ih h

/-- The first branch of a kind is the one that counts. -/
lemma branchTag?_eq_head? (branch : AsyncBranch) (children : List Child) :
    branchTag? branch children = (branchTags branch children).head? := by
  induction children with
  | nil => rfl
  | cons child rest ih =>
      rw [branchTag?, branchTags] at ih ⊢
      cases child with
      | element tag row =>
          rw [tagsWhere]
          by_cases hname : AsyncBranch.ofName? tag.name = some branch
          · simp [hname]
          · simp [hname, ih]
      | _ => simpa [tagsWhere] using ih

/-- Silent branches are there once at most, and not at all if they were seen before. -/
lemma silent_reportBranches {position : Position} {seen : List AsyncBranch} {children : List Child}
    (h : (reportBranches position seen children).warnings = []) (branch : AsyncBranch) :
    (branchTags branch children).length ≤ 1
      ∧ (branch ∈ seen → branchTags branch children = []) := by
  fun_induction reportBranches position seen children with
  | case1 seen => exact ⟨Nat.zero_le 1, fun _ => rfl⟩
  | case2 seen tag row rest hname ih => exact absurd h (by simp)
  | case3 seen tag row rest other hname hcontains ih => exact absurd h (by simp)
  | case4 seen tag row rest other hname hcontains ih =>
      obtain ⟨hrest, hseen⟩ := ih h
      by_cases hbranch : branch = other
      · subst hbranch
        have hone : branchTags branch (.element tag row :: rest) = [tag] := by
          rw [branchTags, tagsWhere, if_pos (by simpa), ← branchTags, hseen List.mem_cons_self]
        refine ⟨by rw [hone, List.length_singleton], fun hmem => ?_⟩
        exact absurd hmem (by simpa using hcontains)
      · have hne : AsyncBranch.ofName? tag.name ≠ some branch := by
          rw [hname]
          exact fun heq => hbranch (Option.some.inj heq).symm
        rw [branchTags, tagsWhere, if_neg (by simpa)]
        exact ⟨hrest, fun hmem => hseen (List.mem_cons_of_mem _ hmem)⟩
  | case5 => exact absurd h (by simp)
  | case6 =>
      rename_i seen child rest hchild _ hcontent ih
      rw [branchTags, tagsWhere.eq_3 _ _ _ hchild]
      exact ih h

/-- Without a warning every branch of a kind is the one that counts. -/
lemma branchTag?_of_silent {position : Position} {children : List Child}
    (h : (reportBranches position [] children).warnings = []) {branch : AsyncBranch} {tag : Tag}
    (htag : tag ∈ branchTags branch children) : branchTag? branch children = some tag := by
  obtain ⟨hlength, -⟩ := silent_reportBranches h branch
  rw [branchTag?_eq_head?]
  cases hall : branchTags branch children with
  | nil => exact absurd htag (by simp [hall])
  | cons first rest =>
      obtain rfl : rest = [] := by simpa [hall] using hlength
      rw [hall, List.mem_singleton] at htag
      rw [htag]
      rfl

/-- An asynchronous block that is silent: its promise is read, its branches are told apart, and
their content is silent. -/
lemma silent_lowerAsync {tag : Tag} {children : List Child}
    {branch : AsyncBranch → Reported (List Node)}
    (h : (lowerAsync tag children branch).warnings = []) :
    (tag.expression? "promise").isSome = true
      ∧ (reportBranches tag.position [] children).warnings = []
      ∧ ∀ kind, (branch kind).warnings = [] := by
  simp only [lowerAsync, Reported.warnings_bind, List.append_eq_nil_iff] at h
  obtain ⟨hpromise, hreport, hdone, hfailed, hloading, -⟩ := h
  refine ⟨Reported.orElse_warnings_eq_nil.mp hpromise, hreport, ?_⟩
  rintro (_ | _ | _)
  · exact hdone
  · exact hfailed
  · exact hloading

/-- **One step.**  What a silent element passes on is silent. -/
lemma silent_content {tag : Tag} {children : List Child}
    (h : (lowerElement tag children (.ofChildren children)).warnings = []) :
    (lowerChildren (tag.content children)).warnings = [] := by
  cases hname : ReservedTag.ofName? tag.name with
  | none =>
      simp only [lowerElement, Tag.content, hname] at h ⊢
      simpa [Contents.ofChildren] using h
  | some reserved =>
      simp only [lowerElement, Tag.content, hname] at h ⊢
      cases reserved with
      | state => rfl
      | props => rfl
      | slot => rfl
      | ifTag =>
          simp only [Reported.warnings_bind, List.append_eq_nil_iff] at h
          exact h.2.1
      | loop => exact lowerLoop_warnings h
      | onMount =>
          simp only [Reported.warnings_bind, List.append_eq_nil_iff] at h
          exact h.1
      | async =>
          obtain ⟨-, -, hbranches⟩ := silent_lowerAsync h
          simp only [Contents.ofChildren, lowerBranch_eq] at hbranches
          simp only [lowerChildren_append_warnings, hbranches, List.append_nil]
      | switch =>
          simp only [Reported.warnings_bind, List.append_eq_nil_iff] at h
          exact (silent_lowerCases h.2.1).2
      | router =>
          simp only [Reported.warnings_bind, List.append_eq_nil_iff] at h
          exact (silent_lowerRoutes h.1).2
      | route =>
          simp only [Reported.warnings_bind, List.append_eq_nil_iff] at h
          exact (silent_lowerRoute h.1).2

/-! ## Elements -/

namespace Markup

/-- An element as it is lowered. -/
structure Element where
  tag : Tag
  children : List Child

/-- What an element becomes. -/
def Element.lowered (element : Element) : Reported Node :=
  lowerElement element.tag element.children (.ofChildren element.children)

/-- The element that a child is; one that is addressed to a slot is lowered without its address. -/
def Child.element? : Child → Option Element
  | .element tag children =>
      some ⟨if tag.slotTarget?.isSome then tag.withoutSlot else tag, children⟩
  | _ => none

/-- The element that a statement is. -/
def Statement.element? : Statement → Option Element
  | .element tag children => some ⟨tag, children⟩
  | _ => none

/-- All elements of a program that are reached. -/
def Program.elements (program : Program) : List Element :=
  program.body.flatMap fun statement =>
    statement.element?.toList ++ statement.reached.filterMap Child.element?

lemma Child.warnings_lowered {child : Child} {element : Element}
    (h : child.element? = some element) :
    element.lowered.warnings = (lowerChild child).warnings := by
  cases child with
  | element tag children =>
      obtain rfl := Option.some.inj h
      rw [lowerChild_element, Element.lowered]
      cases htarget : tag.slotTarget? <;> simp
  | _ => exact absurd h (by simp [element?])

/-- What a silent child passes on is silent. -/
lemma Child.silent_content {child : Child} (h : (lowerChild child).warnings = []) :
    (lowerChildren child.content).warnings = [] := by
  cases child with
  | element tag children =>
      have hlowered := Child.warnings_lowered (show (Child.element tag children).element?
        = some _ from rfl)
      have hcontent := Componentry.silent_content (hlowered.trans h)
      split_ifs at hcontent
      · exact hcontent
      · exact hcontent
  | fragment children position => simpa [lowerChild, Child.content] using h
  | text raw => rfl
  | expression e => rfl

/-- **All steps.**  What is reached from a silent child is silent. -/
lemma Child.silent_reached (child : Child) :
    (lowerChild child).warnings = [] →
      ∀ inner ∈ child.reached, (lowerChild inner).warnings = [] := by
  induction child using Child.induction with
  | step child ih =>
    intro h
    have hcontent := Child.silent_content h
    rw [lowerChildren_warnings, List.flatMap_eq_nil_iff] at hcontent
    rw [Child.reached_eq, List.forall_mem_cons]
    refine ⟨h, fun inner hinner => ?_⟩
    obtain ⟨passed, hpassed, hreached⟩ := List.mem_flatMap.mp hinner
    exact ih passed hpassed (hcontent passed hpassed) inner hreached

/-- What is reached from a silent statement is silent. -/
lemma Statement.silent_reached {statement : Statement}
    (h : (lowerStatement statement).warnings = []) :
    ∀ child ∈ statement.reached, (lowerChild child).warnings = [] := by
  have hcontent : (lowerChildren statement.content).warnings = [] := by
    cases statement with
    | element tag children =>
        refine Componentry.silent_content ?_
        simpa [lowerStatement] using h
    | fragment children position => simpa [lowerStatement, Statement.content] using h
    | other text => rfl
  rw [lowerChildren_warnings, List.flatMap_eq_nil_iff] at hcontent
  intro child hchild
  obtain ⟨passed, hpassed, hreached⟩ := List.mem_flatMap.mp hchild
  exact passed.silent_reached (hcontent passed hpassed) child hreached

/-- **Silence everywhere.**  If a program is lowered without a warning, so are all its elements. -/
theorem Program.silent_elements {program : Program} (h : program.lower.warnings = []) :
    ∀ element ∈ program.elements, element.lowered.warnings = [] := by
  have hstatements : (lowerStatements program.body).warnings = [] := by
    simpa [Program.lower] using h
  rw [lowerStatements_warnings, List.flatMap_eq_nil_iff] at hstatements
  intro element helement
  obtain ⟨statement, hstatement, helement⟩ := List.mem_flatMap.mp helement
  have hsilent := hstatements statement hstatement
  rcases List.mem_append.mp helement with htop | hinner
  · cases statement with
    | element tag children =>
        obtain rfl := Option.some.inj (Option.mem_toList.mp htop)
        simpa [lowerStatement, Element.lowered] using hsilent
    | _ => exact absurd htop (by simp [Statement.element?])
  · obtain ⟨child, hchild, hfound⟩ := List.mem_filterMap.mp hinner
    rw [child.warnings_lowered hfound]
    exact Statement.silent_reached hsilent child hchild

/-- What an element becomes is a node of the document. -/
lemma Program.lowered_mem_nodes {program : Program} {element : Element}
    (h : element ∈ program.elements) :
    element.lowered.value ∈ program.lower.value.nodes := by
  have hshell : element.lowered.value ∈ element.tag.shell element.children := by
    rw [Tag.shell]
    split_ifs <;> exact List.mem_cons_self
  obtain ⟨statement, hstatement, helement⟩ := List.mem_flatMap.mp h
  rw [nodes_lower]
  refine List.mem_flatMap.mpr ⟨statement, hstatement, List.mem_append.mpr ?_⟩
  rcases List.mem_append.mp helement with htop | hinner
  · refine .inl ?_
    cases statement with
    | element tag children =>
        obtain rfl := Option.some.inj (Option.mem_toList.mp htop)
        exact hshell
    | _ => exact absurd htop (by simp [Statement.element?])
  · refine .inr ?_
    obtain ⟨child, hchild, hfound⟩ := List.mem_filterMap.mp hinner
    refine List.mem_flatMap.mpr ⟨child, hchild, ?_⟩
    cases child with
    | element tag children =>
        obtain rfl := Option.some.inj hfound
        rw [Child.shell]
        cases htarget : tag.slotTarget? with
        | none => simpa [htarget] using hshell
        | some name => exact List.mem_cons_of_mem _ (by simpa [htarget] using hshell)
    | _ => exact absurd hfound (by simp [Child.element?])

end Markup

/-! ## Effect -/

/-- A loop over items: one over a call waits for the result first. -/
def Node.IsLoop (node : Node) (items : Expression) (boundAs : String) : Prop :=
  ∃ nodes, node = .loop items boundAs nodes
    ∨ node = .async items none [.loop settledExpression boundAs nodes] [] [] settledValue
      settledError

/-- The attributes of a route took effect. -/
def RouteObeys (tag : Tag) (route : Route Node) : Prop :=
  tag.Says "path" NamedAttribute.text? (some route.path)
    ∧ tag.Says "let" NamedAttribute.binding? route.boundAs

/-- The attributes of a route can be read as far as this is not reported, and they agree. -/
def RoutePlain (tag : Tag) : Prop :=
  tag.Agrees "path" NamedAttribute.text? ∧ tag.Settles "let" NamedAttribute.binding?

namespace Markup.Element

/-- Every attribute of a control block took effect in a node, with those of its branches, cases and
routes. -/
def Obeyed (element : Element) (node : Node) : Prop :=
  match ReservedTag.ofName? element.tag.name with
  | some .loop => ∃ items boundAs, node.IsLoop items boundAs
      ∧ element.tag.Says "of" NamedAttribute.expression? (some items)
      ∧ element.tag.Says "let" NamedAttribute.binding? (some boundAs)
  | some .slot => ∃ name, node = .slot name ∧ element.tag.Says "name" NamedAttribute.text? name
  | some .async => ∃ promise key done failed loading doneAlias failedAlias,
      node = .async promise key done failed loading doneAlias failedAlias
      ∧ element.tag.Says "promise" NamedAttribute.expression? (some promise)
      ∧ element.tag.Says "key" NamedAttribute.expression? key
      ∧ (∀ tag ∈ branchTags .done element.children,
          tag.Says "let" NamedAttribute.binding? (some doneAlias))
      ∧ ∀ tag ∈ branchTags .failed element.children,
          tag.Says "let" NamedAttribute.binding? (some failedAlias)
  | some .switch => ∃ value cases, node = .switch value cases
      ∧ element.tag.Says "on" NamedAttribute.expression? (some value)
      ∧ List.Forall₂ (fun tag c => tag.Says "when" NamedAttribute.caseValue? (some c.value))
          (caseTags element.children) cases
  | some .router => ∃ routes, node = .router routes
      ∧ List.Forall₂ RouteObeys (routeTags element.children) routes
  | some .route => ∃ route, node = .router [route] ∧ RouteObeys element.tag route
  | _ => True

/-- Every `let` and `key` of a control block can be read, and attributes that are written twice
agree. -/
def Plain (element : Element) : Prop :=
  match ReservedTag.ofName? element.tag.name with
  | some .loop => element.tag.Agrees "of" NamedAttribute.expression?
      ∧ element.tag.Settles "let" NamedAttribute.binding?
  | some .slot => element.tag.Agrees "name" NamedAttribute.text?
  | some .async => element.tag.Agrees "promise" NamedAttribute.expression?
      ∧ element.tag.Settles "key" NamedAttribute.expression?
      ∧ (∀ tag ∈ branchTags .done element.children, tag.Settles "let" NamedAttribute.binding?)
      ∧ ∀ tag ∈ branchTags .failed element.children, tag.Settles "let" NamedAttribute.binding?
  | some .switch => element.tag.Agrees "on" NamedAttribute.expression?
      ∧ ∀ tag ∈ caseTags element.children, tag.Agrees "when" NamedAttribute.caseValue?
  | some .router => ∀ tag ∈ routeTags element.children, RoutePlain tag
  | some .route => RoutePlain element.tag
  | _ => True

end Markup.Element

/-- Two rows that are related one by one: to relate them otherwise is to say something of the
first. -/
lemma forall₂_iff_forall_mem {α β : Type} {given asked : α → β → Prop} {p : α → Prop} {row : List α}
    {others : List β} (h : List.Forall₂ given row others)
    (hiff : ∀ a b, given a b → (asked a b ↔ p a)) :
    List.Forall₂ asked row others ↔ ∀ a ∈ row, p a := by
  induction h with
  | nil => simp
  | cons hfirst _ ih => rw [List.forall₂_cons, List.forall_mem_cons, hiff _ _ hfirst, ih]

/-- The expression that a silent block cannot do without. -/
lemma says_expression_iff {tag : Tag} {key : String} {default : Expression}
    (h : (tag.expression? key).isSome = true) :
    tag.Says key NamedAttribute.expression? (some ((tag.expression? key).getD default))
      ↔ tag.Agrees key NamedAttribute.expression? :=
  Tag.says_getD_iff.trans (Tag.settles_iff (isSome_of_bind h))

lemma RouteRead.obeys_iff {tag : Tag} {route : Route Node} (h : RouteRead tag route) :
    RouteObeys tag route ↔ RoutePlain tag := by
  obtain ⟨hread, hpath, hbound⟩ := h
  rw [RouteObeys, RoutePlain, hpath, hbound, Tag.says_getD_iff, Tag.says_bind_iff,
    Tag.settles_iff hread]

lemma case_says_iff {tag : Tag} {c : Case Node} (h : caseValue? tag = some c.value) :
    tag.Says "when" NamedAttribute.caseValue? (some c.value)
      ↔ tag.Agrees "when" NamedAttribute.caseValue? := by
  have hread : ((tag.attribute? "when").bind NamedAttribute.caseValue?).isSome = true := by
    rw [show (tag.attribute? "when").bind NamedAttribute.caseValue? = some c.value from h]
    rfl
  rw [← h]
  exact Tag.says_bind_iff.trans (Tag.settles_iff (isSome_of_bind hread))

/-- A lowered loop is one over the items and with the name that were read off its tag, and no
other. -/
lemma isLoop_lowerLoop {tag : Tag} {nodes : Unit → Reported (List Node)} {items : Expression}
    {boundAs : String} :
    (lowerLoop tag nodes).value.IsLoop items boundAs
      ↔ items = tag.items ∧ boundAs = tag.itemName := by
  rw [lowerLoop_value, Node.IsLoop]
  split_ifs
  · constructor
    · rintro ⟨found, heq | heq⟩
      · exact absurd heq (by simp)
      · simp only [Node.async.injEq, List.cons.injEq, Node.loop.injEq] at heq
        exact ⟨heq.1.symm, heq.2.2.1.1.2.1.symm⟩
    · rintro ⟨rfl, rfl⟩
      exact ⟨_, .inr rfl⟩
  · constructor
    · rintro ⟨found, heq | heq⟩
      · simp only [Node.loop.injEq] at heq
        exact ⟨heq.1.symm, heq.2.1.symm⟩
      · exact absurd heq (by simp)
    · rintro ⟨rfl, rfl⟩
      exact ⟨_, .inl rfl⟩

lemma lowerSlot_name (tag : Tag) :
    (lowerSlot tag).value = .slot ((tag.attribute? "name").bind NamedAttribute.text?) := by
  unfold lowerSlot
  cases tag.attribute? "name" with
  | none => rfl
  | some a =>
      rw [Option.bind_some, NamedAttribute.text?]
      dsimp only
      cases (Value.ofAttribute a.value).staticText? <;> rfl

lemma silent_lowerSlot {tag : Tag} (h : (lowerSlot tag).warnings = []) (a : NamedAttribute)
    (ha : tag.attribute? "name" = some a) : a.text?.isSome = true := by
  cases htext : a.text? with
  | some name => rfl
  | none =>
      rw [NamedAttribute.text?] at htext
      simp [lowerSlot, ha, htext] at h

/-- The name that silent branches of a kind bind. -/
lemma branch_says_iff {position : Position} {children : List Child}
    (h : (reportBranches position [] children).warnings = []) (branch : AsyncBranch)
    (default : String) :
    (∀ tag ∈ branchTags branch children,
        tag.Says "let" NamedAttribute.binding? (some (branchAlias branch default children)))
      ↔ ∀ tag ∈ branchTags branch children, tag.Settles "let" NamedAttribute.binding? := by
  refine forall₂_congr fun tag htag => ?_
  rw [branchAlias, branchTag?_of_silent h htag, Option.bind_some]
  exact Tag.says_getD_iff

namespace Markup.Element

variable {tag : Tag} {children : List Child}

lemma loop_obeyed_iff {nodes : Unit → Reported (List Node)}
    (h : (lowerLoop tag nodes).warnings = []) :
    (∃ items boundAs, (lowerLoop tag nodes).value.IsLoop items boundAs
        ∧ tag.Says "of" NamedAttribute.expression? (some items)
        ∧ tag.Says "let" NamedAttribute.binding? (some boundAs))
      ↔ tag.Agrees "of" NamedAttribute.expression? ∧ tag.Settles "let" NamedAttribute.binding? := by
  have hitems : (tag.expression? "of").isSome = true := by
    simp only [lowerLoop, Reported.warnings_bind, List.append_eq_nil_iff] at h
    exact Reported.orElse_warnings_eq_nil.mp h.1
  have hof : tag.Says "of" NamedAttribute.expression? (some tag.items)
      ↔ tag.Agrees "of" NamedAttribute.expression? := says_expression_iff hitems
  have hlet : tag.Says "let" NamedAttribute.binding? (some tag.itemName)
      ↔ tag.Settles "let" NamedAttribute.binding? := Tag.says_getD_iff
  rw [← hof, ← hlet]
  simp only [isLoop_lowerLoop]
  constructor
  · rintro ⟨_, _, ⟨rfl, rfl⟩, hsays⟩
    exact hsays
  · intro hsays
    exact ⟨_, _, ⟨rfl, rfl⟩, hsays⟩

lemma slot_obeyed_iff (h : (lowerSlot tag).warnings = []) :
    (∃ name, (lowerSlot tag).value = .slot name ∧ tag.Says "name" NamedAttribute.text? name)
      ↔ tag.Agrees "name" NamedAttribute.text? := by
  simp only [lowerSlot_name, Node.slot.injEq, exists_eq_left']
  exact Tag.says_bind_iff.trans (Tag.settles_iff (silent_lowerSlot h))

lemma async_obeyed_iff {branch : AsyncBranch → Reported (List Node)}
    (h : (lowerAsync tag children branch).warnings = []) :
    (∃ promise key done failed loading doneAlias failedAlias,
        (lowerAsync tag children branch).value
          = .async promise key done failed loading doneAlias failedAlias
        ∧ tag.Says "promise" NamedAttribute.expression? (some promise)
        ∧ tag.Says "key" NamedAttribute.expression? key
        ∧ (∀ inner ∈ branchTags .done children,
          inner.Says "let" NamedAttribute.binding? (some doneAlias))
        ∧ ∀ inner ∈ branchTags .failed children,
          inner.Says "let" NamedAttribute.binding? (some failedAlias))
      ↔ tag.Agrees "promise" NamedAttribute.expression?
        ∧ tag.Settles "key" NamedAttribute.expression?
        ∧ (∀ inner ∈ branchTags .done children, inner.Settles "let" NamedAttribute.binding?)
        ∧ ∀ inner ∈ branchTags .failed children, inner.Settles "let" NamedAttribute.binding? := by
  obtain ⟨hread, hreport, -⟩ := silent_lowerAsync h
  have hvalue : (lowerAsync tag children branch).value
      = .async ((tag.expression? "promise").getD undefinedExpression) (tag.expression? "key")
        (branch .done).value (branch .failed).value (branch .loading).value
        (branchAlias .done "data" children) (branchAlias .failed "error" children) := by
    simp only [lowerAsync, Reported.value_bind, Reported.value_orElse, Reported.value_pure]
  have hpromise : tag.Says "promise" NamedAttribute.expression?
      (some ((tag.expression? "promise").getD undefinedExpression)) ↔ _ := says_expression_iff hread
  have hkey : tag.Says "key" NamedAttribute.expression? (tag.expression? "key") ↔ _ :=
    Tag.says_bind_iff
  rw [hvalue, ← hpromise, ← hkey, ← branch_says_iff hreport .done "data",
    ← branch_says_iff hreport .failed "error"]
  constructor
  · rintro ⟨_, _, _, _, _, _, _, heq, hsays⟩
    cases heq
    exact hsays
  · intro hsays
    exact ⟨_, _, _, _, _, _, _, rfl, hsays⟩

lemma switch_says_iff
    (hvalue : (Reported.orElse (tag.expression? "on") undefinedExpression .switchWithoutValue
      tag.position).warnings = [])
    (hcases : (lowerCases tag.position [] children).warnings = []) :
    (tag.Says "on" NamedAttribute.expression?
      (some ((tag.expression? "on").getD undefinedExpression))
        ∧ List.Forall₂ (fun inner c => inner.Says "when" NamedAttribute.caseValue? (some c.value))
            (caseTags children) (lowerCases tag.position [] children).value)
      ↔ tag.Agrees "on" NamedAttribute.expression?
        ∧ ∀ inner ∈ caseTags children, inner.Agrees "when" NamedAttribute.caseValue? := by
  refine and_congr (says_expression_iff (Reported.orElse_warnings_eq_nil.mp hvalue)) ?_
  exact forall₂_iff_forall_mem (silent_lowerCases hcases).1 fun _ _ => case_says_iff

/-- **One element.**  The attributes of a silent element took effect exactly if they are plain. -/
theorem obeyed_iff {element : Element} (h : element.lowered.warnings = []) :
    element.Obeyed element.lowered.value ↔ element.Plain := by
  obtain ⟨tag, children⟩ := element
  rw [Element.lowered] at h ⊢
  cases hname : ReservedTag.ofName? tag.name with
  | none => simp [Obeyed, Plain, hname]
  | some reserved =>
      simp only [lowerElement, Obeyed, Plain, hname] at h ⊢
      cases reserved with
      | loop => exact loop_obeyed_iff h
      | slot => exact slot_obeyed_iff h
      | async => exact async_obeyed_iff h
      | switch =>
          simp only [Reported.warnings_bind, List.append_eq_nil_iff] at h
          obtain ⟨hvalue, hcases, -⟩ := h
          simp only [Reported.value_bind, Reported.value_pure, Node.switch.injEq, and_assoc,
            exists_and_left, exists_eq_left', Reported.value_orElse]
          exact switch_says_iff hvalue hcases
      | router =>
          simp only [Reported.warnings_bind, List.append_eq_nil_iff] at h
          simp only [Reported.value_bind, Reported.value_pure, Node.router.injEq, exists_eq_left']
          exact forall₂_iff_forall_mem (silent_lowerRoutes h.1).1 fun _ _ => RouteRead.obeys_iff
      | route =>
          simp only [Reported.warnings_bind, List.append_eq_nil_iff] at h
          simp only [Reported.value_bind, Reported.value_pure, Node.router.injEq, List.cons.injEq,
            and_true, exists_eq_left']
          exact (silent_lowerRoute h.1).1.obeys_iff
      | _ => rfl

end Markup.Element

/-- **Which control attributes take effect.**  Every element that is reached in a program without
warnings becomes a node of the document.  All attributes of a control block, with those of its
branches, cases and routes, took effect in this node *exactly if* every `let` and every `key` among
them can be read, and attributes that are written twice agree: nothing else is left to a default
without a warning. -/
theorem control_attributes_obeyed_iff (program : Program) (h : program.lower.warnings = []) :
    ∀ element ∈ program.elements, element.lowered.value ∈ program.lower.value.nodes
      ∧ (element.Obeyed element.lowered.value ↔ element.Plain) := by
  intro element helement
  have hsilent := Program.silent_elements h element helement
  exact ⟨Program.lowered_mem_nodes helement, Element.obeyed_iff hsilent⟩

/-- A loop over rows, with a given attribute for the name of a row. -/
def rowsElement (binding : AttributeValue) : Element where
  tag := ⟨"loop", [.named "of" (some (.expression ⟨"rows", .identifier "rows"⟩)) ⟨1, 11⟩,
    .named "let" (some binding) ⟨1, 21⟩], false, ⟨1, 5⟩⟩
  children := [.element ⟨"li", [], false, ⟨1, 29⟩⟩ [.text "row"]]

/-- A list with this loop in it. -/
def rowsProgram (binding : AttributeValue) : Program :=
  ⟨[.element ⟨"ul", [], false, ⟨1, 1⟩⟩
    [.element (rowsElement binding).tag (rowsElement binding).children]]⟩

lemma rowsElement_mem (binding : AttributeValue) :
    rowsElement binding ∈ (rowsProgram binding).elements := by
  refine List.mem_flatMap.mpr ⟨_, List.mem_singleton_self _, List.mem_append_right _ ?_⟩
  refine List.mem_filterMap.mpr
    ⟨.element (rowsElement binding).tag (rowsElement binding).children, ?_, rfl⟩
  refine List.mem_flatMap.mpr ⟨_, List.mem_cons_self, ?_⟩
  rw [Child.reached_eq]
  exact List.mem_cons_self

/-- The name of a row can be written as a text. -/
theorem control_attributes_obeyed_rows :
    (rowsProgram (.text "entry")).lower.warnings = []
    ∧ rowsElement (.text "entry") ∈ (rowsProgram (.text "entry")).elements
    ∧ (rowsElement (.text "entry")).Obeyed
        (.loop ⟨"rows", .identifier "rows"⟩ "entry" [.component "li" [] [.text "row"]]) := by
  have hsilent : (rowsProgram (.text "entry")).lower.warnings = [] := rfl
  have hmem := rowsElement_mem (.text "entry")
  refine ⟨hsilent, hmem, (control_attributes_obeyed_iff _ hsilent _ hmem).2.mpr ?_⟩
  have hof : (rowsElement (.text "entry")).tag.named "of"
      = [⟨"of", some (.expression ⟨"rows", .identifier "rows"⟩), ⟨1, 11⟩⟩] := rfl
  have hlet : (rowsElement (.text "entry")).tag.named "let"
      = [⟨"let", some (.text "entry"), ⟨1, 21⟩⟩] := rfl
  refine ⟨?_, ?_, ?_⟩
  · simp [Tag.Agrees, hof]
  · simp only [hlet, List.forall_mem_singleton]
    decide
  · simp [Tag.Agrees, hlet]

/-- **A name that is lost.**  Where a number stands for the name of a row, there is no warning, and
rows are bound to another name. -/
theorem rows_bound_to_default :
    (rowsProgram (.expression ⟨"1", .number⟩)).lower.warnings = []
    ∧ rowsElement (.expression ⟨"1", .number⟩) ∈ (rowsProgram (.expression ⟨"1", .number⟩)).elements
    ∧ (rowsElement (.expression ⟨"1", .number⟩)).lowered.value
      = .loop ⟨"rows", .identifier "rows"⟩ "item" [.component "li" [] [.text "row"]]
    ∧ ¬ (rowsElement (.expression ⟨"1", .number⟩)).Obeyed
        (rowsElement (.expression ⟨"1", .number⟩)).lowered.value := by
  refine ⟨rfl, rowsElement_mem _, rfl, ?_⟩
  rintro ⟨items, boundAs, -, -, hlet⟩
  obtain ⟨name, hname, -⟩ := hlet ⟨"let", some (.expression ⟨"1", .number⟩), ⟨1, 21⟩⟩ (by decide)
  simp [NamedAttribute.binding?, Value.ofAttribute, Value.binding?] at hname

end Componentry
