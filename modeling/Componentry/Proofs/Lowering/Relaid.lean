import Mathlib.Data.List.Basic
import Componentry.Proofs.Component.Erasure
import Componentry.Proofs.Lowering.Reach
import Componentry.Proofs.Text.Layout

/-!
# Layout

Blank texts between tags, the places where tags stand and the way an element is closed are layout,
and so is everything in a source file that is not markup.

**Layout of markup.**  `Relaid` relates rows of children that differ in layout only: blank texts may
be added and left out, and tags may stand elsewhere.  `Program.Relaid` relates programs in the same
way.

**Lowering.**  Every way to use the content of an element skips blank texts, so related rows are
used alike (`UsedAlike`, by induction over the relation).  Documents need not be equal, though: a
state keeps its position, and a blank text in a list of props makes it a list.  Both are erased by
`Node.erased`, and generation does not look at them.

So layout does not show in the generated module, nor in what is reported (`layout_does_not_show`).
-/

namespace Componentry

open Markup

/-! ## Results that are alike -/

namespace Reported

variable {α β γ δ : Type}

/-- What warnings are about, in order. -/
def causes (reported : Reported α) : List Warning.Cause := reported.warnings.map Warning.cause

/-- Results that are the same under a view, with warnings about the same. -/
structure Alike (view : α → γ) (first second : Reported α) : Prop where
  value : view first.value = view second.value
  causes : first.causes = second.causes

namespace Alike

variable {view : α → γ} {first second third : Reported α}

lemma refl (view : α → γ) (reported : Reported α) : Alike view reported reported := ⟨rfl, rfl⟩

lemma symm (h : Alike view first second) : Alike view second first := ⟨h.value.symm, h.causes.symm⟩

lemma trans (h : Alike view first second) (h' : Alike view second third) : Alike view first third :=
  ⟨h.value.trans h'.value, h.causes.trans h'.causes⟩

lemma pure {a b : α} (h : view a = view b) :
    Alike view (Pure.pure a : Reported α) (Pure.pure b : Reported α) := ⟨h, rfl⟩

/-- What begins alike and goes on alike is alike. -/
lemma bind {next : β → δ} {f g : α → Reported β} (h : Alike view first second)
    (hnext : ∀ a b, view a = view b → Alike next (f a) (g b)) :
    Alike next (first >>= f) (second >>= g) := by
  have hstep := hnext _ _ h.value
  refine ⟨hstep.value, ?_⟩
  simp only [Reported.causes, warnings_bind, List.map_append]
  exact congrArg₂ _ h.causes hstep.causes

/-- What begins with the same value has to go on alike for it only. -/
lemma andThen {next : β → δ} {f g : α → Reported β} (h : Alike id first second)
    (hnext : ∀ a, Alike next (f a) (g a)) : Alike next (first >>= f) (second >>= g) := by
  refine h.bind fun a b hab => ?_
  obtain rfl : a = b := hab
  exact hnext a

lemma warn (cause : Warning.Cause) (position other : Position) :
    Alike id (Reported.warn cause position) (Reported.warn cause other) := ⟨rfl, rfl⟩

lemma orElse (found : Option α) (default : α) (cause : Warning.Cause) (position other : Position) :
    Alike id (Reported.orElse found default cause position)
      (Reported.orElse found default cause other) := by
  cases found <;> exact ⟨rfl, rfl⟩

end Alike

end Reported

open Reported

/-! ## Tags -/

namespace Markup

/-- An attribute without its position. -/
def Attribute.unplaced : Attribute → Attribute
  | named name value _ => named name value default
  | spread argument _ => spread argument default

/-- A tag without positions, and without the way it is closed. -/
def Tag.unplaced (tag : Tag) : Tag :=
  ⟨tag.name, tag.attributes.map Attribute.unplaced, false, default⟩

/-- A named attribute without its position. -/
def NamedAttribute.unplaced (a : NamedAttribute) : NamedAttribute := { a with position := default }

namespace Tag

variable (tag : Tag) (name : String)

lemma attribute?_unplaced :
    tag.unplaced.attribute? name = (tag.attribute? name).map NamedAttribute.unplaced := by
  have hnamed : (tag.attributes.map Attribute.unplaced).filterMap Attribute.asNamed
      = (tag.attributes.filterMap Attribute.asNamed).map NamedAttribute.unplaced := by
    rw [List.filterMap_map, List.map_filterMap]
    refine List.filterMap_congr fun a _ => ?_
    cases a <;> rfl
  rw [attribute?, attribute?, unplaced, hnamed, List.find?_map]
  rfl

lemma expression?_unplaced : tag.unplaced.expression? name = tag.expression? name := by
  rw [expression?, expression?, attribute?_unplaced, Option.bind_map]
  rfl

lemma binding?_unplaced : tag.unplaced.binding? name = tag.binding? name := by
  rw [binding?, binding?, attribute?_unplaced, Option.bind_map]
  rfl

lemma slotTarget?_unplaced : tag.unplaced.slotTarget? = tag.slotTarget? := by
  rw [slotTarget?, slotTarget?, attribute?_unplaced, Option.bind_map]
  rfl

lemma withoutSlot_unplaced : tag.unplaced.withoutSlot = tag.withoutSlot.unplaced := by
  simp only [withoutSlot, unplaced, List.filter_map]
  congr 3
  funext a
  cases a <;> rfl

lemma lowerProperty_unplaced :
    tag.unplaced.attributes.map lowerProperty = tag.attributes.map lowerProperty := by
  rw [unplaced, List.map_map]
  refine List.map_congr_left fun a _ => ?_
  cases a <;> rfl

lemma alike_lowerState : Alike Node.erased (lowerState tag.unplaced) (lowerState tag) := by
  have hhead : (tag.attributes.map Attribute.unplaced).head?
      = tag.attributes.head?.map Attribute.unplaced := List.head?_map
  unfold lowerState
  simp only [unplaced, hhead, List.length_map]
  rcases tag.attributes.head? with _ | ⟨key, value, position⟩ | ⟨argument, position⟩ <;>
    split_ifs <;> exact ⟨rfl, rfl⟩

lemma alike_lowerSlot : Alike Node.erased (lowerSlot tag.unplaced) (lowerSlot tag) := by
  unfold lowerSlot
  rw [attribute?_unplaced]
  cases tag.attribute? "name" with
  | none => exact ⟨rfl, rfl⟩
  | some a =>
      simp only [Option.map_some, NamedAttribute.unplaced]
      cases (Value.ofAttribute a.value).staticText? <;> exact ⟨rfl, rfl⟩

lemma alike_lowerCondition : Alike id (lowerCondition tag.unplaced) (lowerCondition tag) := by
  have hfound : (tag.unplaced.attributes.head?.bind fun a =>
      a.asNamed.bind NamedAttribute.expression?)
      = tag.attributes.head?.bind fun a => a.asNamed.bind NamedAttribute.expression? := by
    rw [unplaced, List.head?_map, Option.bind_map]
    congr 1
    funext a
    cases a <;> rfl
  rw [lowerCondition, lowerCondition, hfound]
  exact .orElse ..

lemma alike_lowerCaseValue : Alike id (lowerCaseValue tag.unplaced) (lowerCaseValue tag) := by
  have hvalue : caseValue? tag.unplaced = caseValue? tag := by
    rw [caseValue?, caseValue?, attribute?_unplaced, Option.bind_map]
    rfl
  rw [lowerCaseValue, lowerCaseValue, hvalue]
  exact .orElse ..

/-- The warnings about a path are the same wherever it stands. -/
lemma alike_warnings (cause : String → Warning.Cause) (names : List String)
    (position other : Position) :
    Alike id
      (forIn names PUnit.unit fun key _ => do
        Reported.warn (cause key) position
        return ForInStep.yield PUnit.unit)
      (forIn names PUnit.unit fun key _ => do
        Reported.warn (cause key) other
        return ForInStep.yield PUnit.unit) := by
  induction names with
  | nil => exact .refl ..
  | cons key rest ih =>
      rw [List.forIn_cons, List.forIn_cons]
      refine .andThen (.andThen (.warn ..) fun _ => .refl id _) fun step => ?_
      cases step with
      | done result => exact .refl ..
      | yield result => exact ih

lemma alike_lowerPath : Alike id (lowerPath tag.unplaced) (lowerPath tag) := by
  have hrest : ∀ path, Alike id
      (do
        for key in (Route.Pattern.parse path).repeatedParameters do
          Reported.warn (.repeatedRouteParameter path key) tag.unplaced.position
        return path)
      (do
        for key in (Route.Pattern.parse path).repeatedParameters do
          Reported.warn (.repeatedRouteParameter path key) tag.position
        return path) :=
    fun path => .andThen (alike_warnings ..) fun _ => .refl id _
  unfold lowerPath
  rw [attribute?_unplaced]
  cases tag.attribute? "path" with
  | none => exact hrest "/"
  | some a => exact .andThen (.orElse ..) hrest

end Tag

section SameTag

variable {tag other : Tag} (h : tag.unplaced = other.unplaced)

include h

lemma name_of_unplaced : tag.name = other.name := (Tag.mk.inj h).1

lemma expression?_of_unplaced (key : String) : tag.expression? key = other.expression? key := by
  rw [← tag.expression?_unplaced, h, other.expression?_unplaced]

lemma binding?_of_unplaced (key : String) : tag.binding? key = other.binding? key := by
  rw [← tag.binding?_unplaced, h, other.binding?_unplaced]

end SameTag

/-! ## Rows of children -/

/-- Rows of children that differ in layout only. -/
inductive Relaid : List Child → List Child → Prop
  | nil : Relaid [] []
  /-- A blank text is added. -/
  | blank {row others : List Child} {raw : String} (hraw : Text.allBlank raw = true)
      (h : Relaid row others) : Relaid row (.text raw :: others)
  /-- A blank text is left out. -/
  | unblank {row others : List Child} {raw : String} (hraw : Text.allBlank raw = true)
      (h : Relaid row others) : Relaid (.text raw :: row) others
  | text {row others : List Child} (raw : String) (h : Relaid row others) :
      Relaid (.text raw :: row) (.text raw :: others)
  | expression {row others : List Child} (e : Expression) (h : Relaid row others) :
      Relaid (.expression e :: row) (.expression e :: others)
  | element {row others content otherContent : List Child} {tag otherTag : Tag}
      (htag : tag.unplaced = otherTag.unplaced) (hcontent : Relaid content otherContent)
      (h : Relaid row others) :
      Relaid (.element tag content :: row) (.element otherTag otherContent :: others)
  | fragment {row others content otherContent : List Child} (position otherPosition : Position)
      (hcontent : Relaid content otherContent) (h : Relaid row others) :
      Relaid (.fragment content position :: row) (.fragment otherContent otherPosition :: others)

end Markup

/-- Rows of children that are used alike, whatever the element is that they stand in. -/
structure UsedAlike (row others : List Child) : Prop where
  nodes : Alike (List.map Node.erased) (lowerChildren row) (lowerChildren others)
  branch : ∀ branch,
    Alike (List.map Node.erased) (lowerBranch branch row) (lowerBranch branch others)
  cases : ∀ position other seen,
    Alike (List.map Case.erased) (lowerCases position seen row) (lowerCases other seen others)
  routes : ∀ position other,
    Alike (List.map Route.erased) (lowerRoutes position row) (lowerRoutes other others)
  names : ∀ position other names,
    Alike id (lowerPropNames position names row) (lowerPropNames other names others)
  reports : ∀ position other seen,
    Alike id (reportBranches position seen row) (reportBranches other seen others)
  tags : ∀ branch, (branchTag? branch row).map Tag.unplaced
    = (branchTag? branch others).map Tag.unplaced

namespace UsedAlike

variable {row others : List Child}

lemma nil : UsedAlike [] [] where
  nodes := .refl ..
  branch _ := .refl ..
  cases _ _ _ := .refl ..
  routes _ _ := .refl ..
  names _ _ _ := .refl ..
  reports _ _ _ := .refl ..
  tags _ := rfl

lemma symm (h : UsedAlike row others) : UsedAlike others row where
  nodes := h.nodes.symm
  branch branch := (h.branch branch).symm
  cases position other seen := (h.cases other position seen).symm
  routes position other := (h.routes other position).symm
  names position other names := (h.names other position names).symm
  reports position other seen := (h.reports other position seen).symm
  tags branch := (h.tags branch).symm

/-- The first children of rows are no elements, but used alike. -/
lemma cons {child other : Child} (hchild : ∀ tag content, child ≠ .element tag content)
    (hother : ∀ tag content, other ≠ .element tag content)
    (hnode : Alike (Option.map Node.erased) (lowerChild child) (lowerChild other))
    (hcontent : child.isContent = other.isContent)
    (hnames : ∀ position otherPosition names row others, UsedAlike row others →
      Alike id (lowerPropNames position names (child :: row))
        (lowerPropNames otherPosition names (other :: others)))
    (h : UsedAlike row others) : UsedAlike (child :: row) (other :: others) where
  nodes := by
    rw [lowerChildren, lowerChildren]
    refine hnode.bind fun first otherFirst hfirst =>
      h.nodes.bind fun more otherMore hmore => .pure ?_
    rw [List.map_append, List.map_append, hmore, ← Option.toList_map, ← Option.toList_map, hfirst]
  branch branch := by
    rw [lowerBranch.eq_3 _ _ _ hchild, lowerBranch.eq_3 _ _ _ hother]
    exact h.branch branch
  cases position otherPosition seen := by
    rw [lowerCases.eq_3 _ _ _ _ hchild, lowerCases.eq_3 _ _ _ _ hother, hcontent]
    split_ifs
    · exact .andThen (.warn ..) fun _ => h.cases position otherPosition seen
    · exact h.cases position otherPosition seen
  routes position otherPosition := by
    rw [lowerRoutes.eq_3 _ _ _ hchild, lowerRoutes.eq_3 _ _ _ hother, hcontent]
    split_ifs
    · exact .andThen (.warn ..) fun _ => h.routes position otherPosition
    · exact h.routes position otherPosition
  names position otherPosition names := hnames position otherPosition names row others h
  reports position otherPosition seen := by
    rw [reportBranches.eq_3 _ _ _ _ hchild, reportBranches.eq_3 _ _ _ _ hother, hcontent]
    split_ifs
    · exact .andThen (.warn ..) fun _ => h.reports position otherPosition seen
    · exact h.reports position otherPosition seen
  tags branch := by
    have hskip : ∀ (first : Child) (rest : List Child),
        (∀ tag content, first ≠ .element tag content) →
        branchTag? branch (first :: rest) = branchTag? branch rest := by
      intro first rest hfirst
      cases first with
      | element tag content => exact absurd rfl (hfirst tag content)
      | _ => rfl
    rw [hskip child row hchild, hskip other others hother]
    exact h.tags branch

/-- Blank text is skipped in every use. -/
lemma blank {raw : String} (hraw : Text.allBlank raw = true) (h : UsedAlike row others) :
    UsedAlike row (.text raw :: others) where
  nodes := by
    have hclean := Text.clean_of_allBlank hraw
    refine h.nodes.trans ?_
    constructor <;> simp [lowerChildren, lowerChild, hclean, Reported.causes]
  branch branch := h.branch branch
  cases position other seen := by
    rw [lowerCases.eq_3 _ _ _ _ (by simp), Child.isContent, hraw]
    exact h.cases position other seen
  routes position other := by
    rw [lowerRoutes.eq_3 _ _ _ (by simp), Child.isContent, hraw]
    exact h.routes position other
  names position other names := by
    have hwords : Text.words raw.toList = [] := Text.words_of_allBlank hraw
    rw [lowerPropNames, hwords]
    exact h.names position other names
  reports position other seen := by
    rw [reportBranches.eq_3 _ _ _ _ (by simp), Child.isContent, hraw]
    exact h.reports position other seen
  tags branch := h.tags branch

end UsedAlike

/-! ## Elements -/

section Element

variable {tag other : Tag} {content otherContent : List Child}

/-- Properties are listed the same, if an empty list is taken for no list at all. -/
lemma alike_lowerProps (h : UsedAlike content otherContent) :
    Alike Node.erased (lowerProps tag content) (lowerProps other otherContent) := by
  have hlist : ∀ (tag : Tag) (content : List Child), Alike Node.erased (lowerProps tag content)
      (do return .props false (← lowerPropNames tag.position [] content)) := by
    intro tag content
    rw [lowerProps]
    split_ifs with hempty
    · obtain rfl := List.isEmpty_iff.mp hempty
      exact ⟨rfl, rfl⟩
    · exact .refl ..
  refine (hlist tag content).trans (.trans ?_ (hlist other otherContent).symm)
  exact (h.names ..).andThen fun names => .refl ..

lemma alike_lowerLoop (htag : tag.unplaced = other.unplaced) (h : UsedAlike content otherContent) :
    Alike Node.erased (lowerLoop tag fun _ => lowerChildren content)
      (lowerLoop other fun _ => lowerChildren otherContent) := by
  rw [lowerLoop, lowerLoop, expression?_of_unplaced htag, binding?_of_unplaced htag]
  refine .andThen (.orElse ..) fun items => h.nodes.bind fun nodes otherNodes hnodes => ?_
  split_ifs
  · refine .pure ?_
    simp [Node.erased, erasedNodes_eq_map, hnodes]
  · refine .pure ?_
    simp [Node.erased, erasedNodes_eq_map, hnodes]

lemma alike_lowerRoute (htag : tag.unplaced = other.unplaced) (h : UsedAlike content otherContent) :
    Alike Route.erased (lowerRoute tag fun _ => lowerChildren content)
      (lowerRoute other fun _ => lowerChildren otherContent) := by
  have hpath : Alike id (lowerPath tag) (lowerPath other) :=
    tag.alike_lowerPath.symm.trans (htag ▸ other.alike_lowerPath)
  rw [lowerRoute, lowerRoute, binding?_of_unplaced htag]
  refine hpath.andThen fun path => h.nodes.bind fun nodes otherNodes hnodes => .pure ?_
  simp [Route.erased, hnodes]

lemma branchAlias_of_usedAlike (h : UsedAlike content otherContent) (branch : AsyncBranch)
    (default : String) :
    branchAlias branch default content = branchAlias branch default otherContent := by
  have hbinding : ∀ found : Option Tag, (found.bind (Tag.binding? · "let"))
      = (found.map Tag.unplaced).bind (Tag.binding? · "let") := by
    intro found
    cases found with
    | none => rfl
    | some tag => exact (tag.binding?_unplaced "let").symm
  rw [branchAlias, branchAlias, hbinding, h.tags branch, ← hbinding]

lemma alike_lowerAsync (htag : tag.unplaced = other.unplaced) (h : UsedAlike content otherContent) :
    Alike Node.erased (lowerAsync tag content fun branch => lowerBranch branch content)
      (lowerAsync other otherContent fun branch => lowerBranch branch otherContent) := by
  rw [lowerAsync, lowerAsync]
  simp only [expression?_of_unplaced htag, branchAlias_of_usedAlike h]
  refine .andThen (.orElse ..) fun promise => (h.reports ..).andThen fun _ => ?_
  refine (h.branch .done).bind fun done otherDone hdone => ?_
  refine (h.branch .failed).bind fun failed otherFailed hfailed => ?_
  refine (h.branch .loading).bind fun loading otherLoading hloading => .pure ?_
  simp [Node.erased, erasedNodes_eq_map, hdone, hfailed, hloading]

/-- **An element is lowered alike** if its tag says the same and its content is used alike. -/
lemma alike_lowerElement (htag : tag.unplaced = other.unplaced)
    (h : UsedAlike content otherContent) :
    Alike Node.erased (lowerElement tag content (.ofChildren content))
      (lowerElement other otherContent (.ofChildren otherContent)) := by
  rw [lowerElement, lowerElement, name_of_unplaced htag]
  cases ReservedTag.ofName? other.name with
  | none =>
      have hproperties : tag.attributes.map lowerProperty = other.attributes.map lowerProperty := by
        rw [← tag.lowerProperty_unplaced, htag, other.lowerProperty_unplaced]
      refine h.nodes.bind fun nodes otherNodes hnodes => .pure ?_
      simp [Node.erased, erasedNodes_eq_map, hnodes, hproperties]
  | some reserved =>
      cases reserved with
      | state => exact tag.alike_lowerState.symm.trans (htag ▸ other.alike_lowerState)
      | props => exact alike_lowerProps h
      | ifTag =>
          have hcondition : Alike id (lowerCondition tag) (lowerCondition other) :=
            tag.alike_lowerCondition.symm.trans (htag ▸ other.alike_lowerCondition)
          refine hcondition.andThen fun condition =>
            h.nodes.bind fun nodes otherNodes hnodes => .pure ?_
          simp [Node.erased, erasedNodes_eq_map, hnodes]
      | loop => exact alike_lowerLoop htag h
      | slot => exact tag.alike_lowerSlot.symm.trans (htag ▸ other.alike_lowerSlot)
      | onMount =>
          refine h.nodes.bind fun nodes otherNodes hnodes => ?_
          have hother : nodes.any (fun node => !node.isExpression)
              = otherNodes.any fun node => !node.isExpression := by
            have hany : ∀ row : List Node,
                (row.map Node.erased).any (fun node => !node.isExpression)
                = row.any fun node => !node.isExpression := by
              intro row
              rw [List.any_map]
              congr 1
              exact funext fun node => by rw [Function.comp_apply, isExpression_erased]
            rw [← hany nodes, hnodes, hany otherNodes]
          have hnode : (Node.onMount nodes).erased = (Node.onMount otherNodes).erased := by
            simp [Node.erased, erasedNodes_eq_map, hnodes]
          rw [hother]
          split_ifs
          · exact .andThen (.warn ..) fun _ => .pure hnode
          · exact .pure hnode
      | async => exact alike_lowerAsync htag h
      | switch =>
          simp only [expression?_of_unplaced htag]
          refine .andThen (.orElse ..) fun value =>
            (h.cases ..).bind fun cases otherCases hcases => .pure ?_
          simp [Node.erased, erasedCases_eq_map, hcases]
      | router =>
          refine (h.routes ..).bind fun routes otherRoutes hroutes => .pure ?_
          simp [Node.erased, erasedRoutes_eq_map, hroutes]
      | route =>
          refine (alike_lowerRoute htag h).bind fun route otherRoute hroute => .pure ?_
          simp [Node.erased, erasedRoutes_eq_map, hroute]

lemma alike_lowerChild_element (htag : tag.unplaced = other.unplaced)
    (h : UsedAlike content otherContent) :
    Alike (Option.map Node.erased) (lowerChild (.element tag content))
      (lowerChild (.element other otherContent)) := by
  have htarget : tag.slotTarget? = other.slotTarget? := by
    rw [← tag.slotTarget?_unplaced, htag, other.slotTarget?_unplaced]
  have hwithout : tag.withoutSlot.unplaced = other.withoutSlot.unplaced := by
    rw [← tag.withoutSlot_unplaced, htag, other.withoutSlot_unplaced]
  rw [lowerChild_element, lowerChild_element, htarget]
  cases other.slotTarget? with
  | none =>
      refine (alike_lowerElement htag h).bind fun node otherNode hnode => .pure ?_
      simp [hnode]
  | some name =>
      refine (alike_lowerElement hwithout h).bind fun node otherNode hnode => .pure ?_
      simp [Node.erased, hnode]

lemma branchTag?_element (branch : AsyncBranch) (tag : Tag) (content row : List Child) :
    branchTag? branch (.element tag content :: row)
      = if AsyncBranch.ofName? tag.name = some branch then some tag else branchTag? branch row := by
  simp only [branchTag?, List.findSome?_cons]
  split_ifs <;> rfl

/-- Elements are used alike in every use if their tags say the same and their content is used
alike. -/
lemma UsedAlike.element {row others : List Child} (htag : tag.unplaced = other.unplaced)
    (hcontent : UsedAlike content otherContent) (h : UsedAlike row others) :
    UsedAlike (.element tag content :: row) (.element other otherContent :: others) where
  nodes := by
    rw [lowerChildren, lowerChildren]
    refine (alike_lowerChild_element htag hcontent).bind fun first otherFirst hfirst =>
      h.nodes.bind fun more otherMore hmore => .pure ?_
    rw [List.map_append, List.map_append, hmore, ← Option.toList_map, ← Option.toList_map, hfirst]
  branch branch := by
    rw [lowerBranch, lowerBranch, name_of_unplaced htag]
    split_ifs
    · exact hcontent.nodes
    · exact h.branch branch
  cases position otherPosition seen := by
    have hvalue : Alike id (lowerCaseValue tag) (lowerCaseValue other) :=
      tag.alike_lowerCaseValue.symm.trans (htag ▸ other.alike_lowerCaseValue)
    rw [lowerCases, lowerCases, name_of_unplaced htag]
    split_ifs
    · refine hvalue.andThen fun value => ?_
      split_ifs
      · exact .andThen (.warn ..) fun _ => h.cases position otherPosition seen
      · refine hcontent.nodes.bind fun nodes otherNodes hnodes =>
          (h.cases position otherPosition (value :: seen)).bind fun more otherMore hmore => .pure ?_
        simp [Case.erased, hnodes, hmore]
    · exact .andThen (.warn ..) fun _ => h.cases position otherPosition seen
  routes position otherPosition := by
    rw [lowerRoutes, lowerRoutes, name_of_unplaced htag]
    split_ifs
    · refine (alike_lowerRoute htag hcontent).bind fun route otherRoute hroute =>
        (h.routes position otherPosition).bind fun more otherMore hmore => .pure ?_
      simp [hroute, hmore]
    · exact .andThen (.warn ..) fun _ => h.routes position otherPosition
  names position otherPosition names := by
    rw [lowerPropNames, lowerPropNames]
    · exact .andThen (.warn ..) fun _ => h.names position otherPosition names
    · simp
    · simp
  reports position otherPosition seen := by
    rw [reportBranches, reportBranches, name_of_unplaced htag]
    cases AsyncBranch.ofName? other.name with
    | none => exact .andThen (.warn ..) fun _ => h.reports position otherPosition seen
    | some branch =>
        simp only []
        split_ifs
        · exact .andThen (.warn ..) fun _ => h.reports position otherPosition seen
        · exact h.reports position otherPosition (branch :: seen)
  tags branch := by
    rw [branchTag?_element, branchTag?_element, name_of_unplaced htag]
    split_ifs
    · exact congrArg some htag
    · exact h.tags branch

end Element

/-- The names in a text are added alike wherever it stands. -/
lemma alike_foldlM_addProp (position other : Position) (found names : List String) :
    Alike id (found.foldlM (addProp position) names) (found.foldlM (addProp other) names) := by
  induction found generalizing names with
  | nil => exact .refl ..
  | cons name rest ih =>
      rw [List.foldlM_cons, List.foldlM_cons]
      refine .andThen ?_ ih
      rw [addProp, addProp]
      split_ifs
      · exact .andThen (.warn ..) fun _ => .refl ..
      · exact .refl ..

/-- **Rows that differ in layout only are used alike.** -/
theorem Markup.Relaid.usedAlike {row others : List Child} (h : Relaid row others) :
    UsedAlike row others := by
  induction h with
  | nil => exact .nil
  | blank hraw _ ih => exact ih.blank hraw
  | unblank hraw _ ih => exact (ih.symm.blank hraw).symm
  | text raw _ ih =>
      refine ih.cons (by simp) (by simp) (.refl ..) rfl fun position other names row others h => ?_
      exact .andThen (alike_foldlM_addProp ..) fun names => h.names position other names
  | expression e _ ih =>
      refine ih.cons (by simp) (by simp) (.refl ..) rfl fun position other names row others h => ?_
      exact .andThen (.warn ..) fun _ => h.names position other names
  | element htag _ _ hcontent ih => exact .element htag hcontent ih
  | fragment position otherPosition _ _ hcontent ih =>
      refine ih.cons (by simp) (by simp) ?_ rfl fun position other names row others h => ?_
      · rw [lowerChild, lowerChild]
        refine hcontent.nodes.bind fun nodes otherNodes hnodes => .pure ?_
        simp [Node.erased, erasedNodes_eq_map, hnodes]
      · exact .andThen (.warn ..) fun _ => h.names position other names

/-! ## Programs -/

/-- Rows of statements that differ in layout only. -/
inductive Markup.RelaidStatements : List Statement → List Statement → Prop
  | nil : RelaidStatements [] []
  /-- A statement that is no markup is added. -/
  | other {row others : List Statement} (text : String) (h : RelaidStatements row others) :
      RelaidStatements row (.other text :: others)
  /-- A statement that is no markup is left out. -/
  | unother {row others : List Statement} (text : String) (h : RelaidStatements row others) :
      RelaidStatements (.other text :: row) others
  | element {row others : List Statement} {tag otherTag : Tag} {content otherContent : List Child}
      (htag : tag.unplaced = otherTag.unplaced) (hcontent : Relaid content otherContent)
      (h : RelaidStatements row others) :
      RelaidStatements (.element tag content :: row) (.element otherTag otherContent :: others)
  | fragment {row others : List Statement} {content otherContent : List Child}
      (position otherPosition : Position) (hcontent : Relaid content otherContent)
      (h : RelaidStatements row others) :
      RelaidStatements (.fragment content position :: row)
        (.fragment otherContent otherPosition :: others)

/-- Programs that differ in layout only. -/
def Markup.Program.Relaid (program other : Program) : Prop :=
  RelaidStatements program.body other.body

lemma alike_lowerStatements {row others : List Statement} (h : RelaidStatements row others) :
    Alike (List.map Node.erased) (lowerStatements row) (lowerStatements others) := by
  -- statements that are alike stand in front of rows that are alike
  have hcons : ∀ {first otherFirst : Statement} {row others : List Statement},
      Alike (Option.map Node.erased) (lowerStatement first) (lowerStatement otherFirst) →
      Alike (List.map Node.erased) (lowerStatements row) (lowerStatements others) →
      Alike (List.map Node.erased) (lowerStatements (first :: row))
        (lowerStatements (otherFirst :: others)) := by
    intro first otherFirst row others hfirst hrow
    rw [lowerStatements, lowerStatements]
    refine hfirst.bind fun node otherNode hnode => hrow.bind fun more otherMore hmore => .pure ?_
    rw [List.map_append, List.map_append, hmore, ← Option.toList_map, ← Option.toList_map, hnode]
  have hother : ∀ (text : String) (row : List Statement),
      Alike (List.map Node.erased) (lowerStatements (.other text :: row))
      (lowerStatements row) := by
    intro text row
    constructor <;> simp [lowerStatements, lowerStatement, Reported.causes]
  induction h with
  | nil => exact .refl ..
  | other text _ ih => exact ih.trans (hother text _).symm
  | unother text _ ih => exact (hother text _).trans ih
  | element htag hcontent _ ih =>
      refine hcons ?_ ih
      refine (alike_lowerElement htag hcontent.usedAlike).bind fun node otherNode hnode => .pure ?_
      simp [hnode]
  | fragment position otherPosition hcontent _ ih =>
      refine hcons ?_ ih
      refine hcontent.usedAlike.nodes.bind fun nodes otherNodes hnodes => .pure ?_
      simp [Node.erased, erasedNodes_eq_map, hnodes]

/-- **Layout does not show.**  Programs that differ in layout only are lowered with warnings about
    the same, and generation gives the same module with the same warnings for both, or the same
    error up to its position. -/
theorem layout_does_not_show {program other : Program} (h : program.Relaid other) (name : String)
    (options : Options) :
    program.lower.causes = other.lower.causes
      ∧ (generate program.lower.value name options).mapError GenerationError.unplaced
        = (generate other.lower.value name options).mapError GenerationError.unplaced := by
  have halike := alike_lowerStatements h
  have hcauses : ∀ program : Program, program.lower.causes
      = (lowerStatements program.body).causes := by
    intro program
    simp [Program.lower, Reported.causes]
  have herased : program.lower.value.erased = other.lower.value.erased :=
    congrArg Document.mk halike.value
  refine ⟨by rw [hcauses, hcauses, halike.causes], ?_⟩
  rw [← generate_erased, herased, generate_erased]

lemma eq_ok_of_mapError {ε α : Type} {view : ε → ε} {result : Except ε α} {value : α}
    (h : result.mapError view = .ok value) : result = .ok value := by
  cases result <;> simp_all [Except.mapError]

/-- A greeting in one line, with all its props and a state. -/
def compactGreeting (attributes : List Attribute) : Program :=
  ⟨[.element ⟨"div", [], false, ⟨1, 1⟩⟩ [.element ⟨"props", [], true, ⟨1, 6⟩⟩ [],
    .element ⟨"state", attributes, true, ⟨1, 15⟩⟩ [], .text "hello"]]⟩

/-- The greeting with a comment in front, one tag in each line, and a closing tag for the props. -/
def laidOutGreeting (attributes : List Attribute) : Program :=
  ⟨[.other "// greets", .element ⟨"div", [], false, ⟨2, 1⟩⟩ [.text "\n  ",
    .element ⟨"props", [], false, ⟨3, 3⟩⟩ [.text " "], .text "\n  ",
    .element ⟨"state", attributes, true, ⟨4, 3⟩⟩ [], .text "hello"]]⟩

lemma relaid_greeting {attributes others : List Attribute}
    (h : attributes.map Attribute.unplaced = others.map Attribute.unplaced) :
    (compactGreeting attributes).Relaid (laidOutGreeting others) := by
  have hprops : Relaid [] [.text " "] := .blank (by decide) .nil
  have hstate : (⟨"state", attributes, true, ⟨1, 15⟩⟩ : Tag).unplaced
      = (⟨"state", others, true, ⟨4, 3⟩⟩ : Tag).unplaced := by
    simp [Tag.unplaced, h]
  have hcontent : Relaid [.element ⟨"props", [], true, ⟨1, 6⟩⟩ [],
      .element ⟨"state", attributes, true, ⟨1, 15⟩⟩ [], .text "hello"]
      [.text "\n  ", .element ⟨"props", [], false, ⟨3, 3⟩⟩ [.text " "], .text "\n  ",
        .element ⟨"state", others, true, ⟨4, 3⟩⟩ [], .text "hello"] :=
    .blank (by decide) <| .element rfl hprops <| .blank (by decide) <| .element hstate .nil <|
      .text "hello" .nil
  exact .other _ (.element rfl hcontent .nil)

/-- The blank in the props makes them a list of names, and the state has moved.  Both give the same
module if the state has a name, and fail alike if it has none. -/
theorem layout_of_greeting :
    (compactGreeting [.named "count" none ⟨1, 22⟩]).lower.value = ⟨[.component "div" []
      [.props true [], .state ⟨some "count", .bare, false, ⟨1, 15⟩⟩, .text "hello"]]⟩
    ∧ (laidOutGreeting [.named "count" none ⟨4, 10⟩]).lower.value = ⟨[.component "div" []
      [.props false [], .state ⟨some "count", .bare, false, ⟨4, 3⟩⟩, .text "hello"]]⟩
    ∧ (∃ result,
      generate (compactGreeting [.named "count" none ⟨1, 22⟩]).lower.value "Greeting" {}
        = .ok result
      ∧ generate (laidOutGreeting [.named "count" none ⟨4, 10⟩]).lower.value "Greeting" {}
        = .ok result)
    ∧ generate (compactGreeting []).lower.value "Greeting" {} = .error (.missingStateName ⟨1, 15⟩)
    ∧ (generate (compactGreeting []).lower.value "Greeting" {}).mapError GenerationError.unplaced
      = (generate (laidOutGreeting []).lower.value "Greeting" {}).mapError
        GenerationError.unplaced := by
  have hnamed := layout_does_not_show (relaid_greeting
    (show [Attribute.named "count" none ⟨1, 22⟩].map Attribute.unplaced
      = [Attribute.named "count" none ⟨4, 10⟩].map Attribute.unplaced from rfl)) "Greeting" {}
  have hnameless := layout_does_not_show (@relaid_greeting [] [] rfl) "Greeting" {}
  obtain ⟨result, hresult⟩ : ∃ result,
      generate (compactGreeting [.named "count" none ⟨1, 22⟩]).lower.value "Greeting" {}
        = .ok result := ⟨_, rfl⟩
  refine ⟨rfl, rfl, ⟨result, hresult, ?_⟩, rfl, hnameless.2⟩
  rw [hresult] at hnamed
  exact eq_ok_of_mapError hnamed.2.symm

end Componentry
