import Mathlib.Algebra.BigOperators.Group.List.Basic
import Mathlib.Algebra.Order.BigOperators.Group.List
import Mathlib.Data.Multiset.AddSub
import Mathlib.Algebra.Order.Group.Multiset
import Componentry.Proofs.Lowering.Reach
import Componentry.Proofs.Text.Spacing

/-!
# Content is not lost in silence

The leaves of markup are its texts and expressions.  Lowering drops some: content outside of the
branches, cases and routes of a block, and branches and cases that are there already.  Each time it
says so.

**One relation.**  `Keeps silent kept all` says that `kept` is part of `all`, and all of it if
nothing was reported.  It is closed under sums, so a row of children is settled child by child, and
a child that is dropped has to be reported (`Keeps.dropped`) or to have no leaves.

**One step.**  `keeps_lowerElement` goes through the tags: given that each child that is passed on
keeps its leaves, the element does.  Branches are picked by kind, in an order of their own, which is
why leaves are counted as multisets.

**All steps.**  The induction over reached markup is `keeps_lowerChild`.
-/

namespace Componentry

open Markup

/-! ## Leaves -/

/-- A piece of content: a text without its layout, or the source of an expression. -/
inductive Leaf where
  | text (value : String)
  | expression (source : String)
deriving DecidableEq, Repr

/-- The leaf that a node is. -/
def Node.leaf? : Node → Option Leaf
  | .text value => some (.text value)
  | .expression e => some (.expression e.source)
  | _ => none

/-- The leaves among nodes. -/
def leavesAmong (nodes : List Node) : Multiset Leaf := ↑(nodes.filterMap Node.leaf?)

/-- The leaves of a document. -/
def Document.leaves (document : Document) : Multiset Leaf := leavesAmong document.nodes

namespace Markup

/-- Whether a tag has content of its own.  Declarations and slots do not. -/
def Tag.takesContent (tag : Tag) : Bool :=
  match ReservedTag.ofName? tag.name with
  | some .state | some .slot | some .props => false
  | _ => true

mutual

/-- The leaves of a child, at any depth.  Every text that is not all blank is one, without its
layout. -/
def Child.leaves : Child → Multiset Leaf
  | .element tag children => if tag.takesContent then leavesOf children else 0
  | .fragment children _ => leavesOf children
  | .text raw => if Text.allBlank raw then 0 else {.text ((Text.clean raw).getD "")}
  | .expression e => if e.isEmpty then 0 else {.expression e.source}

/-- The leaves of a row of children. -/
def leavesOf : List Child → Multiset Leaf
  | [] => 0
  | child :: rest => child.leaves + leavesOf rest

end

/-- The leaves of a statement. -/
def Statement.leaves : Statement → Multiset Leaf
  | .element tag children => if tag.takesContent then leavesOf children else 0
  | .fragment children _ => leavesOf children
  | .other _ => 0

/-- The leaves of the markup of a program. -/
def Program.leaves (program : Program) : Multiset Leaf :=
  (program.body.map Statement.leaves).sum

end Markup

/-! ## Keeping leaves -/

/-- Some leaves are kept of all, and all of them if nothing is reported. -/
structure Keeps (silent : Prop) (kept all : Multiset Leaf) : Prop where
  le : kept ≤ all
  eq : silent → kept = all

namespace Keeps

variable {silent quiet : Prop} {kept all more others : Multiset Leaf}

lemma refl (all : Multiset Leaf) : Keeps silent all all := ⟨le_rfl, fun _ => rfl⟩

lemma add (h : Keeps silent kept all) (hmore : Keeps silent more others) :
    Keeps silent (kept + more) (all + others) :=
  ⟨add_le_add h.le hmore.le, fun hsilent => by rw [h.eq hsilent, hmore.eq hsilent]⟩

lemma mono (h : Keeps silent kept all) (himp : quiet → silent) : Keeps quiet kept all :=
  ⟨h.le, fun hquiet => h.eq (himp hquiet)⟩

/-- What is dropped is reported. -/
lemma dropped (h : ¬ silent) (all : Multiset Leaf) : Keeps silent 0 all :=
  ⟨Multiset.zero_le all, fun hsilent => absurd hsilent h⟩

/-- Some leaves are dropped in front of others. -/
lemma dropped_add (h : ¬ silent) (hmore : Keeps quiet more others) (himp : silent → quiet) :
    Keeps silent more (all + others) := by
  rw [← zero_add more]
  exact (dropped h all).add (hmore.mono himp)

/-- What each item keeps, all of them keep together. -/
lemma sum {ι : Type} {items : List ι} {silent : ι → Prop} {kept all : ι → Multiset Leaf}
    (h : ∀ item ∈ items, Keeps (silent item) (kept item) (all item)) :
    Keeps (∀ item ∈ items, silent item) (items.map kept).sum (items.map all).sum := by
  induction items with
  | nil => exact .refl 0
  | cons item rest ih =>
      rw [List.forall_mem_cons] at h
      rw [List.map_cons, List.map_cons, List.sum_cons, List.sum_cons]
      exact (h.1.mono fun hsilent => hsilent item List.mem_cons_self).add
        ((ih h.2).mono fun hsilent => (List.forall_mem_cons.mp hsilent).2)

end Keeps

section Row

variable {kept : Child → Multiset Leaf}

/-- A child keeps its leaves. -/
def KeepsChild (kept : Child → Multiset Leaf) (child : Child) : Prop :=
  Keeps ((lowerChild child).warnings = []) (kept child) child.leaves

lemma leavesOf_eq_sum (row : List Child) : leavesOf row = (row.map Child.leaves).sum := by
  induction row with
  | nil => rfl
  | cons child rest ih => rw [leavesOf, ih, List.map_cons, List.sum_cons]

/-- A row of children keeps its leaves if each child does. -/
lemma keeps_row {row : List Child} (h : ∀ child ∈ row, KeepsChild kept child) :
    Keeps ((lowerChildren row).warnings = []) (row.map kept).sum (leavesOf row) := by
  rw [lowerChildren_warnings, List.flatMap_eq_nil_iff, leavesOf_eq_sum]
  exact Keeps.sum h

/-- Layout has no leaves. -/
lemma leaves_of_isContent {child : Child} (h : child.isContent = false) : child.leaves = 0 := by
  cases child with
  | text raw =>
      rw [Child.leaves, if_pos (by simpa [Child.isContent] using h)]
  | expression e =>
      rw [Child.leaves, if_pos (by simpa [Child.isContent] using h)]
  | element tag children => exact absurd h (by simp [Child.isContent])
  | fragment children position => exact absurd h (by simp [Child.isContent])

/-! ## Cases and routes -/

lemma leaves_element {tag : Tag} {row : List Child} (h : tag.takesContent = true) :
    (Child.element tag row).leaves = leavesOf row := by
  rw [Child.leaves, if_pos h]

/-- A child that has no place is reported, unless it is layout. -/
lemma keeps_skipped {child : Child} {silent quiet : Prop} {more others : Multiset Leaf}
    (h : Keeps quiet more others) (himp : silent → quiet)
    (hreport : child.isContent = true → ¬ silent) :
    Keeps silent more (child.leaves + others) := by
  cases hcontent : child.isContent with
  | false =>
      rw [leaves_of_isContent hcontent, zero_add]
      exact h.mono himp
  | true => exact Keeps.dropped_add (hreport hcontent) h himp

lemma keeps_cases (position : Position) {seen : List CaseValue} {children : List Child}
    (h : ∀ child ∈ caseContent seen children, KeepsChild kept child) :
    Keeps ((lowerCases position seen children).warnings = [])
      ((caseContent seen children).map kept).sum (leavesOf children) := by
  fun_induction caseContent seen children with
  | case1 => exact .refl 0
  | case2 seen tag row rest hcase value hseen ih =>
      rw [lowerCases, if_pos hcase, leavesOf, Reported.warnings_bind, if_pos hseen]
      exact Keeps.dropped_add (by simp) (ih h) (by simp)
  | case3 seen tag row rest hcase value hseen ih =>
      rw [List.forall_mem_append] at h
      have htag : tag.takesContent = true := by
        rw [Tag.takesContent, hcase]
        rfl
      rw [lowerCases, if_pos hcase, leavesOf, leaves_element htag, List.map_append, List.sum_append,
        Reported.warnings_bind, if_neg hseen]
      refine ((keeps_row h.1).mono ?_).add ((ih h.2).mono ?_)
      · simp +contextual
      · simp +contextual [value]
  | case4 seen tag row rest hcase ih =>
      rw [lowerCases, if_neg hcase, leavesOf]
      exact Keeps.dropped_add (by simp) (ih h) (by simp)
  | case5 seen child rest hchild ih =>
      rw [lowerCases.eq_3 _ _ _ _ hchild, leavesOf]
      refine keeps_skipped (ih h) ?_ fun hcontent => by simp [hcontent]
      split_ifs <;> simp

lemma keeps_routes (position : Position) {children : List Child}
    (h : ∀ child ∈ routeContent children, KeepsChild kept child) :
    Keeps ((lowerRoutes position children).warnings = [])
      ((routeContent children).map kept).sum (leavesOf children) := by
  fun_induction routeContent children with
  | case1 => exact .refl 0
  | case2 tag row rest hroute ih =>
      rw [List.forall_mem_append] at h
      have htag : tag.takesContent = true := by
        rw [Tag.takesContent, hroute]
      rw [lowerRoutes, if_pos hroute, leavesOf, leaves_element htag, List.map_append,
        List.sum_append]
      refine ((keeps_row h.1).mono ?_).add ((ih h.2).mono ?_)
      · simp +contextual [lowerRoute]
      · simp +contextual
  | case3 tag row rest hroute ih =>
      rw [lowerRoutes, if_neg hroute, leavesOf]
      exact Keeps.dropped_add (by simp) (ih h) (by simp)
  | case4 child rest hchild ih =>
      rw [lowerRoutes.eq_3 _ _ _ hchild, leavesOf]
      refine keeps_skipped (ih h) ?_ fun hcontent => by simp [hcontent]
      split_ifs <;> simp

/-! ## Branches -/

/-- The branch of an element has content of its own. -/
lemma takesContent_of_branch {tag : Tag} {branch : AsyncBranch}
    (h : AsyncBranch.ofName? tag.name = some branch) : tag.takesContent = true := by
  unfold AsyncBranch.ofName? at h
  unfold Tag.takesContent
  split at h <;> simp_all [ReservedTag.ofName?]

lemma branchContent_of_ne {tag : Tag} {row rest : List Child} {branch other : AsyncBranch}
    (hname : AsyncBranch.ofName? tag.name = some branch) (h : other ≠ branch) :
    branchContent other (.element tag row :: rest) = branchContent other rest := by
  rw [branchContent, if_neg]
  rw [hname]
  exact fun heq => h (Option.some.inj heq).symm

/-- The first branches of some kinds keep the leaves of all children, if those kinds are what is
    left to be seen. -/
lemma keeps_branches (position : Position) {seen : List AsyncBranch} {children : List Child}
    {branches : List AsyncBranch} (hnodup : branches.Nodup)
    (hseen : ∀ branch, branch ∈ branches ↔ branch ∉ seen)
    (h : ∀ branch ∈ branches, ∀ child ∈ branchContent branch children, KeepsChild kept child) :
    Keeps ((reportBranches position seen children).warnings = []
        ∧ ∀ branch ∈ branches, (lowerChildren (branchContent branch children)).warnings = [])
      (branches.map fun branch => ((branchContent branch children).map kept).sum).sum
      (leavesOf children) := by
  fun_induction reportBranches position seen children generalizing branches with
  | case1 seen =>
      have hzero : (branches.map fun branch => ((branchContent branch []).map kept).sum).sum
          = 0 := by
        simp [branchContent]
      rw [hzero]
      exact .refl 0
  | case2 seen tag row rest hname ih =>
      simp only [branchContent, hname, reduceCtorEq, if_false] at h ⊢
      rw [leavesOf]
      exact Keeps.dropped_add (by simp) (ih hnodup hseen h) (by simp)
  | case3 seen tag row rest branch hname hcontains ih =>
      -- a kind that was seen is none of those left
      have hrest : ∀ other ∈ branches,
          branchContent other (.element tag row :: rest) = branchContent other rest := by
        refine fun other hmem => branchContent_of_ne hname ?_
        rintro rfl
        exact (hseen other).mp hmem (by simpa using hcontains)
      rw [leavesOf, List.map_congr_left fun other hmem => by rw [hrest other hmem]]
      refine Keeps.dropped_add (by simp) (ih hnodup hseen fun other hmem => ?_) (by simp)
      rw [← hrest other hmem]
      exact h other hmem
  | case4 seen tag row rest branch hname hcontains ih =>
      -- the branch takes its kind off those left
      have hmem : branch ∈ branches := (hseen branch).mpr (by simpa using hcontains)
      have hrow : branchContent branch (.element tag row :: rest) = row := by
        rw [branchContent, if_pos hname]
      have hrest : ∀ other ∈ branches.erase branch,
          branchContent other (.element tag row :: rest) = branchContent other rest :=
        fun other hother => branchContent_of_ne hname (hnodup.mem_erase_iff.mp hother).1
      have hleft : ∀ other, other ∈ branches.erase branch ↔ other ∉ branch :: seen := by
        intro other
        rw [hnodup.mem_erase_iff, hseen, List.mem_cons, not_or]
      have hcontent : ∀ other ∈ branches.erase branch, ∀ child ∈ branchContent other rest,
          KeepsChild kept child := by
        intro other hother
        rw [← hrest other hother]
        exact h other (List.mem_of_mem_erase hother)
      rw [leavesOf, leaves_element (takesContent_of_branch hname),
        ((List.perm_cons_erase hmem).map _).sum_eq, List.map_cons, List.sum_cons, hrow,
        List.map_congr_left fun (other : AsyncBranch) hother => by rw [hrest other hother]]
      refine ((keeps_row ?_).mono ?_).add ((ih (hnodup.erase branch) hleft hcontent).mono ?_)
      · exact hrow ▸ h branch hmem
      · rintro ⟨-, hsilent⟩
        exact hrow ▸ hsilent branch hmem
      · rintro ⟨hreport, hsilent⟩
        refine ⟨hreport, fun other hother => ?_⟩
        rw [← hrest other hother]
        exact hsilent other (List.mem_of_mem_erase hother)
  | case5 =>
      rename_i seen child rest hchild _ hcontent ih
      simp only [branchContent.eq_3 _ _ _ hchild] at h ⊢
      rw [leavesOf]
      exact Keeps.dropped_add (by simp) (ih hnodup hseen h) (by simp)
  | case6 =>
      rename_i seen child rest hchild _ hcontent ih
      simp only [branchContent.eq_3 _ _ _ hchild] at h ⊢
      rw [leavesOf, leaves_of_isContent (by simpa using hcontent), zero_add]
      exact ih hnodup hseen h

/-! ## Elements -/

/-- An asynchronous block keeps the leaves of its branches. -/
lemma keeps_async {tag : Tag} {children : List Child}
    (h : ∀ branch, ∀ child ∈ branchContent branch children, KeepsChild kept child) :
    Keeps ((lowerAsync tag children fun branch => lowerBranch branch children).warnings = [])
      ((branchContent .done children ++ branchContent .failed children
        ++ branchContent .loading children).map kept).sum (leavesOf children) := by
  have hall : ∀ branch : AsyncBranch, branch ∈ [AsyncBranch.done, .failed, .loading]
      ↔ branch ∉ [] := by
    rintro (_ | _ | _) <;> simp
  have hkeeps := keeps_branches tag.position (by decide) hall fun branch _ => h branch
  simp only [List.map_cons, List.map_nil, List.sum_cons, List.sum_nil, add_zero] at hkeeps
  rw [List.map_append, List.map_append, List.sum_append, List.sum_append, add_assoc]
  refine hkeeps.mono fun hsilent => ?_
  simp only [lowerAsync, Reported.warnings_bind, List.append_eq_nil_iff, lowerBranch_eq] at hsilent
  obtain ⟨-, hreport, hdone, hfailed, hloading, -⟩ := hsilent
  refine ⟨hreport, ?_⟩
  rintro (_ | _ | _) -
  · exact hdone
  · exact hfailed
  · exact hloading

lemma lowerLoop_warnings {tag : Tag} {nodes : Unit → Reported (List Node)}
    (h : (lowerLoop tag nodes).warnings = []) : (nodes ()).warnings = [] := by
  simp only [lowerLoop, Reported.warnings_bind, List.append_eq_nil_iff] at h
  exact h.2.1

/-- **One step.**  An element keeps its leaves if the children that it passes on do. -/
lemma keeps_lowerElement (tag : Tag) {children : List Child}
    (h : ∀ child ∈ tag.content children, KeepsChild kept child) :
    Keeps ((lowerElement tag children (.ofChildren children)).warnings = [])
      ((tag.content children).map kept).sum
      (if tag.takesContent then leavesOf children else 0) := by
  cases hname : ReservedTag.ofName? tag.name with
  | none =>
      simp only [lowerElement, Tag.content, Tag.takesContent, hname] at h ⊢
      exact (keeps_row h).mono (by simp [Contents.ofChildren])
  | some reserved =>
      simp only [lowerElement, Tag.content, Tag.takesContent, hname] at h ⊢
      cases reserved with
      | state => exact .refl 0
      | props => exact .refl 0
      | slot => exact .refl 0
      | ifTag => exact (keeps_row h).mono (by simp +contextual [Contents.ofChildren])
      | loop => exact (keeps_row h).mono lowerLoop_warnings
      | onMount => exact (keeps_row h).mono (by simp +contextual [Contents.ofChildren])
      | async =>
          refine keeps_async fun branch child hchild => h child ?_
          rw [List.mem_append, List.mem_append]
          cases branch with
          | done => exact Or.inl (Or.inl hchild)
          | failed => exact Or.inl (Or.inr hchild)
          | loading => exact Or.inr hchild
      | switch =>
          exact (keeps_cases tag.position h).mono (by simp +contextual [Contents.ofChildren])
      | router =>
          exact (keeps_routes tag.position h).mono (by simp +contextual [Contents.ofChildren])
      | route => exact (keeps_row h).mono (by simp +contextual [Contents.ofChildren, lowerRoute])

end Row

/-! ## All steps -/

lemma leavesAmong_append (nodes others : List Node) :
    leavesAmong (nodes ++ others) = leavesAmong nodes + leavesAmong others := by
  rw [leavesAmong, List.filterMap_append, ← Multiset.coe_add]
  rfl

lemma leavesAmong_flatMap {α : Type} (row : List α) (f : α → List Node) :
    leavesAmong (row.flatMap f) = (row.map fun a => leavesAmong (f a)).sum := by
  induction row with
  | nil => rfl
  | cons a rest ih => rw [List.flatMap_cons, leavesAmong_append, ih, List.map_cons, List.sum_cons]

/-- Blocks and components are no leaves. -/
lemma leavesAmong_shell (tag : Tag) (children : List Child) :
    leavesAmong (tag.shell children) = 0 := by
  have hnode : (lowerElement tag children (.ofChildren children)).value.leaf? = none := by
    cases hname : ReservedTag.ofName? tag.name with
    | none =>
        rw [lowerElement_component children _ hname]
        rfl
    | some reserved =>
        have hblock := isBlock_lowerElement children (.ofChildren children) hname
        cases hvalue : (lowerElement tag children (.ofChildren children)).value <;>
          simp_all [Node.isBlock, Node.leaf?]
  cases hawaits : tag.awaits with
  | false => simp [Tag.shell, hawaits, leavesAmong, hnode]
  | true =>
      simp [Tag.shell, hawaits, lowerElement_of_awaits children hawaits, leavesAmong, Node.leaf?,
        Node.children, Node.inner]

/-- The leaves that lowering keeps of a child. -/
def Markup.Child.keptLeaves (child : Child) : Multiset Leaf :=
  leavesAmong (child.reached.flatMap Child.shell)

lemma Markup.Child.keptLeaves_eq (child : Child) :
    child.keptLeaves = leavesAmong child.shell + (child.content.map Child.keptLeaves).sum := by
  rw [keptLeaves, Child.reached_eq, List.flatMap_cons, leavesAmong_append, List.flatMap_assoc,
    leavesAmong_flatMap]
  rfl

/-- **All steps.**  A child keeps its leaves. -/
theorem keeps_lowerChild (child : Child) : KeepsChild Child.keptLeaves child := by
  induction child using Child.induction with
  | step child ih =>
    unfold KeepsChild
    rw [Child.keptLeaves_eq]
    cases child with
    | element tag children =>
        rw [lowerChild_element, Child.shell, Child.leaves]
        -- without its address the element has the same content
        cases tag.slotTarget? with
        | none =>
            rw [leavesAmong_shell, zero_add]
            exact (keeps_lowerElement tag ih).mono (by simp)
        | some name =>
            have hshell : leavesAmong (.slotContent name
                (lowerElement tag.withoutSlot children (.ofChildren children)).value
                  :: tag.withoutSlot.shell children) = 0 :=
              leavesAmong_shell tag.withoutSlot children
            dsimp only
            rw [hshell, zero_add]
            exact (keeps_lowerElement tag.withoutSlot ih).mono (by simp)
    | fragment children position =>
        rw [lowerChild, Child.shell, Child.leaves, ← zero_add (leavesOf children)]
        exact (Keeps.refl 0).add ((keeps_row ih).mono (by simp [Child.content]))
    | text raw =>
        rw [lowerChild, Child.shell, Child.leaves]
        split_ifs with hblank
        · rw [Text.clean_of_allBlank hblank]
          exact .refl _
        · have hword : ∃ c ∈ raw.toList, Text.isBlank c = false := by
            simpa [Text.allBlank] using hblank
          rw [Text.clean_of_word hword]
          exact .refl _
    | expression e =>
        rw [lowerChild, Child.shell, Child.leaves]
        cases e.isEmpty <;> exact .refl _

/-- A statement keeps its leaves. -/
lemma keeps_lowerStatement (statement : Statement) :
    Keeps ((lowerStatement statement).warnings = [])
      (leavesAmong (statement.shell ++ statement.reached.flatMap Child.shell))
        statement.leaves := by
  have hreached : leavesAmong (statement.reached.flatMap Child.shell)
      = (statement.content.map Child.keptLeaves).sum := by
    rw [Statement.reached, List.flatMap_assoc, leavesAmong_flatMap]
    rfl
  rw [leavesAmong_append, hreached]
  cases statement with
  | element tag children =>
      rw [Statement.shell, leavesAmong_shell, zero_add]
      exact (keeps_lowerElement tag fun child _ => keeps_lowerChild child).mono
        (by simp [lowerStatement])
  | fragment children position =>
      rw [Statement.leaves, ← zero_add (leavesOf children)]
      refine (Keeps.refl 0).add ((keeps_row fun child _ => keeps_lowerChild child).mono ?_)
      simp [lowerStatement, Statement.content]
  | other text => exact .refl 0

/-- **Content is neither invented nor lost in silence.**  The leaves of a lowered document are among
    those of the program, and are all of them if nothing is reported. -/
theorem leaves_lower (program : Program) :
    program.lower.value.leaves ≤ program.leaves
      ∧ (program.lower.warnings = [] → program.lower.value.leaves = program.leaves) := by
  have hkeeps := Keeps.sum fun statement (_ : statement ∈ program.body) =>
    keeps_lowerStatement statement
  have hleaves : program.lower.value.leaves
      = (program.body.map fun statement =>
          leavesAmong (statement.shell ++ statement.reached.flatMap Child.shell)).sum := by
    rw [Document.leaves, nodes_lower, leavesAmong_flatMap]
  have hwarnings : program.lower.warnings
      = program.body.flatMap fun statement => (lowerStatement statement).warnings := by
    rw [← lowerStatements_warnings]
    simp [Program.lower]
  rw [hleaves]
  refine ⟨hkeeps.le, fun hsilent => hkeeps.eq ?_⟩
  rwa [hwarnings, List.flatMap_eq_nil_iff] at hsilent

/-- A router with one route, and whatever else is given in front of it. -/
def pagesProgram (stray : List Child) : Program :=
  ⟨[.element ⟨"div", [], false, ⟨1, 1⟩⟩ [.element ⟨"Router", [], false, ⟨1, 6⟩⟩
    (stray ++ [.element ⟨"route", [.named "path" (some (.text "/a")) ⟨1, 21⟩], false, ⟨1, 14⟩⟩
      [.text "\n  kept\n"]])]]⟩

/-- A text in front of the route is dropped, and that is reported.  Without it all leaves are
kept. -/
theorem leaves_lower_pages :
    (pagesProgram [.text "stray "]).leaves = {.text "stray ", .text "kept"}
    ∧ (pagesProgram [.text "stray "]).lower.value.leaves = {.text "kept"}
    ∧ (pagesProgram [.text "stray "]).lower.value.leaves ≤ (pagesProgram [.text "stray "]).leaves
    ∧ (pagesProgram [.text "stray "]).lower.warnings ≠ []
    ∧ (pagesProgram [.text "  "]).lower.warnings = []
    ∧ (pagesProgram [.text "  "]).lower.value.leaves = (pagesProgram [.text "  "]).leaves := by
  have hsilent : (pagesProgram [.text "  "]).lower.warnings = [] := by decide +kernel
  refine ⟨by decide +kernel, by decide +kernel, (leaves_lower _).1, by decide +kernel, hsilent, ?_⟩
  exact (leaves_lower _).2 hsilent

end Componentry
