import Mathlib.Data.List.Perm.Basic
import Componentry.Proofs.Lowering.ControlAttributes

/-!
# What is there already

Two blocks take from their children only what is not there yet: a switch the first case with each
value, and an asynchronous block the first branch of each kind.  What comes again is ignored and
reported.

**Repetitions.**  Items are told apart by a key.  `firstsBy` keeps the first item with each key and
`repeatsBy` the others.

**Switches.**  A lowered switch has the first cases only.  No choice notices this: whatever the
literals of cases stand for at run time, the first case that matches is the same in the source and
in the lowered switch (`switch_chooses_as_written`).

**Asynchronous blocks.**  The block is made of its attributes and of the first branch of each kind
(`Tag.asyncNode`), so two blocks that agree on these are the same (`async_of_first_branches`).
Every other child with content is reported once.
-/

namespace Componentry

open Markup

/-! ## Repetitions -/

section Repetitions

variable {α β : Type} [DecidableEq β] (key : α → β)

/-- The items whose key no item in front of them has, and none of the keys that were seen before
is. -/
def firstsBy (seen : List β) : List α → List α
  | [] => []
  | item :: rest => (if key item ∈ seen then [] else [item]) ++ firstsBy (key item :: seen) rest

/-- The items whose key an item in front of them has, or is among the keys that were seen before. -/
def repeatsBy (seen : List β) : List α → List α
  | [] => []
  | item :: rest => (if key item ∈ seen then [item] else []) ++ repeatsBy (key item :: seen) rest

variable {key}

/-- It does not matter how often a key was seen. -/
lemma repetitions_congr {seen others : List β} (h : ∀ k, k ∈ seen ↔ k ∈ others) (items : List α) :
    firstsBy key seen items = firstsBy key others items
    ∧ repeatsBy key seen items = repeatsBy key others items := by
  induction items generalizing seen others with
  | nil => exact ⟨rfl, rfl⟩
  | cons item rest ih =>
      have hcons : ∀ k, k ∈ key item :: seen ↔ k ∈ key item :: others := by simp [h]
      obtain ⟨hfirsts, hrepeats⟩ := ih hcons
      simp only [firstsBy, repeatsBy, hfirsts, hrepeats, h, and_self]

variable {seen : List β} {item : α} {rest : List α}

lemma firstsBy_of_mem (h : key item ∈ seen) :
    firstsBy key seen (item :: rest) = firstsBy key seen rest := by
  rw [firstsBy, if_pos h, List.nil_append]
  exact (repetitions_congr (by simp [h]) rest).1

lemma firstsBy_of_notMem (h : key item ∉ seen) :
    firstsBy key seen (item :: rest) = item :: firstsBy key (key item :: seen) rest := by
  rw [firstsBy, if_neg h, List.singleton_append]

lemma repeatsBy_of_mem (h : key item ∈ seen) :
    repeatsBy key seen (item :: rest) = item :: repeatsBy key seen rest := by
  rw [repeatsBy, if_pos h, List.singleton_append]
  exact congrArg _ (repetitions_congr (by simp [h]) rest).2

lemma repeatsBy_of_notMem (h : key item ∉ seen) :
    repeatsBy key seen (item :: rest) = repeatsBy key (key item :: seen) rest := by
  rw [repeatsBy, if_neg h, List.nil_append]

/-- **A search by keys stops at a first item.**  The condition on what was seen carries the
induction: a key that is looked for was not seen, or the search would have stopped there. -/
lemma find?_firstsBy {p : β → Bool} (hseen : ∀ k ∈ seen, p k = false) (items : List α) :
    (firstsBy key seen items).find? (fun item => p (key item))
      = items.find? fun item => p (key item) := by
  induction items generalizing seen with
  | nil => rfl
  | cons item rest ih =>
      cases hitem : p (key item) with
      | true =>
          have hnew : key item ∉ seen := by
            intro hmem
            rw [hseen _ hmem] at hitem
            exact absurd hitem (by simp)
          simp [firstsBy_of_notMem hnew, hitem]
      | false =>
          have hgo : rest.find? (fun item => p (key item))
              = (item :: rest).find? fun item => p (key item) :=
            (List.find?_cons_of_neg (by simp [hitem])).symm
          rw [← hgo]
          by_cases hmem : key item ∈ seen
          · rw [firstsBy_of_mem hmem, ih hseen]
          · rw [firstsBy_of_notMem hmem, List.find?_cons_of_neg (by simp [hitem])]
            exact ih (List.forall_mem_cons.mpr ⟨hitem, hseen⟩)

end Repetitions

/-! ## Switches -/

namespace Markup

/-- The case that a child of a switch is. -/
def Child.case? : Child → Option Element
  | .element tag children => if tag.name = caseTag then some ⟨tag, children⟩ else none
  | _ => none

/-- The cases among the children of a switch. -/
def casesOf (children : List Child) : List Element := children.filterMap Child.case?

/-- The value that a case is for. -/
def Element.caseValue (element : Element) : CaseValue := (caseValue? element.tag).getD .null

/-- A case by itself. -/
def Element.asCase (element : Element) : Case Node :=
  ⟨element.caseValue, (lowerChildren element.children).value⟩

/-- The warning about a case whose value is there already. -/
def Element.repeatedCase (element : Element) : Warning :=
  ⟨.repeatedCase element.caseValue, some element.tag.position⟩

end Markup

/-- Whether a warning is about a case whose value is there already. -/
def Warning.isRepeatedCase (warning : Warning) : Bool :=
  match warning.cause with
  | .repeatedCase _ => true
  | _ => false

/-- The warnings about repeated cases that come from the content of an element. -/
def Markup.Element.repeatedInside (element : Element) : List Warning :=
  (lowerChildren element.children).warnings.filter Warning.isRepeatedCase

lemma lowerCaseValue_value (tag : Tag) (row : List Child) :
    (lowerCaseValue tag).value = Element.caseValue ⟨tag, row⟩ :=
  Reported.value_orElse ..

lemma filter_orElse_warnings {α : Type} (found : Option α) (default : α) {cause : Warning.Cause}
    {position : Position} (h : Warning.isRepeatedCase ⟨cause, some position⟩ = false) :
    (Reported.orElse found default cause position).warnings.filter Warning.isRepeatedCase = [] := by
  cases found with
  | none => simp [Reported.orElse, h]
  | some value => rfl

/-- **The cases of a switch.**  The first ones are lowered; each other one is reported once, and the
rest of these warnings comes from inside of the first ones. -/
lemma lowerCases_firsts (position : Position) (seen : List CaseValue) (children : List Child) :
    (lowerCases position seen children).value
        = (firstsBy Element.caseValue seen (casesOf children)).map Element.asCase
      ∧ ((lowerCases position seen children).warnings.filter Warning.isRepeatedCase).Perm
        ((repeatsBy Element.caseValue seen (casesOf children)).map Element.repeatedCase
          ++ (firstsBy Element.caseValue seen (casesOf children)).flatMap
            Element.repeatedInside) := by
  induction children generalizing seen with
  | nil => exact ⟨rfl, .refl _⟩
  | cons child rest ih =>
      cases child with
      | element tag row =>
          rw [lowerCases]
          by_cases hcase : tag.name = caseTag
          · have hof : casesOf (.element tag row :: rest) = ⟨tag, row⟩ :: casesOf rest :=
              List.filterMap_cons_some (if_pos hcase)
            have hsilent : (lowerCaseValue tag).warnings.filter Warning.isRepeatedCase = [] :=
              filter_orElse_warnings _ _ rfl
            simp only [hof, if_pos hcase, Reported.value_bind, Reported.warnings_bind,
              lowerCaseValue_value tag row, List.filter_append, hsilent, List.nil_append,
              List.contains_iff_mem]
            by_cases hmem : Element.caseValue ⟨tag, row⟩ ∈ seen
            · rw [if_pos hmem, firstsBy_of_mem hmem, repeatsBy_of_mem hmem]
              exact ⟨(ih seen).1, (ih seen).2.cons _⟩
            · rw [if_neg hmem, firstsBy_of_notMem hmem, repeatsBy_of_notMem hmem]
              obtain ⟨hvalue, hwarnings⟩ := ih (Element.caseValue ⟨tag, row⟩ :: seen)
              constructor
              · simp only [Reported.value_bind, Reported.value_pure, hvalue]
                rfl
              · simp only [Reported.warnings_bind, Reported.warnings_pure, List.append_nil,
                  List.filter_append, List.flatMap_cons]
                exact (hwarnings.append_left _).trans (List.perm_append_comm_assoc ..)
          · have hof : casesOf (.element tag row :: rest) = casesOf rest :=
              List.filterMap_cons_none (if_neg hcase)
            rw [hof, if_neg hcase]
            exact ih seen
      | _ =>
          rw [lowerCases.eq_3 _ _ _ _ (by simp)]
          split_ifs <;> exact ih seen

/-- A lowered switch: what it compares, its cases, and the warnings about repeated ones. -/
lemma lowered_switch {element : Element} (h : ReservedTag.ofName? element.tag.name = some .switch) :
    (∃ compared, element.lowered.value
        = .switch compared (lowerCases element.tag.position [] element.children).value)
      ∧ element.lowered.warnings.filter Warning.isRepeatedCase
        = (lowerCases element.tag.position [] element.children).warnings.filter
          Warning.isRepeatedCase := by
  rw [Element.lowered, lowerElement, h]
  refine ⟨⟨_, rfl⟩, ?_⟩
  simp only [Reported.warnings_bind, Reported.warnings_pure, List.append_nil, List.filter_append]
  rw [filter_orElse_warnings _ _ rfl]
  rfl

/-- **A switch chooses as it is written.**  A lowered switch has the first of the cases with each
value.  Whatever run-time values the literals of cases stand for, also if different ones stand for
the same, the first case that matches is the lowered form of the first case in the source that
matches, and there is one *exactly if* there is one in the source.  Each case that is left out is
reported once, and all other warnings about repeated cases come from inside of the cases that are
kept. -/
theorem switch_chooses_as_written {R : Type*} [DecidableEq R] (element : Element)
    (h : ReservedTag.ofName? element.tag.name = some .switch) (evaluate : CaseValue → R)
    (value : R) :
    ∃ compared cases, element.lowered.value = .switch compared cases
      ∧ cases = (firstsBy Element.caseValue [] (casesOf element.children)).map Element.asCase
      ∧ cases.find? (fun c => evaluate c.value = value)
        = ((casesOf element.children).find? fun c => evaluate c.caseValue = value).map
          Element.asCase
      ∧ (element.lowered.warnings.filter Warning.isRepeatedCase).Perm
        ((repeatsBy Element.caseValue [] (casesOf element.children)).map Element.repeatedCase
          ++ (firstsBy Element.caseValue [] (casesOf element.children)).flatMap
            Element.repeatedInside) := by
  obtain ⟨⟨compared, hnode⟩, hwarnings⟩ := lowered_switch h
  obtain ⟨hcases, hrepeated⟩ := lowerCases_firsts element.tag.position [] element.children
  refine ⟨compared, _, hnode, hcases, ?_, ?_⟩
  · have hsearch := @find?_firstsBy _ _ _ Element.caseValue []
      (fun v => decide (evaluate v = value)) (List.forall_mem_nil _) (casesOf element.children)
    rw [hcases, List.find?_map]
    exact congrArg (Option.map Element.asCase) hsearch
  · rw [hwarnings]
    exact hrepeated

/-- A switch where one number is written in three cases, in two ways, and two cases are for `null`:
one has no value to compare with. -/
def statusSwitch : Element where
  tag := ⟨"switch", [.named "on" (some (.expression ⟨"status", .identifier "status"⟩)) ⟨1, 9⟩],
    false, ⟨1, 1⟩⟩
  children :=
    [.element ⟨"case", [.named "when" (some (.expression ⟨"1", .number⟩)) ⟨2, 9⟩], false, ⟨2, 3⟩⟩
      [.text "new"], .element ⟨"case", [.named "when" (some (.expression ⟨"1.0", .number⟩)) ⟨3, 9⟩],
        false, ⟨3, 3⟩⟩
        [.text "point"],
      .element ⟨"case", [.named "when" (some (.expression ⟨"1", .number⟩)) ⟨4, 9⟩], false, ⟨4, 3⟩⟩
        [.text "again"],
      .element ⟨"case", [], false, ⟨5, 3⟩⟩ [.text "unknown"],
      .element ⟨"case", [.named "when" (some (.expression ⟨"null", .null⟩)) ⟨6, 9⟩], false, ⟨6, 3⟩⟩
        [.text "empty"]]

/-- What the literals of these cases are at run time. -/
def statusValue : CaseValue → Option Nat
  | .number _ => some 1
  | _ => none

/-- Both numbers choose the first case, and `null` the one without a value. -/
theorem statusSwitch_chooses_as_written :
    ∃ compared cases, statusSwitch.lowered.value = .switch compared cases
      ∧ cases.map Case.value = [.number "1", .number "1.0", .null]
      ∧ cases.find? (fun c => statusValue c.value = some 1) = some ⟨.number "1", [.text "new"]⟩
      ∧ statusSwitch.lowered.warnings.countP Warning.isRepeatedCase = 2 := by
  obtain ⟨compared, cases, hnode, hcases, hchosen, hwarnings⟩ :=
    switch_chooses_as_written statusSwitch rfl statusValue (some 1)
  refine ⟨compared, cases, hnode, by rw [hcases]; rfl, by rw [hchosen]; rfl, ?_⟩
  rw [List.countP_eq_length_filter, hwarnings.length_eq]
  rfl

/-! ## Asynchronous blocks -/

namespace Markup

/-- A branch of an asynchronous block. -/
structure Branch where
  kind : AsyncBranch
  element : Element

/-- The branch that a child of an asynchronous block is. -/
def Child.branch? : Child → Option Branch
  | .element tag children => (AsyncBranch.ofName? tag.name).map fun kind => ⟨kind, ⟨tag, children⟩⟩
  | _ => none

/-- The branches among the children of an asynchronous block. -/
def branchesOf (children : List Child) : List Branch := children.filterMap Child.branch?

/-- The first branch of a kind. -/
def firstBranch? (children : List Child) (kind : AsyncBranch) : Option Element :=
  ((branchesOf children).find? fun branch => branch.kind = kind).map Branch.element

/-- The warning about a branch of a kind that is there already. -/
def Branch.repeated (branch : Branch) : Warning :=
  ⟨.repeatedBranch branch.kind, some branch.element.tag.position⟩

/-- The children of an asynchronous block that have content but are no branches. -/
def strayOf (children : List Child) : List Child :=
  children.filter fun child => child.branch?.isNone && child.isContent

/-- The warning about such a child of a block at a position. -/
def Child.stray (position : Position) : Child → Warning
  | .element tag _ => ⟨.strayTagInAsync tag.name, some tag.position⟩
  | _ => ⟨.contentOfAsync, some position⟩

end Markup

/-- The content of a branch, if there is one. -/
def lowerFirst (branch : Option Element) : Reported (List Node) :=
  lowerChildren ((branch.map Element.children).getD [])

/-- The name that a branch binds. -/
def boundBy (branch : Option Element) (default : String) : String :=
  (branch.bind fun element => element.tag.binding? "let").getD default

/-- The asynchronous block of a tag with the first branch of each kind. -/
def Markup.Tag.asyncNode (tag : Tag) (first : AsyncBranch → Option Element) : Node :=
  .async ((tag.expression? "promise").getD undefinedExpression) (tag.expression? "key")
    (lowerFirst (first .done)).value (lowerFirst (first .failed)).value
    (lowerFirst (first .loading)).value (boundBy (first .done) "data")
    (boundBy (first .failed) "error")

/-- The block does not depend on anything else that a tag says. -/
lemma asyncNode_of_attributes {tag other : Tag} (h : tag.attributes = other.attributes)
    (first : AsyncBranch → Option Element) : tag.asyncNode first = other.asyncNode first := by
  simp only [Tag.asyncNode, Tag.expression?, Tag.attribute?, h]

section Branches

variable {tag : Tag} {kind : AsyncBranch} (row rest : List Child)

lemma firstBranch?_of_eq (h : AsyncBranch.ofName? tag.name = some kind) :
    firstBranch? (.element tag row :: rest) kind = some ⟨tag, row⟩ := by
  simp [firstBranch?, branchesOf, Child.branch?, h]

lemma firstBranch?_of_ne (h : AsyncBranch.ofName? tag.name ≠ some kind) :
    firstBranch? (.element tag row :: rest) kind = firstBranch? rest kind := by
  cases hname : AsyncBranch.ofName? tag.name with
  | none => simp [firstBranch?, branchesOf, Child.branch?, hname]
  | some other =>
      have hne : other ≠ kind := fun heq => h (by rw [hname, heq])
      simp [firstBranch?, branchesOf, Child.branch?, hname, hne]

end Branches

/-- The content and the tag that a block takes for a branch are those of the first one of its
kind. -/
lemma first_of_branch (kind : AsyncBranch) (children : List Child) :
    branchContent kind children = ((firstBranch? children kind).map Element.children).getD []
      ∧ branchTag? kind children = (firstBranch? children kind).map Element.tag := by
  rw [branchTag?_eq_head?, branchTags]
  induction children with
  | nil => exact ⟨rfl, rfl⟩
  | cons child rest ih =>
      cases child with
      | element tag row =>
          rw [branchContent, tagsWhere]
          by_cases hname : AsyncBranch.ofName? tag.name = some kind
          · rw [firstBranch?_of_eq row rest hname, if_pos hname, if_pos (by simpa)]
            exact ⟨rfl, rfl⟩
          · rw [firstBranch?_of_ne row rest hname, if_neg hname, if_neg (by simpa)]
            exact ih
      | _ => exact ih

lemma strayOf_cons {child : Child} (h : child.branch? = none) (rest : List Child) :
    strayOf (child :: rest) = if child.isContent then child :: strayOf rest else strayOf rest := by
  simp [strayOf, List.filter_cons, h]

/-- **The children that are ignored.**  Each branch of a kind that is there already is reported
once, and so is each child with content that is no branch; nothing else is. -/
lemma reportBranches_perm (position : Position) (seen : List AsyncBranch) (children : List Child) :
    (reportBranches position seen children).warnings.Perm
      ((repeatsBy Branch.kind seen (branchesOf children)).map Branch.repeated
        ++ (strayOf children).map (Child.stray position)) := by
  induction children generalizing seen with
  | nil => exact .refl _
  | cons child rest ih =>
      cases child with
      | element tag row =>
          rw [reportBranches]
          cases hname : AsyncBranch.ofName? tag.name with
          | none =>
              have hbranches : branchesOf (.element tag row :: rest) = branchesOf rest :=
                List.filterMap_cons_none (by simp [Child.branch?, hname])
              have hcontent : (Child.element tag row).isContent = true := rfl
              rw [hbranches, strayOf_cons (by simp [Child.branch?, hname]), if_pos hcontent]
              exact ((ih seen).cons _).trans List.perm_middle.symm
          | some kind =>
              have hbranches : branchesOf (.element tag row :: rest)
                  = ⟨kind, ⟨tag, row⟩⟩ :: branchesOf rest :=
                List.filterMap_cons_some (by simp [Child.branch?, hname])
              have hstray : strayOf (.element tag row :: rest) = strayOf rest :=
                List.filter_cons_of_neg (by simp [Child.branch?, hname])
              rw [hbranches, hstray]
              simp only [List.contains_iff_mem]
              by_cases hmem : kind ∈ seen
              · rw [if_pos hmem, repeatsBy_of_mem hmem]
                exact (ih seen).cons _
              · rw [if_neg hmem, repeatsBy_of_notMem hmem]
                exact ih (kind :: seen)
      | _ =>
          rw [reportBranches.eq_3 _ _ _ _ (by simp), strayOf_cons rfl]
          split_ifs
          · exact ((ih seen).cons _).trans List.perm_middle.symm
          · exact ih seen

/-- A lowered asynchronous block: its node, and its warnings in order. -/
lemma lowered_async {element : Element} (h : ReservedTag.ofName? element.tag.name = some .async) :
    element.lowered.value = element.tag.asyncNode (firstBranch? element.children)
      ∧ element.lowered.warnings
        = (Reported.orElse (element.tag.expression? "promise") undefinedExpression
          .asyncWithoutPromise
            element.tag.position).warnings
          ++ ((reportBranches element.tag.position [] element.children).warnings
          ++ ((lowerFirst (firstBranch? element.children .done)).warnings
          ++ ((lowerFirst (firstBranch? element.children .failed)).warnings
          ++ (lowerFirst (firstBranch? element.children .loading)).warnings))) := by
  have hcontent : ∀ kind, lowerBranch kind element.children
      = lowerFirst (firstBranch? element.children kind) := by
    intro kind
    rw [lowerBranch_eq, (first_of_branch kind element.children).1]
    rfl
  have hbound : ∀ kind default, branchAlias kind default element.children
      = boundBy (firstBranch? element.children kind) default := by
    intro kind default
    rw [branchAlias, (first_of_branch kind element.children).2, Option.bind_map]
    rfl
  rw [Element.lowered, lowerElement, h]
  simp only [lowerAsync, Contents.ofChildren, hcontent, hbound, Reported.value_bind,
    Reported.value_orElse, Reported.value_pure, Reported.warnings_bind, Reported.warnings_pure,
    List.append_nil]
  exact ⟨rfl, trivial⟩

/-- **An asynchronous block depends on the first branches only.**  Two blocks with the same
attributes and the same first branch of each kind become the same node, whatever else is among their
children: the contents are those of the first branches, and so are the names they bind, which are
`data` and `error` if they bind none.  The children that are ignored are reported between the
promise and the contents, one by one: the branches of a kind that is there already, and everything
with content that is no branch. -/
theorem async_of_first_branches (element other : Element)
    (h : ReservedTag.ofName? element.tag.name = some .async)
    (hother : ReservedTag.ofName? other.tag.name = some .async)
    (hattributes : element.tag.attributes = other.tag.attributes)
    (hfirst : ∀ kind, firstBranch? element.children kind = firstBranch? other.children kind) :
    element.lowered.value = other.lowered.value
    ∧ element.lowered.value = element.tag.asyncNode (firstBranch? element.children)
    ∧ ∃ ignored, element.lowered.warnings
          = (Reported.orElse (element.tag.expression? "promise") undefinedExpression
            .asyncWithoutPromise
              element.tag.position).warnings
            ++ (ignored ++ ((lowerFirst (firstBranch? element.children .done)).warnings
            ++ ((lowerFirst (firstBranch? element.children .failed)).warnings
            ++ (lowerFirst (firstBranch? element.children .loading)).warnings)))
        ∧ ignored.Perm ((repeatsBy Branch.kind [] (branchesOf element.children)).map Branch.repeated
            ++ (strayOf element.children).map (Child.stray element.tag.position))
        ∧ ignored.length = (repeatsBy Branch.kind [] (branchesOf element.children)).length
            + (strayOf element.children).length := by
  obtain ⟨hnode, hwarnings⟩ := lowered_async h
  have hreport := reportBranches_perm element.tag.position [] element.children
  refine ⟨?_, hnode, _, hwarnings, hreport, ?_⟩
  · rw [hnode, (lowered_async hother).1, funext hfirst]
    exact asyncNode_of_attributes hattributes _
  · rw [hreport.length_eq, List.length_append, List.length_map, List.length_map]

/-- The first branch for the settled value of a report. -/
def reportDone : Child :=
  .element ⟨"then", [.named "let" (some (.text "rows")) ⟨2, 9⟩], false, ⟨2, 3⟩⟩ [.text "done"]

/-- The first branch for the failure of a report. -/
def reportFailed : Child := .element ⟨"catch", [], false, ⟨3, 3⟩⟩ [.text "failed"]

/-- An asynchronous block that loads a report. -/
def reportBlock (children : List Child) : Element where
  tag := ⟨"async", [.named "promise" (some (.expression ⟨"load()", .call⟩)) ⟨1, 8⟩], false, ⟨1, 1⟩⟩
  children := children

/-- The block with nothing but these branches. -/
def plainReport : Element := reportBlock [reportDone, .text "\n  ", reportFailed]

/-- The block with a text, another tag and a second branch for the settled value, which binds
another name. -/
def crowdedReport : Element :=
  reportBlock [.text "wait", reportFailed, reportDone, .element ⟨"p", [], true, ⟨5, 3⟩⟩ [],
    .element ⟨"then", [.named "let" (some (.text "other")) ⟨6, 9⟩], true, ⟨6, 3⟩⟩ []]

/-- What is added changes nothing, and neither does the order; there is one warning for each of the
three. -/
theorem async_of_first_branches_report :
    crowdedReport.lowered.value = plainReport.lowered.value
    ∧ crowdedReport.lowered.value
      = .async ⟨"load()", .call⟩ none [.text "done"] [.text "failed"] [] "rows" "error"
    ∧ crowdedReport.lowered.warnings.length = 3 := by
  have hfirst : ∀ kind, firstBranch? crowdedReport.children kind
      = firstBranch? plainReport.children kind := by
    intro kind
    cases kind <;> rfl
  obtain ⟨hsame, hnode, ignored, hwarnings, -, hlength⟩ :=
    async_of_first_branches crowdedReport plainReport rfl rfl rfl hfirst
  refine ⟨hsame, hnode, ?_⟩
  rw [hwarnings, List.length_append, List.length_append, hlength]
  rfl

end Componentry
