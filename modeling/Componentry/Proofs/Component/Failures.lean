import Mathlib.Data.List.Basic
import Componentry.Proofs.Component.Gathering

/-!
# When there is no module

Generation fails for one of three reasons, and looks for them in this order: the document is empty,
the component has a name that is no identifier, or a state has no name.  Only states that are
declared count for the last one: those at the top level and those directly in the root
(`Document.Declares`).  The one that is told is the first, where the top level comes before the root
(`Document.DeclaresNameless`).

* `Document.find?_states_eq_some_iff` — the search for a nameless state goes over the top level,
  then over the root.
* `generate_eq_error_iff` — the three reasons, each with what is told.
-/

namespace Componentry

open Text

/-! ## Names -/

namespace Text

/-- Whether a character is a number of any kind. -/
def isNumber (c : Char) : Bool :=
  if c.toNat < 128 then isAsciiDigit c
  else Ranges.covers Ranges.digit c.toNat || Ranges.covers Ranges.otherNumber c.toNat

lemma isAlphanumeric_iff {c : Char} :
    isAlphanumeric c = true ↔ isAlphabetic c = true ∨ isNumber c = true := by
  unfold isAlphanumeric isNumber
  split_ifs with hascii
  · rw [isAlphabetic, if_pos hascii, Bool.or_eq_true]
  · rw [Bool.or_assoc, Bool.or_eq_true]

/-- A text is an identifier: a letter, `_` or `$`, followed by letters, numbers, `_` or `$`. -/
inductive IsIdentifier : List Char → Prop
  | mk {first rest} (hfirst : isAlphabetic first = true ∨ first = '_' ∨ first = '$')
      (hrest : ∀ c ∈ rest, isAlphabetic c = true ∨ isNumber c = true ∨ c = '_' ∨ c = '$') :
      IsIdentifier (first :: rest)

lemma isName_iff {name : List Char} : isName name = true ↔ IsIdentifier name := by
  cases name with
  | nil => exact ⟨fun h => absurd h Bool.false_ne_true, fun h => nomatch h⟩
  | cons first rest =>
      have hname : isName (first :: rest) = true
          ↔ (isAlphabetic first = true ∨ first = '_' ∨ first = '$')
            ∧ ∀ c ∈ rest, isAlphabetic c = true ∨ isNumber c = true ∨ c = '_' ∨ c = '$' := by
        simp only [isName, Bool.and_eq_true, Bool.or_eq_true, beq_iff_eq, List.all_eq_true,
          isAlphanumeric_iff, or_assoc]
      rw [hname]
      constructor
      · rintro ⟨hfirst, hrest⟩
        exact .mk hfirst hrest
      · rintro ⟨hfirst, hrest⟩
        exact ⟨hfirst, hrest⟩

end Text

/-! ## States without a name -/

/-- A state is the first in a row of nodes that has no name. -/
def FirstNameless (nodes : List Node) (state : StateDeclaration) : Prop :=
  ∃ before after, nodes = before ++ .state state :: after ∧ state.name = none
    ∧ ∀ earlier, .state earlier ∈ before → earlier.name ≠ none

lemma Node.state?_eq_some {node : Node} {state : StateDeclaration} :
    node.state? = some state ↔ node = .state state := by
  cases node <;> simp [state?]

/-- The search for the first state in a row of nodes that has no name. -/
def firstNameless? (nodes : List Node) : Option StateDeclaration :=
  (nodes.filterMap Node.state?).find? fun state => state.name.isNone

lemma firstNameless?_eq_some_iff {nodes : List Node} {state : StateDeclaration} :
    firstNameless? nodes = some state ↔ FirstNameless nodes state := by
  have hnamed : ∀ node : Node, (!node.state?.any fun state => state.name.isNone) = true
      ↔ ∀ earlier, node = .state earlier → earlier.name ≠ none := by
    intro node
    simp only [← Node.state?_eq_some]
    cases node.state? <;> simp [Option.isSome_iff_ne_none]
  rw [firstNameless?, List.find?_filterMap, Option.bind_eq_some_iff]
  constructor
  · rintro ⟨node, hfound, hstate⟩
    obtain ⟨hnameless, before, after, rfl, hbefore⟩ := List.find?_eq_some_iff_append.mp hfound
    obtain rfl := Node.state?_eq_some.mp hstate
    refine ⟨before, after, rfl, by simpa [Node.state?] using hnameless, fun earlier hearlier => ?_⟩
    exact (hnamed _).mp (hbefore _ hearlier) earlier rfl
  · rintro ⟨before, after, rfl, hname, hbefore⟩
    have hnameless : ((Node.state state).state?.any fun state => state.name.isNone) = true := by
      simp [Node.state?, hname]
    refine ⟨_, List.find?_eq_some_iff_append.mpr
      ⟨hnameless, before, after, rfl, fun node hnode => ?_⟩, rfl⟩
    refine (hnamed node).mpr ?_
    rintro earlier rfl
    exact hbefore earlier hnode

lemma firstNameless?_eq_none_iff {nodes : List Node} :
    firstNameless? nodes = none ↔ ∀ state, .state state ∈ nodes → state.name ≠ none := by
  simp only [firstNameless?, List.find?_eq_none, List.mem_filterMap, Node.state?_eq_some,
    Option.isNone_iff_eq_none, forall_exists_index, and_imp]
  constructor
  · intro h state hstate
    exact h state _ hstate rfl
  · rintro h state _ hstate rfl
    exact h state hstate

/-! ## States that a document declares -/

namespace Document

/-- These are the children of the root. -/
def RootHolds (document : Document) (children : List Node) : Prop :=
  ∃ place name properties, document.RootAt place
    ∧ document.body[place]? = some (.component name properties children)

/-- A document declares a state: at the top level, or directly in the root. -/
inductive Declares (document : Document) (state : StateDeclaration) : Prop
  | top (h : .state state ∈ document.body)
  | inRoot {children} (hroot : document.RootHolds children) (h : .state state ∈ children)

/-- A state without a name is the first that a document declares; the top level comes before the
root. -/
inductive DeclaresNameless (document : Document) (state : StateDeclaration) : Prop
  | top (h : FirstNameless document.body state)
  | inRoot {children} (htop : ∀ earlier, .state earlier ∈ document.body → earlier.name ≠ none)
      (hroot : document.RootHolds children) (h : FirstNameless children state)

variable {document : Document}

lemma rootChildren?_eq_some_iff {children : List Node} :
    document.rootChildren? = some children ↔ document.RootHolds children := by
  rcases document.root_cases with
    ⟨hnone, hroot⟩ | ⟨before, name, properties, found, after, hbody, hbefore, hroot⟩
  · refine ⟨fun h => absurd h (by simp [hroot]), ?_⟩
    rintro ⟨place, _, _, hat, -⟩
    exact absurd hat (not_rootAt_of_forall hnone place)
  · have hat := rootAt_of_split hbody rfl hbefore
    have hnode : document.body[before.length]? = some (.component name properties found) := by
      simp [hbody]
    rw [hroot, Option.some.injEq]
    constructor
    · rintro rfl
      exact ⟨_, _, _, hat, hnode⟩
    · rintro ⟨place, _, _, hplace, hcomponent⟩
      rw [rootAt_unique hplace hat, hnode, Option.some.injEq, Node.component.injEq] at hcomponent
      exact hcomponent.2.2

/-- The states to declare are those at the top level, and then those in the root. -/
lemma states_parts (document : Document) :
    document.parts.value.states = document.body.filterMap Node.state?
      ++ (document.rootChildren?.getD []).filterMap Node.state? := by
  have hfilter : ∀ nodes : List Node,
      (nodes.filter Node.isDeclaration).filterMap Node.state? = nodes.filterMap Node.state? := by
    intro nodes
    rw [List.filterMap_filter]
    refine List.filterMap_congr fun node _ => ?_
    cases node <;> rfl
  show document.declarations.filterMap Node.state? = _
  rw [declarations, List.filterMap_append, hfilter, hfilter]

/-- The search for a nameless state goes over the top level, then over the root. -/
lemma find?_states (document : Document) :
    document.parts.value.states.find? (fun state => state.name.isNone)
      = (firstNameless? document.body).or (firstNameless? (document.rootChildren?.getD [])) := by
  rw [states_parts, List.find?_append]
  rfl

lemma find?_states_eq_some_iff {state : StateDeclaration} :
    document.parts.value.states.find? (fun state => state.name.isNone) = some state
      ↔ document.DeclaresNameless state := by
  rw [find?_states, Option.or_eq_some_iff, firstNameless?_eq_some_iff, firstNameless?_eq_none_iff]
  constructor
  · rintro (htop | ⟨htop, hroot⟩)
    · exact .top htop
    · cases hchildren : document.rootChildren? with
      | none => simp [hchildren, firstNameless?] at hroot
      | some children =>
          rw [hchildren] at hroot
          exact .inRoot htop (rootChildren?_eq_some_iff.mp hchildren)
            (firstNameless?_eq_some_iff.mp hroot)
  · intro h
    cases h with
    | top htop => exact .inl htop
    | inRoot htop hroot hfirst =>
        rw [rootChildren?_eq_some_iff.mpr hroot]
        exact .inr ⟨htop, firstNameless?_eq_some_iff.mpr hfirst⟩

lemma find?_states_eq_none_iff :
    document.parts.value.states.find? (fun state => state.name.isNone) = none
      ↔ ∀ state, document.Declares state → state.name ≠ none := by
  rw [find?_states, Option.or_eq_none_iff, firstNameless?_eq_none_iff, firstNameless?_eq_none_iff]
  constructor
  · rintro ⟨htop, hroot⟩ state hstate
    cases hstate with
    | top hstate => exact htop state hstate
    | inRoot hholds hstate =>
        rw [rootChildren?_eq_some_iff.mpr hholds] at hroot
        exact hroot state hstate
  · intro h
    refine ⟨fun state hstate => h state (.top hstate), fun state hstate => ?_⟩
    cases hchildren : document.rootChildren? with
    | none => exact absurd hstate (by simp [hchildren])
    | some children =>
        rw [hchildren] at hstate
        exact h state (.inRoot (rootChildren?_eq_some_iff.mp hchildren) hstate)

end Document

/-! ## Failures -/

/-- Declaring states fails at the first one without a name. -/
lemma declareStates_eq_error_iff {mentioned : String → Bool} {states : List StateDeclaration}
    {error : GenerationError} :
    declareStates mentioned states = .error error
      ↔ ∃ state, states.find? (fun state => state.name.isNone) = some state
        ∧ error = .missingStateName state.position := by
  induction states with
  | nil => simp [declareStates]
  | cons state rest ih =>
      rw [declareStates, List.find?_cons]
      cases state.name with
      | none => simp [eq_comm]
      | some name =>
          cases hrest : declareStates mentioned rest with
          | error told =>
              rw [hrest] at ih
              simpa [bind, Except.bind] using ih
          | ok declarations =>
              rw [hrest] at ih
              simpa [bind, Except.bind, pure, Except.pure] using ih

lemma map_eq_error {ε α β : Type} {first : Except ε α} {f : α → β} {error : ε} :
    first.map f = .error error ↔ first = .error error := by
  cases first <;> simp [Except.map]

/-- **The reasons why generation fails**, in the order in which they are looked for. -/
lemma generate_eq_error_iff {document : Document} {name : String} {options : Options}
    {error : GenerationError} :
    generate document name options = .error error
      ↔ (document.body = [] ∧ error = .emptyDocument)
        ∨ (document.body ≠ [] ∧ ¬ IsIdentifier name.toList ∧ error = .invalidComponentName name)
        ∨ document.body ≠ [] ∧ IsIdentifier name.toList
          ∧ ∃ state, document.DeclaresNameless state
            ∧ error = .missingStateName state.position := by
  have hstates : declareStates document.parts.value.mentioned document.parts.value.states
        = .error error
      ↔ ∃ state, document.DeclaresNameless state ∧ error = .missingStateName state.position := by
    simp only [← Document.find?_states_eq_some_iff]
    exact declareStates_eq_error_iff
  have hisName := @isName_iff name.toList
  rw [generate_eq]
  by_cases hempty : document.body = []
  · simp [hempty, eq_comm]
  · rw [if_neg (by simpa using hempty)]
    by_cases hname : IsIdentifier name.toList
    · rw [if_neg (by simp [hisName.mpr hname]), map_eq_error, hstates]
      simp [hempty, hname]
    · rw [if_pos (by simpa [← hisName] using hname)]
      simp [hempty, hname, eq_comm]

/-- Two documents declare the same states in the same places: at the top level, and directly in
their roots.  Everything else may differ. -/
structure Document.SameStates (document other : Document) : Prop where
  top : document.body.map Node.state? = other.body.map Node.state?
  root : document.rootChildren?.map (List.map Node.state?)
    = other.rootChildren?.map (List.map Node.state?)

/-- The states that are declared are told by the states in these places. -/
lemma Document.SameStates.states {document other : Document} (h : document.SameStates other) :
    document.parts.value.states = other.parts.value.states := by
  have hrow : ∀ nodes : List Node, nodes.filterMap Node.state?
      = (nodes.map Node.state?).filterMap id := by
    intro nodes
    rw [List.filterMap_map, Function.id_comp]
  have hroot : ∀ children? : Option (List Node), (children?.getD []).filterMap Node.state?
      = ((children?.map (List.map Node.state?)).getD []).filterMap id := by
    intro children?
    cases children? with
    | none => rfl
    | some children => exact hrow children
  rw [states_parts, states_parts, hrow, hroot, h.top, h.root, ← hrow, ← hroot]

/-- Some state without a name is the first one. -/
lemma Document.exists_declaresNameless_iff {document : Document} :
    (∃ state, document.DeclaresNameless state)
      ↔ ∃ state, document.Declares state ∧ state.name = none := by
  simp only [← find?_states_eq_some_iff]
  rw [← Option.isSome_iff_exists, Option.isSome_iff_ne_none, ne_eq, find?_states_eq_none_iff]
  push Not
  rfl

/-- **When generation fails.**  For every document, component name and options:

* generation says that the document is empty exactly if it has no top-level node;
* else it says that the name is invalid, and tells it, exactly if it is no identifier;
* else it says that a state has no name exactly if some state at the top level or directly in the
  root has none, and the position is that of the first one, where the top level comes before the
  root;
* else there is a module;
* nothing but the states in these places decides this: a state without a name that stands deeper, in
  a node that is ignored or in content for a slot never lets generation fail. -/
theorem generate_fails_exactly (document : Document) (name : String) (options : Options) :
    (generate document name options = .error .emptyDocument ↔ document.body = [])
    ∧ (∀ told, generate document name options = .error (.invalidComponentName told)
        ↔ document.body ≠ [] ∧ ¬ IsIdentifier name.toList ∧ told = name)
    ∧ ((∃ position, generate document name options = .error (.missingStateName position))
        ↔ document.body ≠ [] ∧ IsIdentifier name.toList
          ∧ ∃ state, document.Declares state ∧ state.name = none)
    ∧ (∀ position, generate document name options = .error (.missingStateName position)
        ↔ document.body ≠ [] ∧ IsIdentifier name.toList
          ∧ ∃ state, document.DeclaresNameless state ∧ state.position = position)
    ∧ ((∃ result, generate document name options = .ok result)
        ↔ document.body ≠ [] ∧ IsIdentifier name.toList
          ∧ ∀ state, document.Declares state → state.name ≠ none)
    ∧ ∀ other, document.SameStates other → ∀ error,
        generate document name options = .error error
          ↔ generate other name options = .error error := by
  refine ⟨by simp [generate_eq_error_iff], by simp [generate_eq_error_iff], ?_,
    by simp [generate_eq_error_iff, eq_comm], ?_, ?_⟩
  · rw [← Document.exists_declaresNameless_iff]
    simp only [generate_eq_error_iff, reduceCtorEq, and_false, false_or,
      GenerationError.missingStateName.injEq]
    constructor
    · rintro ⟨position, hbody, hname, state, hstate, -⟩
      exact ⟨hbody, hname, state, hstate⟩
    · rintro ⟨hbody, hname, state, hstate⟩
      exact ⟨_, hbody, hname, state, hstate, rfl⟩
  · constructor
    · rintro ⟨result, hok⟩
      have hno : ∀ error, ¬ generate document name options = .error error := by simp [hok]
      have hbody : document.body ≠ [] :=
        fun hempty => hno _ (generate_eq_error_iff.mpr (.inl ⟨hempty, rfl⟩))
      have hname : IsIdentifier name.toList := by
        by_contra hinvalid
        exact hno _ (generate_eq_error_iff.mpr (.inr (.inl ⟨hbody, hinvalid, rfl⟩)))
      refine ⟨hbody, hname, fun state hstate hnone => ?_⟩
      obtain ⟨first, hfirst⟩ := Document.exists_declaresNameless_iff.mpr ⟨state, hstate, hnone⟩
      exact hno _ (generate_eq_error_iff.mpr (.inr (.inr ⟨hbody, hname, first, hfirst, rfl⟩)))
    · rintro ⟨hbody, hname, hstates⟩
      cases hgenerate : generate document name options with
      | ok result => exact ⟨result, rfl⟩
      | error error =>
          rcases generate_eq_error_iff.mp hgenerate with
            ⟨hempty, -⟩ | ⟨-, hno, -⟩ | ⟨-, -, state, hstate, -⟩
          · exact absurd hempty hbody
          · exact absurd hname hno
          · obtain ⟨nameless, hdeclared, hnone⟩ :=
              Document.exists_declaresNameless_iff.mp ⟨state, hstate⟩
            exact absurd hnone (hstates nameless hdeclared)
  · intro other hsame error
    have hbody : document.body = [] ↔ other.body = [] := by
      rw [← @List.map_eq_nil_iff _ _ Node.state?, hsame.top, List.map_eq_nil_iff]
    simp only [generate_eq_error_iff, ← Document.find?_states_eq_some_iff, hsame.states, hbody,
      ne_eq]

/-- States without a name: in a node that is ignored, in content for a slot of the root, and
deeper. -/
def hiddenStates : Document where
  body := [
    .fragment [.state ⟨none, .bare, false, ⟨1, 3⟩⟩],
    .component "main" [] [
      .slotContent "top" (.state ⟨none, .bare, false, ⟨2, 3⟩⟩),
      .component "p" [] [.state ⟨none, .bare, false, ⟨3, 5⟩⟩]]]

/-- They let generation fail no more than texts in their place do. -/
theorem generate_fails_exactly_hidden :
    (∀ error, generate hiddenStates "Page" {} = .error error
      ↔ generate ⟨[.text "", .component "main" [] [.text "", .text ""]]⟩ "Page" {} = .error error)
    ∧ ∃ result, generate hiddenStates "Page" {} = .ok result := by
  obtain ⟨-, -, -, -, -, hsame⟩ := generate_fails_exactly hiddenStates "Page" {}
  exact ⟨hsame _ ⟨rfl, rfl⟩, _, rfl⟩

end Componentry
