import Mathlib.Data.List.Basic
import Componentry.Markup.Program

/-!
# Names that were read

What the reader takes for a name is spelt like one.  A token that is a name carries this
(`Token.spelt`); here it is followed through the rules up to whole programs.

**Rules.**  `Gives reader p` says that a reader gives back something with the property `p`, from
whatever state it starts.  A rule only ever hands on terms of its parts or makes a new one, so
nothing has to be known about the states in between.

**Terms.**  The only terms that matter are names and markup, possibly in parentheses: `Shape.Spelt`
says of them that the name, or every expression embedded in the markup, is spelt.  For a grammar
whose readers give such terms every rule does (`Grammar.Spelt`), and by induction on the nesting
depth so do all of them together.

The results are `Expression.spelt_ofText` and `Markup.Program.spelt_parse`.
-/

namespace Componentry

open Markup

/-! ## Embedded expressions -/

/-- An expression that is a name is spelt like one. -/
def Expression.Spelt (e : Expression) : Prop :=
  ∀ name ∈ e.identifier?, Text.isScriptName name.toList = true

/-- An expression that is no name is spelt. -/
lemma Expression.spelt_of_identifier? {e : Expression} (h : e.identifier? = none) : e.Spelt := by
  intro name hname
  rw [h] at hname
  exact absurd hname (by simp)

/-- Every expression of a list is spelt. -/
def AllSpelt (expressions : List Expression) : Prop := ∀ e ∈ expressions, e.Spelt

@[simp] lemma allSpelt_nil : AllSpelt [] := fun _ he => absurd he (by simp)

@[simp] lemma allSpelt_singleton {e : Expression} : AllSpelt [e] ↔ e.Spelt := by
  simp [AllSpelt]

@[simp] lemma allSpelt_append {expressions others : List Expression} :
    AllSpelt (expressions ++ others) ↔ AllSpelt expressions ∧ AllSpelt others :=
  List.forall_mem_append

namespace Markup

/-- The expressions in an attribute. -/
def Attribute.expressions : Attribute → List Expression
  | .named _ (some (.expression e)) _ => [e]
  | .named _ _ _ => []
  | .spread e _ => [e]

/-- The expressions in a tag. -/
def Tag.expressions (tag : Tag) : List Expression :=
  tag.attributes.flatMap Attribute.expressions

mutual

/-- The expressions in a child, at any depth. -/
def Child.expressions : Child → List Expression
  | .element tag children => tag.expressions ++ expressionsOf children
  | .fragment children _ => expressionsOf children
  | .text _ => []
  | .expression e => [e]

/-- The expressions in a row of children. -/
def expressionsOf : List Child → List Expression
  | [] => []
  | child :: rest => child.expressions ++ expressionsOf rest

end

/-- The expressions in a statement. -/
def Statement.expressions : Statement → List Expression
  | .element tag children => tag.expressions ++ expressionsOf children
  | .fragment children _ => expressionsOf children
  | .other _ => []

/-- The expressions in the markup of a program. -/
def Program.expressions (program : Program) : List Expression :=
  program.body.flatMap Statement.expressions

end Markup

namespace Script

open Read

/-! ## Terms -/

/-- A name is spelt like one, and so are the names among the expressions of markup. -/
def Shape.Spelt (shape : Shape) : Prop :=
  match shape.ungrouped with
  | .name text => Text.isScriptName text.toList = true
  | .element tag children => AllSpelt (tag.expressions ++ expressionsOf children)
  | .fragment children _ => AllSpelt (expressionsOf children)
  | _ => True

/-- A term of such a shape. -/
def Term.Spelt (term : Term) : Prop := term.value.Spelt

lemma Shape.Spelt.kind {shape : Shape} (h : shape.Spelt) (source : String) :
    Expression.Spelt ⟨source, shape.kind⟩ := by
  intro name hname
  unfold Shape.Spelt at h
  unfold Shape.kind Expression.identifier? at hname
  cases hshape : shape.ungrouped with
  | name text =>
      rw [hshape] at h hname
      cases Option.some.inj hname
      exact h
  | chain endsInCall => cases endsInCall <;> simp [hshape] at hname
  | _ => simp [hshape] at hname

/-! ## Readers -/

variable {α β : Type} {p : α → Prop} {q : β → Prop}

/-- A reader gives back something with a property, from whatever state it starts. -/
def Gives (reader : Read α) (p : α → Prop) : Prop := ∀ r, p (reader r).1

lemma gives_pure {a : α} (h : p a) : Gives (pure a) p := fun _ => h

lemma gives_bind {reader : Read α} {next : α → Read β} (h : Gives reader p)
    (hnext : ∀ a, p a → Gives (next a) q) : Gives (reader >>= next) q :=
  fun r => hnext _ (h r) _

/-- Where nothing has to be known about the first result. -/
lemma gives_next {reader : Read α} {next : α → Read β} (hnext : ∀ a, Gives (next a) q) :
    Gives (reader >>= next) q :=
  fun _ => hnext _ _

lemma gives_ite {c : Prop} [Decidable c] {reader other : Read α} (h : Gives reader p)
    (hother : Gives other p) : Gives (if c then reader else other) p := by
  split_ifs
  · exact h
  · exact hother

lemma gives_within {change : Context → Context} {reader : Read α} (h : Gives reader p) :
    Gives (within change reader) p :=
  gives_next fun _ => gives_next fun _ => gives_bind h fun _ ha => gives_next fun _ => gives_pure ha

lemma gives_withIn {reader : Read α} (h : Gives reader p) : Gives (withIn reader) p :=
  gives_within h

lemma Gives.result {reader : Read α} (h : Gives reader p) (r : Reading) : p (reader r).1 := h r

-- from here on only the rules say something about `Gives`; opening it would run the readers
attribute [irreducible] Gives

lemma gives_termFrom {start : Nat} {shape : Shape} (h : shape.Spelt) :
    Gives (termFrom start shape) Term.Spelt :=
  gives_next fun _ => gives_pure h

lemma gives_noTerm : Gives noTerm Term.Spelt := gives_next fun _ => gives_pure trivial

lemma gives_unexpectedTerm : Gives unexpectedTerm Term.Spelt := gives_next fun _ => gives_noTerm

/-- The name of a token is spelt because the token is. -/
lemma gives_nameTerm : Gives nameTerm Term.Spelt := by
  unfold nameTerm
  refine gives_next fun t => ?_
  split_ifs with hname
  · refine gives_next fun _ => gives_next fun _ => gives_pure ?_
    have hword : t.kind.isWordLike = true := by
      revert hname
      cases t.kind <;> simp [Token.Kind.isNameOrAwait, Token.Kind.isName, Token.Kind.isWordLike]
    exact t.spelt hword
  · exact gives_unexpectedTerm

/-- The readers of a grammar whose terms a rule may hand on give spelt ones. -/
structure Grammar.Spelt (g : Grammar) : Prop where
  assignment : Gives g.assignment Term.Spelt
  primary : Gives g.primary Term.Spelt
  markup : ∀ content start, Gives (g.markup content start) Term.Spelt

variable {g : Grammar}

lemma gives_expression (h : g.Spelt) : Gives (expression g) Term.Spelt := by
  unfold expression
  refine gives_next fun _ => gives_bind h.assignment fun first hfirst => gives_next fun _ => ?_
  split_ifs
  · exact gives_next fun _ => gives_next fun _ => gives_termFrom trivial
  · exact gives_pure hfirst

/-! ## Functions -/

lemma gives_functionTerm {start : Nat} {isAsync : Bool} :
    Gives (functionTerm g start isAsync) Term.Spelt := by
  unfold functionTerm
  refine gives_next fun _ => gives_next fun _ => gives_next fun _ => ?_
  dsimp only
  split_ifs
  · exact gives_next fun _ => gives_next fun _ => gives_termFrom trivial
  · exact gives_next fun _ => gives_termFrom trivial

lemma gives_arrowBody {start : Nat} {isAsync : Bool} :
    Gives (arrowBody g start isAsync) Term.Spelt :=
  gives_next fun _ => gives_termFrom trivial

lemma gives_arrowFunction : Gives (arrowFunction g) Term.Spelt := by
  unfold arrowFunction
  exact gives_next fun _ =>
    gives_next fun _ => gives_next fun _ => gives_next fun _ => gives_arrowBody

lemma gives_groupedArrow : Gives (groupedArrow g) fun found => ∀ term ∈ found, Term.Spelt term := by
  unfold groupedArrow
  refine gives_next fun guess => ?_
  cases guess with
  | no => exact gives_pure (by simp)
  | yes => exact gives_bind gives_arrowFunction fun term hterm => gives_pure (by simpa using hterm)
  | maybe =>
      refine gives_next fun _ => gives_next fun _ => ?_
      split_ifs
      · exact gives_pure (by simp)
      · refine gives_next fun _ => gives_bind gives_arrowFunction fun term hterm => ?_
        refine gives_next fun _ => ?_
        split_ifs
        · exact gives_next fun _ => gives_next fun _ => gives_pure (by simp)
        · exact gives_pure (by simpa using hterm)

lemma gives_asyncNameArrow :
    Gives (asyncNameArrow g) fun found => ∀ term ∈ found, Term.Spelt term := by
  unfold asyncNameArrow
  refine gives_next fun _ => ?_
  split_ifs
  · refine gives_next fun _ => ?_
    split_ifs
    · refine gives_next fun _ => gives_next fun _ => gives_next fun _ => gives_next fun _ => ?_
      exact gives_bind gives_arrowBody fun term hterm => gives_pure (by simpa using hterm)
    · exact gives_pure (by simp)
  · exact gives_pure (by simp)

/-! ## Markup -/

lemma gives_toExpression {term : Term} (h : Term.Spelt term) :
    Gives term.toExpression Expression.Spelt :=
  gives_next fun _ => gives_pure (h.kind _)

lemma gives_toOpaque {term : Term} : Gives term.toOpaque Expression.Spelt :=
  gives_next fun _ => gives_pure (Expression.spelt_of_identifier? rfl)

lemma gives_braced (h : g.Spelt) {content : Bool} {start : Nat} :
    Gives (braced g content start) Expression.Spelt := by
  unfold braced
  refine gives_next fun _ => ?_
  split_ifs
  · refine gives_next fun _ => gives_next fun _ => gives_next fun _ => ?_
    exact gives_pure (Expression.spelt_of_identifier? rfl)
  · exact gives_bind (gives_expression h) fun term hterm =>
      gives_next fun _ => gives_toExpression hterm

lemma gives_attributeValue (h : g.Spelt) :
    Gives (attributeValue g) fun value =>
      ∀ name position, AllSpelt (Attribute.named name (some value) position).expressions := by
  unfold attributeValue
  refine gives_next fun t => ?_
  split
  · exact gives_next fun _ => gives_pure fun _ _ => allSpelt_nil
  · refine gives_next fun _ => gives_bind (gives_braced h) fun e he => ?_
    exact gives_pure fun _ _ => allSpelt_singleton.mpr he
  · refine gives_next fun _ => gives_next fun term => gives_bind gives_toOpaque fun e he => ?_
    exact gives_pure fun _ _ => allSpelt_singleton.mpr he
  · exact gives_next fun _ => gives_pure fun _ _ => allSpelt_nil

lemma gives_spreadAttribute (h : g.Spelt) :
    Gives (spreadAttribute g) fun a => AllSpelt a.expressions := by
  unfold spreadAttribute
  refine gives_next fun _ => gives_next fun _ => gives_next fun _ => ?_
  refine gives_bind (gives_expression h) fun term hterm => gives_next fun _ => ?_
  refine gives_bind (gives_toExpression hterm) fun e he => gives_next fun _ => ?_
  exact gives_pure (allSpelt_singleton.mpr he)

lemma gives_namedAttribute (h : g.Spelt) :
    Gives (namedAttribute g) fun a => AllSpelt a.expressions := by
  unfold namedAttribute
  refine gives_next fun _ => gives_next fun name => gives_next fun _ => gives_ite ?_ ?_
  · refine gives_next fun _ => gives_bind (gives_attributeValue h) fun value hvalue => ?_
    rw [pure_bind]
    exact gives_next fun position => gives_pure (hvalue name position)
  · rw [pure_bind]
    exact gives_next fun position => gives_pure allSpelt_nil

lemma gives_attributesFrom (h : g.Spelt) (steps : Nat) :
    Gives (attributesFrom g steps) fun row => AllSpelt (row.flatMap Attribute.expressions) := by
  induction steps with
  | zero => exact gives_pure allSpelt_nil
  | succ steps ih =>
      have hmore : ∀ first : Attribute, AllSpelt first.expressions →
          Gives (do return first :: (← attributesFrom g steps))
            fun row => AllSpelt (row.flatMap Attribute.expressions) := fun first hfirst =>
        gives_bind ih fun more hmore => gives_pure (allSpelt_append.mpr ⟨hfirst, hmore⟩)
      unfold attributesFrom
      refine gives_next fun _ => gives_next fun _ => ?_
      split_ifs
      · exact gives_pure allSpelt_nil
      · exact gives_bind (gives_spreadAttribute h) hmore
      · exact gives_bind (gives_namedAttribute h) hmore

lemma gives_child? (h : g.Spelt) :
    Gives (child? g) fun found => ∀ child ∈ found, AllSpelt child.expressions := by
  unfold child?
  refine gives_next fun t => ?_
  split
  · refine gives_next fun _ => gives_next fun _ => gives_next fun k => ?_
    split_ifs
    · refine gives_bind (h.markup true t.start) fun term hterm => ?_
      -- what is no markup is not handed on
      cases hvalue : term.value with
      | element tag children =>
          refine gives_pure fun child hchild => ?_
          cases Option.some.inj hchild
          rw [Child.expressions]
          simpa only [Term.Spelt, Shape.Spelt, hvalue, Shape.ungrouped] using hterm
      | fragment children position =>
          refine gives_pure fun child hchild => ?_
          cases Option.some.inj hchild
          rw [Child.expressions]
          simpa only [Term.Spelt, Shape.Spelt, hvalue, Shape.ungrouped] using hterm
      | _ => exact gives_pure (by simp)
    · exact gives_next fun _ => gives_pure (by simp)
    · exact gives_next fun _ => gives_pure (by simp)
  · refine gives_next fun _ => gives_next fun _ => ?_
    split_ifs
    · refine gives_bind (gives_expression h) fun term hterm => gives_next fun _ => ?_
      refine gives_bind (gives_toExpression hterm) fun e he => gives_pure fun child hchild => ?_
      cases Option.some.inj hchild
      exact allSpelt_singleton.mpr he
    · refine gives_bind (gives_braced h) fun e he => gives_pure fun child hchild => ?_
      cases Option.some.inj hchild
      exact allSpelt_singleton.mpr he
  · refine gives_next fun _ => gives_next fun _ => gives_pure fun child hchild => ?_
    cases Option.some.inj hchild
    exact allSpelt_nil
  · exact gives_next fun _ => gives_pure (by simp)

lemma gives_childrenFrom (h : g.Spelt) (steps : Nat) :
    Gives (childrenFrom g steps) fun row => AllSpelt (expressionsOf row) := by
  induction steps with
  | zero => exact gives_pure allSpelt_nil
  | succ steps ih =>
      unfold childrenFrom
      refine gives_next fun _ => ?_
      split_ifs
      · exact gives_pure allSpelt_nil
      · refine gives_bind (gives_child? h) fun found hfound => ?_
        cases found with
        | none => exact gives_pure allSpelt_nil
        | some child =>
            refine gives_bind ih fun more hmore => gives_pure ?_
            exact allSpelt_append.mpr ⟨hfound child rfl, hmore⟩

lemma gives_fragment (h : g.Spelt) {content : Bool} {start : Nat} :
    Gives (fragment g content start) Term.Spelt := by
  unfold fragment
  refine gives_next fun _ => gives_next fun steps => gives_bind (gives_childrenFrom h steps) ?_
  intro children hchildren
  refine gives_next fun _ => gives_next fun _ => gives_next fun _ => gives_next fun _ => ?_
  exact gives_termFrom hchildren

lemma gives_element (h : g.Spelt) {content : Bool} {start : Nat} :
    Gives (element g content start) Term.Spelt := by
  unfold element
  refine gives_next fun _ => gives_next fun steps => gives_bind (gives_attributesFrom h steps) ?_
  intro attributes hattributes
  refine gives_next fun _ => gives_next fun _ => ?_
  dsimp only
  split_ifs
  · exact gives_next fun _ => gives_termFrom (allSpelt_append.mpr ⟨hattributes, allSpelt_nil⟩)
  · refine gives_next fun _ => gives_next fun steps => gives_bind (gives_childrenFrom h steps) ?_
    intro children hchildren
    refine gives_next fun _ => gives_next fun _ => gives_next fun _ => gives_next fun _ => ?_
    split_ifs
    · exact gives_termFrom (allSpelt_append.mpr ⟨hattributes, hchildren⟩)
    · exact gives_next fun _ => gives_termFrom (allSpelt_append.mpr ⟨hattributes, hchildren⟩)

lemma gives_markup (h : g.Spelt) {content : Bool} {start : Nat} :
    Gives (markup g content start) Term.Spelt := by
  unfold markup
  refine gives_next fun _ => ?_
  split_ifs
  · exact gives_fragment h
  · exact gives_element h
  · exact gives_unexpectedTerm

/-! ## Operands -/

lemma gives_listTerm : Gives (listTerm g) Term.Spelt := by
  unfold listTerm
  refine gives_next fun _ => gives_next fun _ => gives_next fun (_, _) => gives_next fun _ => ?_
  exact gives_termFrom trivial

lemma gives_recordTerm : Gives (recordTerm g) Term.Spelt := by
  unfold recordTerm
  refine gives_next fun _ => gives_next fun _ => gives_next fun (_, _) => gives_next fun _ => ?_
  exact gives_termFrom trivial

lemma gives_patternTerm : Gives patternTerm Term.Spelt := by
  unfold patternTerm
  refine gives_next fun _ => gives_next fun _ => gives_next fun _ => ?_
  split_ifs
  · exact gives_next fun _ => gives_termFrom trivial
  · exact gives_unexpectedTerm

/-- Items of a list have what their reader gives. -/
lemma gives_moreItems {close : Mark} {item : Read α} (h : Gives item p) (steps : Nat) :
    Gives (moreItems close item steps) fun found => ∀ a ∈ found.1, p a := by
  induction steps with
  | zero => exact gives_pure (by simp)
  | succ steps ih =>
      unfold moreItems
      refine gives_next fun _ => ?_
      split_ifs
      · exact gives_pure (by simp)
      · refine gives_next fun _ => gives_next fun _ => gives_next fun _ => ?_
        split_ifs
        · exact gives_pure (by simp)
        · refine gives_bind h fun first hfirst => gives_bind ih fun more hmore => gives_pure ?_
          exact List.forall_mem_cons.mpr ⟨hfirst, hmore⟩

lemma gives_items {close : Mark} {item : Read α} (h : Gives item p) :
    Gives (items close item) fun found => ∀ a ∈ found.1, p a := by
  unfold items
  refine gives_next fun _ => ?_
  split_ifs
  · exact gives_pure (by simp)
  · refine gives_bind h fun first hfirst => gives_next fun steps => ?_
    refine gives_bind (gives_moreItems h steps) fun more hmore => gives_pure ?_
    exact List.forall_mem_cons.mpr ⟨hfirst, hmore⟩

lemma gives_groupTerm (h : g.Spelt) : Gives (groupTerm g) Term.Spelt := by
  unfold groupTerm
  refine gives_next fun _ => gives_next fun _ => gives_next fun inside => ?_
  refine gives_bind (gives_within (gives_items h.assignment)) fun (terms, trailing) hterms => ?_
  cases trailing with
  | some comma => exact gives_next fun _ => gives_noTerm
  | none =>
      refine gives_next fun behind => gives_next fun _ => ?_
      match terms, hterms with
      | [], _ => exact gives_next fun _ => gives_noTerm
      | [term], hterms => exact gives_termFrom (hterms term List.mem_cons_self)
      | _ :: _ :: _, _ => exact gives_termFrom trivial

/-- Links keep the operand or make a term that is no name. -/
lemma gives_memberLinks {start : Nat} {allowChain : Bool} (steps : Nat) {chained : Bool}
    {term : Term} (h : Term.Spelt term) :
    Gives (memberLinks g start allowChain steps chained term) fun found => Term.Spelt found.1 := by
  induction steps generalizing chained term with
  | zero => exact gives_pure h
  | succ steps ih =>
      have hlink : ∀ {linked : Bool} {shape : Shape}, shape.Spelt →
          Gives (termFrom start shape >>= memberLinks g start allowChain steps linked)
            fun found => Term.Spelt found.1 := fun hshape =>
        gives_bind (gives_termFrom hshape) fun _ hterm => ih hterm
      have hstay : Gives (pure (term, chained)) fun found => Term.Spelt found.1 := gives_pure h
      unfold memberLinks
      refine gives_next fun _ => gives_ite hstay (gives_next fun k => ?_)
      split
      · exact gives_next fun _ => gives_next fun _ => hlink trivial
      · exact gives_next fun _ => gives_ite hstay (gives_next fun _ => hlink trivial)
      · refine gives_next fun next => gives_ite hstay (gives_ite ?_ (gives_ite ?_ hstay))
        · exact gives_next fun _ => gives_next fun _ => hlink trivial
        · exact gives_next fun _ => gives_next fun _ => hlink trivial
      · refine gives_ite ?_ (gives_next fun _ => hlink trivial)
        exact gives_next fun _ => gives_next fun _ => gives_next fun _ => hlink trivial
      · refine gives_ite ?_ (gives_next fun _ => hlink trivial)
        exact gives_next fun _ => gives_next fun _ => gives_next fun _ => hlink trivial
      · exact hstay

lemma gives_callLinks {start : Nat} (steps : Nat) {chained : Bool} {term : Term}
    (h : Term.Spelt term) :
    Gives (callLinks g start steps chained term) fun found => Term.Spelt found.1 := by
  induction steps generalizing chained term with
  | zero => exact gives_pure h
  | succ steps ih =>
      have hlink : ∀ {linked : Bool} {shape : Shape}, shape.Spelt →
          Gives (termFrom start shape >>= callLinks g start steps linked)
            fun found => Term.Spelt found.1 := fun hshape =>
        gives_bind (gives_termFrom hshape) fun _ hterm => ih hterm
      unfold callLinks
      refine gives_next fun _ => gives_ite (gives_pure h) (gives_next fun more => ?_)
      refine gives_bind (gives_memberLinks more h) fun (member, _) hmember => ?_
      refine gives_next fun optional => gives_next fun k => ?_
      split
      · exact gives_next fun _ => hlink trivial
      · exact gives_next fun _ => gives_next fun _ => gives_next fun _ => hlink trivial
      · exact gives_next fun _ => gives_next fun _ => gives_next fun _ => hlink trivial
      · exact gives_ite (gives_next fun _ => gives_pure hmember) (gives_pure hmember)

lemma gives_linkedTerm (h : g.Spelt) : Gives (linkedTerm g) Term.Spelt := by
  unfold linkedTerm
  refine gives_next fun _ => gives_bind h.primary fun operand hoperand => gives_next fun steps => ?_
  refine gives_bind (gives_callLinks steps hoperand) fun (term, chained) hterm => ?_
  refine gives_ite ?_ (gives_pure hterm)
  split <;> exact gives_pure trivial

lemma gives_classTerm : Gives (classTerm g) Term.Spelt := by
  unfold classTerm
  refine gives_next fun _ => gives_next fun _ => gives_ite ?_ ?_
  · exact gives_next fun _ => gives_next fun _ => gives_termFrom trivial
  · exact gives_next fun _ => gives_termFrom trivial

-- The next rules make a new term whichever way they take, so all that is left is to go through
-- the ways.

lemma gives_newTerm : Gives (newTerm g) Term.Spelt := by
  unfold newTerm
  repeat' first
    | refine gives_ite ?_ ?_
    | refine gives_next fun _ => ?_
    | exact gives_pure trivial
    | split

lemma gives_superTerm : Gives superTerm Term.Spelt := by
  unfold superTerm
  repeat' first
    | refine gives_next fun _ => ?_
    | exact gives_pure trivial
    | split

lemma gives_importArguments {start : Nat} : Gives (importArguments g start) Term.Spelt := by
  unfold importArguments
  repeat' first
    | refine gives_ite ?_ ?_
    | refine gives_next fun _ => ?_
    | exact gives_pure trivial

lemma gives_importTerm : Gives (importTerm g) Term.Spelt := by
  unfold importTerm
  refine gives_next fun _ => gives_next fun _ => gives_next fun _ => ?_
  split
  · refine gives_next fun _ => gives_next fun _ => ?_
    split
    · exact gives_next fun _ => gives_termFrom trivial
    · exact gives_next fun _ => gives_importArguments
    · exact gives_next fun _ => gives_importArguments
    · exact gives_next fun _ => gives_next fun _ => gives_noTerm
  · exact gives_importArguments
  · exact gives_unexpectedTerm

lemma gives_primary (h : g.Spelt) : Gives (primary g) Term.Spelt := by
  unfold primary
  refine gives_next fun t =>
    gives_next fun _ => gives_ite (gives_next fun _ => gives_functionTerm) ?_
  split
  · exact gives_nameTerm
  · exact gives_next fun _ => gives_pure trivial
  · exact gives_next fun _ => gives_pure trivial
  · exact gives_next fun _ => gives_pure trivial
  · exact gives_next fun _ => gives_pure trivial
  · exact gives_next fun _ => gives_pure trivial
  · exact gives_next fun _ => gives_pure trivial
  · exact gives_functionTerm
  · exact gives_classTerm
  · exact gives_newTerm
  · exact gives_superTerm
  · exact gives_importTerm
  · exact gives_next fun _ => gives_termFrom trivial
  · exact gives_next fun _ => gives_termFrom trivial
  · exact gives_listTerm
  · exact gives_recordTerm
  · exact gives_groupTerm h
  · exact gives_patternTerm
  · exact gives_patternTerm
  · exact gives_classTerm
  · exact gives_next fun _ => h.markup false t.start
  · exact gives_nameTerm

/-! ## Operators -/

lemma gives_updateTerm (h : g.Spelt) : Gives (updateTerm g) Term.Spelt := by
  unfold updateTerm
  refine gives_next fun start => gives_next fun k => gives_ite ?_ (gives_ite ?_ ?_)
  · exact gives_next fun _ => gives_next fun _ => gives_next fun _ => gives_termFrom trivial
  · exact gives_next fun _ => h.markup false start
  · refine gives_bind (gives_linkedTerm h) fun operand hoperand => gives_next fun t => ?_
    refine gives_ite ?_ (gives_pure hoperand)
    exact gives_next fun _ => gives_next fun _ => gives_termFrom trivial

lemma gives_signedTerm (h : g.Spelt) : Gives (signedTerm g) Term.Spelt := by
  unfold signedTerm
  refine gives_next fun start => gives_next fun k => gives_ite ?_ ?_
  · exact gives_next fun _ => gives_next fun _ => gives_termFrom trivial
  · refine gives_next fun _ => gives_ite ?_ (gives_updateTerm h)
    repeat' first
      | refine gives_ite ?_ ?_
      | refine gives_next fun _ => ?_
      | exact gives_pure trivial

lemma gives_firstOperand (h : g.Spelt) : Gives (firstOperand g) Term.Spelt := by
  unfold firstOperand
  refine gives_next fun start =>
    gives_next fun k => gives_bind (gives_signedTerm h) fun term hterm => ?_
  repeat' first
    | exact gives_pure hterm
    | refine gives_next fun _ => ?_
    | refine gives_ite ?_ ?_
    | split

/-- Operators keep their left side or make a new term. -/
lemma gives_binaryRest {start strength : Nat} (steps : Nat) {left : Term} (h : Term.Spelt left) :
    Gives (binaryRest g start strength steps left) Term.Spelt := by
  induction steps generalizing left with
  | zero => exact gives_pure h
  | succ steps ih =>
      have hjoin : ∀ isLogical : Bool,
          Gives (termFrom start (if isLogical then .logical else .other)
            >>= binaryRest g start strength steps) Term.Spelt := by
        intro isLogical
        refine gives_bind (gives_termFrom ?_) fun _ hterm => ih hterm
        cases isLogical <;> exact trivial
      unfold binaryRest
      repeat' first
        | exact gives_pure h
        | exact hjoin _
        | refine gives_next fun _ => ?_
        | refine gives_ite ?_ ?_
        | split

lemma gives_binary (h : g.Spelt) (strength : Nat) : Gives (binary g strength) Term.Spelt := by
  have hrest : ∀ start shape, Shape.Spelt shape → Gives (do
      let steps ← steps
      binaryRest g start strength steps (← termFrom start shape)) Term.Spelt := by
    intro start shape hshape
    refine gives_next fun steps => gives_bind (gives_termFrom hshape) fun _ hterm => ?_
    exact gives_binaryRest steps hterm
  unfold binary
  refine gives_next fun start => gives_next fun k => gives_next fun _ => gives_ite ?_ ?_
  · refine gives_next fun _ => gives_next fun _ => gives_next fun right => ?_
    repeat' first
      | exact hrest start .privateIn trivial
      | refine gives_ite ?_ ?_
      | refine gives_next fun _ => ?_
      | split
  · refine gives_bind (gives_firstOperand h) fun left hleft => gives_next fun steps => ?_
    exact gives_binaryRest steps hleft

/-! ## Expressions between commas -/

lemma gives_yieldTerm : Gives (yieldTerm g) Term.Spelt := by
  unfold yieldTerm
  repeat' first
    | refine gives_ite ?_ ?_
    | refine gives_next fun _ => ?_
    | exact gives_pure trivial
    | split

lemma gives_conditionalRest {start : Nat} : Gives (conditionalRest g start) Term.Spelt := by
  unfold conditionalRest
  exact gives_next fun _ => gives_next fun _ => gives_next fun _ => gives_termFrom trivial

lemma gives_assignment (h : g.Spelt) : Gives (assignment g) Term.Spelt := by
  unfold assignment
  refine gives_next fun _ => gives_ite gives_yieldTerm ?_
  refine gives_bind gives_groupedArrow fun grouped hgrouped => ?_
  cases grouped with
  | some term => exact gives_pure (hgrouped term rfl)
  | none =>
      refine gives_bind gives_asyncNameArrow fun named hnamed => ?_
      cases named with
      | some term => exact gives_pure (hnamed term rfl)
      | none =>
          refine gives_next fun start => gives_bind (gives_binary h 0) fun left hleft => ?_
          refine gives_next fun t => ?_
          split
          · exact gives_next fun _ => gives_arrowBody
          · refine gives_ite ?_ (gives_next fun _ =>
              gives_ite gives_conditionalRest (gives_pure hleft))
            exact gives_next fun _ => gives_next fun _ => gives_next fun _ => gives_termFrom trivial

/-! ## Statements -/

/-- The expression that a statement consists of, if it is one, is spelt. -/
def Sentence.Spelt (sentence : Sentence) : Prop := ∀ term ∈ sentence.expression, Term.Spelt term

/-- A statement that is no expression. -/
lemma Sentence.spelt_none {start stop : Nat} : Sentence.Spelt ⟨start, stop, none⟩ :=
  fun _ hterm => absurd hterm (by simp)

lemma Sentence.spelt_some {start stop : Nat} {term : Term} (h : Term.Spelt term) :
    Sentence.Spelt ⟨start, stop, some term⟩ := by
  intro other hother
  cases Option.some.inj hother
  exact h

lemma gives_expressionStatement (h : g.Spelt) : Gives (expressionStatement g) Sentence.Spelt := by
  unfold expressionStatement
  refine gives_next fun start => gives_bind (gives_withIn (gives_expression h)) fun term hterm => ?_
  repeat' first
    | exact gives_pure Sentence.spelt_none
    | exact gives_pure (Sentence.spelt_some hterm)
    | refine gives_next fun _ => ?_
    | refine gives_ite ?_ ?_
    | split

lemma gives_letStatement (h : g.Spelt) {place : Place} :
    Gives (letStatement g place) Sentence.Spelt := by
  unfold letStatement
  refine gives_next fun start =>
    gives_next fun next => gives_ite ?_ (gives_ite ?_ (gives_ite ?_ ?_))
  · refine gives_bind h.assignment fun term hterm => gives_next fun _ => gives_next fun _ => ?_
    exact gives_pure (Sentence.spelt_some hterm)
  · refine gives_bind (gives_expression h) fun term hterm => gives_next fun _ => ?_
    exact gives_pure (Sentence.spelt_some hterm)
  · refine gives_bind gives_nameTerm fun term hterm => gives_next fun _ => gives_next fun _ => ?_
    exact gives_pure (Sentence.spelt_some hterm)
  · exact gives_next fun _ => gives_next fun _ => gives_pure Sentence.spelt_none

lemma gives_statement (h : g.Spelt) {place : Place} : Gives (statement g place) Sentence.Spelt := by
  have hplain : ∀ (start : Nat) (reader : Read Unit),
      Gives (do reader; return ⟨start, ← lastStop, none⟩) Sentence.Spelt :=
    fun _ _ => gives_next fun _ => gives_next fun _ => gives_pure Sentence.spelt_none
  unfold statement
  refine gives_next fun start => gives_next fun k => ?_
  split
  all_goals try exact hplain start _
  · refine gives_next fun next => ?_
    split
    · exact gives_expressionStatement h
    · exact gives_expressionStatement h
    · exact hplain start _
  · exact gives_next fun _ => gives_ite (gives_expressionStatement h) (gives_letStatement h)
  · refine gives_next fun _ => gives_ite (hplain start _) ?_
    exact gives_next fun _ => gives_ite (hplain start _) (gives_expressionStatement h)

/-! ## The rules together -/

lemma spelt_upTo (depth : Nat) : (Grammar.upTo depth).Spelt := by
  induction depth with
  | zero => exact ⟨gives_unexpectedTerm, gives_unexpectedTerm, fun _ _ => gives_unexpectedTerm⟩
  | succ depth ih => exact ⟨gives_assignment ih, gives_primary ih, fun _ _ => gives_markup ih⟩

lemma gives_moduleStatements (h : g.Spelt) (steps : Nat) :
    Gives (moduleStatements g steps) fun sentences => ∀ sentence ∈ sentences, sentence.Spelt := by
  induction steps with
  | zero => exact gives_pure (by simp)
  | succ steps ih =>
      unfold moduleStatements
      refine gives_next fun _ => gives_next fun _ => gives_ite (gives_pure (by simp)) ?_
      refine gives_bind (gives_statement h) fun first hfirst => gives_bind ih fun more hmore => ?_
      exact gives_pure (List.forall_mem_cons.mpr ⟨hfirst, hmore⟩)

lemma gives_moduleRule (h : g.Spelt) :
    Gives (moduleRule g) fun sentences => ∀ sentence ∈ sentences, sentence.Spelt := by
  have hrest : Gives (steps >>= moduleStatements g)
      fun sentences => ∀ sentence ∈ sentences, sentence.Spelt :=
    gives_next fun steps => gives_moduleStatements h steps
  unfold moduleRule
  exact gives_next fun _ => gives_ite (gives_next fun _ => hrest) hrest

lemma spelt_readModule {source : List Char} {sentences : List Sentence}
    (h : readModule source = .ok sentences) : ∀ sentence ∈ sentences, sentence.Spelt := by
  have hrule := (gives_moduleRule (spelt_upTo (source.length + 16))).result (.start source)
  rcases hrun : moduleRule (.forLength source.length) (.start source) with ⟨found, reading⟩
  rw [← Grammar.forLength, hrun] at hrule
  simp only [readModule, hrun] at h
  split at h
  · exact absurd h (by simp)
  · exact absurd h (by simp)
  · split at h
    · exact absurd h (by simp)
    · cases h
      exact hrule

lemma spelt_readExpression {source : List Char} {term : Term}
    (h : readExpression source = .ok term) : Term.Spelt term := by
  have hrule := (gives_expression (spelt_upTo (source.length + 16))).result (.start source)
  rcases hrun : expression (.forLength source.length) (.start source) with ⟨found, reading⟩
  rw [← Grammar.forLength, hrun] at hrule
  simp only [readExpression, hrun] at h
  split at h
  · exact absurd h (by simp)
  · cases h
    exact hrule

end Script

open Script

/-! ## Results -/

/-- **An expression that is read from a text is spelt.** -/
theorem Expression.spelt_ofText (text : String) : (Expression.ofText text).Spelt := by
  unfold Expression.ofText
  dsimp only
  split
  · rename_i term hterm
    exact Shape.Spelt.kind (spelt_readExpression hterm) _
  · split <;> exact Expression.spelt_of_identifier? rfl

/-- **Every expression in the markup of a program that is read from a text is spelt.** -/
theorem Markup.Program.spelt_parse {text : String} {program : Program}
    (h : Program.parse text = .ok program) : AllSpelt program.expressions := by
  unfold Program.parse at h
  dsimp only at h
  split at h
  · exact absurd h (by simp)
  · rename_i sentences hsentences
    cases h
    intro e he
    obtain ⟨statement, hstatement, he⟩ := List.mem_flatMap.mp he
    obtain ⟨sentence, hsentence, rfl⟩ := List.mem_map.mp hstatement
    have hspelt := spelt_readModule hsentences sentence hsentence
    revert he
    unfold Statement.ofSentence
    cases hterm : sentence.expression with
    | none => simp [Statement.expressions]
    | some term =>
        have hshape := hspelt term hterm
        unfold Term.Spelt Shape.Spelt at hshape
        rw [Option.map_some]
        cases hvalue : term.value.ungrouped with
        | element tag children =>
            rw [hvalue] at hshape
            exact hshape e
        | fragment children position =>
            rw [hvalue] at hshape
            exact hshape e
        | _ => simp [Statement.expressions]

end Componentry
