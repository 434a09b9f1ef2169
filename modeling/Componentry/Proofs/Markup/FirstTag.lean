import Componentry.Markup.Program
import Componentry.Proofs.Markup.Elements
import Componentry.Proofs.Script.Statements

/-!
# The first tag of a text

A statement can start with type parameters as well as with a tag, and the look at its first tokens
can take a tag for them.  In the grammar of markup there are no type parameters;
`FollowsMarkupGrammar` says of a text that it is read by this grammar.

This file finds out which components have such a text.  The look goes over the name of the first tag
and up to three of its attributes (`kind_atAttributes`, `next_atAttributes`).  `TypedTag` lists the
tags that are taken for type parameters by their names and attributes: they are few
(`followsMarkupGrammar_iff`).  Their statements are refused (`parse_of_not_followsMarkupGrammar`).
-/

namespace Componentry

open Script Read Text Markup

/-- The text that a node is rendered to. -/
def markupOf (frame : Frame) (node : Node) : String := textOf (renderNode frame node)

/-- The tags that look like type parameters, by their names and attributes. -/
inductive TypedTag : String → List Property → Prop where
  /-- `<T extends a` looks like a parameter `T` with a bound. -/
  | bounded {name : String} {property : Property} {more : List Property}
      (hname : name ∈ reservedWords → name = "await") :
      TypedTag name (.named "extends" .bare :: property :: more)
  /-- `<const T=` looks like a parameter `T` with a default. -/
  | defaulted {key : String} {value : Value} {more : List Property} (hvalue : value ≠ .bare) :
      TypedTag "const" (.named key value :: more)
  /-- `<const T extends a` looks like a parameter `T` with a bound, too. -/
  | constBounded {key : String} {property : Property} {more : List Property} :
      TypedTag "const" (.named key .bare :: .named "extends" .bare :: property :: more)

/-- Such a tag has the name `const`, or a bare `extends` right behind its name. -/
lemma TypedTag.eq_const_or {name : String} {properties : List Property}
    (h : TypedTag name properties) :
    name = "const" ∨ properties.head? = some (.named "extends" .bare) := by
  cases h with
  | bounded hname => exact .inr rfl
  | defaulted hvalue => exact .inl rfl
  | constBounded => exact .inl rfl

/-! ## The look at the attributes -/

lemma Property.opening_eq_extends {property : Property} (h : property.isPlain = true) :
    property.opening = .word "extends" ↔ ∃ value, property = .named "extends" value := by
  constructor
  · intro hopening
    cases property with
    | named key value =>
        simp only [Property.isPlain, Bool.and_eq_true] at h
        have hword := isScriptName_of_isLetters h.1.1
        rw [Property.opening, kindOfWord_eq hword, String.ofList_toList] at hopening
        split_ifs at hopening
        exact ⟨value, by rw [Token.Kind.word.inj hopening]⟩
    | spread e => exact absurd hopening Token.Kind.noConfusion
  · rintro ⟨value, rfl⟩
    rfl

/-- A reader in front of the attributes of a tag. -/
def atAttributes (front : List Char) (properties : List Property) (rest : List Char)
    (lastStop : Nat) : Reading :=
  viewing (scan .script) front (codeOf (propertiesPieces properties) ++ rest) lastStop

section Attributes

variable {properties : List Property} (h : ∀ property ∈ properties, property.isPlain = true)
  {rest : List Char} (hrest : EndsTag rest) (front : List Char) (lastStop : Nat)

include h hrest

/-- The first token is that of an attribute, or of the end of the tag. -/
lemma kind_atAttributes :
    (∃ property more, properties = property :: more
      ∧ (atAttributes front properties rest lastStop).token.kind = property.opening)
    ∨ properties = []
      ∧ ((atAttributes front properties rest lastStop).token.kind = .mark .slash
        ∨ (atAttributes front properties rest lastStop).token.kind = .mark .greater) := by
  cases properties with
  | nil => exact .inr ⟨rfl, hrest.closing (size front)⟩
  | cons property more =>
      rw [List.forall_mem_cons] at h
      refine .inl ⟨property, more, rfl, ?_⟩
      rw [atAttributes, codeOf_propertiesPieces_cons, List.cons_append, List.append_assoc,
        viewing_space]
      exact kind_property h.1 (goesOn_properties h.2 hrest.toGoesOn) _

/-- Behind the key of an attribute there is its value, or the next attribute. -/
lemma next_atAttributes {key : String} {value : Value} {more : List Property}
    (hcons : properties = .named key value :: more) :
    (value = .bare ∧ ∃ front' stop,
      (atAttributes front properties rest lastStop).next (scan .script)
        = atAttributes front' more rest stop)
    ∨ value ≠ .bare
      ∧ ((atAttributes front properties rest lastStop).next (scan .script)).token.kind
        = .mark .assign := by
  subst hcons
  simp only [List.forall_mem_cons, Property.isPlain, Bool.and_eq_true] at h
  obtain ⟨⟨⟨hkey, -⟩, hvalue⟩, hmore⟩ := h
  have hgoes := goesOn_properties hmore hrest.toGoesOn
  have hsees := sees_word (isScriptName_of_isLetters hkey) (endsTagName_value hvalue hgoes).word
    .script
  have hcode : codeOf (propertiesPieces (.named key value :: more)) ++ rest = ' ' :: (key.toList
      ++ (codeOf (valuePieces value) ++ (codeOf (propertiesPieces more) ++ rest))) := by
    simp [propertyPieces, Piece.text]
  rw [atAttributes, hcode, viewing_space, hsees.next_viewing]
  rcases value.code_of_isPlain hvalue with ⟨rfl, hcode⟩ | ⟨written, rfl, -, hcode⟩
    | ⟨written, shape, -, rfl, hcode⟩
  · exact .inl ⟨rfl, _, _, by rw [hcode]; rfl⟩
  · refine .inr ⟨Value.noConfusion, ?_⟩
    rw [hcode]
    exact (sees_assign (.inl rfl) .script _).kind_eq _
  · refine .inr ⟨?_, ?_⟩
    · intro hbare
      simp [hbare, valuePieces] at hcode
    · rw [hcode]
      exact (sees_assign (.inr rfl) .script _).kind_eq _

/-- In front of its attributes, a tag looks like a type parameter only by a bare `extends`, and
another attribute behind it. -/
lemma namesType_atAttributes :
    (atAttributes front properties rest lastStop).namesType = true
      ↔ ∃ property more, properties = .named "extends" .bare :: property :: more := by
  rw [Reading.namesType]
  rcases kind_atAttributes h hrest front lastStop with ⟨property, more, rfl, hkind⟩ | ⟨rfl, hkind⟩
  · have hproperty := h property List.mem_cons_self
    have hmore : ∀ property ∈ more, property.isPlain = true := fun property hmem =>
      h property (List.mem_cons_of_mem _ hmem)
    rw [hkind]
    by_cases hopening : property.opening = .word "extends"
    · obtain ⟨value, rfl⟩ := (Property.opening_eq_extends hproperty).mp hopening
      rw [hopening]
      rcases next_atAttributes h hrest front lastStop rfl with
        ⟨rfl, front', stop, hnext⟩ | ⟨hbare, hassign⟩
      · rw [hnext]
        rcases kind_atAttributes hmore hrest front' stop with ⟨next, others, rfl, hkind⟩
          | ⟨rfl, hkind | hkind⟩
        · have hne : ∀ mark, mark ≠ .openBrace → next.opening ≠ .mark mark := fun mark =>
            Property.opening_ne (hmore next List.mem_cons_self)
          simp [hkind, namesType, hne]
        · simp [hkind, namesType]
        · simp [hkind, namesType]
      · simp [hassign, namesType, hbare]
    · have hne : ∀ mark, mark ≠ .openBrace → property.opening ≠ .mark mark := fun mark =>
        Property.opening_ne hproperty
      have hextends : property ≠ .named "extends" .bare := by
        rintro rfl
        exact hopening rfl
      simp [namesType, hne, hopening, hextends]
  · rcases hkind with hkind | hkind <;> simp [hkind, namesType]

/-- Behind the first token of its attributes, it does so by a value there, or by what follows. -/
lemma namesType_next_atAttributes (hne : properties ≠ []) :
    ((atAttributes front properties rest lastStop).next (scan .script)).namesType = true
      ↔ ∃ key value more, properties = .named key value :: more
        ∧ (value = .bare →
          ∃ property others, more = .named "extends" .bare :: property :: others) := by
  obtain ⟨property, more, rfl⟩ := List.exists_cons_of_ne_nil hne
  cases property with
  | named key value =>
      have hmore : ∀ property ∈ more, property.isPlain = true := fun property hmem =>
        h property (List.mem_cons_of_mem _ hmem)
      rcases next_atAttributes h hrest front lastStop rfl with
        ⟨rfl, front', stop, hnext⟩ | ⟨hbare, hassign⟩
      · have hnames := namesType_atAttributes hmore hrest front' stop
        simp [hnext, ← hnames]
      · simp [Reading.namesType, hassign, namesType, hbare]
  | spread e =>
      have hcode : codeOf (propertiesPieces (.spread e :: more)) ++ rest
          = ' ' :: (['{'] ++ (['.', '.', '.']
          ++ (e.source.toList ++ ['}'] ++ (codeOf (propertiesPieces more) ++ rest)))) := by
        simp [codeOf_spread]
      have hkind : ((atAttributes front (.spread e :: more) rest lastStop).next
          (scan .script)).token.kind = .mark .ellipsis := by
        rw [atAttributes, hcode, viewing_space, (sees_openBrace .script _).next_viewing]
        exact (sees_ellipsis .script _).kind_eq _
      simp [Reading.namesType, hkind, namesType]

end Attributes

/-! ## The look at a component -/

/-- A word that is not reserved can be a name, and so can `await`. -/
lemma isNameOrAwait_kindOfWord {word : String} (hword : isScriptName word.toList = true) :
    (kindOfWord word.toList).isNameOrAwait = true ↔ (word ∈ reservedWords → word = "await") := by
  have hdisjoint : ∀ word ∈ reservedWords, word ∉ contextualWords := by decide
  rw [kindOfWord_eq hword, String.ofList_toList]
  split_ifs with h
  · have hname : (Token.Kind.word word).isNameOrAwait = true
        ↔ word ∈ contextualWords ∨ word = "await" := by
      simp [Token.Kind.isNameOrAwait, Token.Kind.isName]
    rw [hname]
    refine ⟨fun hor hreserved => hor.resolve_left (hdisjoint word hreserved), fun himp => ?_⟩
    exact h.elim (fun hreserved => .inr (himp hreserved)) .inl
  · exact ⟨fun _ hreserved => absurd (.inl hreserved) h, fun _ => rfl⟩

section Component

variable (frame : Frame) {name : String} {properties : List Property} {children : List Node}
  (h : (Node.component name properties children).AllPlain)

include h

lemma toList_markupOf : (markupOf frame (.component name properties children)).toList
    = '<' :: componentBody frame name properties children :=
  codeOf_component frame h.component.2.2.2 name properties

lemma atLess_start :
    (Reading.start ('<' :: componentBody frame name properties children)).AtLess 0 := by
  have hsees := sees_less_name frame h .script []
  rw [List.append_nil] at hsees
  exact ⟨hsees.kind_eq 0, hsees.start_eq 0, hsees.escaped_eq 0, rfl, hsees.faults_eq 0, rfl⟩

/-- The look behind the `<` of a component starts at its name. -/
lemma arrowGuess_component :
    arrowGuess (.start ('<' :: componentBody frame name properties children))
      = ((guessBehindLess
        (viewing (scan .script) ['<'] (componentBody frame name properties children) 1)).1,
        .start ('<' :: componentBody frame name properties children)) := by
  have hless := atLess_start frame h
  have hsees := sees_less_name frame h .script []
  rw [List.append_nil] at hsees
  have hnext := hsees.next_viewing [] 0 (scan .script)
  rw [arrowGuess_less hless.kind hless.escaped]
  exact congrArg (fun s => ((guessBehindLess s).1, _)) hnext

/-- The look goes on behind the name, but from `const` to what follows the next token. -/
lemma look_component :
    ∃ front tail stop, EndsTag tail ∧ (properties = [] → children = [] → tail = [' ', '/', '>'])
      ∧ (¬ FollowsMarkupGrammar (markupOf frame (.component name properties children)).toList
        ↔ if name = "const" then
            ((atAttributes front properties tail stop).next (scan .script)).namesType = true
          else (kindOfWord name.toList).isNameOrAwait = true
            ∧ (atAttributes front properties tail stop).namesType = true) := by
  obtain ⟨hname, hproperties, -, -⟩ := h.component
  obtain ⟨tail, hbody, htail⟩ := componentBody_append frame name properties children []
  rw [List.append_nil] at hbody
  have hword := isScriptName_of_isLetters hname
  have hsees := sees_word hword (goesOn_properties hproperties htail.toGoesOn).word .script
  have hkind : (viewing (scan .script) ['<'] (componentBody frame name properties children)
      1).token.kind = kindOfWord name.toList := by
    rw [hbody]
    exact hsees.kind_eq _
  have hconst : kindOfWord name.toList = .word "const" ↔ name = "const" := by
    rw [kindOfWord_eq hword, String.ofList_toList]
    split_ifs with hspecial
    · simp
    · refine iff_of_false not_false ?_
      rintro rfl
      exact absurd (by decide) hspecial
  have hnext : (viewing (scan .script) ['<'] (componentBody frame name properties children) 1).next
      (scan .script)
        = atAttributes (['<'] ++ name.toList) properties tail (size ['<'] + size name.toList) := by
    rw [hbody, hsees.next_viewing]
    rfl
  have hescaped : (viewing (scan .script) ['<'] (componentBody frame name properties children)
      1).token.escaped = false := by
    rw [hbody]
    exact (hsees.running ['<'] 1).escaped
  refine ⟨['<'] ++ name.toList, tail, size ['<'] + size name.toList, htail, ?_, ?_⟩
  · rintro rfl rfl
    simpa [componentBody, propertiesPieces] using hbody.symm
  · rw [toList_markupOf frame h, not_followsMarkupGrammar_iff (atLess_start frame h),
      arrowGuess_component frame h, guessBehindLess_fst, guessBehindName_fst, hkind,
      advance_apply hescaped, hnext]
    by_cases hname : name = "const"
    · rw [if_pos hname, hconst.mpr hname]
      simp only [beq_self_eq_true, Bool.or_true, if_true]
      generalize Reading.namesType _ = typed
      cases typed <;> simp
    · rw [if_neg hname, beq_false_of_ne (mt hconst.mp hname)]
      simp only [Bool.or_false, Bool.false_eq_true, if_false, hnext]
      generalize Reading.namesType _ = typed
      cases typed <;> cases (kindOfWord name.toList).isNameOrAwait <;> simp

/-- **The components that are read by the grammar of markup**, by their names and attributes.  Only
for a `const` that has content and no attributes it is the content that is looked at. -/
theorem followsMarkupGrammar_iff (hcontent : name = "const" → properties = [] → children = []) :
    FollowsMarkupGrammar (markupOf frame (.component name properties children)).toList
      ↔ ¬ TypedTag name properties := by
  obtain ⟨hname, hproperties, -, -⟩ := h.component
  obtain ⟨front, tail, stop, htail, hempty, hlook⟩ := look_component frame h
  rw [← not_iff_not, hlook, not_not]
  split_ifs with hconst
  · subst hconst
    by_cases hnil : properties = []
    · obtain rfl := hempty hnil (hcontent rfl hnil)
      subst hnil
      have hkind : ((atAttributes front [] [' ', '/', '>'] stop).next (scan .script)).token.kind
          = .mark .greater := by
        have htail : codeOf (propertiesPieces []) ++ [' ', '/', '>'] = ' ' :: (['/'] ++ ['>']) :=
          rfl
        rw [atAttributes, htail, viewing_space, (sees_slash (.inr rfl) .script []).next_viewing]
        exact (sees_greater .script []).kind_eq _
      refine iff_of_false ?_ (fun htyped => by cases htyped)
      simp [Reading.namesType, hkind, namesType]
    · rw [namesType_next_atAttributes hproperties htail front stop hnil]
      constructor
      · rintro ⟨key, value, more, rfl, hbare⟩
        by_cases hvalue : value = .bare
        · obtain ⟨property, others, rfl⟩ := hbare hvalue
          subst hvalue
          exact .constBounded
        · exact .defaulted hvalue
      · intro htyped
        cases htyped with
        | bounded hname => exact absurd (hname (by decide)) (by decide)
        | defaulted hvalue => exact ⟨_, _, _, rfl, fun hbare => absurd hbare hvalue⟩
        | constBounded => exact ⟨_, _, _, rfl, fun _ => ⟨_, _, rfl⟩⟩
  · rw [isNameOrAwait_kindOfWord (isScriptName_of_isLetters hname),
      namesType_atAttributes hproperties htail]
    constructor
    · rintro ⟨hname, property, more, rfl⟩
      exact .bounded hname
    · intro htyped
      cases htyped with
      | bounded hname => exact ⟨hname, _, _, rfl⟩
      | defaulted hvalue => exact absurd rfl hconst
      | constBounded => exact absurd rfl hconst

/-- The statement of any other component is refused at its `<`. -/
theorem parse_of_not_followsMarkupGrammar
    (hgrammar : ¬ FollowsMarkupGrammar
      (markupOf frame (.component name properties children)).toList) :
    Program.parse (markupOf frame (.component name properties children))
      = .error ⟨.expected "(" "<", ⟨1, 1⟩⟩ := by
  rw [toList_markupOf frame h] at hgrammar
  have hmodule := readModule_of_types (atLess_start frame h) hgrammar
  simp only [Program.parse, toList_markupOf frame h, hmodule]
  rfl

end Component

example : ¬ FollowsMarkupGrammar "<const b=\"x\" />".toList := by decide +kernel

end Componentry
