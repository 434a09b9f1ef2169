import Componentry.Proofs.Markup.FirstTag

/-!
# Markup survives a round trip

A component that is rendered, read again and lowered is the same component.

**Content.**  By `readsBack`, what stands between tags is always read as it was written, however
deep it is.

**The first tag.**  A text that is read by the grammar of markup is one statement, with the tag and
the content that were written (`parse_markupOf`).  Which components have such a text is said in
`followsMarkupGrammar_iff`.

The result is `rendered_markup_survives`: reading and lowering undo rendering.
-/

namespace Componentry

open Script Read Text Markup

/-- The text of a node is a single statement of markup, which is lowered to that node without a
warning. -/
def Survives (frame : Frame) (node : Node) : Prop :=
  ∃ tag found, Program.parse (markupOf frame node) = .ok ⟨[.element tag found]⟩
    ∧ (⟨[.element tag found]⟩ : Program).lower = ⟨⟨[node]⟩, []⟩

section Component

variable (frame : Frame) {name : String} {properties : List Property} {children : List Node}
  (h : (Node.component name properties children).AllPlain)

include h

/-- The text of a component is one statement, with an element for this component. -/
lemma parse_markupOf
    (hgrammar : FollowsMarkupGrammar
      (markupOf frame (.component name properties children)).toList) :
    ∃ tag found,
      Program.parse (markupOf frame (.component name properties children))
        = .ok ⟨[.element tag found]⟩
      ∧ tag.name = name ∧ tag.attributes.map lowerProperty = properties
      ∧ lowerChildren found = pure children := by
  have hback : ∀ child ∈ children,
      ReadsBack frame ((componentBody frame name properties children).length + 13 + 2) child := by
    intro child hchild
    refine readsBack frame (h.child hchild) ?_
    have := length_child_add_three_le frame name properties hchild
    omega
  have hadvance : Reads (scan .script) advance ['<'] (scan .script)
      (componentBody frame name properties children ++ []) fun _ => True :=
    reads_advanceBy (sees_less_name frame h .script [])
  have hreads := Reads.bind hadvance fun _ _ => reads_markup frame h hback false 0 []
  obtain ⟨term, stop, hmarkup, tag, found, hterm, hname, hattributes, hfound⟩ := hreads [] 0
  rw [List.append_nil, List.nil_append, List.singleton_append] at hmarkup
  rw [toList_markupOf frame h] at hgrammar
  have hmodule := readModule_of_markup (atLess_start frame h) hgrammar hmarkup (by simp [hterm])
  have hstatement : Statement.ofSentence ('<' :: componentBody frame name properties children)
      ⟨0, stop, some term⟩ = .element tag found := by
    simp [Statement.ofSentence, hterm]
    rfl
  refine ⟨tag, found, ?_, hname, hattributes, hfound⟩
  simp only [Program.parse, toList_markupOf frame h, hmodule, List.map_cons, List.map_nil,
    hstatement]

end Component

/-- **Plain markup survives a round trip.**  For every plain component whose text is read by the
grammar of markup: rendered and read again, it is a single statement that is lowered to the very
component, without a warning.

This assumption is a narrow one.  The text of every component is read so, unless its name is `const`
or its first attribute a bare `extends`. -/
theorem rendered_markup_survives (frame : Frame) {name : String} {properties : List Property}
    {children : List Node} (h : (Node.component name properties children).AllPlain) :
    (FollowsMarkupGrammar (markupOf frame (.component name properties children)).toList →
      Survives frame (.component name properties children))
    ∧ (name ≠ "const" → properties.head? ≠ some (.named "extends" .bare) →
      FollowsMarkupGrammar (markupOf frame (.component name properties children)).toList) := by
  refine ⟨fun hgrammar => ?_, fun hname hfirst => ?_⟩
  · obtain ⟨tag, found, hparse, hname, hattributes, hfound⟩ := parse_markupOf frame h hgrammar
    refine ⟨tag, found, hparse, ?_⟩
    have hlowered := lowerElement_of_isElement h.isPlain hname hattributes hfound
    simp [Program.lower, lowerStatements, lowerStatement, hlowered]
    rfl
  · refine (followsMarkupGrammar_iff frame h fun hconst => absurd hconst hname).mpr fun htyped => ?_
    exact htyped.eq_const_or.elim hname hfirst

/-- A component with attributes of every kind, and text and more in its content. -/
def profileCard : Node :=
  .component "Card"
    [.named "title" (.text "Ann's page"), .named "wide" .bare, .named "level" (.number "30"),
      .named "open" (.boolean true), .named "onSelect"
      (.expression ⟨"select", .identifier "select"⟩), .spread ⟨"rest", .identifier "rest"⟩]
    [.text " Hello, ", .expression ⟨"name", .identifier "name"⟩, .component "br" [] [],
      .component "Badge" [] [.text "new"]]

theorem profileCard_survives :
    profileCard.AllPlain ∧ FollowsMarkupGrammar (markupOf default profileCard).toList
      ∧ Survives default profileCard := by
  have hplain : profileCard.AllPlain := by decide +kernel
  obtain ⟨hsurvives, hfollows⟩ := rendered_markup_survives default hplain
  have hgrammar := hfollows (by decide) (by decide)
  exact ⟨hplain, hgrammar, hsurvives hgrammar⟩

end Componentry
