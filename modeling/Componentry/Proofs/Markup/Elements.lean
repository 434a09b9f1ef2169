import Componentry.Proofs.Component.Rendering
import Componentry.Proofs.Document.Depth
import Componentry.Proofs.Lowering.Reach
import Componentry.Proofs.Markup.Attributes

/-!
# Elements are read as they are written

The content of an element, from its code back to the nodes it was written for.

**Plain nodes.**  A component with a name of letters and plain attributes, a line of text, or a name
in braces (`Node.isPlain`).  Side by side, two texts would be read as one, so that no two of them
stand together (`textsApart`).

**Content.**  `ReadsBack` says of a node that reading its code gives content that is lowered to that
node.  Text ends only where something else starts, and the content of an element where its closing
tag does.

**Elements.**  A component is one tag or two with its content in between (`codeOf_component`).  It
is read by `reads_markup` from behind the `<`, which content and a statement have in common.

The result is `readsBack`, by induction over the nodes: the depth to which the grammar is read has
to be as large as the code is long.
-/

namespace Componentry

open Script Read Text Markup

/-! ## Plain nodes -/

/-- Whether a node is text. -/
def Node.isText : Node → Bool
  | .text _ => true
  | _ => false

/-- Whether no two texts stand side by side. -/
def textsApart : List Node → Bool
  | [] => true
  | node :: rest => !(node.isText && rest.head?.any Node.isText) && textsApart rest

/-- Whether a text between tags is one line that neither ends early nor disappears. -/
def isPlainText (text : String) : Bool :=
  text.toList.all (fun c => !endsContentText c && c != '\n') && !allBlank text
    && text.toList.getLast? != some '\r'

/-- Whether a node itself, without those below it, is plain markup. -/
def Node.isPlain : Node → Bool
  | .component name properties children =>
    isLetters name && (ReservedTag.ofName? name).isNone && properties.all Property.isPlain
      && textsApart children
  | .text value => isPlainText value
  | .expression e => e.isFreeName
  | _ => false

/-- A node is plain markup, with all that is below it. -/
def Node.AllPlain (node : Node) : Prop := ∀ below ∈ node.subnodes, below.isPlain = true

instance (node : Node) : Decidable node.AllPlain :=
  inferInstanceAs (Decidable (∀ below ∈ node.subnodes, below.isPlain = true))

lemma Node.AllPlain.isPlain {node : Node} (h : node.AllPlain) : node.isPlain = true :=
  h node node.self_mem_subnodes

lemma Node.AllPlain.child {name : String} {properties : List Property} {children : List Node}
    (h : (Node.component name properties children).AllPlain) {child : Node}
    (hchild : child ∈ children) :
    child.AllPlain := by
  intro below hbelow
  refine h below ?_
  rw [Node.subnodes_eq]
  exact List.mem_cons_of_mem _ (List.mem_flatMap.mpr ⟨child, hchild, hbelow⟩)

/-! ## The code of plain nodes -/

variable (frame : Frame)

lemma codeOf_text (text : String) : codeOf (renderNode frame (.text text)) = text.toList := by
  simp [renderNode, Piece.text]

lemma codeOf_expression (e : Expression) :
    codeOf (renderNode frame (.expression e)) = '{' :: (e.source.toList ++ ['}']) := by
  simp [renderNode, Componentry.braced, Piece.text]

lemma codeOf_renderNodes_cons (node : Node) (nodes : List Node) :
    codeOf (renderNodes frame (node :: nodes))
      = codeOf (renderNode frame node) ++ codeOf (renderNodes frame nodes) := by
  rw [renderNodes, codeOf_append]

/-- A plain node shows: its code starts as content does, and is not empty. -/
lemma length_code_pos {node : Node} (h : node.isPlain = true) :
    0 < (codeOf (renderNode frame node)).length := by
  cases node with
  | component name properties children =>
      rw [renderNode, elementPieces]
      split_ifs <;> simp [Piece.text]
  | text text =>
      rw [codeOf_text]
      simp only [Node.isPlain, isPlainText, allBlank, Bool.and_eq_true, Bool.not_eq_true'] at h
      cases htext : text.toList with
      | nil => simp [htext] at h
      | cons c rest => simp
  | expression e => simp [codeOf_expression]
  | _ => simp [Node.isPlain] at h

lemma length_le_code {nodes : List Node} (h : ∀ node ∈ nodes, node.isPlain = true) :
    nodes.length ≤ (codeOf (renderNodes frame nodes)).length := by
  induction nodes with
  | nil => simp
  | cons node nodes ih =>
      rw [List.forall_mem_cons] at h
      have := length_code_pos frame h.1
      have := ih h.2
      rw [codeOf_renderNodes_cons, List.length_append, List.length_cons]
      omega

/-- What is not text starts with a mark that ends text. -/
lemma head?_code {node : Node} (h : node.isPlain = true) (htext : node.isText = false) :
    (codeOf (renderNode frame node)).head? = some '<'
      ∨ (codeOf (renderNode frame node)).head? = some '{' := by
  cases node with
  | component name properties children =>
      left
      rw [renderNode, elementPieces]
      split_ifs <;> simp [Piece.text]
  | text text => simp [Node.isText] at htext
  | expression e =>
      right
      rw [codeOf_expression]
      rfl
  | _ => simp [Node.isPlain] at h

/-- What is written of a component behind its `<`: one tag, or two and the content between them. -/
def componentBody (name : String) (properties : List Property) (children : List Node) : List Char :=
  name.toList ++ (codeOf (propertiesPieces properties) ++
    if children.isEmpty then [' ', '/', '>']
    else '>' :: (codeOf (renderNodes frame children) ++ '<' :: '/' :: (name.toList ++ ['>'])))

/-- Behind the attributes, the tag ends. -/
lemma componentBody_append (name : String) (properties : List Property) (children : List Node)
    (rest : List Char) :
    ∃ tail, componentBody frame name properties children ++ rest
        = name.toList ++ (codeOf (propertiesPieces properties) ++ tail) ∧ EndsTag tail := by
  rw [componentBody]
  split_ifs
  · exact ⟨[' ', '/', '>'] ++ rest, by simp, endsTag_slash rest⟩
  · exact ⟨'>' :: (codeOf (renderNodes frame children) ++ '<' :: '/' :: (name.toList ++ ['>']))
      ++ rest,
      by simp, endsTag_greater _⟩

lemma codeOf_component {children : List Node} (h : ∀ child ∈ children, child.isPlain = true)
    (name : String) (properties : List Property) :
    codeOf (renderNode frame (.component name properties children))
      = '<' :: componentBody frame name properties children := by
  have hslot : ∀ child ∈ children, child.isSlotContent = false := by
    intro child hchild
    have := h child hchild
    cases child <;> simp_all [Node.isPlain, Node.isSlotContent]
  have hslots : children.filter Node.isSlotContent = [] :=
    List.filter_eq_nil_iff.mpr fun child hchild => by simp [hslot child hchild]
  have hcontent : children.filter (fun node => !node.isSlotContent) = children :=
    List.filter_eq_self.mpr fun child hchild => by simp [hslot child hchild]
  have hempty : writesNothing (renderNodes frame children) = children.isEmpty := by
    rw [Bool.eq_iff_iff, writesNothing_iff, List.isEmpty_iff, ← List.length_eq_zero_iff,
      ← List.length_eq_zero_iff]
    constructor
    · intro hcode
      have := length_le_code frame h
      omega
    · intro hchildren
      rw [List.length_eq_zero_iff.mp hchildren]
      simp [renderNodes]
  rw [renderNode]
  simp only [renderSlots_eq_flatMap, renderContent_eq_flatMap, hslots, hcontent,
    ← renderNodes_eq_flatMap, elementPieces, hempty, componentBody]
  split_ifs <;> simp [Piece.text]

/-! ## Content -/

/-- Text between tags ends at a place: a tag or an expression starts there. -/
def EndsText (rest : List Char) : Prop := rest.head? = some '<' ∨ rest.head? = some '{'

/-- Text is followed by a child that is none, or by the closing tag. -/
lemma endsText_children {node : Node} {children : List Node}
    (hplain : ∀ child ∈ children, child.isPlain = true)
    (happart : (node.isText && children.head?.any Node.isText) = false) (more : List Char)
    (htext : node.isText = true) :
    EndsText (codeOf (renderNodes frame children) ++ '<' :: more) := by
  cases children with
  | nil => exact .inl (by simp [renderNodes])
  | cons next others =>
      have hnext : next.isText = false := by simpa [htext] using happart
      have hhead := head?_code frame (hplain next List.mem_cons_self) hnext
      rw [codeOf_renderNodes_cons, List.append_assoc]
      rcases hhead with h | h
      · exact .inl (by simp [List.head?_append, h])
      · exact .inr (by simp [List.head?_append, h])

/-- Between tags, a node is read from its code and lowered to itself.  Text has to end there. -/
def ReadsBack (depth : Nat) (node : Node) : Prop :=
  ∀ rest : List Char, (node.isText = true → EndsText rest) →
    Reads scanContent (child? (.upTo depth)) (codeOf (renderNode frame node)) scanContent rest
      fun found => ∃ child, found = some child ∧ lowerChild child = pure (some node)

/-- The text of a node that is plain is seen as one token. -/
lemma sees_plainText {text : String} (h : isPlainText text = true) {rest : List Char}
    (hrest : EndsText rest) : Sees scanContent text.toList rest .text := by
  simp only [isPlainText, allBlank, Bool.and_eq_true, Bool.not_eq_true', List.all_eq_true] at h
  obtain ⟨⟨hchars, hblank⟩, -⟩ := h
  refine sees_text ?_ (fun c hc => (hchars c hc).1) hrest
  intro hnil
  simp [hnil] at hblank

lemma readsBack_text {text : String} (h : isPlainText text = true) (depth : Nat) :
    ReadsBack frame depth (.text text) := by
  intro rest hrest front lastStop
  have hsees := sees_plainText h (hrest rfl)
  simp only [isPlainText, Bool.and_eq_true, Bool.not_eq_true', List.all_eq_true, bne_iff_ne] at h
  obtain ⟨⟨hchars, hblank⟩, hend⟩ := h
  have hline : IsLine text.toList :=
    ⟨fun hbreak => (hchars _ hbreak).2 rfl, fun c hc heq => hend (heq ▸ hc)⟩
  have hclean : clean text = some text := by
    have := clean_of_isLine hline hblank
    rwa [String.ofList_toList] at this
  rw [codeOf_text]
  have hlower : lowerChild (.text text) = pure (some (.text text)) := by
    rw [lowerChild, hclean]; rfl
  refine ⟨some (.text text), size front + size text.toList, ?_, .text text, rfl, hlower⟩
  have hkind : (viewing scanContent front (text.toList ++ rest) lastStop).token.kind = .text :=
    hsees.kind_eq _
  have hstart : (viewing scanContent front (text.toList ++ rest) lastStop).token.start
      = size front :=
    hsees.start_eq _
  have hstop : (viewing scanContent front (text.toList ++ rest) lastStop).token.stop
      = size front + size text.toList := hsees.stop_eq _
  simp [child?, hkind, hstart, hstop, advanceBy_apply _ (hsees.running front lastStop).escaped,
    hsees.next_viewing, slice_append]

lemma readsBack_expression {e : Expression} (h : e.isFreeName = true) (depth : Nat) :
    ReadsBack frame (depth + 2) (.expression e) := by
  intro rest _
  obtain ⟨hoperand, hname⟩ := Expression.operand h
  rw [codeOf_expression, ← List.singleton_append]
  have hsees := sees_content_openBrace (e.source.toList ++ ['}'] ++ rest)
  refine Reads.lookToken (fun offset => by rw [List.append_assoc, hsees.kind_eq]) fun t ht => ?_
  simp only [ht]
  refine Reads.bind (reads_advanceBy hsees) fun _ _ => ?_
  refine Reads.notEaten (fun offset => ?_) ?_
  · rw [List.append_assoc]
    exact hoperand.kind_ne_mark rest .ellipsis offset
  · refine Reads.bind_pure (reads_braced hoperand depth true t.start rest) fun found hfound => ?_
    refine ⟨.expression found, rfl, ?_⟩
    have hfound : found = e := by
      rw [hfound, String.ofList_toList]
      exact hname
    have hempty : e.isEmpty = false := by
      rw [← hname]
      rfl
    rw [lowerChild, hfound, hempty]
    rfl

/-- In front of a closing tag there is no more content. -/
lemma child?_closing {c : Char} (hc : isNameStart c = true) (g : Grammar) (front more : List Char)
    (lastStop : Nat) :
    child? g (viewing scanContent front ('<' :: '/' :: c :: more) lastStop)
      = (none, viewing scanContent front ('<' :: '/' :: c :: more) lastStop) := by
  have hsees := sees_content_less ('/' :: c :: more)
  have hslash := sees_slash (.inl hc) .script more
  have hkind : (viewing scanContent front ('<' :: '/' :: c :: more) lastStop).token.kind
      = .mark .less :=
    hsees.kind_eq _
  have hadvance : advance (viewing scanContent front ('<' :: '/' :: c :: more) lastStop)
      = ((), viewing (scan .script) (front ++ ['<']) ('/' :: c :: more)
        (size front + size ['<'])) :=
    (advance_apply (hsees.running front lastStop).escaped).trans
      (congrArg _ (hsees.next_viewing front lastStop (scan .script)))
  have hnext : (viewing (scan .script) (front ++ ['<']) ('/' :: c :: more)
      (size front + size ['<'])).token.kind = .mark .slash := hslash.kind_eq _
  simp [child?, hkind, hadvance, hnext, Token.Kind.isWordLike]

/-- All that follows a node is behind the first token of its code. -/
lemma length_behind_node {node : Node} (hplain : node.isPlain = true) {rest : List Char}
    (hrest : node.isText = true → EndsText rest) (offset : Nat) :
    rest.length ≤ (scanContent ⟨codeOf (renderNode frame node) ++ rest,
      offset⟩).cursor.rest.length := by
  by_cases htext : node.isText = true
  · cases node with
    | text text => rw [codeOf_text, (sees_plainText hplain (hrest rfl)).cursor_eq]
    | _ => simp [Node.isText] at htext
  · rcases head?_code frame hplain (by simpa using htext) with h | h
    · obtain ⟨tail, htail⟩ := List.head?_eq_some_iff.mp h
      have hcursor := (sees_content_less (tail ++ rest)).cursor_eq offset
      rw [List.singleton_append] at hcursor
      simp [htail, hcursor]
    · obtain ⟨tail, htail⟩ := List.head?_eq_some_iff.mp h
      have hcursor := (sees_content_openBrace (tail ++ rest)).cursor_eq offset
      rw [List.singleton_append] at hcursor
      simp [htail, hcursor]

section Content

variable {depth : Nat} {children : List Node}

/-- The content of an element is read up to its closing tag. -/
lemma reads_childrenFrom (hplain : ∀ child ∈ children, child.isPlain = true)
    (hback : ∀ child ∈ children, ReadsBack frame depth child) (happart : textsApart children = true)
    {c : Char} (hc : isNameStart c = true) (more : List Char) {steps : Nat}
    (hsteps : children.length < steps) :
    Reads scanContent (childrenFrom (.upTo depth) steps) (codeOf (renderNodes frame children))
      scanContent ('<' :: '/' :: c :: more) fun found => lowerChildren found = pure children := by
  induction children generalizing steps with
  | nil =>
      obtain ⟨steps, rfl⟩ := Nat.exists_eq_add_of_lt hsteps
      intro front lastStop
      refine ⟨[], lastStop, ?_, lowerChildren.eq_1⟩
      simp [childrenFrom, renderNodes, child?_closing hc]
  | cons node children ih =>
      obtain ⟨steps, rfl⟩ := Nat.exists_eq_add_of_lt hsteps
      rw [List.forall_mem_cons] at hplain hback
      simp only [textsApart, Bool.and_eq_true, Bool.not_eq_true'] at happart
      have hmore := ih hplain.2 hback.2 happart.2
        (by simp only [List.length_cons]; omega : children.length < (node
          :: children).length + steps)
      have hhead := endsText_children frame hplain.2 happart.1 ('/' :: c :: more)
      rw [codeOf_renderNodes_cons, childrenFrom]
      refine Reads.peek (p := fun stopped => stopped = false)
        (fun _ _ => ⟨_, rfl, isStopped_apply _⟩) ?_
      rintro _ rfl
      refine Reads.bind (hback.1 _ hhead) ?_
      rintro _ ⟨child, rfl, hchild⟩
      refine Reads.bind_pure hmore fun found hfound => ?_
      rw [lowerChildren, hchild, hfound]
      rfl

/-- Steps enough to go over the content of an element. -/
lemma length_lt_steps_content (hplain : ∀ child ∈ children, child.isPlain = true)
    (happart : textsApart children = true) (more : List Char) (offset : Nat) :
    children.length
      < (scanContent ⟨codeOf (renderNodes frame children) ++ '<' :: more,
        offset⟩).cursor.rest.length
        + 3 := by
  cases children with
  | nil => simp
  | cons node children =>
      rw [List.forall_mem_cons] at hplain
      simp only [textsApart, Bool.and_eq_true, Bool.not_eq_true'] at happart
      have hlength := length_le_code frame hplain.2
      have hends := endsText_children frame hplain.2 happart.1 more
      have hbehind := length_behind_node frame hplain.1 hends offset
      rw [codeOf_renderNodes_cons, List.append_assoc]
      simp only [List.length_append, List.length_cons] at *
      omega

end Content

/-! ## Elements -/

/-- What is read for a component: an element that is lowered to it. -/
def IsElement (name : String) (properties : List Property) (children : List Node) (term : Term) :
    Prop :=
  ∃ tag found, term.value = .element tag found ∧ tag.name = name
    ∧ tag.attributes.map lowerProperty = properties ∧ lowerChildren found = pure children

section Element

variable {name : String} {properties : List Property} (hname : isLetters name = true)
  (hproperties : ∀ property ∈ properties, property.isPlain = true)

include hname hproperties

/-- A tag up to its end. -/
lemma reads_tag {β : Type} {q : β → Prop} {next : TagName → List Attribute → Read β}
    {tail rest : List Char} {way : Cursor → Scanned} (htail : EndsTag (tail ++ rest)) (depth : Nat)
    (hnext : ∀ found attributes, found.written = name → found.spaced = false →
      found.parts = [name] →
      attributes.map lowerProperty = properties →
      Reads (scan .script) (next found attributes) tail way rest q) :
    Reads (scan .script) (do
        let found ← tagName
        let attributes ← attributesFrom (.upTo (depth + 2)) (← steps)
        next found attributes)
      (name.toList ++ (codeOf (propertiesPieces properties) ++ tail)) way rest q := by
  have hgoes := goesOn_properties hproperties htail.toGoesOn
  have hword := isScriptName_of_isLetters hname
  refine Reads.bind (reads_tagName hword ?_) ?_
  · rw [List.append_assoc]
    exact hgoes.toEndsTagName
  rintro found ⟨hwritten, hspaced, hparts⟩
  rw [String.ofList_toList] at hwritten hparts
  refine Reads.peek (p := fun n => properties.length < n)
    (fun front _ => ⟨_, ?_, steps_apply _⟩) fun n hn => ?_
  · rw [List.append_assoc]
    exact length_lt_steps hproperties htail.toGoesOn (size front)
  exact Reads.bind (reads_attributesFrom hproperties htail depth hn) fun attributes hattributes =>
    hnext found attributes hwritten hspaced hparts hattributes

/-- An element without content. -/
lemma reads_element_nil (depth : Nat) (content : Bool) (start : Nat) (rest : List Char) :
    Reads (scan .script) (element (.upTo (depth + 2)) content start)
      (name.toList ++ (codeOf (propertiesPieces properties) ++ [' ', '/', '>']))
      (wayBehind content) rest (IsElement name properties []) := by
  refine reads_tag hname hproperties (endsTag_slash rest) depth ?_
  intro found attributes hwritten _ _ hattributes
  rw [show [' ', '/', '>'] = [' ', '/'] ++ ['>'] from rfl]
  refine Reads.bind (Reads.space (reads_eat (sees_slash (.inr rfl) .script rest))) ?_
  rintro _ rfl
  refine Reads.peek (p := fun _ => True) (fun _ _ => ⟨_, trivial, positionOf_apply _ _⟩)
    fun _ _ => ?_
  refine Reads.bind_nil (reads_expectIn (sees_greater .script rest) content) fun _ _ => ?_
  refine Reads.mono (reads_termFrom start _) fun term hterm => ?_
  exact ⟨_, [], hterm, hwritten, hattributes, lowerChildren.eq_1⟩

/-- An element with content. -/
lemma reads_element_cons {depth : Nat} {children : List Node}
    (hplain : ∀ child ∈ children, child.isPlain = true) (happart : textsApart children = true)
    (hback : ∀ child ∈ children, ReadsBack frame (depth + 2) child) (content : Bool) (start : Nat)
    (rest : List Char) :
    Reads (scan .script) (element (.upTo (depth + 2)) content start)
      (name.toList ++ (codeOf (propertiesPieces properties)
        ++ '>' :: (codeOf (renderNodes frame children) ++ '<' :: '/' :: (name.toList ++ ['>']))))
      (wayBehind content) rest (IsElement name properties children) := by
  have hword := isScriptName_of_isLetters hname
  obtain ⟨c, letters, hletters⟩ : ∃ c letters, name.toList = c :: letters := by
    cases htext : name.toList with
    | nil => simp [htext, isScriptName] at hword
    | cons c letters => exact ⟨c, letters, rfl⟩
  have hc : isNameStart c = true := by
    simp only [hletters, isScriptName, Bool.and_eq_true] at hword
    exact hword.1
  refine reads_tag hname hproperties (endsTag_greater _) depth ?_
  intro found attributes hwritten hspaced hparts hattributes
  rw [← List.singleton_append]
  refine Reads.notEaten (fun offset => ?_) ?_
  · rw [List.append_assoc, (sees_greater .script _).kind_eq]
    decide
  refine Reads.peek (p := fun _ => True) (fun _ _ => ⟨_, trivial, positionOf_apply _ _⟩)
    fun _ _ => ?_
  refine Reads.bind (reads_expectBy (sees_greater .script _)) fun _ _ => ?_
  refine Reads.peek (p := fun n => children.length < n)
    (fun front _ => ⟨_, ?_, steps_apply _⟩) fun n hn => ?_
  · rw [List.append_assoc]
    exact length_lt_steps_content frame hplain happart _ (size front)
  have hchildren : Reads scanContent (childrenFrom (.upTo (depth + 2)) n)
      (codeOf (renderNodes frame children)) scanContent
      ('<' :: '/' :: (name.toList ++ ['>']) ++ rest) fun found =>
      lowerChildren found = pure children := by
    rw [hletters]
    exact reads_childrenFrom frame hplain hback happart hc _ hn
  refine Reads.bind hchildren fun inner hinner => ?_
  rw [← List.singleton_append]
  refine Reads.bind (reads_expect (sees_content_less _)) fun _ _ => ?_
  rw [← List.singleton_append]
  have hslash : Sees (scan .script) ['/'] (name.toList ++ ['>'] ++ rest) (.mark .slash) := by
    rw [hletters]
    exact sees_slash (.inl hc) .script _
  refine Reads.bind (reads_expect hslash) fun _ _ => ?_
  refine Reads.bind (reads_tagName hword (endsTag_greater rest).toEndsTagName) ?_
  rintro closing ⟨-, hclosing, hclosed⟩
  rw [String.ofList_toList] at hclosed
  refine Reads.bind_nil (reads_expectIn (sees_greater .script rest) content) fun _ _ => ?_
  have hsame : found.same closing = true := by
    simp [TagName.same, hspaced, hparts, hclosing, hclosed]
  rw [if_pos hsame]
  refine Reads.mono (reads_termFrom start _) fun term hterm => ?_
  exact ⟨_, inner, hterm, hwritten, hattributes, hinner⟩

end Element

/-! ## Whole nodes -/

section Lowering

variable {name : String} {properties : List Property} {children : List Node}
  (h : (Node.component name properties children).isPlain = true)

include h

/-- An element that was read for a component is lowered to it. -/
lemma lowerElement_of_isElement {tag : Tag} {found : List Child} (hname : tag.name = name)
    (hattributes : tag.attributes.map lowerProperty = properties)
    (hfound : lowerChildren found = pure children) :
    lowerElement tag found (.ofChildren found) = pure (.component name properties children) := by
  simp only [Node.isPlain, Bool.and_eq_true, Option.isNone_iff_eq_none] at h
  have hnodes : (Contents.ofChildren found).nodes () = pure children := hfound
  simp only [lowerElement, hname, h.1.1.2, hnodes, hattributes]
  rfl

/-- It is not addressed to a slot. -/
lemma slotTarget?_of_isElement {tag : Tag}
    (hattributes : tag.attributes.map lowerProperty = properties) :
    tag.slotTarget? = none := by
  simp only [Node.isPlain, Bool.and_eq_true, List.all_eq_true] at h
  have hnone : tag.attribute? "slot" = none := by
    refine List.find?_eq_none.mpr fun a ha => ?_
    obtain ⟨written, hmem, hnamed⟩ := List.mem_filterMap.mp ha
    cases written with
    | spread argument position => simp [Attribute.asNamed] at hnamed
    | named key value position =>
        obtain rfl : _ = a := Option.some.inj hnamed
        have hplain := h.1.2 (lowerProperty (.named key value position))
          (hattributes ▸ List.mem_map_of_mem hmem)
        simp only [lowerProperty, Property.isPlain, Bool.and_eq_true, bne_iff_ne] at hplain
        simpa using hplain.1.2
  rw [Tag.slotTarget?, hnone]
  rfl

end Lowering

section Component

variable {name : String} {properties : List Property} {children : List Node}
  (h : (Node.component name properties children).AllPlain)

include h

lemma Node.AllPlain.component :
    isLetters name = true ∧ (∀ property ∈ properties, property.isPlain = true)
    ∧ textsApart children = true ∧ ∀ child ∈ children, child.isPlain = true := by
  have hself := h.isPlain
  simp only [Node.isPlain, Bool.and_eq_true, List.all_eq_true] at hself
  exact ⟨hself.1.1.1, hself.1.2, hself.2, fun child hchild => (h.child hchild).isPlain⟩

/-- The first token of a component behind its `<` is its name. -/
lemma sees_name (rest : List Char) :
    ∃ behind, componentBody frame name properties children ++ rest = name.toList ++ behind
      ∧ Sees (scan .script) name.toList behind (kindOfWord name.toList) := by
  obtain ⟨hname, hproperties, -, -⟩ := h.component
  obtain ⟨tail, htext, htail⟩ := componentBody_append frame name properties children rest
  refine ⟨_, htext, sees_word (isScriptName_of_isLetters hname) ?_ .script⟩
  exact (goesOn_properties hproperties htail.toGoesOn).word

lemma sees_less_name (quoting : Quoting) (rest : List Char) :
    Sees (scan quoting) ['<'] (componentBody frame name properties children ++ rest)
      (.mark .less) := by
  obtain ⟨behind, hbody, -⟩ := sees_name frame h rest
  have hword := isScriptName_of_isLetters h.component.1
  rw [hbody]
  cases htext : name.toList with
  | nil => simp [htext, isScriptName] at hword
  | cons c letters =>
      simp only [htext, isScriptName, Bool.and_eq_true] at hword
      exact sees_less hword.1 quoting (letters ++ behind)

/-- A component is read from behind its `<`. -/
lemma reads_markup {depth : Nat} (hback : ∀ child ∈ children, ReadsBack frame (depth + 2) child)
    (content : Bool) (start : Nat) (rest : List Char) :
    Reads (scan .script) (markup (.upTo (depth + 2)) content start)
      (componentBody frame name properties children) (wayBehind content) rest
      (IsElement name properties children) := by
  obtain ⟨hname, hproperties, happart, hplain⟩ := h.component
  obtain ⟨behind, hbody, hsees⟩ := sees_name frame h rest
  have hlike := isWordLike_kindOfWord (isScriptName_of_isLetters hname)
  refine Reads.lookKind (fun offset => by rw [hbody, hsees.kind_eq]) ?_
  rw [if_neg (by rintro hmark; rw [beq_iff_eq.mp hmark] at hlike; cases hlike), if_pos hlike,
    componentBody]
  split_ifs with hempty
  · obtain rfl := List.isEmpty_iff.mp hempty
    exact reads_element_nil hname hproperties depth content start rest
  · exact reads_element_cons frame hname hproperties hplain happart hback content start rest

lemma readsBack_component {depth : Nat}
    (hback : ∀ child ∈ children, ReadsBack frame (depth + 2) child) :
    ReadsBack frame (depth + 3) (.component name properties children) := by
  intro rest _
  obtain ⟨hname, hproperties, happart, hplain⟩ := h.component
  obtain ⟨behind, hbody, hsees⟩ := sees_name frame h rest
  have hlike := isWordLike_kindOfWord (isScriptName_of_isLetters hname)
  have hless := sees_content_less (componentBody frame name properties children ++ rest)
  rw [codeOf_component frame hplain, ← List.singleton_append]
  refine Reads.lookToken (fun offset => by rw [List.append_assoc, hless.kind_eq]) fun t ht => ?_
  simp only [ht]
  refine Reads.peek (p := fun _ => True) (fun _ _ => ⟨_, trivial, get_apply _⟩) fun before _ => ?_
  refine Reads.bind (reads_advanceBy hless) fun _ _ => ?_
  refine Reads.lookKind (fun offset => by rw [hbody, hsees.kind_eq]) ?_
  rw [if_pos (by rw [hlike, Bool.or_true])]
  refine Reads.bind_nil (reads_markup frame h hback true t.start rest) ?_
  rintro term ⟨tag, found, hterm, htag, hattributes, hfound⟩
  simp only [hterm]
  refine reads_pure ⟨.element tag found, rfl, ?_⟩
  have hplain := h.isPlain
  rw [lowerChild_element, slotTarget?_of_isElement hplain hattributes,
    lowerElement_of_isElement hplain htag hattributes hfound]
  rfl

end Component

/-- The code of a child is a part of the code of its parent, without the marks of two tags. -/
lemma length_child_add_three_le (name : String) (properties : List Property) {children : List Node}
    {child : Node} (hchild : child ∈ children) :
    (codeOf (renderNode frame child)).length + 3
      ≤ (componentBody frame name properties children).length := by
  have hempty : children.isEmpty = false := by
    cases children <;> simp_all
  have hlength : (codeOf (renderNode frame child)).length
      ≤ (codeOf (renderNodes frame children)).length := by
    obtain ⟨front, back, rfl⟩ := List.append_of_mem hchild
    simp only [renderNodes_eq_flatMap, List.flatMap_append, List.flatMap_cons, codeOf_append,
      List.length_append]
    omega
  simp only [componentBody, hempty, Bool.false_eq_true, if_false, List.length_append,
    List.length_cons]
  omega

/-- **Reading undoes rendering**: content that is plain is read from its code and lowered to
itself. -/
theorem readsBack {node : Node} (h : node.AllPlain) {depth : Nat}
    (hdepth : (codeOf (renderNode frame node)).length ≤ depth) : ReadsBack frame depth node := by
  induction node using Node.induction generalizing depth with
  | step node ih =>
      cases node with
      | text text => exact readsBack_text frame h.isPlain depth
      | expression e =>
          rw [codeOf_expression] at hdepth
          obtain ⟨depth, rfl⟩ : ∃ d, depth = d + 2 := ⟨depth - 2, by simp at hdepth; omega⟩
          exact readsBack_expression frame h.isPlain depth
      | component name properties children =>
          have hbody : 3 ≤ (componentBody frame name properties children).length := by
            simp only [componentBody]
            split_ifs <;> simp <;> omega
          rw [codeOf_component frame h.component.2.2.2, List.length_cons] at hdepth
          obtain ⟨depth, rfl⟩ : ∃ d, depth = d + 3 := ⟨depth - 3, by omega⟩
          refine readsBack_component frame h fun child hchild => ih child hchild (h.child hchild) ?_
          have := length_child_add_three_le frame name properties hchild
          omega
      | _ => simpa [Node.isPlain] using h.isPlain

end Componentry
