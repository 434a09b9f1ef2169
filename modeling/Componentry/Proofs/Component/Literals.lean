import Componentry.Markup.Program
import Componentry.Proofs.Component.HooksAndSlots
import Componentry.Proofs.Component.RouteTest
import Componentry.Proofs.Component.StateForms
import Componentry.Proofs.Script.Operands

/-!
# Literals of generated modules

Texts of the author that are values of a script are written as literals: the initial text of a
state, the text of a case, the path of a route without parameters, and the name of a slot.

**Reading.**  A quoted text is one token of a script (`sees_quote`), and an expression that consists
of it is a string with that very text (`ofText_quoted`).

**Places.**  The code of a node contains the code of every node that it enters (`code_entered`), so
the code of every rendered node stands in the module (`Generated.code_rendered`).  `Node.Spells` and
`StateDeclaration.Spells` say where in that code the literals are, and that reading them gives the
texts of the document.
-/

namespace Componentry

open Route Script Text

/-! ## Reading a quoted text -/

namespace Script

/-- A quoted text is one token, up to its closing quote. -/
lemma sees_quote (text rest : List Char) :
    Sees (scan .script) (quote text) rest (.string (String.ofList text) true) := by
  refine Sees.of_plain rfl fun offset => ?_
  have hscan : scan .script ⟨'"' :: (text.flatMap escaped ++ '"' :: rest), offset⟩
      = scanString .script '"' ⟨⟨'"' :: (text.flatMap escaped ++ '"' :: rest), offset⟩, false,
        none⟩ := by
    rw [scan, gap_of_isVisible rfl]
    rfl
  have hmove := Cursor.moveTo_append (quote text) rest offset
  have hunits : (text.map StringUnit.char).all StringUnit.isChar = true := by
    simp [StringUnit.isChar]
  rw [quote_append] at hmove ⊢
  rw [hscan]
  simp only [scanString, List.drop_one, List.tail_cons, stringBody_quote, hmove,
    stringOfUnits_chars, hunits, if_true, List.map_nil, List.append_nil]

/-- A quoted text is an expression, and its value is the text. -/
lemma readExpression_quote (text : List Char) :
    ∃ term, readExpression (quote text) = .ok term ∧ term.value = .string (String.ofList text) := by
  have hsees := sees_quote text []
  have hstart : Reading.start (quote text) = viewing (scan .script) [] (quote text ++ []) 0 := by
    rw [List.append_nil]
    rfl
  have hrunning := hsees.running [] 0
  have hkind : (viewing (scan .script) [] (quote text ++ []) 0).token.kind
      = .string (String.ofList text) true := hsees.kind_eq _
  -- behind the literal is the end of the text, so none of the rules finds anything to go on with
  have hnext : EndsOperand
      ((viewing (scan .script) [] (quote text ++ []) 0).next (scan .script)).token.kind := by
    rw [hsees.next_viewing]
    exact .inr (sees_ending.kind_eq _)
  have hprimary := primary_of_string hrunning hnext (.upTo ((quote text).length + 14)) hkind
  have hexpression := expression_of_primary hrunning (by rw [hkind]; rfl) hnext hprimary
  rw [readExpression, hstart, Grammar.forLength, hexpression, hsees.next_viewing]
  exact ⟨_, rfl, rfl⟩

end Script

lemma ofText_quoted (text : String) :
    Expression.ofText (quoted text) = ⟨quoted text, .string text⟩ := by
  -- blanks at the ends of the text are inside of the quotes and not trimmed
  have htight : Tight (quote text.toList) := by
    refine ⟨by simp [quote], fun c hc => ?_, fun c hc => ?_⟩
    · obtain rfl : '"' = c := Option.some.inj hc
      decide
    · rw [quote, List.getLast?_concat] at hc
      obtain rfl : '"' = c := Option.some.inj hc
      decide
  obtain ⟨term, hread, hvalue⟩ := readExpression_quote text.toList
  rw [Expression.ofText, quoted, String.toList_ofList, trim_of_tight htight, hread]
  simp [hvalue, Shape.kind, Shape.ungrouped]

/-! ## Where code stands

The template of a block contains its content, so the code of a node contains that of the nodes it
enters. -/

section Templates

variable (content : List Piece)

lemma codeOf_infix {part whole : List Piece} (h : part <:+: whole) :
    codeOf part <:+: codeOf whole := by
  obtain ⟨front, back, rfl⟩ := h
  exact ⟨codeOf front, codeOf back, by simp⟩

lemma infix_flatMap {α : Type} {f : α → List Piece} {a : α} {all : List α} (h : a ∈ all) :
    f a <:+: all.flatMap f := by
  rw [List.flatMap_def]
  exact List.infix_of_mem_flatten (List.mem_map_of_mem h)

lemma infix_intercalate (separator : List Piece) {row : List Piece} {rows : List (List Piece)}
    (h : row ∈ rows) : row <:+: separator.intercalate rows := by
  induction rows with
  | nil => simp at h
  | cons first rest ih =>
      cases rest with
      | nil =>
          have hrow : row = first := List.mem_singleton.mp h
          exact ⟨[], [], by simp [hrow]⟩
      | cons next more =>
          rw [List.intercalate_cons_cons]
          rcases List.mem_cons.mp h with rfl | hrest
          · exact List.infix_append_of_infix_left (List.infix_append_of_infix_left List.infix_rfl)
          · exact List.infix_append_of_infix_right (ih hrest)

lemma infix_braced : content <:+: braced content := ⟨[_], [_], rfl⟩

lemma infix_fragmentOf : content <:+: fragmentOf content := ⟨[_], [_], rfl⟩

lemma infix_returnOf : content <:+: returnOf content :=
  (infix_fragmentOf content).trans ⟨[_], [_], rfl⟩

lemma infix_immediately : content <:+: immediately content := ⟨[_], [_], rfl⟩

lemma infix_ifPieces (condition : Expression) : content <:+: ifPieces condition content := by
  refine (infix_fragmentOf content).trans (List.IsInfix.trans ?_ (infix_braced _))
  exact ⟨[_, _, _], [_], rfl⟩

lemma infix_loopPieces (items : Expression) (itemName : String) :
    content <:+: loopPieces items itemName content := by
  refine (infix_returnOf content).trans (List.IsInfix.trans ?_ (infix_braced _))
  exact List.infix_append _ _ _

lemma infix_casePieces (value : CaseValue) : content <:+: casePieces value content :=
  (infix_returnOf content).trans ⟨[_, _, _], [_], rfl⟩

lemma infix_switchPieces (value : Expression) : content <:+: switchPieces value content := by
  refine List.IsInfix.trans ?_ (infix_immediately _)
  exact ⟨[_, _, _], [_], rfl⟩

lemma infix_routePieces (index : Nat) (path : String) (boundAs : Option String) :
    content <:+: routePieces index path boundAs content := by
  refine (infix_returnOf content).trans ?_
  dsimp only [routePieces]
  split_ifs <;> exact List.infix_append _ _ _

lemma infix_routerPieces {row : List Piece} {rows : List (List Piece)} (h : row ∈ rows) :
    row <:+: routerPieces rows := by
  refine (infix_intercalate [.code "\n"] h).trans (List.IsInfix.trans ?_ (infix_immediately _))
  exact ⟨[_], [_], rfl⟩

lemma infix_slotContentPieces (name : String) (element : Node) :
    content <:+: slotContentPieces name element content := by
  have hbraced : ∀ pieces : List Piece, braced pieces
      <:+: .authored name :: .code "=" :: braced pieces :=
    fun pieces => (List.suffix_append [_, _] _).isInfix
  cases element with
  | component _ _ _ => exact (infix_braced content).trans (hbraced content)
  | _ =>
      exact (infix_fragmentOf content).trans ((infix_braced _).trans (hbraced (fragmentOf content)))

lemma infix_asyncPieces (promise : Expression) (key : Option Expression)
    (doneAlias failedAlias : String) (done failed loading : List Piece) :
    done <:+: asyncPieces promise key doneAlias failedAlias done failed loading
      ∧ failed <:+: asyncPieces promise key doneAlias failedAlias done failed loading
      ∧ loading <:+: asyncPieces promise key doneAlias failedAlias done failed loading := by
  -- the first branch has more than one list behind it
  have hdone : ∀ front first second third last : List Piece,
      returnOf done <:+: front ++ returnOf done ++ first ++ second ++ third ++ last := by
    intro front first second third last
    exact ⟨front, first ++ second ++ third ++ last, by simp⟩
  refine ⟨?_, ?_, ?_⟩
  · exact (infix_returnOf done).trans ((hdone _ _ _ _ _).trans (infix_immediately _))
  · exact (infix_returnOf failed).trans ((List.infix_append _ _ _).trans (infix_immediately _))
  · refine (infix_returnOf loading).trans (List.IsInfix.trans ?_ (infix_immediately _))
    exact List.infix_append_of_infix_right (List.infix_cons List.infix_rfl)

lemma infix_properties (name : String) (properties : List Piece) :
    properties <:+: elementPieces name properties content := by
  unfold elementPieces
  split_ifs
  · exact ⟨[_], [_], rfl⟩
  · exact List.infix_append_of_infix_left
      (List.infix_append_of_infix_left (List.infix_cons List.infix_rfl))

/-- The content of a tag is left out only if it has no text. -/
lemma code_elementPieces (name : String) (properties : List Piece) :
    codeOf content <:+: codeOf (elementPieces name properties content) := by
  unfold elementPieces
  split_ifs with hnothing
  · rw [(writesNothing_iff content).mp hnothing]
    exact List.nil_infix
  · refine codeOf_infix (List.infix_append_of_infix_left (List.infix_append_of_infix_right ?_))
    exact List.infix_cons List.infix_rfl

end Templates

lemma infix_renderNodes {frame : Frame} {node : Node} {nodes : List Node} (h : node ∈ nodes) :
    renderNode frame node <:+: renderNodes frame nodes := by
  rw [renderNodes_eq_flatMap]
  exact infix_flatMap h

lemma mem_renderRoutes {frame : Frame} {route : Route Node} {routes : List (Route Node)}
    (h : route ∈ routes) (index : Nat) : ∃ place, routePieces place route.path route.boundAs
      (renderNodes (frame.bind? route.boundAs) route.children)
        ∈ renderRoutes frame index routes := by
  induction routes generalizing index with
  | nil => simp at h
  | cons first rest ih =>
      rw [renderRoutes]
      rcases List.mem_cons.mp h with rfl | hrest
      · exact ⟨index, List.mem_cons_self⟩
      · obtain ⟨place, hplace⟩ := ih hrest (index + 1)
        exact ⟨place, List.mem_cons_of_mem _ hplace⟩

/-- One step: the code of a node contains that of every node that it enters. -/
lemma code_entered {frame : Frame} {node : Node} {placed : Placed}
    (h : placed ∈ node.entered frame) :
    codeOf (renderNode placed.frame placed.node) <:+: codeOf (renderNode frame node) := by
  cases node with
  | ifBlock condition children =>
      obtain ⟨child, hc, rfl⟩ := List.mem_map.mp h
      rw [renderNode]
      exact codeOf_infix ((infix_renderNodes hc).trans (infix_ifPieces _ condition))
  | loop items itemName children =>
      obtain ⟨child, hc, rfl⟩ := List.mem_map.mp h
      rw [renderNode]
      exact codeOf_infix ((infix_renderNodes hc).trans (infix_loopPieces _ items itemName))
  | async promise key done failed loading doneAlias failedAlias =>
      simp only [Node.entered, List.mem_append, List.mem_map] at h
      rw [renderNode]
      obtain ⟨hdone, hfailed, hloading⟩ := infix_asyncPieces promise key doneAlias failedAlias
        (renderSettled frame doneAlias done) (renderNodes (frame.bind failedAlias) failed)
        (renderNodes frame loading)
      rcases h with (⟨child, hc, rfl⟩ | ⟨child, hc, rfl⟩) | ⟨child, hc, rfl⟩
      · -- each child has a frame of its own here
        rw [renderSettled_eq_flatMap] at hdone ⊢
        let row (node : Node) := renderNode (frame.settled doneAlias node) node
        have hrow : row child <:+: done.flatMap row := infix_flatMap hc
        exact codeOf_infix (hrow.trans hdone)
      · exact codeOf_infix ((infix_renderNodes hc).trans hfailed)
      · exact codeOf_infix ((infix_renderNodes hc).trans hloading)
  | router routes =>
      simp only [Node.entered, List.mem_flatMap, List.mem_map] at h
      obtain ⟨route, hroute, child, hc, rfl⟩ := h
      obtain ⟨place, hplace⟩ := @mem_renderRoutes frame route routes hroute 0
      rw [renderNode]
      exact codeOf_infix ((infix_renderNodes hc).trans
        ((infix_routePieces _ place route.path route.boundAs).trans (infix_routerPieces hplace)))
  | switch value cases =>
      simp only [Node.entered, List.mem_flatMap, List.mem_map] at h
      obtain ⟨c, hcase, child, hc, rfl⟩ := h
      rw [renderNode, renderCases_eq_flatMap]
      let row (c : Case Node) := casePieces c.value (renderNodes frame c.children)
      have hrow : row c <:+: cases.flatMap row := infix_flatMap hcase
      exact codeOf_infix ((infix_renderNodes hc).trans ((infix_casePieces _ c.value).trans
        (hrow.trans (infix_switchPieces _ value))))
  | slotContent name element =>
      rw [List.mem_singleton.mp h, renderNode]
      exact codeOf_infix (infix_slotContentPieces _ name element)
  | component name properties children =>
      simp only [Node.entered, List.mem_append, List.mem_map] at h
      rw [renderNode]
      rcases h with ⟨child, hc, rfl⟩ | ⟨child, hc, rfl⟩
      · split_ifs at hc with htakes
        · rw [if_pos htakes, renderSlots_eq_flatMap]
          let row (node : Node) := Piece.code " " :: renderNode frame node
          have hrow : row child <:+: (children.filter Node.isSlotContent).flatMap row :=
            infix_flatMap hc
          have hchild : renderNode frame child <:+: row child := List.infix_cons List.infix_rfl
          exact codeOf_infix ((List.infix_append_of_infix_right (hchild.trans hrow)).trans
            (infix_properties _ name _))
        · simp at hc
      · refine List.IsInfix.trans ?_ (code_elementPieces _ name _)
        rw [renderContent_eq_flatMap]
        exact codeOf_infix (infix_flatMap hc)
  | fragment children =>
      obtain ⟨child, hc, rfl⟩ := List.mem_map.mp h
      rw [renderNode]
      exact codeOf_infix (infix_renderNodes hc)
  | _ => simp [Node.entered] at h

/-- All steps: the code of a node contains that of every node that is rendered with it. -/
lemma code_rendered {frame : Frame} {node : Node} {placed : Placed}
    (h : placed ∈ node.rendered frame) :
    codeOf (renderNode placed.frame placed.node) <:+: codeOf (renderNode frame node) := by
  induction node using Node.induction generalizing frame with
  | step node ih =>
    rcases Node.mem_rendered.mp h with rfl | ⟨next, hnext, hfound⟩
    · exact List.infix_rfl
    · exact (ih _ (Node.entered_inner hnext) hfound).trans (code_entered hnext)

/-- The code of the body stands in the module. -/
lemma Module.code_body (m : Module) : codeOf m.body <:+: m.text.toList := by
  change codeOf m.body <:+: codeOf m.pieces
  by_cases hnothing : writesNothing m.body = true
  · rw [(writesNothing_iff m.body).mp hnothing]
    exact List.nil_infix
  · have hresult : m.body <:+: m.result := by
      rw [result, if_neg hnothing]
      refine List.infix_append_of_infix_left (List.infix_append_of_infix_left
        (List.infix_append_of_infix_right (List.infix_cons ?_)))
      exact ⟨[_], [_], rfl⟩
    refine codeOf_infix (List.infix_append_of_infix_right ?_)
    exact List.infix_append_of_infix_left (List.infix_append_of_infix_right hresult)

/-- **The code of every rendered node stands in the module.** -/
lemma Generated.code_rendered {document : Document} {name : String} {options : Options}
    {m : Module} {warnings : List Warning} (h : Generated document name options m warnings)
    {placed : Placed} (hp : placed ∈ document.parts.value.rendered name) :
    codeOf (renderNode placed.frame placed.node) <:+: m.text.toList := by
  obtain ⟨node, hnode, hfound⟩ := List.mem_flatMap.mp hp
  refine (Componentry.code_rendered hfound).trans (List.IsInfix.trans ?_ m.code_body)
  rw [h.body]
  exact codeOf_infix (infix_renderNodes hnode)

/-! ## The strings of a document -/

/-- The code of a node has its strings as literals: the text of each case, the path of each route
without parameters, and the name of a slot.  A slot whose name is a variable is written as that
variable. -/
def Node.Spells (variableNames : List String) (code : List Char) : Node → Prop
  | .switch value cases => ∃ rows,
      code = ("\x7b(() => \x7b\nswitch (" ++ value.source ++ ") \x7b\n").toList ++ rows.flatten
        ++ "default: return null;\n\x7d\n\x7d)()\x7d".toList
      ∧ List.Forall₂ (fun (c : Case Node) row => ∀ text, c.value = .text text →
          ∃ rest, literalBehind? "case " row = some (text, ": return (<>".toList ++ rest))
            cases rows
  | .router routes => ∃ rows,
      code = "\x7b(() => \x7b\nconst _path = location.pathname;\n".toList ++ ['\n'].intercalate rows
        ++ "\nreturn null;\n\x7d)()\x7d".toList
      ∧ List.Forall₂ (fun (route : Route Node) row =>
        (Pattern.parse route.path).parameterNames = [] →
          ∃ rest, literalBehind? "if (_path === " row
            = some (route.path, ") \x7b\n".toList ++ rest))
        routes rows
  | .slot (some name) =>
      if name ∈ variableNames then code = ("\x7b" ++ name ++ "\x7d").toList
      else literalBehind? "\x7bprops[" code = some (name, "]\x7d".toList)
  | _ => True

/-- The first of the lines that declare a state has its initial value, and a text as a literal. -/
def StateDeclaration.Spells (state : StateDeclaration) (lines : List String) : Prop :=
  ∃ stateName front more, state.name = some stateName
    ∧ (front = "const [" ++ stateName ++ ", " ++ setterName stateName ++ "] = useState("
      ∨ front = "const _" ++ stateName ++ "Ref = useRef(")
    ∧ lines = (front ++ state.value.script ++ ");") :: more
    ∧ ∀ text, state.value = .text text →
        literalBehind? front (front ++ state.value.script ++ ");").toList = some (text, ");".toList)

/-- Code that is a literal behind `front` has its text there. -/
lemma literalBehind?_of_eq {front text : String} {code rest : List Char}
    (h : code = front.toList ++ ((quoted text).toList ++ rest)) :
    literalBehind? front code = some (text, rest) := by
  rw [h, literalBehind?_quoted]

lemma codeOf_intercalate (separator : String) (rows : List (List Piece)) :
    codeOf ([Piece.code separator].intercalate rows)
      = separator.toList.intercalate (rows.map codeOf) := by
  rw [codeOf, textOf_intercalate, String.toList_intercalate, List.map_map]
  rfl

lemma codeOf_flatMap {α : Type} (f : α → List Piece) (all : List α) :
    codeOf (all.flatMap f) = (all.map fun a => codeOf (f a)).flatten := by
  induction all with
  | nil => simp
  | cons a rest ih => simp [ih]

lemma spells_switch (frame : Frame) (variableNames : List String) (value : Expression)
    (cases : List (Case Node)) :
    (Node.switch value cases).Spells variableNames
      (codeOf (renderNode frame (.switch value cases))) := by
  refine ⟨cases.map fun c => codeOf (casePieces c.value (renderNodes frame c.children)), ?_, ?_⟩
  · rw [renderNode, renderCases_eq_flatMap, ← codeOf_flatMap]
    simp [switchPieces, immediately, Piece.text]
  · rw [List.forall₂_map_right_iff, List.forall₂_same]
    intro c hc text htext
    refine ⟨codeOf (renderNodes frame c.children) ++ "</>);\n".toList, literalBehind?_of_eq ?_⟩
    rw [htext]
    simp [casePieces, returnOf, fragmentOf, Piece.text]

lemma spells_router (frame : Frame) (variableNames : List String) (routes : List (Route Node)) :
    (Node.router routes).Spells variableNames (codeOf (renderNode frame (.router routes))) := by
  have hrows : ∀ index, List.Forall₂ (fun (route : Route Node) row =>
      (Pattern.parse route.path).parameterNames = [] →
        ∃ rest, literalBehind? "if (_path === " row = some (route.path, ") \x7b\n".toList ++ rest))
      routes ((renderRoutes frame index routes).map codeOf) := by
    induction routes with
    | nil => exact fun index => .nil
    | cons route rest ih =>
        intro index
        rw [renderRoutes, List.map_cons]
        refine .cons (fun hstatic => ?_) (ih (index + 1))
        rw [codeOf_static hstatic]
        exact ⟨_, literalBehind?_quoted _ _ _⟩
  refine ⟨_, ?_, hrows 0⟩
  rw [renderNode, routerPieces]
  simp [immediately, codeOf_intercalate, Piece.text]

lemma spells_slot (frame : Frame) (name : String) :
    (Node.slot (some name)).Spells frame.props (codeOf (renderNode frame (.slot (some name)))) := by
  have hname : slotName (some name) = name := rfl
  rw [Node.Spells, codeOf, textOf_slot, hname]
  split_ifs with hvariable
  · rfl
  · exact literalBehind?_of_eq (by simp [propsField])

/-- Every node that is rendered spells its strings. -/
lemma spells_renderNode (frame : Frame) (node : Node) :
    node.Spells frame.props (codeOf (renderNode frame node)) := by
  cases node with
  | switch value cases => exact spells_switch frame _ value cases
  | router routes => exact spells_router frame _ routes
  | slot name =>
      cases name with
      | none => trivial
      | some name => exact spells_slot frame name
  | _ => trivial

/-- So does the declaration of every state. -/
lemma spells_ofState {mentioned : String → Bool} {state : StateDeclaration} {stateName : String}
    (hname : state.name = some stateName) :
    state.Spells (Declaration.ofState mentioned stateName state).texts := by
  have hliteral : ∀ front text, state.value = .text text →
      literalBehind? front (front ++ state.value.script ++ ");").toList
        = some (text, ");".toList) := by
    intro front text htext
    refine literalBehind?_of_eq ?_
    rw [htext, Value.script]
    simp
  unfold Declaration.ofState
  split_ifs
  · exact ⟨stateName, _, _, hname, .inl rfl, rfl, hliteral _⟩
  · exact ⟨stateName, _, _, hname, .inr rfl, rfl, hliteral _⟩

lemma Generated.spells_states {document : Document} {name : String} {options : Options}
    {m : Module} {warnings : List Warning} (h : Generated document name options m warnings) :
    ∃ front declared back, m.text = front ++ ") \x7b\n"
        ++ String.join (declared.flatten.map fun line => "  " ++ line ++ "\n") ++ back
      ∧ List.Forall₂ StateDeclaration.Spells document.parts.value.states declared := by
  obtain ⟨front, back, htext⟩ := m.exists_text_eq
  -- the lines behind the declarations do not matter here
  obtain ⟨others, hlines⟩ : ∃ others,
      m.setup.lines.map textOf = m.setup.declarations.flatMap Declaration.texts ++ others :=
    ⟨_, by rw [Setup.map_textOf_lines, List.append_assoc]⟩
  rw [hlines, List.map_append, String.join_append] at htext
  refine ⟨front, m.setup.declarations.map Declaration.texts,
    String.join (others.map fun line => "  " ++ line ++ "\n") ++ "  return (\n" ++ back, ?_, ?_⟩
  · rw [htext, ← List.flatMap_def]
    simp only [String.append_assoc]
  · rw [List.forall₂_map_right_iff]
    refine (forall₂_of_declareStates h.declared).imp ?_
    rintro state declaration ⟨stateName, hname, rfl⟩
    exact spells_ofState hname

lemma quoted_injective : Function.Injective quoted := by
  intro text other hsame
  have htext := literalBehind?_quoted "" text []
  rw [hsame, literalBehind?_quoted] at htext
  exact (congrArg Prod.fst (Option.some.inj htext)).symm

/-- **Literals are faithful.**

* Every quoted text is enclosed in quotes, with no control character and no quote inside that is not
  escaped.  Read as a literal it gives the text and leaves what follows; as an expression it is a
  string with that text.
* Different texts have different literals.
* In every module that is generated, the states are declared in order with their initial values,
  each text as a literal that is read as this text.  The code of every rendered node stands in the
  module, and its cases, routes and slots have the texts, the paths without parameters and the names
  of the document as such literals. -/
theorem literals_faithful :
    (∀ text : String, IsEnclosed (quoted text).toList
      ∧ (∀ rest, readLiteral ((quoted text).toList ++ rest) = some (text.toList, rest))
      ∧ Expression.ofText (quoted text) = ⟨quoted text, .string text⟩)
    ∧ Function.Injective quoted
    ∧ ∀ (document : Document) (name : String) (options : Options) (m : Module)
        (warnings : List Warning),
        generate document name options = .ok ⟨m, warnings⟩ →
        (∃ front declared back, m.text = front ++ ") \x7b\n"
            ++ String.join (declared.flatten.map fun line => "  " ++ line ++ "\n") ++ back
          ∧ List.Forall₂ StateDeclaration.Spells document.parts.value.states declared)
        ∧ ∀ placed ∈ document.parts.value.rendered name,
            codeOf (renderNode placed.frame placed.node) <:+: m.text.toList
            ∧ placed.node.Spells document.parts.value.propNames
                (codeOf (renderNode placed.frame placed.node)) := by
  refine ⟨fun text => ⟨?_, fun rest => ?_, ofText_quoted text⟩, quoted_injective, ?_⟩
  · rw [quoted, String.toList_ofList]
    exact isEnclosed_quote text.toList
  · rw [quoted, String.toList_ofList]
    exact readLiteral_quote text.toList rest
  · intro document name options m warnings h
    have hm : Generated document name options m warnings := generated_of_generate h
    refine ⟨hm.spells_states, fun placed hp => ⟨hm.code_rendered hp, ?_⟩⟩
    rw [← Parts.rendered_props hp]
    exact spells_renderNode placed.frame placed.node

/-- A page with a greeting in quotes, and a slot in a case whose text ends in a backslash. -/
def quotesDocument : Document where
  body := [.component "div" [] [
    .state ⟨some "greeting", .text "\"hi\"", false, ⟨1, 6⟩⟩,
    .switch ⟨"mode", .identifier "mode"⟩ [⟨.text "a\"b\\", [.slot (some "side bar")]⟩]]]

/-- The greeting, the text of the case and the name of the slot are read as they are in the
document. -/
theorem literals_faithful_quotes : ∃ m warnings declared rows,
    generate quotesDocument "Page" {} = .ok ⟨m, warnings⟩
    ∧ List.Forall₂ StateDeclaration.Spells [⟨some "greeting", .text "\"hi\"", false, ⟨1, 6⟩⟩]
      declared
    ∧ ("\x7b(() => \x7b\nswitch (mode) \x7b\n".toList ++ rows.flatten
        ++ "default: return null;\n\x7d\n\x7d)()\x7d".toList) <:+: m.text.toList
    ∧ (∃ row rest, rows = [row]
      ∧ literalBehind? "case " row = some ("a\"b\\", ": return (<>".toList ++ rest))
    ∧ ∃ code, code <:+: m.text.toList
      ∧ literalBehind? "\x7bprops[" code = some ("side bar", "]\x7d".toList) := by
  have h : generate quotesDocument "Page" {} = .ok ⟨_, _⟩ := rfl
  obtain ⟨⟨front, declared, back, -, hstates⟩, hnodes⟩ := literals_faithful.2.2 _ _ _ _ _ h
  have hbody : quotesDocument.parts.value.body
      = [.switch ⟨"mode", .identifier "mode"⟩ [⟨.text "a\"b\\", [.slot (some "side bar")]⟩]] := rfl
  have hrendered : quotesDocument.parts.value.rendered "Page"
      = [⟨quotesDocument.parts.value.frame "Page",
            .switch ⟨"mode", .identifier "mode"⟩ [⟨.text "a\"b\\", [.slot (some "side bar")]⟩]⟩,
          ⟨quotesDocument.parts.value.frame "Page", .slot (some "side bar")⟩] := by
    simp [Parts.rendered, renderedNodes, hbody, Node.rendered_eq _ (.switch _ _),
      Node.rendered_eq _ (.slot _), Node.entered]
  rw [hrendered] at hnodes
  obtain ⟨hswitch, rows, hcode, hrows⟩ := hnodes _ List.mem_cons_self
  obtain ⟨hslot, hname⟩ := hnodes _ (List.mem_cons_of_mem _ List.mem_cons_self)
  refine ⟨_, _, declared, rows, h, hstates, hcode ▸ hswitch, ?_, _, hslot, hname⟩
  cases hrows with
  | cons hrow hrest =>
      cases hrest
      obtain ⟨rest, hliteral⟩ := hrow _ rfl
      exact ⟨_, rest, rfl, hliteral⟩

end Componentry
