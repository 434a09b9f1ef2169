import Componentry.Route
import Componentry.Text.Blank
import Componentry.Warning

/-!
# From markup to documents

Reserved tags become blocks, all others components. Nothing here fails: a block that is written
incompletely gets a default, what has no effect is left out, and both are reported.

The recursion goes over the markup tree only. How the content of an element is used depends on its
tag: as nodes, as the branches of an asynchronous block, as cases or as routes. `Contents` offers
all four, and `element` is an ordinary function that picks.
-/

namespace Componentry

open Markup

/-! ## Attributes -/

/-- The expression of an attribute, if it has one that is not empty. -/
def Markup.NamedAttribute.expression? (a : NamedAttribute) : Option Expression :=
  match a.value with
  | some (.expression e) => if e.isEmpty then none else some e
  | _ => none

/-- The expression of the first attribute with a name. -/
def Markup.Tag.expression? (tag : Tag) (name : String) : Option Expression :=
  (tag.attribute? name).bind NamedAttribute.expression?

/-- The name that the first attribute with a name binds. -/
def Markup.Tag.binding? (tag : Tag) (name : String) : Option String :=
  (tag.attribute? name).bind fun a => (Value.ofAttribute a.value).binding?

/-- The slot of the surrounding component that an element is meant for. -/
def Markup.Tag.slotTarget? (tag : Tag) : Option String :=
  (tag.attribute? "slot").bind fun a => match a.value with
    | some (.text name) => some name
    | _ => none

/-- Whether an attribute has a given name. -/
def Markup.Attribute.isNamed (name : String) : Attribute → Bool
  | .named key _ _ => key == name
  | .spread _ _ => false

/-- The tag without the attribute that addresses it to a slot. -/
def Markup.Tag.withoutSlot (tag : Tag) : Tag :=
  { tag with attributes := tag.attributes.filter (fun a => !Attribute.isNamed "slot" a) }

/-- Whether a child is more than layout. -/
def Markup.Child.isContent : Child → Bool
  | .text raw => !Text.allBlank raw
  | .expression e => !e.isEmpty
  | .element _ _ | .fragment _ _ => true

/-! ## Defaults -/

/-- The condition of an `if` without one. -/
def neverExpression : Expression := ⟨"false", .boolean false⟩

/-- The items of a loop without any. -/
def noItemsExpression : Expression := ⟨"[]", .other⟩

/-- The value of a block that lacks one. -/
def undefinedExpression : Expression := ⟨"undefined", .identifier "undefined"⟩

/-- The settled value of a generated asynchronous block. -/
def settledExpression : Expression := ⟨settledValue, .identifier settledValue⟩

/-! ## Blocks without nested nodes -/

/-- A state: named by its first attribute, which holds the initial value. -/
def lowerState (tag : Tag) : Reported Node := do
  let (name, value) := match tag.attributes.head? with
    | some (.named name value _) => (some name, Value.ofAttribute value)
    | _ => (none, .bare)
  if tag.attributes.length > 1 then Reported.warn .extraStateAttributes tag.position
  return .state ⟨name, value, !value.isLiteral, tag.position⟩

/-- Adds a name to a list of props unless it is there. -/
def addProp (position : Position) (names : List String) (name : String) : Reported (List String) :=
  if names.contains name then do
    Reported.warn (.repeatedProp name) position
    return names
  else return names ++ [name]

/-- The names listed by the children of a props tag. -/
def lowerPropNames (position : Position) (names : List String) : List Child → Reported (List String)
  | [] => return names
  | .text raw :: rest => do
    let found := (Text.words raw.toList).map String.ofList
    let names ← found.foldlM (addProp position) names
    lowerPropNames position names rest
  | _ :: rest => do
    Reported.warn .otherChildrenOfProps position
    lowerPropNames position names rest

/-- The props of a component: all of them, or those listed. -/
def lowerProps (tag : Tag) (children : List Child) : Reported Node :=
  if children.isEmpty then return .props true []
  else return .props false (← lowerPropNames tag.position [] children)

/-- A slot, named by a text. -/
def lowerSlot (tag : Tag) : Reported Node :=
  match tag.attribute? "name" with
  | none => return .slot none
  | some a =>
    match (Value.ofAttribute a.value).staticText? with
    | some name => return .slot (some name)
    | none => do
      Reported.warn .slotNameNotText a.position
      return .slot none

/-- The condition of an `if`: the expression of its first attribute, whatever its name. -/
def lowerCondition (tag : Tag) : Reported Expression :=
  let found := tag.attributes.head?.bind fun a => a.asNamed.bind NamedAttribute.expression?
  Reported.orElse found neverExpression .ifWithoutCondition tag.position

/-- The value of a case. -/
def caseValue? (tag : Tag) : Option CaseValue :=
  (tag.attribute? "when").bind fun a => match a.value with
    | some (.text value) => some (.text value)
    | some (.expression e) =>
      match e.kind with
      | .string value => some (.text value)
      | .number => some (.number e.source)
      | .boolean b => some (.boolean b)
      | .null => some .null
      | _ => none
    | none => none

/-- The value of a case, `null` if it has none. -/
def lowerCaseValue (tag : Tag) : Reported CaseValue :=
  Reported.orElse (caseValue? tag) .null .caseWithoutLiteral tag.position

/-- The path of a route, `/` if it has none. -/
def lowerPath (tag : Tag) : Reported String := do
  let path ← match tag.attribute? "path" with
    | none => pure "/"
    | some a =>
      Reported.orElse (Value.ofAttribute a.value).staticText? "/" .routePathNotText a.position
  for name in (Route.Pattern.parse path).repeatedParameters do
    Reported.warn (.repeatedRouteParameter path name) tag.position
  return path

/-! ## Asynchronous blocks -/

/-- The tag of the first child that is a given branch. -/
def branchTag? (branch : AsyncBranch) (children : List Child) : Option Tag :=
  children.findSome? fun child => match child with
    | .element tag _ => if AsyncBranch.ofName? tag.name = some branch then some tag else none
    | _ => none

/-- The name that a branch binds. -/
def branchAlias (branch : AsyncBranch) (default : String) (children : List Child) : String :=
  ((branchTag? branch children).bind (Tag.binding? · "let")).getD default

/-- Reports the children of an asynchronous block that have no effect: content outside of branches,
other tags, and branches that are there already. -/
def reportBranches (position : Position) (seen : List AsyncBranch) : List Child → Reported Unit
  | [] => return
  | .element tag _ :: rest =>
    match AsyncBranch.ofName? tag.name with
    | none => do
      Reported.warn (.strayTagInAsync tag.name) tag.position
      reportBranches position seen rest
    | some branch =>
      if seen.contains branch then do
        Reported.warn (.repeatedBranch branch) tag.position
        reportBranches position seen rest
      else reportBranches position (branch :: seen) rest
  | child :: rest => do
    if Child.isContent child then Reported.warn .contentOfAsync position
    reportBranches position seen rest

/-! ## Elements -/

/-- The ways to use the content of an element. -/
structure Contents where
  nodes : Unit → Reported (List Node)
  branch : AsyncBranch → Reported (List Node)
  cases : Position → Reported (List (Case Node))
  routes : Position → Reported (List (Route Node))

/-- A route and its content. -/
def lowerRoute (tag : Tag) (nodes : Unit → Reported (List Node)) : Reported (Route Node) := do
  let path ← lowerPath tag
  return ⟨path, tag.binding? "let", ← nodes ()⟩

/-- A loop. One over a call waits for the result first and then goes over it. -/
def lowerLoop (tag : Tag) (nodes : Unit → Reported (List Node)) : Reported Node := do
  let items ← Reported.orElse (tag.expression? "of") noItemsExpression .loopWithoutItems
    tag.position
  let itemName := (tag.binding? "let").getD "item"
  let children ← nodes ()
  if items.isAsyncSource then
    return .async items none [.loop settledExpression itemName children] [] [] settledValue
      settledError
  else return .loop items itemName children

/-- An asynchronous block. The first branch of each kind counts. -/
def lowerAsync (tag : Tag) (children : List Child) (branch : AsyncBranch → Reported (List Node)) :
    Reported Node := do
  let promise ← Reported.orElse (tag.expression? "promise") undefinedExpression .asyncWithoutPromise
    tag.position
  reportBranches tag.position [] children
  let done ← branch .done
  let failed ← branch .failed
  let loading ← branch .loading
  return .async promise (tag.expression? "key") done failed loading
    (branchAlias .done "data" children) (branchAlias .failed "error" children)

/-- An attribute of a component. -/
def lowerProperty : Attribute → Property
  | .named name value _ => .named name (Value.ofAttribute value)
  | .spread argument _ => .spread argument

/-- An element, by its tag. -/
def lowerElement (tag : Tag) (children : List Child) (contents : Contents) : Reported Node :=
  match ReservedTag.ofName? tag.name with
  | none => return .component tag.name (tag.attributes.map lowerProperty) (← contents.nodes ())
  | some .state => lowerState tag
  | some .props => lowerProps tag children
  | some .ifTag => return .ifBlock (← lowerCondition tag) (← contents.nodes ())
  | some .loop => lowerLoop tag contents.nodes
  | some .slot => lowerSlot tag
  | some .onMount => do
    let nodes ← contents.nodes ()
    if nodes.any (fun node => !node.isExpression) then
      Reported.warn .otherChildrenOfMount tag.position
    return .onMount nodes
  | some .async => lowerAsync tag children contents.branch
  | some .switch => do
    let value ← Reported.orElse (tag.expression? "on") undefinedExpression .switchWithoutValue
      tag.position
    return .switch value (← contents.cases tag.position)
  | some .router => return .router (← contents.routes tag.position)
  | some .route => return .router [← lowerRoute tag contents.nodes]

/-! ## Content -/

mutual

/-- A child as a node; layout and empty expressions give none. An element that is meant for a slot
is wrapped with the name of the slot. -/
def lowerChild : Child → Reported (Option Node)
  | .element tag children =>
    let contents : Contents :=
      { nodes := fun _ => lowerChildren children
        branch := fun branch => lowerBranch branch children
        cases := fun position => lowerCases position [] children
        routes := fun position => lowerRoutes position children }
    match tag.slotTarget? with
    | some name =>
      return some (.slotContent name (← lowerElement tag.withoutSlot children contents))
    | none => return some (← lowerElement tag children contents)
  | .fragment children _ => return some (.fragment (← lowerChildren children))
  | .text raw => return (Text.clean raw).map Node.text
  | .expression e => return if e.isEmpty then none else some (.expression e)

/-- Children as nodes. -/
def lowerChildren : List Child → Reported (List Node)
  | [] => return []
  | child :: rest => do
    let first ← lowerChild child
    let more ← lowerChildren rest
    return first.toList ++ more

/-- The content of the first child that is a given branch. -/
def lowerBranch (branch : AsyncBranch) : List Child → Reported (List Node)
  | [] => return []
  | .element tag children :: rest =>
    if AsyncBranch.ofName? tag.name = some branch then lowerChildren children
    else lowerBranch branch rest
  | _ :: rest => lowerBranch branch rest

/-- The cases among the children of a switch at a position. A value that is there already is left
out. -/
def lowerCases (position : Position) (seen : List CaseValue) :
    List Child → Reported (List (Case Node))
  | [] => return []
  | .element tag children :: rest =>
    if tag.name = caseTag then do
      let value ← lowerCaseValue tag
      if seen.contains value then
        Reported.warn (.repeatedCase value) tag.position
        lowerCases position seen rest
      else
        let nodes ← lowerChildren children
        let more ← lowerCases position (value :: seen) rest
        return ⟨value, nodes⟩ :: more
    else do
      Reported.warn .contentOfSwitch position
      lowerCases position seen rest
  | child :: rest => do
    if Child.isContent child then Reported.warn .contentOfSwitch position
    lowerCases position seen rest

/-- The routes among the children of a router at a position. -/
def lowerRoutes (position : Position) : List Child → Reported (List (Route Node))
  | [] => return []
  | .element tag children :: rest =>
    if ReservedTag.ofName? tag.name = some .route then do
      let route ← lowerRoute tag (fun _ => lowerChildren children)
      let more ← lowerRoutes position rest
      return route :: more
    else do
      Reported.warn .contentOfRouter position
      lowerRoutes position rest
  | child :: rest => do
    if Child.isContent child then Reported.warn .contentOfRouter position
    lowerRoutes position rest

end

/-- The content of an element. -/
def Contents.ofChildren (children : List Child) : Contents where
  nodes := fun _ => lowerChildren children
  branch := fun branch => lowerBranch branch children
  cases := fun position => lowerCases position [] children
  routes := fun position => lowerRoutes position children

/-- A statement as a node, if it is markup. -/
def lowerStatement : Statement → Reported (Option Node)
  | .element tag children => return some (← lowerElement tag children (.ofChildren children))
  | .fragment children _ => return some (.fragment (← lowerChildren children))
  | .other _ => return none

/-- Statements as nodes. -/
def lowerStatements : List Statement → Reported (List Node)
  | [] => return []
  | statement :: rest => do
    let first ← lowerStatement statement
    let more ← lowerStatements rest
    return first.toList ++ more

/-- The document that a program stands for. -/
def Markup.Program.lower (program : Program) : Reported Document :=
  return ⟨← lowerStatements program.body⟩

end Componentry
