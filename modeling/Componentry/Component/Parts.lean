import Componentry.Warning

/-!
# The parts of a component

A document is taken apart into declarations and a body. If a component stands at the top level, the
first one is the root: its children make up the body, and all other top-level nodes but declarations
are ignored. Without a root the top-level nodes are the body themselves.

The root is not rendered: the wrapper of the module takes its place. So content that is addressed to
a slot of the root is shown where it stands.
-/

namespace Componentry

/-- The children of a node, if it is a component. -/
def Node.componentChildren? : Node → Option (List Node)
  | .component _ _ children => some children
  | _ => none

/-- Whether a node is a component. -/
def Node.isComponent (node : Node) : Bool :=
  node.componentChildren?.isSome

/-- The children of the root. -/
def Document.rootChildren? (document : Document) : Option (List Node) :=
  document.body.findSome? Node.componentChildren?

/-- A node as it is shown in the body: content for a slot of the root is shown itself. -/
def Node.unaddressed : Node → Node
  | .slotContent _ element => element
  | node => node

/-- Nodes without declarations. -/
def shownNodes (nodes : List Node) : List Node :=
  nodes.filter fun node => !node.isDeclaration

/-- The props that a node declares: all, or some by name. -/
def Node.props? : Node → Option (Bool × List String)
  | .props spread names => some (spread, names)
  | _ => none

/-- The state that a node declares. -/
def Node.state? : Node → Option StateDeclaration
  | .state declaration => some declaration
  | _ => none

/-- The expressions that a node runs on mount. -/
def Node.mounts : Node → List Expression
  | .onMount children => mountExpressions children
  | _ => []

namespace Document

/-- The declarations: those at the top level, then those of the root. -/
def declarations (document : Document) : List Node :=
  document.body.filter Node.isDeclaration
    ++ (document.rootChildren?.getD []).filter Node.isDeclaration

/-- The nodes of the body. -/
def shown (document : Document) : List Node :=
  match document.rootChildren? with
  | some children => (shownNodes children).map Node.unaddressed
  | none => shownNodes document.body

/-- The top-level nodes that are neither declarations, nor the root, nor the body. -/
def ignored (document : Document) : List Node :=
  if document.rootChildren?.isSome then (shownNodes document.body).eraseP Node.isComponent else []

end Document

/-- A component taken apart. -/
structure Parts where
  /-- The props taken by the first declaration of props. -/
  props : Option (Bool × List String)
  states : List StateDeclaration
  /-- The expressions to run on mount, of all mount blocks. -/
  mounts : List Expression
  body : List Node

/-- The parts of a document. Ignored nodes and repeated props are reported. -/
def Document.parts (document : Document) : Reported Parts :=
  let declared := document.declarations
  let props := declared.filterMap Node.props?
  { value :=
      { props := props.head?
        states := declared.filterMap Node.state?
        mounts := declared.flatMap Node.mounts
        body := document.shown }
    warnings :=
      document.ignored.map (fun node => ⟨.ignoredTopLevel node.typeName, none⟩)
        ++ props.tail.map (fun _ => ⟨.repeatedProps, none⟩) }

/-- The props that become variables of the component. -/
def Parts.propNames (parts : Parts) : List String :=
  match parts.props with
  | some (false, names) => names
  | _ => []

end Componentry
