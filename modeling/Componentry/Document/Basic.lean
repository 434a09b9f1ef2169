import Componentry.Text.Capital
import Componentry.Value

/-!
# Documents

What the markup of a component means: a list of nodes, one constructor for each kind of block. Every
tag without a meaning of its own is a component.
-/

namespace Componentry

/-- A declared state. -/
structure StateDeclaration where
  /-- The name; missing if the tag had no named attribute in front. -/
  name : Option String
  value : Value
  /-- Whether the initial value alone calls for reactive state. -/
  isHook : Bool
  position : Position
deriving DecidableEq, Repr, Inhabited

/-- The literal that a case stands for. -/
inductive CaseValue where
  | text (value : String)
  | number (source : String)
  | boolean (value : Bool)
  | null
deriving DecidableEq, Repr, Inhabited

/-- The literal as a script writes it. -/
def CaseValue.script : CaseValue → String
  | text value => Text.quoted value
  | number source => source
  | boolean b => showBool b
  | null => "null"

/-- An attribute of a component. -/
inductive Property where
  | named (key : String) (value : Value)
  | spread (argument : Expression)
deriving DecidableEq, Repr, Inhabited

/-- A route: its path, the name its parameters are bound to, and what it shows. -/
structure Route (α : Type) where
  path : String
  boundAs : Option String
  children : List α
deriving Repr

/-- A case of a switch and what it shows. -/
structure Case (α : Type) where
  value : CaseValue
  children : List α
deriving Repr

/-- A node of a document. -/
inductive Node where
  | state (declaration : StateDeclaration)
  /-- The props a component takes: all of them, or some by name. -/
  | props (spread : Bool) (names : List String)
  | ifBlock (condition : Expression) (children : List Node)
  | loop (items : Expression) (itemName : String) (children : List Node)
  /-- A block that waits for a promise; it starts again when its key changes. -/
  | async (promise : Expression) (key : Option Expression) (done failed loading : List Node)
      (doneAlias failedAlias : String)
  | router (routes : List (Route Node))
  | switch (value : Expression) (cases : List (Case Node))
  /-- A place for content of the user of the component. -/
  | slot (name : Option String)
  /-- Content for a named slot of the component around it. -/
  | slotContent (name : String) (element : Node)
  /-- Expressions to run once. -/
  | onMount (children : List Node)
  | component (name : String) (properties : List Property) (children : List Node)
  | fragment (children : List Node)
  | text (value : String)
  | expression (value : Expression)
deriving Repr, Inhabited

/-- A component's document: its top-level nodes. -/
structure Document where
  body : List Node
deriving Repr, Inhabited

namespace Node

/-- The name of a node's kind in messages and dumps. -/
def typeName : Node → String
  | state _ => "StateDeclaration"
  | props _ _ => "Props"
  | ifBlock _ _ => "IfBlock"
  | loop _ _ _ => "LoopBlock"
  | async _ _ _ _ _ _ _ => "AsyncBlock"
  | router _ => "RouterBlock"
  | switch _ _ => "SwitchBlock"
  | slot _ => "Slot"
  | slotContent _ _ => "NamedSlotContent"
  | onMount _ => "OnMount"
  | component _ _ _ => "Component"
  | fragment _ => "Fragment"
  | text _ => "Text"
  | expression _ => "JSExpression"

/-- Whether a node only sets up the component and shows nothing. -/
def isDeclaration : Node → Bool
  | state _ | props _ _ | onMount _ => true
  | _ => false

/-- The expression, if a node is one. -/
def asExpression? : Node → Option Expression
  | expression e => some e
  | _ => none

/-- Whether a node is an expression. -/
def isExpression (node : Node) : Bool :=
  node.asExpression?.isSome

/-- The tag, if a node is a component. -/
def componentName? : Node → Option String
  | component name _ _ => some name
  | _ => none

end Node

/-- The expressions among the children of a mount block; nothing else there has an effect. -/
def mountExpressions (children : List Node) : List Expression :=
  children.filterMap Node.asExpression?

/-- Whether a tag refers to a component of the project, and not to a native element. -/
def isCustomTag (name : String) : Bool :=
  name.toList.head?.any Text.Capital.isCapital

/-- The tag of the first top-level component, the root of what is shown. -/
def Document.rootName? (document : Document) : Option String :=
  document.body.findSome? Node.componentName?

/-- The name that the settled value of a generated asynchronous block has. -/
def settledValue : String := "_data"

/-- The name that the failure of a generated asynchronous block has. -/
def settledError : String := "_error"

end Componentry
