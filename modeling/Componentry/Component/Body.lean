import Componentry.Component.Piece
import Componentry.Document.Basic
import Componentry.Route

/-!
# Rendering nodes

How each kind of node is written in the body of a component. Blocks become expressions in braces;
asynchronous blocks, routers and switches become functions that are called at once.

Rendering depends on the `Frame` around a node: the innermost bound name, and the props that are
variables of the component. Each block has a function that puts its pieces together from those of
its content, so that the recursion says only which frame the content gets.
-/

namespace Componentry

open Text

/-! ## Scopes and frames -/

/-- The name that the innermost block around a node binds. At the top of a component this is the
name of the component itself; loops, routes and the branches of asynchronous blocks bind others. A
tag with that name refers to what is bound, so it is rendered as a plain element. -/
structure Scope where
  name : String
deriving DecidableEq, Repr, Inhabited

namespace Scope

/-- The scope at the top of a component. -/
def root (component : String) : Scope := ⟨component⟩

/-- The scope of a block that binds a name. It hides the one around it. -/
def bind (_ : Scope) (boundAs : String) : Scope := ⟨boundAs⟩

/-- Whether a tag refers to the bound name. -/
def isSelfReference (scope : Scope) (tag : String) : Bool := scope.name == tag

end Scope

/-- What surrounds a node. -/
structure Frame where
  scope : Scope
  /-- The props that are variables of the component. -/
  props : List String
deriving DecidableEq, Repr, Inhabited

/-- The frame inside of a block that binds a name. -/
def Frame.bind (frame : Frame) (boundAs : String) : Frame :=
  { frame with scope := frame.scope.bind boundAs }

/-- The frame inside of a block that may bind a name. -/
def Frame.bind? (frame : Frame) (boundAs : Option String) : Frame :=
  match boundAs with
  | some name => frame.bind name
  | none => frame

/-! ## Attributes and slots -/

/-- A text with single instead of double quotes. -/
def singleQuotes (text : String) : String :=
  String.ofList (text.toList.map fun c => if c = '"' then '\'' else c)

/-- A value of an attribute behind its key. An inline handler is code, other texts are quoted. -/
def valuePieces (value : Value) : List Piece :=
  match value with
  | .bare => []
  | .text text =>
    match value.script? with
    | some source => .code "=" :: braced [.script source]
    | none => [.code "=\"", .authored (singleQuotes text), .code "\""]
  | .number source => .code "=" :: braced [.authored source]
  | .boolean b => .code "=" :: braced [.code (showBool b)]
  | .expression e => .code "=" :: braced [.script e.source]

/-- An attribute. -/
def propertyPieces : Property → List Piece
  | .named key value => .authored key :: valuePieces value
  | .spread argument => braced [.code "...", .script argument.source]

/-- The attributes of a tag, each behind a space. -/
def propertiesPieces (properties : List Property) : List Piece :=
  properties.flatMap fun property => .code " " :: propertyPieces property

/-- A slot: a variable if its name is among the variables, a field of the props otherwise. -/
def slotPieces (frame : Frame) (name : Option String) : List Piece :=
  let variableName := name.getD "children"
  if frame.props.contains variableName then braced [.slotVariable variableName]
  else braced [.slotField name]

/-- Content for a slot, as an attribute. -/
def slotContentPieces (name : String) (element : Node) (content : List Piece) : List Piece :=
  match element with
  | .component _ _ _ => .authored name :: .code "=" :: braced content
  | _ => .authored name :: .code "=" :: braced (fragmentOf content)

/-! ## Blocks -/

/-- A tag with its attributes, with or without content. -/
def elementPieces (name : String) (properties content : List Piece) : List Piece :=
  if writesNothing content then .opening name :: properties ++ [.code " />"]
  else .opening name :: properties ++ .code ">" :: content
    ++ [.code "</", .authored name, .code ">"]

/-- A condition with its content. -/
def ifPieces (condition : Expression) (content : List Piece) : List Piece :=
  braced (.code "Boolean(" :: .script condition.source :: .code ") && (" :: fragmentOf content
    ++ [.code ")"])

/-- The items of a loop, in parentheses unless a call can follow directly. -/
def itemsPieces (items : Expression) : List Piece :=
  match items.kind with
  | .identifier _ | .call => [.script items.source]
  | _ => [.code "(", .script items.source, .code ")"]

/-- The name of the index of a loop; it differs from the name of the item. -/
def indexName (itemName : String) : String :=
  if itemName = "_index" then "_index2" else "_index"

/-- A loop with its content. -/
def loopPieces (items : Expression) (itemName : String) (content : List Piece) : List Piece :=
  braced (itemsPieces items ++ [.code ".map((", .authored itemName, .code ", ",
      .code (indexName itemName), .code ") => \x7b\n"]
    ++ returnOf content ++ [.code "\n\x7d)"])

/-- A definition of a name by another one, if they differ. -/
def renamePieces (boundAs variableName : String) : List Piece :=
  if boundAs = variableName then []
  else [.code "const ", .authored boundAs, .code (" = " ++ variableName ++ ";\n")]

/-- An asynchronous block with the contents of its branches. -/
def asyncPieces (promise : Expression) (key : Option Expression) (doneAlias failedAlias : String)
    (done failed loading : List Piece) : List Piece :=
  immediately (
    [.code "const [_status, _setStatus] = ", .hook .state, .code "(\"pending\");\n",
      .code "const [_data, _setData] = ", .hook .state, .code "(null);\n",
      .code "const [_error, _setError] = ", .hook .state, .code "(null);\n",
      .hook .effect, .code "(() => \x7b\nlet _active = true;\n_setStatus(\"pending\");\n",
      .code "Promise.resolve()\n.then(async () => (", .script promise.source, .code "))\n",
      .code ".then((_result) => \x7b if (_active) \x7b _setData(_result); ",
      .code "_setStatus(\"fulfilled\"); \x7d \x7d)\n",
      .code ".catch((_err) => \x7b if (_active) \x7b _setError(_err); ",
      .code "_setStatus(\"rejected\"); \x7d \x7d);\n",
      .code "return () => \x7b _active = false; \x7d;\n\x7d, ["]
    ++ (key.map fun e => Piece.script e.source).toList
    ++ [.code "]);\nif (_status === \"fulfilled\") \x7b\n"]
    ++ renamePieces doneAlias settledValue ++ returnOf done
    ++ [.code "\n\x7d\nif (_status === \"rejected\") \x7b\n"]
    ++ renamePieces failedAlias settledError ++ returnOf failed
    ++ .code "\n\x7d\n" :: returnOf loading)

/-- A case with its content. -/
def casePieces (value : CaseValue) (content : List Piece) : List Piece :=
  let shown := match value with
    | .text text => Piece.literal text
    | .number source => .authored source
    | .boolean b => .code (showBool b)
    | .null => .code "null"
  .code "case " :: shown :: .code ": " :: returnOf content ++ [.code "\n"]

/-- A switch with its cases. -/
def switchPieces (value : Expression) (cases : List Piece) : List Piece :=
  immediately (.code "switch (" :: .script value.source :: .code ") \x7b\n" :: cases
    ++ [.code "default: return null;\n\x7d"])

/-! ## Routes -/

/-- The key of a field: a name stands for itself, any other text is quoted. -/
def fieldKey (name : String) : Piece :=
  if isName name.toList then .authored name else .literal name

/-- The fields that take the parameters of a route out of a match, from a group on. -/
def fieldPieces (variableName : String) (group : Nat) : List String → List (List Piece)
  | [] => []
  | name :: rest =>
    [fieldKey name, .code (": " ++ variableName ++ "[" ++ toString group ++ "]")]
      :: fieldPieces variableName (group + 1) rest

/-- The definition of the name that a route without parameters binds. -/
def emptyBinding : Option String → List Piece
  | some name => [.code "const ", .authored name, .code " = \x7b\x7d;\n"]
  | none => []

/-- The definition of the name that a route binds to its parameters. -/
def matchBinding (variableName : String) (names : List String) : Option String → List Piece
  | some name =>
    [.code "const ", .authored name, .code " = \x7b "]
      ++ [Piece.code ", "].intercalate (fieldPieces variableName 1 names) ++ [.code " \x7d;\n"]
  | none => []

/-- A route with its content: compared by its text if it has no parameters, by a regular expression
otherwise. -/
def routePieces (index : Nat) (path : String) (boundAs : Option String) (content : List Piece) :
    List Piece :=
  let pattern := Route.Pattern.parse path
  if pattern.isStatic then
    [.code "if (_path === ", .literal path, .code ") \x7b\n"] ++ emptyBinding boundAs
      ++ returnOf content ++ [.code "\n\x7d"]
  else
    let variableName := "_match" ++ toString index
    [.code ("const " ++ variableName ++ " = new RegExp("), .literal pattern.regex,
        .code (").exec(_path);\nif (" ++ variableName ++ ") \x7b\n")]
      ++ matchBinding variableName pattern.parameterNames boundAs
      ++ returnOf content ++ [.code "\n\x7d"]

/-- A router with its routes. -/
def routerPieces (routes : List (List Piece)) : List Piece :=
  immediately (.code "const _path = location.pathname;\n" :: [Piece.code "\n"].intercalate routes
    ++ [.code "\nreturn null;"])

/-! ## Mount blocks -/

/-- A mount block; one without expressions is nothing. -/
def mountPieces (expressions : List Expression) : List Piece :=
  if expressions.isEmpty then []
  else immediately (.hook .effect :: .code "(() => \x7b\n"
    :: expressions.flatMap (fun e => [Piece.script e.source, .code ";\n"])
    ++ [.code "\x7d, []);\nreturn null;"])

/-! ## Nodes -/

/-- Whether content for slots is passed to a tag: it has to refer to another component. -/
def Frame.takesSlots (frame : Frame) (name : String) : Bool :=
  isCustomTag name && !frame.scope.isSelfReference name

mutual

/-- A node. -/
def renderNode (frame : Frame) : Node → List Piece
  | .state _ => []
  | .props _ _ => []
  | .ifBlock condition children => ifPieces condition (renderNodes frame children)
  | .loop items itemName children =>
    loopPieces items itemName (renderNodes (frame.bind itemName) children)
  | .async promise key done failed loading doneAlias failedAlias =>
    asyncPieces promise key doneAlias failedAlias (renderSettled frame doneAlias done)
      (renderNodes (frame.bind failedAlias) failed) (renderNodes frame loading)
  | .router routes => routerPieces (renderRoutes frame 0 routes)
  | .switch value cases => switchPieces value (renderCases frame cases)
  | .slot name => slotPieces frame name
  | .slotContent name element => slotContentPieces name element (renderNode frame element)
  | .onMount children => mountPieces (mountExpressions children)
  | .component name properties children =>
    let slots := if frame.takesSlots name then renderSlots frame children else []
    elementPieces name (propertiesPieces properties ++ slots) (renderContent frame children)
  | .fragment children => renderNodes frame children
  | .text value => [.authored value]
  | .expression e => braced [.script e.source]

/-- Nodes in a row. -/
def renderNodes (frame : Frame) : List Node → List Piece
  | [] => []
  | node :: rest => renderNode frame node ++ renderNodes frame rest

/-- The branch for a settled value. A loop in it goes over the value itself and keeps the frame
around. -/
def renderSettled (frame : Frame) (doneAlias : String) : List Node → List Piece
  | [] => []
  | .loop items itemName children :: rest =>
    loopPieces items itemName (renderNodes (frame.bind itemName) children)
      ++ renderSettled frame doneAlias rest
  | node :: rest => renderNode (frame.bind doneAlias) node ++ renderSettled frame doneAlias rest

/-- The children of a component, without content for slots. -/
def renderContent (frame : Frame) : List Node → List Piece
  | [] => []
  | .slotContent _ _ :: rest => renderContent frame rest
  | node :: rest => renderNode frame node ++ renderContent frame rest

/-- The content for slots among the children of a component, as attributes. -/
def renderSlots (frame : Frame) : List Node → List Piece
  | [] => []
  | .slotContent name element :: rest =>
    .code " " :: slotContentPieces name element (renderNode frame element) ++ renderSlots frame rest
  | _ :: rest => renderSlots frame rest

/-- Routes, counted from an index. -/
def renderRoutes (frame : Frame) (index : Nat) : List (Route Node) → List (List Piece)
  | [] => []
  | ⟨path, boundAs, children⟩ :: rest =>
    routePieces index path boundAs (renderNodes (frame.bind? boundAs) children)
      :: renderRoutes frame (index + 1) rest

/-- Cases in a row. -/
def renderCases (frame : Frame) : List (Case Node) → List Piece
  | [] => []
  | ⟨value, children⟩ :: rest =>
    casePieces value (renderNodes frame children) ++ renderCases frame rest

end

end Componentry
