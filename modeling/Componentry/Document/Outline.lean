import Componentry.Document.Basic

/-!
# Outlines

The nodes of a document in the order in which they are written, each before the nodes in it, and one
line about each. The children of a mount block are not visited: they are what it runs.
-/

namespace Componentry

mutual

/-- A node and all nodes in it. -/
def Node.visited : Node → List Node
  | node@(.ifBlock _ children) | node@(.loop _ _ children) | node@(.component _ _ children)
  | node@(.fragment children) => node :: visitedNodes children
  | node@(.async _ _ done failed loading _ _) =>
    node :: visitedNodes done ++ visitedNodes failed ++ visitedNodes loading
  | node@(.router routes) => node :: visitedRoutes routes
  | node@(.switch _ cases) => node :: visitedCases cases
  | node@(.slotContent _ element) => node :: element.visited
  | node => [node]

/-- Nodes and all nodes in them. -/
def visitedNodes : List Node → List Node
  | [] => []
  | node :: rest => node.visited ++ visitedNodes rest

/-- All nodes in routes. -/
def visitedRoutes : List (Route Node) → List Node
  | [] => []
  | ⟨_, _, children⟩ :: rest => visitedNodes children ++ visitedRoutes rest

/-- All nodes in cases. -/
def visitedCases : List (Case Node) → List Node
  | [] => []
  | ⟨_, children⟩ :: rest => visitedNodes children ++ visitedCases rest

end

/-- One line about a node. -/
def Node.line : Node → String
  | .state declaration => "state " ++ declaration.name.getD "-"
  | .props _ names => "props " ++ ",".intercalate names
  | .onMount children => "onMount " ++ toString (mountExpressions children).length
  | .ifBlock condition _ => "if " ++ condition.source
  | .loop items itemName _ => "loop " ++ items.source ++ " " ++ itemName
  | .async promise _ _ _ _ _ _ => "async " ++ promise.source
  | .router routes => "router " ++ toString routes.length
  | .switch value cases =>
    "switch " ++ value.source ++ " " ++ ",".intercalate (cases.map fun c => c.value.script)
  | .slot name => "slot " ++ name.getD "-"
  | .slotContent name _ => "fill " ++ name
  | .component name _ _ => (if isCustomTag name then "custom " else "native ") ++ name
  | .fragment _ => "fragment"
  | .text value => "text " ++ value
  | .expression e => "expr " ++ e.source

/-- The lines about all nodes of a document. -/
def Document.outline (document : Document) : List String :=
  (visitedNodes document.body).map Node.line

/-- The number of nodes in each top-level node. -/
def Document.sizes (document : Document) : List Nat :=
  document.body.map fun node => node.visited.length

end Componentry
