import Componentry.Document.Basic

/-!
# What a body needs

Before a module is written it has to be known what its body will use: which hooks, which slots, and
which scripts of the author could call a setter. `Usage` collects this from the nodes of the body,
and also the declarations among them, which have no effect there.

`Node.usage` goes over all nodes in order and adds up.
-/

namespace Componentry

/-- What nodes of a body need. -/
structure Usage where
  /-- The number of asynchronous blocks. -/
  asyncBlocks : Nat := 0
  /-- The number of mount blocks that run something. -/
  mounts : Nat := 0
  /-- The slots that are shown; the one for all other content has no name. -/
  slotReads : List (Option String) := []
  /-- The tags of declarations. -/
  misplaced : List String := []
  /-- The scripts of the author. -/
  scripts : List String := []
deriving DecidableEq, Repr, Inhabited

namespace Usage

/-- Adds up what two parts need. -/
protected def append (a b : Usage) : Usage where
  asyncBlocks := a.asyncBlocks + b.asyncBlocks
  mounts := a.mounts + b.mounts
  slotReads := a.slotReads ++ b.slotReads
  misplaced := a.misplaced ++ b.misplaced
  scripts := a.scripts ++ b.scripts

instance : Append Usage := ⟨Usage.append⟩

/-- Nothing but scripts. -/
def ofScripts (scripts : List String) : Usage := { scripts }

/-- Whether the body keeps state of its own. -/
def needsState (usage : Usage) : Bool := usage.asyncBlocks > 0

/-- Whether the body has effects of its own. -/
def needsEffect (usage : Usage) : Bool := usage.asyncBlocks > 0 || usage.mounts > 0

/-- Whether some slot is shown that is not among the props taken by name. -/
def readsProps (usage : Usage) (names : List String) : Bool :=
  usage.slotReads.any fun slot => !names.contains (slot.getD "children")

end Usage

/-- The script in an attribute. -/
def Property.script? : Property → Option String
  | named _ value => value.script?
  | spread argument => some argument.source

/-- What a mount block needs. -/
def mountUsage (children : List Node) : Usage :=
  let scripts := (mountExpressions children).map Expression.source
  { mounts := if scripts.isEmpty then 0 else 1, scripts }

mutual

/-- What a node needs, with all nodes in it. -/
def Node.usage : Node → Usage
  | .state _ => { misplaced := ["state"] }
  | .props _ _ => { misplaced := ["props"] }
  | .ifBlock condition children => .ofScripts [condition.source] ++ usageOfNodes children
  | .loop items _ children => .ofScripts [items.source] ++ usageOfNodes children
  | .async promise key done failed loading _ _ =>
    { asyncBlocks := 1, scripts := promise.source :: (key.map Expression.source).toList }
      ++ usageOfNodes done ++ usageOfNodes failed ++ usageOfNodes loading
  | .router routes => usageOfRoutes routes
  | .switch value cases => .ofScripts [value.source] ++ usageOfCases cases
  | .slot name => { slotReads := [name] }
  | .slotContent _ element => element.usage
  | .onMount children => mountUsage children
  | .component _ properties children =>
    .ofScripts (properties.filterMap Property.script?) ++ usageOfNodes children
  | .fragment children => usageOfNodes children
  | .text _ => {}
  | .expression e => .ofScripts [e.source]

/-- What nodes need together. -/
def usageOfNodes : List Node → Usage
  | [] => {}
  | node :: rest => node.usage ++ usageOfNodes rest

/-- What routes need together. -/
def usageOfRoutes : List (Route Node) → Usage
  | [] => {}
  | ⟨_, _, children⟩ :: rest => usageOfNodes children ++ usageOfRoutes rest

/-- What cases need together. -/
def usageOfCases : List (Case Node) → Usage
  | [] => {}
  | ⟨_, children⟩ :: rest => usageOfNodes children ++ usageOfCases rest

end

end Componentry
