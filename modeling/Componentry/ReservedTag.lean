/-!
# Reserved tags

The tags that have a meaning of their own. All other tags are components.
-/

namespace Componentry

/-- A tag with a meaning of its own. -/
inductive ReservedTag where
  | state | props | ifTag | loop | slot | onMount | async | switch | router | route
deriving DecidableEq, Repr

namespace ReservedTag

/-- The reserved tag of a given name. The router may be written with a small letter too. -/
def ofName? : String → Option ReservedTag
  | "state" => some state
  | "props" => some props
  | "if" => some ifTag
  | "loop" => some loop
  | "slot" => some slot
  | "onMount" => some onMount
  | "async" => some async
  | "switch" => some switch
  | "Router" | "router" => some router
  | "route" => some route
  | _ => none

/-- How messages name a tag. -/
def name : ReservedTag → String
  | state => "state"
  | props => "props"
  | ifTag => "if"
  | loop => "loop"
  | slot => "slot"
  | onMount => "onMount"
  | async => "async"
  | switch => "switch"
  | router => "Router"
  | route => "route"

end ReservedTag

/-- A branch of an asynchronous block. -/
inductive AsyncBranch where
  | done | failed | loading
deriving DecidableEq, Repr

namespace AsyncBranch

/-- The branch that a tag of a given name is. -/
def ofName? : String → Option AsyncBranch
  | "then" => some done
  | "catch" => some failed
  | "loading" => some loading
  | _ => none

/-- The tag of a branch. -/
def name : AsyncBranch → String
  | done => "then"
  | failed => "catch"
  | loading => "loading"

end AsyncBranch

/-- The tag of a case. -/
def caseTag : String := "case"

end Componentry
