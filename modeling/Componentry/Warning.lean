import Componentry.Document.Basic
import Componentry.ReservedTag

/-!
# Warnings

What a component says that has no effect, or another effect than it seems to have. Warnings never
stop a component from being compiled.

`Reported α` is a result with the warnings that came up on the way, in order.
-/

namespace Componentry

/-- What a warning is about. -/
inductive Warning.Cause where
  -- control blocks that are written incompletely
  | ifWithoutCondition
  | loopWithoutItems
  | asyncWithoutPromise
  | switchWithoutValue
  | caseWithoutLiteral
  | slotNameNotText
  | routePathNotText
  -- content that is ignored
  | extraStateAttributes
  | otherChildrenOfProps
  | otherChildrenOfMount
  | contentOfAsync
  | contentOfSwitch
  | contentOfRouter
  | strayTagInAsync (name : String)
  -- repetitions
  | repeatedProp (name : String)
  | repeatedBranch (branch : AsyncBranch)
  | repeatedCase (value : CaseValue)
  | repeatedRouteParameter (path name : String)
  | repeatedProps
  -- places where something has no effect
  | ignoredTopLevel (typeName : String)
  | misplaced (tag : String)
deriving DecidableEq, Repr

namespace Warning.Cause

/-- The wording of a warning. -/
def message : Warning.Cause → String
  | ifWithoutCondition => "<if> without a condition expression never renders"
  | loopWithoutItems => "<loop> without an 'of' expression iterates nothing"
  | asyncWithoutPromise => "<async> without a 'promise' expression resolves to undefined"
  | switchWithoutValue => "<switch> without an 'on' expression matches undefined"
  | caseWithoutLiteral => "<case> needs a literal 'when' value; matching null"
  | slotNameNotText => "slot name must be a string; using the default slot"
  | routePathNotText => "<route> needs a literal 'path'; matching '/' instead"
  | extraStateAttributes => "<state> declares one value; extra attributes are ignored"
  | otherChildrenOfProps => "<props> only lists names; other children are ignored"
  | otherChildrenOfMount => "<onMount> only runs expressions; other children are ignored"
  | contentOfAsync => "<async> content outside <then>, <catch> or <loading> is ignored"
  | contentOfSwitch => "<switch> only contains <case> blocks; other content is ignored"
  | contentOfRouter => "<Router> only contains <route> blocks; other content is ignored"
  | strayTagInAsync name =>
    "<" ++ name ++ "> inside <async> is ignored; expected <then>, <catch> or <loading>"
  | repeatedProp name => "prop '" ++ name ++ "' is listed more than once"
  | repeatedBranch branch => "duplicate <" ++ branch.name ++ "> ignored; the first one wins"
  | repeatedCase value => "duplicate case " ++ value.script ++ " ignored; the first one wins"
  | repeatedRouteParameter path name =>
    "route '" ++ path ++ "' captures ':" ++ name ++ "' more than once; the last match wins"
  | repeatedProps => "duplicate <props> declaration ignored"
  | ignoredTopLevel typeName =>
    "top-level " ++ typeName ++ " outside the root component is ignored"
  | misplaced tag => "<" ++ tag ++ "> below the component root is ignored"

end Warning.Cause

/-- A warning, and where the tag it is about starts, if that is known. -/
structure Warning where
  cause : Warning.Cause
  position : Option Position
deriving DecidableEq, Repr

/-- A warning as a line of a report. -/
def Warning.text (warning : Warning) : String :=
  match warning.position with
  | some position =>
    warning.cause.message ++ " (line " ++ toString position.line ++ ", column "
      ++ toString position.column ++ ")"
  | none => warning.cause.message

/-- A result together with warnings. -/
structure Reported (α : Type) where
  value : α
  warnings : List Warning

namespace Reported

instance : Monad Reported where
  pure value := ⟨value, []⟩
  bind first next :=
    let second := next first.value
    ⟨second.value, first.warnings ++ second.warnings⟩

/-- Reports a warning at a position. -/
def warn (cause : Warning.Cause) (position : Position) : Reported Unit :=
  ⟨(), [⟨cause, some position⟩]⟩

/-- The value that was found, or a default with a warning. -/
def orElse {α : Type} (found : Option α) (default : α) (cause : Warning.Cause)
    (position : Position) : Reported α :=
  match found with
  | some value => pure value
  | none => ⟨default, [⟨cause, some position⟩]⟩

end Reported

end Componentry
