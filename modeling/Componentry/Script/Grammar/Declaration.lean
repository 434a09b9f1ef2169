import Componentry.Script.Grammar.Expression

/-!
# Declarations of variables

Variables declared by `var`, `let`, `const` and `using`, as statements and at the head of a loop. A
constant and a pattern need a value, but not where a loop gives it to them.
-/

namespace Componentry.Script

open Read

/-- A variable that has been declared: where its name or pattern stands, what it binds, and whether
it has a value. -/
structure Declared where
  start : Nat
  stop : Nat
  binding : Binding
  hasValue : Bool

/-- One variable of a declaration. -/
def declaredVariable (g : Grammar) : Read Declared := do
  let start ← here
  let binding ← g.binding
  let stop ← lastStop
  let hasValue ← eat .assign
  if hasValue then
    let _ ← g.assignment
  return ⟨start, stop, binding, hasValue⟩

/-- The variables of a declaration, each checked by `check` as soon as it has been read. -/
def variablesFrom (g : Grammar) (check : Declared → Read Unit) : Nat → Read (List Declared)
  | 0 => return []
  | steps + 1 => do
    let first ← declaredVariable g
    check first
    if ← eat .comma then return first :: (← variablesFrom g check steps)
    else return [first]

/-- Reports a variable that needs a value and has none. -/
def checkValue (isConst : Bool) (declared : Declared) : Read Unit := do
  unless declared.hasValue do
    if declared.binding.isPattern then report .missingPatternValue declared.start
    else if isConst then report .missingConstValue declared.stop

/-- A declaration with `var`, `let` or `const` as a statement: the names it binds. Only `var` may be
the body of another statement. -/
def variableStatement (g : Grammar) (place : Place) : Read (List PlacedName) := do
  let start ← here
  let isConst ← atWord? "const"
  let isLexical := !(← atWord? "var")
  advance
  let all ← variablesFrom g (checkValue isConst) (← steps)
  endStatement
  if place == .body && isLexical then report .lexicalDeclarationAsBody start
  return all.flatMap fun declared => declared.binding.names

/-! ## Resources -/

/-- Whether what is in view can be declared by `using` in front of it: a name or a record pattern on
the same line. -/
def usingFollows : Read Bool := do
  let t ← token
  return (t.kind.isNameOrAwait || t.kind == .mark .openBrace) && !t.onNewLine

/-- Whether a declaration with `using` or `await using` is in view. At the head of a loop `of` does
not name a variable. -/
def startsUsing (inLoop : Bool) : Read Bool := do
  match ← kind with
  | .word "using" => ahead do
      advanceName
      return (← usingFollows) && !(inLoop && (← atWord? "of"))
  | .word "await" => ahead do
      advanceName
      unless ← atWord? "using" do return false
      advanceName
      usingFollows
  | _ => return false

/-- Checks a variable declared by `using`. -/
def checkUsing (inLoop : Bool) (declared : Declared) : Read Unit := do
  if declared.binding.isPattern then report .usingPattern declared.start
  if !declared.hasValue && !inLoop then report .usingWithoutValue declared.start

/-- A declaration with `using` or `await using`, without its end. The answer says whether it
awaits. -/
def usingDeclaration (g : Grammar) (inLoop : Bool) : Read Bool := do
  let awaits ← eatWord "await"
  expectWord "using"
  let t ← token
  if t.onNewLine then report .usingLineBreak t.start
  if t.kind == .word "await" then
    report .usingAwait t.start
    advance
  let _ ← variablesFrom g (checkUsing inLoop) (← steps)
  return awaits

end Componentry.Script
