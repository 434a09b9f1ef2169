import Componentry.Script.Grammar.Passage

/-!
# Statements

Loops, branches, jumps and the choice between all statements. A statement that is an expression
keeps its term, since markup and directives are such statements.
-/

namespace Componentry.Script

open Read

/-! ## Loops -/

/-- The rest of a `for` with three parts, from its first semicolon on. The variables declared in its
head are checked now that no traversal gives them a value. -/
def countingLoop (g : Grammar) (start : Nat) (awaits : Bool) (check : Read Unit) : Read Unit := do
  expect .semicolon
  check
  unless (← at? .semicolon) || (← at? .closeParen) do
    let _ ← withIn (expression g)
  expect .semicolon
  unless ← at? .closeParen do
    let _ ← withIn (expression g)
  expect .closeParen
  if awaits then report .strayForAwait start
  let _ ← g.statement .body

/-- The rest of a `for` over something, from its word `in` or `of` on. -/
def traversingLoop (g : Grammar) (start : Nat) (awaits : Bool) : Read Unit := do
  let overKeys ← atWord? "in"
  advance
  if overKeys then
    let _ ← withIn (expression g)
  else
    let _ ← withIn g.assignment
  expect .closeParen
  if awaits && overKeys then report .strayForAwait start
  let _ ← g.statement .body

/-- Whether `in` or `of` is in view. -/
def atTraversal : Read Bool := do
  let k ← kind
  return k == .word "in" || k == .word "of"

/-- Whether a declaration with `var`, `let` or `const` starts the head of a loop. -/
def startsLoopVariables : Read Bool := do
  match ← kind with
  | .word "var" | .word "const" => return true
  | .word "let" =>
    let next ← ahead (do advanceName; kind)
    return next != .word "in"
      && (next.isWordLike || next == .mark .openBrace || next == .mark .openBracket)
  | _ => return false

/-- A `for` loop whose head starts with an expression. What a traversal assigns to must not start
with `let`, nor be the word `async`. -/
def expressionLoop (g : Grammar) (start : Nat) (awaits : Bool) : Read Unit := do
  let isLet ← atWord? "let"
  let isAsync ← atWord? "async"
  let left ← within (fun s => { s with inOperator := false }) (expression g)
  if ← atTraversal then
    if ← atWord? "of" then
      match left.value with
      | .name _ => if isAsync && !awaits then report .asyncBeforeOf left.start
      | _ => pure ()
      if isLet then report .unexpectedToken left.start
    checkTarget left
    traversingLoop g start awaits
  else countingLoop g start awaits (pure ())

/-- A `for` loop. -/
def forLoop (g : Grammar) : Read Unit := do
  let start ← here
  advance
  let awaitsAt ← here
  let awaits ← eatWord "await"
  if awaits && !(← context).await then report .strayAwait awaitsAt
  expect .openParen
  if (← at? .semicolon) || (← at? .closeParen) then countingLoop g start awaits (pure ())
  else if ← startsLoopVariables then
    let isConst ← atWord? "const"
    advance
    let all ← within (fun s => { s with inOperator := false }) do
      variablesFrom g (fun _ => pure ()) (← steps)
    if ← atTraversal then traversingLoop g start awaits
    else countingLoop g start awaits (all.forM (checkValue isConst))
  else if ← startsUsing true then
    let declaredAt ← here
    let awaited ← within (fun s => { s with inOperator := false }) (usingDeclaration g true)
    if ← atWord? "in" then
      report (if awaited then .awaitUsingInForIn else .usingInForIn) declaredAt
    if ← atTraversal then traversingLoop g start awaits
    else countingLoop g start awaits (pure ())
  else expressionLoop g start awaits

/-! ## Branches and jumps -/

/-- A branch on a condition. -/
def ifStatement (g : Grammar) : Read Unit := do
  advance
  condition g
  let _ ← g.statement .body
  if ← eatWord "else" then
    let _ ← g.statement .body

/-- The statements of a case, up to the next one. -/
def caseBody (g : Grammar) : Nat → Read Unit
  | 0 => return
  | steps + 1 => do
    match ← kind with
    | .mark .closeBrace | .ending | .word "case" | .word "default" => return
    | _ =>
      if ← isStopped then return
      let _ ← g.statement .list
      caseBody g steps

/-- The cases of a `switch`, up to the closing brace. -/
def casesFrom (g : Grammar) : Nat → Read Unit
  | 0 => return
  | steps + 1 => do
    let k ← kind
    if k == .mark .closeBrace || k == .ending || (← isStopped) then return
    match k with
    | .word "default" => advance
    | .word "case" =>
      advance
      let _ ← expression g
    | _ => unexpected
    expect .colon
    caseBody g (← Read.steps)
    casesFrom g steps

/-- A `switch`. -/
def switchStatement (g : Grammar) : Read Unit := do
  advance
  condition g
  expect .openBrace
  casesFrom g (← steps)
  expect .closeBrace

/-- A block with handlers. -/
def tryStatement (g : Grammar) : Read Unit := do
  advance
  block g
  let blockStop ← lastStop
  let caught ← eatWord "catch"
  if caught then
    if ← eat .openParen then
      let _ ← g.binding
      expect .closeParen
    block g
  let finished ← eatWord "finally"
  if finished then block g
  unless caught || finished do report .missingHandler blockStop

/-- A jump, with an optional label. -/
def jump : Read Unit := do
  advance
  unless ← canEndStatement do jumpLabel
  endStatement

/-- `return`, with an optional value. -/
def returnStatement (g : Grammar) : Read Unit := do
  let start ← here
  advance
  unless (← eat .semicolon) || (← canEndStatement) do
    let _ ← withIn (expression g)
    endStatement
  unless (← context).inFunction do report .strayReturn start

/-- `throw`, whose value has to stand on the same line. -/
def throwStatement (g : Grammar) : Read Unit := do
  let start ← here
  advance
  if (← token).onNewLine then report .lineBreakAfterThrow start
  let _ ← withIn (expression g)
  endStatement

/-! ## All statements -/

/-- An expression as a statement, or a statement with a label. -/
def expressionStatement (g : Grammar) : Read Sentence := do
  let start ← here
  let term ← withIn (expression g)
  match term.value with
  | .name _ =>
    if ← eat .colon then
      let _ ← g.statement .body
      return ⟨start, ← lastStop, none⟩
  | _ => pure ()
  endStatement
  return ⟨start, ← lastStop, some term⟩

/-- A statement that starts with the word `let`. In front of an operator, a dot or a parenthesis it
is a name, and behind a dot or a parenthesis the statement needs no semicolon. -/
def letStatement (g : Grammar) (place : Place) : Read Sentence := do
  let start ← here
  let next ← ahead (do advanceName; kind)
  if isAssignmentOperator next || isPlainBinaryOperator next then
    let term ← g.assignment
    endStatement
    return ⟨start, ← lastStop, some term⟩
  else if next == .mark .dot || next == .mark .openParen then
    let term ← expression g
    return ⟨start, ← lastStop, some term⟩
  else if (place == .body && next != .mark .openBracket) || next == .mark .semicolon then
    let term ← nameTerm
    endStatement
    return ⟨start, ← lastStop, some term⟩
  else
    let _ ← variableStatement g place
    return ⟨start, ← lastStop, none⟩

/-- A function declared by a statement. As the body of another statement it is neither asynchronous
nor a generator. -/
def functionStatement (g : Grammar) (place : Place) : Read Unit := do
  let start ← here
  let isAsync ← eatWord "async"
  let (_, isGenerator) ← functionDeclaration g isAsync false
  if place == .body then
    if isAsync then report .asyncFunctionAsBody start
    if isGenerator then report .generatorAsBody start

/-- A class declared by a statement, from its decorators on, or an export behind them. -/
def classStatement (g : Grammar) (place : Place) : Read Unit := do
  let start ← here
  let decorated ← decorators g
  if !decorated.isEmpty && (← atWord? "export") then exportDeclaration g decorated
  else
    let _ ← decoratedClass g
    if place == .body then report .classAsBody start

/-- A statement. -/
def statement (g : Grammar) (place : Place) : Read Sentence := do
  let start ← here
  let plain (reader : Read Unit) : Read Sentence := do
    reader
    return ⟨start, ← lastStop, none⟩
  match ← kind with
  | .mark .openBrace => plain (block g)
  | .mark .semicolon => plain advance
  | .mark .atSign | .word "class" => plain (classStatement g place)
  | .word "if" => plain (ifStatement g)
  | .word "for" => plain (forLoop g)
  | .word "while" => plain do
      advance
      condition g
      let _ ← g.statement .body
  | .word "do" => plain do
      advance
      let _ ← g.statement .body
      expectWord "while"
      condition g
      let _ ← eat .semicolon
  | .word "continue" | .word "break" => plain jump
  | .word "with" => plain do
      advance
      condition g
      let _ ← g.statement .body
  | .word "switch" => plain (switchStatement g)
  | .word "throw" => plain (throwStatement g)
  | .word "try" => plain (tryStatement g)
  | .word "debugger" => plain do
      advance
      endStatement
  | .word "export" => plain (exportDeclaration g [])
  | .word "return" => plain (returnStatement g)
  | .word "function" => plain (functionStatement g place)
  | .word "var" | .word "const" => plain do
      let _ ← variableStatement g place
  | .word "import" =>
    match ← ahead (do advance; kind) with
    | .mark .dot | .mark .openParen => expressionStatement g
    | _ => plain importDeclaration
  | .word "let" => if (← token).escaped then expressionStatement g else letStatement g place
  | _ =>
    if ← atAsyncFunction then plain (functionStatement g place)
    else if ← startsUsing false then
      plain do
        let _ ← usingDeclaration g false
        endStatement
    else expressionStatement g

end Componentry.Script
