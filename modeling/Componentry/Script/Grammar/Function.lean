import Componentry.Script.Grammar.Modifier

/-!
# Bindings, parameters and bodies

What functions of every form share: the names and patterns they bind, parameter lists, bodies, and
the keys of members of records and classes.
-/

namespace Componentry.Script

open Read

/-! ## Keys -/

/-- The key of a member: a word, a string, a number, or an expression in brackets. -/
def memberKey (g : Grammar) : Read Key := do
  let t ← token
  match t.kind with
  | .string value _ =>
    advance
    return ⟨t.start, some value, false, false⟩
  | .number _ =>
    advance
    return ⟨t.start, none, false, false⟩
  | .mark .openBracket =>
    advance
    let _ ← withIn g.assignment
    expect .closeBracket
    return ⟨t.start, none, false, false⟩
  | _ =>
    anyName
    return ⟨t.start, some t.value, true, false⟩

/-! ## Bindings -/

/-- A default value, if there is one. -/
def optionalDefault (g : Grammar) : Read Bool := do
  if ← eat .assign then
    let _ ← withIn g.assignment
    return true
  else return false

/-- A bound name or pattern with an optional default. -/
def bindingWithDefault (g : Grammar) : Read Binding := do
  let bound ← g.binding
  let _ ← optionalDefault g
  return bound

/-- The last part of a pattern or parameter list, with `...` in front: what is bound and where. It
has no default. -/
def restBinding (g : Grammar) : Read (Nat × Binding) := do
  advance
  let start ← here
  let bound ← g.binding
  if ← optionalDefault g then report .restDefault start
  return (start, bound)

/-- A part of a record pattern. -/
def bindingProperty (g : Grammar) : Read Binding := do
  let t ← token
  let key ← memberKey g
  if key.isWord && t.kind.isNameOrAwait && !(← at? .colon) then
    checkName t
    let _ ← optionalDefault g
    return ⟨false, [⟨t.value, t.start⟩]⟩
  else
    expect .colon
    bindingWithDefault g

/-- A part of a list pattern, which may be left out. -/
def bindingElement (g : Grammar) : Read Binding := do
  if ← at? .comma then return ⟨false, []⟩ else bindingWithDefault g

/-- A bound name or pattern. The rest of a record can only be a name. -/
def binding (g : Grammar) : Read Binding := do
  match ← kind with
  | .mark .openBrace =>
    advance
    let bound ← bindingItems .closeBrace (bindingProperty g) (restBinding g) .restNotLast
    if let some (offset, rest) := bound.rest? then
      if rest.isPattern then stop .restPattern offset
    expect .closeBrace
    return ⟨true, bound.names⟩
  | .mark .openBracket =>
    advance
    let bound ← bindingItems .closeBracket (bindingElement g) (restBinding g) .restNotLast
    expect .closeBracket
    return ⟨true, bound.names⟩
  | _ => return ⟨false, [← boundName]⟩

/-! ## Decorators -/

/-- Decorators, each an operand with its links behind `@`: the offsets of the `@`. -/
def decoratorsFrom (g : Grammar) : Nat → Read (List Nat)
  | 0 => return []
  | steps + 1 => do
    if ← at? .atSign then
      let start ← here
      advance
      let _ ← within (fun s => { s with inDecorator := true }) g.linked
      return start :: (← decoratorsFrom g steps)
    else return []

/-- All decorators at a place. -/
def decorators (g : Grammar) : Read (List Nat) := do
  decoratorsFrom g (← steps)

/-- Reports decorators that have nothing to decorate. -/
def strayDecorators (offsets : List Nat) : Read Unit :=
  offsets.forM (report .strayDecorator)

/-! ## Parameters and bodies -/

/-- A parameter. It takes no modifiers. -/
def parameter (g : Grammar) : Read Binding := do
  let _ ← decorators g
  let all ← modifiers .elsewhere
  all.forM fun m => report .parameterModifier m.offset
  bindingWithDefault g

/-- A parameter list in parentheses. -/
def parameters (g : Grammar) : Read ParameterList := do
  let start ← here
  expect .openParen
  let bound ← bindingItems .closeParen (parameter g) (restBinding g) .restParameterNotLast
  expect .closeParen
  return ⟨start, bound.count, bound.rest?.isSome⟩

/-- Statements up to a closing brace that is not taken. -/
def statementsFrom (g : Grammar) : Nat → Read Unit
  | 0 => return
  | steps + 1 => do
    let k ← kind
    if k == .mark .closeBrace || k == .ending || (← isStopped) then return
    let _ ← g.statement .list
    statementsFrom g steps

/-- Statements in braces. -/
def block (g : Grammar) : Read Unit := do
  expect .openBrace
  statementsFrom g (← steps)
  expect .closeBrace

/-- The body of a function, in braces. -/
def functionBody (g : Grammar) : Read Unit :=
  within (fun s => { s with inOperator := true, inFunction := true, inDecorator := false })
    (block g)

/-- The parameters and the body of a function. -/
def functionRest (g : Grammar) (isAsync isGenerator : Bool) : Read ParameterList :=
  within (fun s =>
      { s with inOperator := true, await := isAsync, yield := isGenerator, inDecorator := false })
      do
    let list ← parameters g
    if ← at? .openBrace then functionBody g else unexpected
    return list

/-- A function expression from its word `function` on. -/
def functionTerm (g : Grammar) (start : Nat) (isAsync : Bool) : Read Term := do
  expectWord "function"
  let isGenerator ← eat .star
  if (← kind).isNameOrAwait then
    let _ ← within (fun s => { s with await := isAsync, yield := isGenerator }) boundName
  let _ ← functionRest g isAsync isGenerator
  termFrom start .other

/-- A function declaration from its word `function` on: its name, and whether it is a generator. The
name may be left out where it is the default export. -/
def functionDeclaration (g : Grammar) (isAsync nameOptional : Bool) :
    Read (Option PlacedName × Bool) := do
  expectWord "function"
  let isGenerator ← eat .star
  let t ← token
  let name? ← if t.kind.isNameOrAwait then some <$> boundName else pure none
  if name?.isNone && !nameOptional then
    match t.kind with
    | .mark .openParen => report .missingFunctionName t.start
    | .word _ => require .name
    | _ => pure ()
  let _ ← functionRest g isAsync isGenerator
  return (name?, isGenerator)

/-- Whether `async function` is in view, on one line. -/
def atAsyncFunction : Read Bool := do
  unless ← atWord? "async" do return false
  ahead do
    advanceName
    return !(← token).onNewLine && (← atWord? "function")

/-! ## Arrow functions -/

/-- The body of an arrow function, from behind the arrow: an expression, or statements in braces. -/
def arrowBody (g : Grammar) (start : Nat) (isAsync : Bool) : Read Term := do
  within (fun s => { s with await := isAsync, yield := false }) do
    if ← at? .openBrace then functionBody g
    else
      let _ ← g.assignment
  termFrom start .arrow

/-- An arrow, which must stand on the line of its parameters. -/
def arrow : Read Unit := do
  let t ← token
  if t.onNewLine then report .lineBreakBeforeArrow t.start
  expect .arrow

/-- An arrow function with its parameters in parentheses. -/
def arrowFunction (g : Grammar) : Read Term := do
  let start ← here
  let isAsync ← eatWord "async"
  let _ ← within (fun s => { s with await := s.await || isAsync }) (parameters g)
  arrow
  arrowBody g start isAsync

/-- What a look at the first tokens says about an arrow function in parentheses. -/
inductive ArrowGuess where
  | yes | no | maybe
deriving DecidableEq, Repr

/-- Looks at what follows an opening parenthesis. -/
def guessInParentheses : Read ArrowGuess := do
  let second ← kind
  match second with
  | .mark .closeParen =>
    advance
    match ← kind with
    | .mark .arrow | .mark .openBrace => return .yes
    | _ => return .no
  | .mark .openBracket | .mark .openBrace => return .maybe
  | .mark .ellipsis =>
    advance
    let third ← kind
    if third == .name then return .yes
    else if third.isLiteral then return .no
    else return .maybe
  | _ =>
    advanceName
    let third ← kind
    let isModifier := match second with
      | .word w => w != "async" && modifierWords.contains w
      | _ => false
    if isModifier && third.isNameOrAwait then
      return if third == .word "as" then .no else .yes
    unless second.isNameOrAwait || second == .word "this" do return .no
    match third with
    | .mark .colon => return .yes
    | .mark .question =>
      advance
      match ← kind with
      | .mark .colon | .mark .comma | .mark .assign | .mark .closeParen => return .yes
      | _ => return .no
    | .mark .comma | .mark .assign | .mark .closeParen => return .maybe
    | _ => return .no

/-- Looks at what follows a `<`: a tag, unless it can only be the start of a list of type
parameters. -/
def guessBehindLess : Read ArrowGuess := do
  let second ← kind
  unless second.isNameOrAwait || second == .word "const" do return .no
  if second == .word "const" then advance
  advanceName
  match ← kind with
  | .word "extends" =>
    advance
    match ← kind with
    | .mark .assign | .mark .greater | .mark .slash => return .no
    | _ => return .yes
  | .mark .comma | .mark .assign => return .yes
  | _ => return .no

/-- Looks at the first tokens of what may be an arrow function in parentheses. -/
def arrowGuess : Read ArrowGuess := do
  let k ← kind
  unless k == .mark .openParen || k == .mark .less || k == .word "async" do return .no
  ahead do
    if ← eatWord "async" then
      if (← token).onNewLine then return .no
    match ← kind with
    | .mark .openParen =>
      advance
      guessInParentheses
    | .mark .less =>
      advance
      guessBehindLess
    | _ => return .no

/-- An arrow function with its parameters in parentheses, if there is one. Where the first tokens
leave it open, the whole function is tried. -/
def groupedArrow (g : Grammar) : Read (Option Term) := do
  match ← arrowGuess with
  | .no => return none
  | .yes => return some (← arrowFunction g)
  | .maybe =>
    if (← get).notArrows.contains (← here) then return none
    attempt (arrowFunction g)

/-- An asynchronous arrow function with one bare parameter, if there is one. -/
def asyncNameArrow (g : Grammar) : Read (Option Term) := do
  unless ← atWord? "async" do return none
  let isArrow ← ahead do
    advanceName
    let t ← token
    unless !t.onNewLine && t.kind.isNameOrAwait do return false
    advanceName
    at? .arrow
  unless isArrow do return none
  let start ← here
  advance
  let _ ← g.binary 0
  arrow
  return some (← arrowBody g start true)

end Componentry.Script
