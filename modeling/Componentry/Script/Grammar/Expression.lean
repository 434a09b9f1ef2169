import Componentry.Script.Grammar.Class
import Componentry.Script.Grammar.Markup
import Componentry.Script.Grammar.Operator
import Componentry.Script.Grammar.Target

/-!
# Expressions

From the inside out: literals, operands, the links behind an operand (members, calls, templates),
operators, and assignments with everything an expression between commas can be.
-/

namespace Componentry.Script

open Read

/-! ## Templates -/

/-- Takes a piece of a template. Behind a tag its escapes are free. -/
def templatePiece (tagged : Bool) : Read Unit := do
  let t ← token
  match t.kind with
  | .template _ false => unless tagged do report .templateEscape (t.start + 1)
  | _ => pure ()
  advance

/-- Looks at the `}` that ends a substitution as the start of the next piece. -/
def viewTemplateRest : Read Unit := do
  if ← at? .closeBrace then
    let r ← get
    view (extendTemplate r.token r.cursor)

/-- The pieces and substitutions of a template from a substitution on. -/
def templateRest (g : Grammar) (tagged : Bool) : Nat → Read Unit
  | 0 => return
  | steps + 1 => do
    let _ ← withIn (expression g)
    viewTemplateRest
    match ← kind with
    | .template .tail _ => templatePiece tagged
    | .template .middle _ =>
      templatePiece tagged
      templateRest g tagged steps
    | _ => require (.template .tail true)

/-- A template. -/
def template (g : Grammar) (tagged : Bool) : Read Unit := do
  match ← kind with
  | .template .whole _ => templatePiece tagged
  | _ =>
    templatePiece tagged
    templateRest g tagged (← steps)

/-! ## Literals -/

/-- An expression behind `...`. -/
def spreadTerm (g : Grammar) : Read (Entry Term) := do
  let start ← here
  advance
  return .spread (← g.assignment) start

/-- An entry of a list. -/
def listEntry (g : Grammar) : Read (Entry Term) := do
  match ← kind with
  | .mark .comma => return .hole
  | .mark .ellipsis => spreadTerm g
  | _ => return .item (← g.assignment)

/-- A list in brackets. -/
def listTerm (g : Grammar) : Read Term := do
  let start ← here
  advance
  let (entries, trailing) ← withIn (items .closeBracket (listEntry g))
  expect .closeBracket
  termFrom start (.list entries trailing)

/-- A name that is its own value, from behind it, with a default that only a target may have. -/
def shorthandRest (g : Grammar) (start : Nat) : Read (Entry Term) := do
  if ← eat .assign then
    let _ ← withIn g.assignment
    modify fun r => { r with pending := r.pending ++ [start] }
    return .initialized start
  else return .shorthand

/-- An entry of a record: a spread, a method, a name that is its own value, or a key with a
value. -/
def recordEntry (g : Grammar) : Read (Entry Term) := do
  if ← at? .ellipsis then return ← spreadTerm g
  let start ← here
  let all ← modifiers .elsewhere
  if let some form ← accessorForm? then
    let _ ← memberKey g
    let list ← functionRest g false false
    checkAccessor form list
    allowOnly [] all
    return .method list.offset
  let isGenerator ← eat .star
  let isName := isNameIn (← context) (← kind)
  let _ ← memberKey g
  if isGenerator || (← at? .openParen) || (← at? .less) then
    allowOnly ["async"] all
    let list ← functionRest g (hasModifier "async" all) isGenerator
    return .method list.offset
  allowOnly [] all
  if isName && !(← at? .colon) then return ← shorthandRest g start
  expect .colon
  return .item (← g.assignment)

/-- A record in braces. -/
def recordTerm (g : Grammar) : Read Term := do
  let start ← here
  advance
  let (entries, trailing) ← withIn (items .closeBrace (recordEntry g))
  expect .closeBrace
  termFrom start (.record entries trailing)

/-- A pattern, whose opening slash was read as a mark. One that is never closed stops the reader. -/
def patternTerm : Read Term := do
  let start ← here
  let r ← get
  let (scanned, closed) := extendPattern r.token r.cursor
  view scanned
  if closed then
    advance
    termFrom start .other
  else unexpectedTerm

/-! ## Operands -/

/-- An expression in parentheses. -/
def groupTerm (g : Grammar) : Read Term := do
  let start ← here
  advance
  let inside ← here
  let (terms, trailing) ← within (fun s => { s with inOperator := true, inDecorator := false })
    (items .closeParen g.assignment)
  match trailing with
  | some comma =>
    stop (.expected ")" ",") comma
    noTerm
  | none =>
    let behind ← lastStop
    expect .closeParen
    match terms with
    | [] =>
      stop .emptyParentheses start
      noTerm
    | [term] => termFrom start (.group term)
    | _ => termFrom start (.group ⟨.other, inside, behind⟩)

/-- The arguments of a call, in parentheses. -/
def arguments (g : Grammar) : Read Unit := do
  expect .openParen
  let argument : Read Unit := do
    if ← at? .ellipsis then
      let _ ← spreadTerm g
    else
      let _ ← g.assignment
  let _ ← within (fun s => { s with inOperator := true, inDecorator := false })
    (items .closeParen argument)
  expect .closeParen

/-- The links of members and templates behind an operand. `chained` says whether an optional link
has been read; the answer says so of the whole. What `new` makes has no optional links. -/
def memberLinks (g : Grammar) (start : Nat) (allowChain : Bool) :
    Nat → Bool → Term → Read (Term × Bool)
  | 0, chained, term => return (term, chained)
  | steps + 1, chained, term => do
    if ← isStopped then return (term, chained)
    let inBrackets : Read Unit := do
      advance
      let _ ← withIn (expression g)
      expect .closeBracket
    match ← kind with
    | .mark .dot =>
      advance
      memberName
      memberLinks g start allowChain steps chained (← termFrom start .member)
    | .mark .openBracket =>
      if (← context).inDecorator then return (term, chained)
      inBrackets
      memberLinks g start allowChain steps chained (← termFrom start .member)
    | .mark .optionalDot =>
      let next ← ahead (do advance; kind)
      if !allowChain then return (term, chained)
      else if next == .mark .openBracket then
        advance
        inBrackets
        memberLinks g start allowChain steps true (← termFrom start .member)
      else if next.isWordLike || next == .privateName then
        advance
        memberName
        memberLinks g start allowChain steps true (← termFrom start .member)
      else return (term, chained)
    | .template .whole _ | .template .head _ =>
      if chained then report .taggedChain (← here)
      template g true
      memberLinks g start allowChain steps chained (← termFrom start .other)
    | _ => return (term, chained)

/-- The links of members, templates and calls behind an operand. -/
def callLinks (g : Grammar) (start : Nat) : Nat → Bool → Term → Read (Term × Bool)
  | 0, chained, term => return (term, chained)
  | steps + 1, chained, term => do
    if ← isStopped then return (term, chained)
    let (term, chained) ← memberLinks g start true (← Read.steps) chained term
    let optional ← eat .optionalDot
    let chained := chained || optional
    match ← kind with
    | .mark .openParen =>
      arguments g
      callLinks g start steps chained (← termFrom start .call)
    | .template .whole _ | .template .head _ =>
      report .taggedChain (← here)
      template g true
      callLinks g start steps chained (← termFrom start .other)
    | _ =>
      if optional then unexpected
      return (term, chained)

/-- An operand with all its links. A chain with an optional link is closed here. -/
def linkedTerm (g : Grammar) : Read Term := do
  let start ← here
  let operand ← g.primary
  let (term, chained) ← callLinks g start (← steps) false operand
  if chained then
    match term.value with
    | .call => return { term with value := .chain true }
    | _ => return { term with value := .chain false }
  else return term

/-- A class as an expression, from its decorators or its word `class` on. -/
def classTerm (g : Grammar) : Read Term := do
  let start ← here
  if ← at? .atSign then
    let _ ← decorators g
    let _ ← decoratedClass g
  else
    let _ ← classRest g
  termFrom start .other

/-- An object made with `new`, from the word on. -/
def newTerm (g : Grammar) : Read Term := do
  let start ← here
  advance
  if ← eat .dot then
    if ← atWord? "target" then advance
    else
      advance
      stop .newProperty start
    termFrom start .other
  else
    let calleeStart ← here
    let callee ← g.primary
    let (callee, _) ← memberLinks g calleeStart false (← steps) false callee
    if ← at? .optionalDot then stop .newChain (← here)
    if ← at? .openParen then arguments g
    match callee.value with
    | .importCall => report .newImport calleeStart
    | _ => pure ()
    termFrom start .other

/-- `super`, which something has to follow. -/
def superTerm : Read Term := do
  let start ← here
  advance
  match ← kind with
  | .mark .dot | .mark .openParen | .mark .openBracket => pure ()
  | _ => report .looseSuper start
  termFrom start .other

/-- The arguments of a call that fetches a module: its address, and what is asked of it. -/
def importArguments (g : Grammar) (start : Nat) : Read Term := do
  expect .openParen
  if ← eat .closeParen then stop .missingAddress start
  let _ ← withIn g.assignment
  if ← eat .comma then
    unless ← at? .closeParen do
      let _ ← withIn g.assignment
      let _ ← eat .comma
      unless ← at? .closeParen do stop .importArguments start
  expect .closeParen
  termFrom start .importCall

/-- `import` inside an expression: of the module itself, or of another one by a call. -/
def importTerm (g : Grammar) : Read Term := do
  let start ← here
  advance
  match ← kind with
  | .mark .dot =>
    advance
    match ← kind with
    | .word "meta" =>
      advance
      termFrom start .other
    | .word "source" | .word "defer" =>
      advance
      importArguments g start
    | _ =>
      advance
      stop .importProperty start
      noTerm
  | .mark .openParen => importArguments g start
  | _ => unexpectedTerm

/-- An operand without links. -/
def primary (g : Grammar) : Read Term := do
  let t ← token
  let simple (shape : Shape) : Read Term := do
    advance
    return ⟨shape, t.start, t.stop⟩
  if ← atAsyncFunction then
    advance
    return ← functionTerm g t.start true
  match t.kind with
  | .name => nameTerm
  | .string value _ => simple (.string value)
  | .number _ => simple .number
  | .word "true" => simple (.boolean true)
  | .word "false" => simple (.boolean false)
  | .word "null" => simple .null
  | .word "this" => simple .other
  | .word "function" => functionTerm g t.start false
  | .word "class" => classTerm g
  | .word "new" => newTerm g
  | .word "super" => superTerm
  | .word "import" => importTerm g
  | .template .whole _ | .template .head _ =>
    template g false
    termFrom t.start .other
  | .mark .openBracket => listTerm g
  | .mark .openBrace => recordTerm g
  | .mark .openParen => groupTerm g
  | .mark .slash | .mark .slashAssign => patternTerm
  | .mark .atSign => classTerm g
  | .mark .less =>
    advance
    g.markup false t.start
  | _ => nameTerm

/-! ## Operators -/

/-- An operand with an operator for a step up or down on either side. Markup takes neither links nor
such an operator. -/
def updateTerm (g : Grammar) : Read Term := do
  let start ← here
  let k ← kind
  if isUpdateOperator k then
    advance
    let operand ← g.unary
    checkPlainTarget operand
    termFrom start .other
  else if k == .mark .less then
    advance
    g.markup false start
  else
    let operand ← linkedTerm g
    let t ← token
    if isUpdateOperator t.kind && !t.onNewLine then
      advance
      checkPlainTarget operand
      termFrom start .other
    else return operand

/-- Whether a word in view, which may also be a name, is an operator outside of its own context: it
is if an operand follows on the same line. -/
def atLooseOperator : Read Bool := ahead do
  advanceName
  let t ← token
  return !t.onNewLine && startsAwaited t.kind

/-- Whether `await` in view is an operator: it always is where it is allowed. Elsewhere it is a name
in front of `of`, as at the head of a loop over a sequence. -/
def atAwait : Read Bool := do
  unless ← atWord? "await" do return false
  if (← context).await then return true
  return (← atLooseOperator) && (← ahead (do advanceName; kind)) != .word "of"

/-- Whether `yield` in view is an operator. -/
def atYield : Read Bool := do
  unless ← atWord? "yield" do return false
  if (← context).yield then return true
  atLooseOperator

/-- An operand with the operators in front of it, taken one at a time. -/
def signedTerm (g : Grammar) : Read Term := do
  let start ← here
  if isUnaryOperator (← kind) then
    advance
    let _ ← g.unary
    termFrom start .other
  else if ← atAwait then
    unless (← context).await do report .strayAwait start
    advance
    let _ ← within (fun s => { s with await := true }) g.unary
    termFrom start .await
  else updateTerm g

/-- An operand with the operators in front of it. A sign in front of a power needs parentheses. -/
def unary (g : Grammar) : Read Term := signedTerm g

/-- The first operand of an expression of binary operators. -/
def firstOperand (g : Grammar) : Read Term := do
  let start ← here
  let k ← kind
  let term ← signedTerm g
  if ← at? .power then
    if isUnaryOperator k then report (.signedPower k.shown) start
    match term.value with
    | .await => report .awaitedPower start
    | _ => pure ()
  return term

/-- Whether a token can start a type. -/
def startsType : Token.Kind → Bool
  | .mark .openBrace | .mark .openBracket | .mark .openParen | .mark .less | .mark .minus => true
  | .mark .bitOr | .mark .bitAnd => true
  | .template _ _ => true
  | k => k.isWordLike || k.isLiteral

/-- Joins operands by binary operators that bind more tightly than `strength`. -/
def binaryRest (g : Grammar) (start : Nat) (strength : Nat) : Nat → Term → Read Term
  | 0, left => return left
  | steps + 1, left => do
    if ← at? .greater then
      modify fun r =>
        let (token, cursor) := extendGreater r.token r.cursor
        { r with token, cursor }
    let t ← token
    match bindingStrength? t.kind with
    | none => return left
    | some next =>
      let tighter := if next = powerStrength then strength ≤ next else strength < next
      if !tighter || (t.kind == .word "in" && !(← context).inOperator) then return left
      else if t.kind == .word "as" || t.kind == .word "satisfies" then
        if t.onNewLine then return left
        advance
        if startsType (← kind) then
          stop (if t.kind == .word "as" then .typeAssertion else .typeSatisfaction) start
        else unexpected
        return left
      else
        advance
        let right ← g.binary next
        let isLogical := t.kind == .mark .logicalAnd || t.kind == .mark .logicalOr
        if t.kind == .mark .coalesce then
          match right.value, left.value with
          | .logical, _ => report .mixedCoalescing start
          | _, .logical => report .mixedCoalescing start
          | _, _ => pure ()
        binaryRest g start strength steps
          (← termFrom start (if isLogical then .logical else .other))

/-- An expression of binary operators that bind more tightly than `strength`. The test for a private
name is a comparison, so it cannot be the operand of an operator that binds as tightly as one. Its
own right side may hold comparisons, but not start with another test. -/
def binary (g : Grammar) (strength : Nat) : Read Term := do
  let start ← here
  if (← kind) == .privateName && (← context).inOperator then
    advance
    expectWord "in"
    let right ← g.binary (comparisonStrength - 1)
    match right.value with
    | .privateIn => stop .nestedPrivateIn right.start
    | _ => pure ()
    unless strength < comparisonStrength do unexpected
    binaryRest g start strength (← steps) (← termFrom start .privateIn)
  else
    let left ← firstOperand g
    binaryRest g start strength (← steps) left

/-! ## Expressions between commas -/

/-- What a generator hands out. -/
def yieldTerm (g : Grammar) : Read Term := do
  let start ← here
  unless (← context).yield do report .strayYield start
  advance
  let t ← token
  unless t.onNewLine do
    if ← eat .star then
      let _ ← g.assignment
    else match t.kind with
      | .mark .closeBrace | .mark .closeBracket | .mark .closeParen | .mark .colon | .mark .comma
      | .mark .semicolon | .word "in" | .ending => pure ()
      | _ =>
        let _ ← g.assignment
  termFrom start .other

/-- The two branches of a condition, from behind the `?`. -/
def conditionalRest (g : Grammar) (start : Nat) : Read Term := do
  let _ ← withIn g.assignment
  expect .colon
  let _ ← g.assignment
  termFrom start .other

/-- An expression without commas: an arrow function, an assignment, a condition, or less. -/
def assignment (g : Grammar) : Read Term := do
  if ← atYield then return ← yieldTerm g
  if let some term ← groupedArrow g then return term
  if let some term ← asyncNameArrow g then return term
  let start ← here
  let left ← binary g 0
  let t ← token
  match left.value, t.kind with
  | .name _, .mark .arrow =>
    arrow
    arrowBody g start false
  | _, _ =>
    if isAssignmentOperator t.kind then
      checkTarget left
      advance
      let _ ← g.assignment
      termFrom start .assignment
    else if ← eat .question then conditionalRest g start
    else return left

end Componentry.Script
