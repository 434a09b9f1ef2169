import Componentry.Script.Grammar.Basic
import Componentry.Text.Blank

/-!
# Markup

Elements and fragments inside a script. Between tags nothing is skipped and text is text; inside a
tag the words of a script are names, and names may have hyphens, one colon, or dots.

A closing tag has to repeat the name of its opening tag. If it does not, the reader reports that and
takes the tag as closed, so an outer tag can still be matched.
-/

namespace Componentry.Script

open Read Text Markup

/-! ## Expressions -/

/-- The embedded expression that a term is. -/
def Term.toExpression (term : Term) : Read Expression := do
  return ⟨trimmed (← textBetween term.start term.stop), term.value.kind⟩

/-- Markup in the place of an attribute's value: an expression that is kept as text. -/
def Term.toOpaque (term : Term) : Read Expression := do
  return ⟨trimmed (← textBetween term.start term.stop), .other⟩

/-- What stands in braces, from behind the opening brace at `start`: an expression, or nothing but
blanks and comments. `content` says whether the braces stand between tags. -/
def braced (g : Grammar) (content : Bool) (start : Nat) : Read Expression := do
  if ← at? .closeBrace then
    expectIn content .closeBrace
    return ⟨trimmed (← textBetween (start + 1) ((← lastStop) - 1)), .empty⟩
  else
    let term ← expression g
    expectIn content .closeBrace
    term.toExpression

/-! ## Names -/

/-- A name in a tag, hyphens included: its text. -/
def tagWord : Read String := do
  let t ← token
  if t.kind.isWordLike then
    modify fun r =>
      let (token, cursor) := extendTagName r.token r.cursor
      { r with token, cursor }
    let stop := (← token).stop
    advance
    textBetween t.start stop
  else
    unexpected
    return ""

/-- The name of an element, as written and by its parts. Two names are the same if their parts
are. -/
structure TagName where
  start : Nat
  written : String
  /-- Whether the name has a namespace, that is, a colon. -/
  spaced : Bool
  parts : List String

/-- Whether two tags have the same name. -/
def TagName.same (a b : TagName) : Bool :=
  a.spaced == b.spaced && a.parts == b.parts

/-- The parts of a dotted name behind the first one, which have no hyphens. -/
def dottedParts : Nat → Read (List String)
  | 0 => return []
  | steps + 1 => do
    if (← eat .dot) && !(← isStopped) then
      let start ← here
      let part ← tagWord
      if part.toList.contains '-' then stop .unexpectedToken start
      return part :: (← dottedParts steps)
    else return []

/-- The name of an element: `a-b`, `a:b` or `a.b.c`. -/
def tagName : Read TagName := do
  let start ← here
  let first ← tagWord
  if ← eat .colon then
    let second ← tagWord
    return ⟨start, ← textBetween start (← lastStop), true, [first, second]⟩
  else
    let stop ← lastStop
    let parts ← dottedParts (← steps)
    let stop ← if parts.isEmpty then pure stop else lastStop
    return ⟨start, ← textBetween start stop, false, first :: parts⟩

/-- The name of an attribute: `a-b` or `a:b`. -/
def attributeName : Read String := do
  let start ← here
  let first ← tagWord
  if ← eat .colon then
    let _ ← tagWord
    textBetween start (← lastStop)
  else return first

/-! ## Attributes -/

/-- The value of an attribute, from behind its `=`. -/
def attributeValue (g : Grammar) : Read AttributeValue := do
  let t ← token
  match t.kind with
  | .string value _ =>
    advance
    return .text value
  | .mark .openBrace =>
    advance
    return .expression (← braced g false t.start)
  | .mark .less =>
    advance
    let term ← g.markup false t.start
    return .expression (← term.toOpaque)
  | _ =>
    unexpected
    return .text ""

/-- An attribute in braces, `{...argument}`. -/
def spreadAttribute (g : Grammar) : Read Attribute := do
  let start ← here
  advance
  expect .ellipsis
  let term ← expression g
  expect .closeBrace
  return .spread (← term.toExpression) (← positionOf start)

/-- An attribute with a name. -/
def namedAttribute (g : Grammar) : Read Attribute := do
  let start ← here
  let name ← attributeName
  let value ← if ← at? .assign then do
      advanceBy (scan .attribute)
      pure (some (← attributeValue g))
    else pure none
  return .named name value (← positionOf start)

/-- The attributes of a tag, up to the mark that ends it. -/
def attributesFrom (g : Grammar) : Nat → Read (List Attribute)
  | 0 => return []
  | steps + 1 => do
    let k ← kind
    if k == .mark .less || k == .mark .greater || k == .mark .slash || (← isStopped) then return []
    let first ← if k == .mark .openBrace then spreadAttribute g else namedAttribute g
    return first :: (← attributesFrom g steps)

/-! ## Content -/

/-- A piece of content; none in front of a closing tag. -/
def child? (g : Grammar) : Read (Option Child) := do
  let t ← token
  match t.kind with
  | .mark .less =>
    let before ← get
    advance
    let k ← kind
    if k == .mark .greater || k.isWordLike then
      let term ← g.markup true t.start
      match term.value with
      | .element tag children => return some (.element tag children)
      | .fragment children position => return some (.fragment children position)
      | _ => return none
    else if k == .mark .slash then
      set before
      return none
    else
      unexpected
      return none
  | .mark .openBrace =>
    advance
    if ← eat .ellipsis then
      let term ← expression g
      expectBeforeContent .closeBrace
      return some (.expression (← term.toExpression))
    else return some (.expression (← braced g true t.start))
  | .text =>
    let raw ← textBetween t.start t.stop
    advanceBy scanContent
    return some (.text raw)
  | _ =>
    unexpected
    return none

/-- The content of an element, up to its closing tag. -/
def childrenFrom (g : Grammar) : Nat → Read (List Child)
  | 0 => return []
  | steps + 1 => do
    if ← isStopped then return []
    match ← child? g with
    | none => return []
    | some child => return child :: (← childrenFrom g steps)

/-- A fragment whose `<` has been taken at `start`. -/
def fragment (g : Grammar) (content : Bool) (start : Nat) : Read Term := do
  expectBeforeContent .greater
  let children ← childrenFrom g (← steps)
  expect .less
  expect .slash
  expectIn content .greater
  termFrom start (.fragment children (← positionOf start))

/-- An element whose `<` has been taken at `start`. -/
def element (g : Grammar) (content : Bool) (start : Nat) : Read Term := do
  let name ← tagName
  let attributes ← attributesFrom g (← steps)
  let selfClosing ← eat .slash
  let tag : Tag := ⟨name.written, attributes, selfClosing, ← positionOf start⟩
  if selfClosing then
    expectIn content .greater
    termFrom start (.element tag [])
  else
    expectBeforeContent .greater
    let children ← childrenFrom g (← steps)
    expect .less
    expect .slash
    let closing ← tagName
    expectIn content .greater
    unless name.same closing do report (.unclosedTag name.written) name.start
    termFrom start (.element tag children)

/-- An element or fragment whose `<` has been taken at `start`. -/
def markup (g : Grammar) (content : Bool) (start : Nat) : Read Term := do
  let k ← kind
  if k == .mark .greater then fragment g content start
  else if k.isWordLike then element g content start
  else unexpectedTerm

end Componentry.Script
