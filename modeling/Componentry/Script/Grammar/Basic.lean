import Componentry.Script.Reading
import Componentry.Script.Term

/-!
# The grammar, and what all its rules share

The rules of a script are nested: an expression holds functions, those hold statements, and these
hold expressions again. A rule therefore does not call the rules of its parts directly. It is given
a `Grammar`, the readers for nested parts, and is an ordinary function of it. Tying the rules
together is then one recursion on the nesting depth (`Grammar.upTo`), and each rule can be looked at
on its own.

This module has that record, lists of parts between marks, and names.
-/

namespace Componentry.Script

open Read

/-- Where a statement stands: in a list of statements, or alone as the body of another one. -/
inductive Place where
  | list
  | body
deriving DecidableEq, Repr

/-- The readers for parts that are nested in other parts. -/
structure Grammar where
  /-- An expression without commas at its top level. -/
  assignment : Read Term
  /-- An expression of binary operators that bind more tightly than a given strength. -/
  binary : Nat → Read Term
  /-- An operand with its leading operators. -/
  unary : Read Term
  /-- An operand without links behind it. -/
  primary : Read Term
  /-- An operand with its links: members, calls and templates. -/
  linked : Read Term
  /-- A name or pattern that is bound. -/
  binding : Read Binding
  /-- A statement. -/
  statement : Place → Read Sentence
  /-- An element or fragment whose `<` has been taken at a given offset, and whether it stands in
  the content of another one. -/
  markup : Bool → Nat → Read Term

/-- The term of a rule that found nothing. -/
def noTerm : Read Term := do
  let offset ← here
  return ⟨.other, offset, offset⟩

/-- A term from an offset up to the last token taken. -/
def termFrom (start : Nat) (shape : Shape) : Read Term :=
  return ⟨shape, start, ← lastStop⟩

/-- Stops at the token in view, with no term. -/
def unexpectedTerm : Read Term := do
  unexpected
  noTerm

/-! ## Lists -/

/-- Whether a list ends here: at its closing mark, or where nothing more can be read. -/
def listEnds (close : Mark) : Read Bool := do
  let k ← kind
  return k == .mark close || k == .ending || k == .unreadable || (← isStopped)

/-- The items of a list behind the first one. Gives the offset of a comma that stands in front of
the closing mark. -/
def moreItems {α : Type} (close : Mark) (item : Read α) : Nat → Read (List α × Option Nat)
  | 0 => return ([], none)
  | steps + 1 => do
    if ← listEnds close then return ([], none)
    let comma ← here
    expect .comma
    if ← at? close then return ([], some comma)
    let first ← item
    let (more, trailing) ← moreItems close item steps
    return (first :: more, trailing)

/-- Items separated by commas, up to a closing mark that is not taken. -/
def items {α : Type} (close : Mark) (item : Read α) : Read (List α × Option Nat) := do
  if ← listEnds close then return ([], none)
  let first ← item
  let (more, trailing) ← moreItems close item (← steps)
  return (first :: more, trailing)

/-- What a list of bindings binds. -/
structure BindingList where
  names : List PlacedName
  /-- The number of items, the last one with `...` not counted. -/
  count : Nat
  /-- What stands behind `...`, and its offset. -/
  rest? : Option (Nat × Binding)

/-- The items of a list of bindings, among which one with `...` has to be the last. The offset of
one that has been read is carried along, as is what has been bound. -/
def bindingItemsFrom (close : Mark) (item : Read Binding) (rest : Read (Nat × Binding))
    (notLast : Fault.Cause) : Nat → Bool → Option Nat → BindingList → Read BindingList
  | 0, _, _, bound => return bound
  | steps + 1, first, restAt, bound => do
    if ← listEnds close then return bound
    unless first do
      let comma ← here
      expect .comma
      if ← at? close then
        if restAt.isSome then report .commaAfterRest comma
        return bound
    if let some offset := restAt then report notLast offset
    let offset ← here
    if ← at? .ellipsis then
      let (inside, binding) ← rest
      bindingItemsFrom close item rest notLast steps false (some offset)
        { bound with names := bound.names ++ binding.names, rest? := some (inside, binding) }
    else
      let binding ← item
      bindingItemsFrom close item rest notLast steps false restAt
        { bound with names := bound.names ++ binding.names, count := bound.count + 1 }

/-- Bindings separated by commas, up to a closing mark that is not taken. -/
def bindingItems (close : Mark) (item : Read Binding) (rest : Read (Nat × Binding))
    (notLast : Fault.Cause) : Read BindingList := do
  bindingItemsFrom close item rest notLast (← steps) true none ⟨[], 0, none⟩

/-! ## Names -/

/-- Reports a name that the context has taken away. -/
def checkName (token : Token) : Read Unit := do
  let s ← context
  if s.await && token.kind == .word "await" then report .awaitAsName token.start
  if s.yield && token.kind == .word "yield" then report .yieldAsName token.start

/-- A name that stands for a value. -/
def nameTerm : Read Term := do
  let t ← token
  if t.kind.isNameOrAwait then
    checkName t
    advanceName
    return ⟨.name t.value, t.start, t.stop⟩
  else unexpectedTerm

/-- A name that is bound. -/
def boundName : Read PlacedName := do
  let t ← token
  if t.kind.isNameOrAwait then
    checkName t
    advanceName
  else match t.kind with
    | .word w => stop (.reservedName w) t.start
    | _ => unexpected
  return ⟨t.value, t.start⟩

/-- Whether a token is a name in a context: `await` and `yield` are names only where they are not
operators. -/
def isNameIn (s : Context) (kind : Token.Kind) : Bool :=
  kind.isNameOrAwait && !(s.await && kind == .word "await") && !(s.yield && kind == .word "yield")

/-- The name of a statement that a jump goes to. -/
def jumpLabel : Read Unit := do
  if isNameIn (← context) (← kind) then advanceName else unexpected

/-- A name that is only a label, as behind a dot: any word will do. -/
def anyName : Read Unit := do
  if (← kind).isWordLike then advanceName else unexpected

/-- A name that is only a label, with or without `#`. -/
def memberName : Read Unit := do
  if (← kind) == .privateName then advance else anyName

/-! ## Expressions with commas -/

/-- The further parts of an expression with commas. -/
def moreParts (g : Grammar) : Nat → Read Unit
  | 0 => return
  | steps + 1 => do
    if ← eat .comma then
      let _ ← g.assignment
      moreParts g steps

/-- An expression, commas included. -/
def expression (g : Grammar) : Read Term := do
  let start ← here
  let first ← g.assignment
  if ← at? .comma then
    moreParts g (← steps)
    termFrom start .other
  else return first

/-- An expression in parentheses, as statements have it. -/
def condition (g : Grammar) : Read Unit := do
  expect .openParen
  let _ ← withIn (expression g)
  expect .closeParen

end Componentry.Script
