import Componentry.Script.Grammar.Function

/-!
# Classes

The name, the parent and the members of a class. A word such as `static` or `get` is a modifier only
if the key of a member follows it; otherwise it is the key itself.
-/

namespace Componentry.Script

open Read

/-! ## Members -/

/-- The key of a member of a class, which may be private. -/
def classKey (g : Grammar) : Read Key := do
  let t ← token
  if t.kind == .privateName then
    advance
    if t.value == "constructor" then report .constructorPrivate t.start
    return ⟨t.start, none, false, true⟩
  else memberKey g

/-- Checks the name of a method or accessor: no static one is called `prototype`. -/
def checkStaticKey (isStatic : Bool) (key : Key) : Read Unit := do
  if isStatic && key.text? == some "prototype" then report .staticPrototype key.offset

/-- Whether a key names the constructor. -/
def namesConstructor (isStatic : Bool) (key : Key) : Bool :=
  !isStatic && key.text? == some "constructor"

/-- Whether a block of statements for the class itself is in view. -/
def atStaticBlock : Read Bool := do
  unless ← atWord? "static" do return false
  ahead do
    advanceName
    at? .openBrace

/-- Whether the constructor is in view: always at the word itself, and at the string in front of
parameters. -/
def atConstructor : Read Bool := do
  match ← kind with
  | .word "constructor" => return true
  | .string "constructor" _ => ahead (do advance; at? .openParen)
  | _ => return false

/-- Reports the modifiers that a method, an accessor or the constructor does not allow. Only a field
can be `readonly`. -/
def allowOnMethod (words : List String) (all : List Modifier) : Read Unit := do
  (all.filter fun m => m.word == "readonly").forM fun m => report .readonlyMethod m.offset
  allowOnly ("readonly" :: words) all

/-- The constructor of a class. -/
def constructor (g : Grammar) (decorated : List Nat) (all : List Modifier) : Read Unit := do
  strayDecorators decorated
  let key ← memberKey g
  let _ ← functionRest g false false
  if hasModifier "async" all then report .constructorAsync key.offset
  allowOnMethod ("async" :: accessWords) all

/-- An accessor of a class, from behind its `get` or `set`. -/
def accessor (g : Grammar) (form : AccessorForm) (all : List Modifier) : Read Unit := do
  let isStatic := hasModifier "static" all
  let key ← classKey g
  checkAccessor form (← functionRest g false false)
  if namesConstructor isStatic key then report .constructorAccessor key.offset
  checkStaticKey isStatic key
  allowOnMethod (["abstract", "override", "static"] ++ accessWords) all

/-- A method of a class, from its parameters on. -/
def method (g : Grammar) (isGenerator : Bool) (key : Key) (all : List Modifier) : Read Unit := do
  let isStatic := hasModifier "static" all
  let isAsync := hasModifier "async" all
  let _ ← functionRest g isAsync isGenerator
  if namesConstructor isStatic key then
    if isGenerator then report .constructorGenerator key.offset
    if isAsync then report .constructorAsync key.offset
  checkStaticKey isStatic key
  allowOnMethod (["abstract", "async", "override", "static"] ++ accessWords) all

/-- A field of a class, from behind its key. -/
def field (g : Grammar) (key : Key) (all : List Modifier) : Read Unit := do
  if ← eat .assign then
    let _ ← within (fun s => { s with inOperator := true, await := false, yield := false })
      g.assignment
  if key.text? == some "constructor" then report .constructorField key.offset
  checkStaticKey (hasModifier "static" all) key
  allowOnly (["abstract", "accessor", "declare", "override", "readonly", "static"] ++ accessWords)
    all
  unless ← eat .semicolon do
    unless ← canEndStatement do
      let t ← token
      stop (.expected ";" t.kind.shown) t.start

/-- A method or field of a class, from its key on. -/
def methodOrField (g : Grammar) (all : List Modifier) : Read Unit := do
  let isGenerator ← eat .star
  let key ← classKey g
  let optionalAt ← here
  let optional ← eat .question
  if isGenerator || (← at? .openParen) || (← at? .less) then method g isGenerator key all
  else
    if (← eat .not) && optional then report .optionalDefinite optionalAt
    field g key all

/-- A member of a class: a block, a constructor, an accessor, a method or a field. -/
def classMember (g : Grammar) : Read Unit := do
  let decorated ← decorators g
  let all ← modifiers .classMember
  (all.filter fun m => m.word == "const").forM fun m => report .constMember m.offset
  if ← atStaticBlock then
    strayDecorators decorated
    advance
    within (fun s => { s with await := true, yield := false, inFunction := false }) (block g)
  else if let some form ← accessorForm? then accessor g form all
  else if !hasModifier "static" all && (← atConstructor) then constructor g decorated all
  else if startsKey (← kind) || (← at? .star) then methodOrField g all
  else unexpected

/-- The members of a class, up to the closing brace. -/
def classMembers (g : Grammar) : Nat → Read Unit
  | 0 => return
  | steps + 1 => do
    let k ← kind
    if k == .mark .closeBrace || k == .ending || (← isStopped) then return
    unless ← eat .semicolon do classMember g
    classMembers g steps

/-! ## Heads -/

/-- The parts of a dotted name behind the first one. -/
def dottedName : Nat → Read Unit
  | 0 => return
  | steps + 1 => do
    if ← eat .dot then
      anyName
      dottedName steps

/-- The names behind `implements`, separated by commas. -/
def implementedNames : Nat → Read Unit
  | 0 => return
  | steps + 1 => do
    anyName
    dottedName (← Read.steps)
    if ← eat .comma then implementedNames steps

/-- Further classes behind `extends`; there can only be one. -/
def furtherParents (g : Grammar) : Nat → Read Unit
  | 0 => return
  | steps + 1 => do
    if ← eat .comma then
      let start ← here
      let _ ← g.linked
      report .severalParents start
      furtherParents g steps

/-- What a class extends and implements. The flags say which of the two has been read. -/
def heritage (g : Grammar) : Nat → Bool → Bool → Read Unit
  | 0, _, _ => return
  | steps + 1, extended, implemented => do
    let start ← here
    if ← eatWord "extends" then
      if extended then report .repeatedExtends start
      else if implemented then report .lateExtends start
      let _ ← g.linked
      furtherParents g (← Read.steps)
      heritage g steps true implemented
    else if ← eatWord "implements" then
      if implemented then report .repeatedImplements start
      implementedNames (← Read.steps)
      heritage g steps extended true

/-- A class from its word `class` on, which is taken as it stands: its name, if it has one. -/
def classRest (g : Grammar) : Read (Option PlacedName) := do
  advance
  let k ← kind
  let name? ← if k.isNameOrAwait && k != .word "implements" then some <$> boundName else pure none
  heritage g (← steps) false false
  expect .openBrace
  within (fun s => { s with inDecorator := false }) (classMembers g (← steps))
  expect .closeBrace
  return name?

/-- A class behind its decorators, with the modifiers a class can have. -/
def decoratedClass (g : Grammar) : Read (Option PlacedName) := do
  let all ← modifiers .elsewhere
  if ← atWord? "class" then
    let name? ← classRest g
    allowOnly ["abstract", "declare"] all
    return name?
  else
    unexpected
    return none

end Componentry.Script
