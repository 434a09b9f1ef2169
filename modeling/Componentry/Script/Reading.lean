import Componentry.Script.Exports
import Componentry.Script.Scan

/-!
# Reading

The state of a reader that has one token in view, and the steps every rule is made of.

A fault is either reported, and reading goes on, or it stops the reader: then the rest of the input
counts as read, so the rules that are still open run into the end of the input and come to an end.
Only the first fault that stops the reader counts, and nothing is reported behind it. Where the
reader meets something it cannot use, and that is the end of the input or an unreadable token, the
last fault of the scanner explains it better and takes its place.
-/

namespace Componentry.Script

open Text

/-- What the surroundings of an expression allow. -/
structure Context where
  /-- Whether `in` is an operator; it is not at the head of a `for`. -/
  inOperator : Bool
  await : Bool
  yield : Bool
  /-- Whether `return` is allowed. -/
  inFunction : Bool
  /-- Whether a decorator is being read, where brackets start the next member. -/
  inDecorator : Bool

/-- The context of a module: `await` is allowed, `return` is not. -/
def Context.module : Context := ⟨true, true, false, false, false⟩

/-- A name with a default in a record literal, which is a fault unless the record becomes the target
of an assignment: the offset of the entry. -/
abbrev Pending := Nat

/-- The state of a reader. -/
structure Reading where
  source : List Char
  /-- The token in view. -/
  token : Token
  /-- The place behind the token in view. -/
  cursor : Cursor
  /-- Where the last token that was taken ends. -/
  lastStop : Nat
  context : Context
  /-- Faults of the scanner, oldest first. -/
  scanFaults : List Fault
  /-- Faults of the rules that did not stop the reader, oldest first. -/
  faults : List Fault
  /-- The fault that stopped the reader. -/
  stopped : Option Fault
  pending : List Pending
  /-- Offsets of parentheses that are known not to hold the parameters of an arrow function. -/
  notArrows : List Nat
  /-- The names exported so far, oldest first. -/
  exports : List ExportedName

/-- A reader: what it gives back, and what it does to the state. -/
abbrev Read := StateM Reading

/-- The state at the start of a text, with the first token in view. -/
def Reading.start (source : List Char) : Reading :=
  let scanned := scan .script ⟨source, 0⟩
  { source
    token := scanned.token
    cursor := scanned.cursor
    lastStop := 0
    context := .module
    scanFaults := scanned.faults
    faults := []
    stopped := none
    pending := []
    notArrows := []
    exports := [] }

/-- The fault to tell: those of the scanner come first, then what was reported, then what stopped
the reader, then names with a default that never became a target. -/
def Reading.fault? (reading : Reading) : Option Fault :=
  reading.scanFaults.head? <|> reading.faults.head? <|> reading.stopped
    <|> (reading.pending.head?.map fun offset => ⟨.initializedName, offset⟩)

namespace Read

/-! ## Looking -/

/-- The token in view. -/
def token : Read Token := return (← get).token

/-- The kind of the token in view. -/
def kind : Read Token.Kind := return (← get).token.kind

/-- The offset of the token in view. -/
def here : Read Nat := return (← get).token.start

/-- The end of the last token taken. -/
def lastStop : Read Nat := return (← get).lastStop

/-- Whether the reader has been stopped. -/
def isStopped : Read Bool := return (← get).stopped.isSome

/-- The context in force. -/
def context : Read Context := return (← get).context

/-- Whether a given mark is in view. -/
def at? (mark : Mark) : Read Bool := return (← kind) == .mark mark

/-- Whether a given word is in view. -/
def atWord? (word : String) : Read Bool := return (← kind) == .word word

/-- Steps enough to go over the rest of the text token by token. -/
def steps : Read Nat := return (← get).cursor.rest.length + 3

/-! ## Faults -/

/-- Reports a fault and goes on. -/
def report (cause : Fault.Cause) (offset : Nat) : Read Unit :=
  modify fun r => if r.stopped.isSome then r else { r with faults := r.faults ++ [⟨cause, offset⟩] }

/-- Stops the reader with a fault. -/
def stopWith (fault : Fault) : Read Unit :=
  modify fun r =>
    if r.stopped.isSome then r else { r with stopped := some fault, cursor := r.cursor.finish }

/-- Stops the reader with a cause. -/
def stop (cause : Fault.Cause) (offset : Nat) : Read Unit :=
  stopWith ⟨cause, offset⟩

/-- Stops the reader at a token that fits nothing. -/
def unexpected : Read Unit := do
  let r ← get
  let unclear := r.token.kind == .ending || r.token.kind == .unreadable
  match unclear, r.scanFaults.getLast? with
  | true, some fault => do
    set { r with scanFaults := r.scanFaults.dropLast }
    stopWith fault
  | _, _ => stop .unexpectedToken r.token.start

/-! ## Taking tokens -/

/-- Puts a scanned token in view. -/
def view (scanned : Scanned) : Read Unit :=
  modify fun r =>
    { r with
      token := scanned.token, cursor := scanned.cursor
      scanFaults := r.scanFaults ++ scanned.faults }

/-- Takes the token in view, reading the next one in a given way. -/
def takeBy (next : Cursor → Scanned) : Read Unit := do
  let r ← get
  set { r with lastStop := r.token.stop }
  view (next r.cursor)

/-- Takes the token in view as a name. -/
def advanceName : Read Unit := takeBy (scan .script)

/-- Takes the token in view; a word must not be written with escapes. -/
def advanceBy (next : Cursor → Scanned) : Read Unit := do
  let t ← token
  match t.kind with
  | .word _ => if t.escaped then report .escapedKeyword t.start
  | _ => pure ()
  takeBy next

/-- Takes the token in view. -/
def advance : Read Unit := advanceBy (scan .script)

/-- Stops the reader unless a given kind of token is in view. -/
def require (wanted : Token.Kind) : Read Unit := do
  let t ← token
  if t.kind != wanted then stop (.expected wanted.shown t.kind.shown) t.start

/-- Takes a mark that has to be there. -/
def expect (mark : Mark) : Read Unit := do
  require (.mark mark)
  advance

/-- Takes a word that has to be there. -/
def expectWord (word : String) : Read Unit := do
  require (.word word)
  advance

/-- Takes a mark that has to be there and looks at what follows as content between tags. -/
def expectBeforeContent (mark : Mark) : Read Unit := do
  require (.mark mark)
  advanceBy scanContent

/-- Takes a mark that has to be there, in front of content or of script. -/
def expectIn (content : Bool) (mark : Mark) : Read Unit :=
  if content then expectBeforeContent mark else expect mark

/-- Takes a mark if it is there. -/
def eat (mark : Mark) : Read Bool := do
  if ← at? mark then advance; return true else return false

/-- Takes a word if it is there. -/
def eatWord (word : String) : Read Bool := do
  if ← atWord? word then advance; return true else return false

/-! ## Ends of statements -/

/-- Whether a statement may end here without a semicolon. -/
def canEndStatement : Read Bool := do
  let t ← token
  return t.onNewLine || t.kind == .mark .semicolon || t.kind == .mark .closeBrace
    || t.kind == .ending

/-- Ends a statement: a semicolon, or a place where one may be left out. -/
def endStatement : Read Unit := do
  if ← eat .semicolon then return
  if ← canEndStatement then return
  stop .missingSemicolon (← lastStop)

/-! ## Looking ahead -/

/-- Runs a reader and goes back to where it started. -/
def ahead {α : Type} (reader : Read α) : Read α := do
  let r ← get
  let a ← reader
  set r
  return a

/-- Runs a reader; if it is stopped, goes back to where it started and remembers that no arrow
function starts there. -/
def attempt {α : Type} (reader : Read α) : Read (Option α) := do
  let r ← get
  let a ← reader
  if ← isStopped then
    set { r with notArrows := r.token.start :: (← get).notArrows }
    return none
  return some a

/-- Runs a reader in a changed context. -/
def within {α : Type} (change : Context → Context) (reader : Read α) : Read α := do
  let outer ← context
  modify fun r => { r with context := change r.context }
  let a ← reader
  modify fun r => { r with context := outer }
  return a

/-- Runs a reader where `in` is an operator. -/
def withIn {α : Type} (reader : Read α) : Read α :=
  within (fun s => { s with inOperator := true }) reader

/-! ## Text -/

/-- The text between two offsets. -/
def textBetween (start stop : Nat) : Read String := do
  return String.ofList (slice (← get).source start stop)

/-- The position of an offset. -/
def positionOf (offset : Nat) : Read Position := do
  return Position.ofOffset (← get).source offset

end Read

end Componentry.Script
