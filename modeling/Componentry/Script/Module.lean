import Componentry.Script.Grammar.Statement

/-!
# Scripts as a whole

The rules tied together, and the two things that are read with them: the statements of a module, and
a single expression at the start of a text.

A rule hands on to a nested part only behind a token of its own, or when the reader has been stopped
and the part ends at once. So a depth a little above the length of the text is never used up.
-/

namespace Componentry.Script

open Read

/-- Readers that stop at once; they stand where the nesting is deeper than a text can be. -/
def Grammar.none : Grammar where
  assignment := unexpectedTerm
  binary := fun _ => unexpectedTerm
  unary := unexpectedTerm
  primary := unexpectedTerm
  linked := unexpectedTerm
  binding := do unexpected; return ⟨false, []⟩
  statement := fun _ => do
    let offset ← here
    unexpected
    return ⟨offset, offset, Option.none⟩
  markup := fun _ _ => unexpectedTerm

/-- The grammar for parts that are nested up to a given depth. -/
def Grammar.upTo : Nat → Grammar
  | 0 => .none
  | depth + 1 =>
    { assignment := fun r => Script.assignment (upTo depth) r
      binary := fun strength r => Script.binary (upTo depth) strength r
      unary := fun r => Script.unary (upTo depth) r
      primary := fun r => Script.primary (upTo depth) r
      linked := fun r => Script.linkedTerm (upTo depth) r
      binding := fun r => Script.binding (upTo depth) r
      statement := fun place r => Script.statement (upTo depth) place r
      markup := fun content start r => Script.markup (upTo depth) content start r }

/-- The grammar for a text of a given length. -/
def Grammar.forLength (length : Nat) : Grammar :=
  .upTo (length + 16)

/-- The statements of a module, up to the end of the text. -/
def moduleStatements (g : Grammar) : Nat → Read (List Sentence)
  | 0 => return []
  | steps + 1 => do
    if (← kind) == .ending || (← isStopped) then return []
    let first ← statement g .list
    return first :: (← moduleStatements g steps)

/-- A module: its statements, behind an interpreter line if there is one. -/
def moduleRule (g : Grammar) : Read (List Sentence) := do
  if (← kind) == .interpreterLine then advance
  moduleStatements g (← steps)

/-- The mark of a dialect with types, in the comment at the start of a text. -/
def dialectMark : List Char := "@flow".toList

/-- The statements of a text, or what is wrong with it. Where the text is said to be in a dialect
with types, that is what is wrong. -/
def readModule (source : List Char) : Except Fault (List Sentence) :=
  let (sentences, reading) := moduleRule (.forLength source.length) (.start source)
  match reading.fault?, leadingComment? source with
  | some fault, some (offset, text) =>
    .error (if hasInfix dialectMark text then ⟨.typedDialect, offset⟩ else fault)
  | some fault, none => .error fault
  | none, _ => match ExportedName.fault? reading.exports with
    | some fault => .error fault
    | none => .ok sentences

/-- The expression at the start of a text. What follows it does not matter, as long as its first
token can be read. -/
def readExpression (source : List Char) : Except Fault Term :=
  let (term, reading) := expression (.forLength source.length) (.start source)
  match reading.fault? with
  | some fault => .error fault
  | none => .ok term

end Componentry.Script
