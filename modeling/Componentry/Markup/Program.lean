import Componentry.Script.Module

/-!
# Reading source files

* `Expression.ofText`: the expression that a text holds, classified;
* `Program.parse`: the statements of a source file, markup as trees and the rest as text.
-/

namespace Componentry

open Script Text

/-- The expression a text stands for. A text that does not start with an expression is kept as
`other`, and as `empty` if it has no statement at all. -/
def Expression.ofText (text : String) : Expression :=
  let source := trim text.toList
  let kind := match readExpression source with
    | .ok term => term.value.kind
    | .error _ => match readModule source with
      | .ok [] => .empty
      | _ => .other
  ⟨String.ofList source, kind⟩

/-- What is wrong with a source file, and where. -/
structure SyntaxError where
  cause : Fault.Cause
  position : Position
deriving DecidableEq, Repr

/-- The wording of an error, with its position. -/
def SyntaxError.message (e : SyntaxError) : String :=
  e.cause.message ++ " at line " ++ toString e.position.line ++ ", column "
    ++ toString e.position.column

namespace Markup

/-- The statement that a sentence of a source text is. -/
def Statement.ofSentence (source : List Char) (sentence : Sentence) : Statement :=
  match sentence.expression.map (fun term : Term => term.value.ungrouped) with
  | some (.element tag children) => .element tag children
  | some (.fragment children position) => .fragment children position
  | _ => .other (String.ofList (slice source sentence.start sentence.stop))

/-- The statements of a source file. -/
def Program.parse (text : String) : Except SyntaxError Program :=
  let source := text.toList
  match readModule source with
  | .error fault => .error ⟨fault.cause, Position.ofOffset source fault.offset⟩
  | .ok sentences => .ok ⟨sentences.map (Statement.ofSentence source)⟩

end Markup

end Componentry
