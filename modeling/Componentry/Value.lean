import Componentry.Markup.Tree
import Componentry.Text.Blank
import Componentry.Text.Word

/-!
# Attribute values

The one form in which the values of attributes are used: bare, text, number, boolean, or any other
expression. Numbers are kept as they are written.
-/

namespace Componentry

open Text

/-- The value of an attribute. -/
inductive Value where
  /-- An attribute without a value. -/
  | bare
  | text (value : String)
  | number (source : String)
  | boolean (value : Bool)
  | expression (value : Expression)
deriving DecidableEq, Repr, Inhabited

/-- A boolean as a script writes it. -/
def showBool (b : Bool) : String :=
  if b then "true" else "false"

namespace Value

/-- The value of an attribute as it was written. -/
def ofAttribute : Option Markup.AttributeValue → Value
  | none => bare
  | some (.text value) => text value
  | some (.expression e) =>
    match e.kind with
    | .number => number e.source
    | .boolean b => boolean b
    | _ => expression e

/-- Whether the value is written out. -/
def isLiteral : Value → Bool
  | expression e => e.isLiteral
  | _ => true

/-- Whether a text is an inline handler: an arrow function without parameters. -/
def isInlineHandler (text : String) : Bool :=
  "() =>".toList.isPrefixOf (trimStart text.toList)

/-- The text that will be run as script: any expression, and a text that is an inline handler. -/
def script? : Value → Option String
  | expression e => some e.source
  | text value => if isInlineHandler value then some value else none
  | _ => none

/-- The text of a string, written with or without braces. -/
def staticText? : Value → Option String
  | text value => some value
  | expression e => e.string?
  | _ => none

/-- A name to bind, written as a text or as an identifier. -/
def binding? : Value → Option String
  | text value => if allBlank value then none else some (trimmed value)
  | expression e => e.identifier?
  | _ => none

/-- The value as a script expression. -/
def script : Value → String
  | bare => "true"
  | text value => quoted value
  | number source => source
  | boolean b => showBool b
  | expression e => e.source

end Value

end Componentry
