/-!
# Embedded expressions

An expression inside `{…}` is kept as the text its author wrote. Only its outermost shape is known,
so that later steps can tell a literal from a computed value, or a call from a plain name. The shape
carries what it is needed for: the value of a string or a boolean, and the name of an identifier.
-/

namespace Componentry

/-- The outermost shape of an expression. -/
inductive Expression.Kind where
  | string (value : String)
  | number
  | boolean (value : Bool)
  | null
  | identifier (name : String)
  | call
  | await
  | arrow
  /-- Nothing but blanks and comments. -/
  | empty
  | other
deriving DecidableEq, Repr, Inhabited

/-- The word that names a shape in dumps. -/
def Expression.Kind.label : Expression.Kind → String
  | string _ => "string_literal"
  | number => "numeric_literal"
  | boolean _ => "boolean_literal"
  | null => "null_literal"
  | identifier _ => "identifier"
  | call => "call"
  | await => "await"
  | arrow => "arrow"
  | empty => "empty"
  | other => "other"

/-- An expression: its trimmed text and its shape. -/
structure Expression where
  source : String
  kind : Expression.Kind
deriving DecidableEq, Repr, Inhabited

namespace Expression

/-- Whether there is nothing but blanks and comments. -/
def isEmpty (e : Expression) : Bool :=
  match e.kind with
  | .empty => true
  | _ => false

/-- Whether this is a string, a number or a boolean written out. -/
def isLiteral (e : Expression) : Bool :=
  match e.kind with
  | .string _ | .number | .boolean _ => true
  | _ => false

/-- Whether the value has to be waited for. -/
def isAsyncSource (e : Expression) : Bool :=
  match e.kind with
  | .call | .await => true
  | _ => false

/-- The name, if this is a plain identifier. -/
def identifier? (e : Expression) : Option String :=
  match e.kind with
  | .identifier name => some name
  | _ => none

/-- The value, if this is a string. -/
def string? (e : Expression) : Option String :=
  match e.kind with
  | .string value => some value
  | _ => none

/-- The value, if this is a boolean. -/
def boolean? (e : Expression) : Option Bool :=
  match e.kind with
  | .boolean value => some value
  | _ => none

end Expression

end Componentry
