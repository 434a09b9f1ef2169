import Componentry.Expression
import Componentry.Text.Position

/-!
# Markup trees

What an author wrote, before it means anything: a program is a list of statements, and those of
interest are elements and fragments. Everything else is kept as its text.
-/

namespace Componentry.Markup

/-- The value of an attribute: a quoted text, taken as it stands, or an expression. -/
inductive AttributeValue where
  | text (value : String)
  | expression (value : Expression)
deriving DecidableEq, Repr, Inhabited

/-- An attribute of a tag: `name`, `name=value` or `{...argument}`. -/
inductive Attribute where
  | named (name : String) (value : Option AttributeValue) (position : Position)
  | spread (argument : Expression) (position : Position)
deriving DecidableEq, Repr, Inhabited

/-- What the opening tag of an element says, where the element stands, and whether it has a closing
tag. -/
structure Tag where
  name : String
  attributes : List Attribute
  selfClosing : Bool
  position : Position
deriving DecidableEq, Repr, Inhabited

/-- A piece of content. -/
inductive Child where
  | element (tag : Tag) (children : List Child)
  | fragment (children : List Child) (position : Position)
  | text (raw : String)
  | expression (value : Expression)
deriving Repr, Inhabited

/-- A top-level statement: markup, or the text of anything else. -/
inductive Statement where
  | element (tag : Tag) (children : List Child)
  | fragment (children : List Child) (position : Position)
  | other (text : String)
deriving Repr, Inhabited

/-- A source file. -/
structure Program where
  body : List Statement
deriving Repr, Inhabited

/-- A named attribute, as found on a tag. -/
structure NamedAttribute where
  name : String
  value : Option AttributeValue
  position : Position
deriving DecidableEq, Repr, Inhabited

/-- The attribute itself, if it has a name. -/
def Attribute.asNamed : Attribute → Option NamedAttribute
  | named name value position => some ⟨name, value, position⟩
  | spread _ _ => none

/-- The first attribute of a tag with a given name. -/
def Tag.attribute? (tag : Tag) (name : String) : Option NamedAttribute :=
  (tag.attributes.filterMap Attribute.asNamed).find? (fun a => a.name == name)

end Componentry.Markup
