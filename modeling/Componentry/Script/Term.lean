import Componentry.Markup.Tree

/-!
# Terms

What the reader remembers of an expression it has read: its byte range and its outermost shape. The
shape goes deeper only where that matters later: markup keeps its tree, a group its content, and
lists and records their entries, because they may turn out to be the target of an assignment.
-/

namespace Componentry.Script

open Markup

/-- A value with the byte range of its text. -/
structure Spanned (α : Type) where
  value : α
  start : Nat
  stop : Nat
deriving Repr

/-- A name and the offset it is written at. -/
structure PlacedName where
  text : String
  offset : Nat
deriving DecidableEq, Repr

/-- What a declaration or parameter binds. -/
structure Binding where
  /-- Whether it is a pattern and not a single name. -/
  isPattern : Bool
  names : List PlacedName
deriving DecidableEq, Repr

/-- The key of a member of a record or class. -/
structure Key where
  offset : Nat
  /-- The key as a text, if it is a word or a string. -/
  text? : Option String
  /-- Whether it is a word, which may also be a name. -/
  isWord : Bool
  isPrivate : Bool
deriving DecidableEq, Repr

/-- What matters of a parameter list besides its names. -/
structure ParameterList where
  /-- The offset of the opening parenthesis. -/
  offset : Nat
  count : Nat
  hasRest : Bool
deriving DecidableEq, Repr

/-- An entry of a list or record literal. -/
inductive Entry (α : Type) where
  /-- A comma with nothing in front of it. -/
  | hole
  | item (value : α)
  | spread (value : α) (start : Nat)
  /-- A name that is its own value. -/
  | shorthand
  /-- A name with a default, which only an assignment target may have; the offset is that of the
  name. -/
  | initialized (start : Nat)
  /-- A method or accessor, with the offset of its parameters. -/
  | method (parameters : Nat)
deriving Repr

/-- The outermost shape of an expression. -/
inductive Shape where
  | string (value : String)
  | number
  | boolean (value : Bool)
  | null
  | name (text : String)
  | call
  | member
  /-- An optional chain, and whether its last link is a call. -/
  | chain (endsInCall : Bool)
  | await
  | arrow
  | element (tag : Tag) (children : List Child)
  | fragment (children : List Child) (position : Position)
  | group (inner : Spanned Shape)
  /-- A list, with the offset of a comma behind its last entry. -/
  | list (entries : List (Entry (Spanned Shape))) (trailing : Option Nat)
  | record (entries : List (Entry (Spanned Shape))) (trailing : Option Nat)
  | assignment
  /-- A module fetched by a call. -/
  | importCall
  /-- A test whether an object has a private member. -/
  | privateIn
  /-- `&&` or `||`. -/
  | logical
  | other

/-- An expression that has been read. -/
abbrev Term := Spanned Shape

namespace Shape

/-- The shape inside all groups. -/
def ungrouped : Shape → Shape
  | group inner => match inner with
    | ⟨shape, _, _⟩ => shape.ungrouped
  | shape => shape

/-- The kind of embedded expression a shape stands for. -/
def kind (shape : Shape) : Expression.Kind :=
  match shape.ungrouped with
  | string value => .string value
  | number => .number
  | boolean value => .boolean value
  | null => .null
  | name text => .identifier text
  | call | chain true => .call
  | await => .await
  | arrow => .arrow
  | _ => .other

end Shape

/-- A statement that has been read: its range, and the expression it consists of if it is one. -/
structure Sentence where
  start : Nat
  stop : Nat
  expression : Option Term

end Componentry.Script
