import Componentry.Document.Basic

/-!
# Dumps of documents

A document as plain nested data, and its indented text. A dump tells everything about a document but
the positions of states and the values of literals and identifiers, which can be read off their
sources.

* `Document.dump`: the data; the fields of a record keep their order.
* `Dump.text`: two blanks for each level, one entry on a line.
-/

namespace Componentry

/-- Plain nested data. -/
inductive Dump where
  | null
  | boolean (value : Bool)
  | text (value : String)
  | list (items : List Dump)
  | record (fields : List (String × Dump))
deriving Repr, Inhabited

/-! ## Text -/

/-- A line break followed by the blanks of a level. -/
def lineBreak (level : Nat) : String :=
  "\n" ++ String.ofList (List.replicate (2 * level) ' ')

/-- Entries between brackets, at a level. -/
def bracketed (opening closing : String) (level : Nat) (entries : List String) : String :=
  if entries.isEmpty then opening ++ closing
  else opening ++ lineBreak (level + 1) ++ ("," ++ lineBreak (level + 1)).intercalate entries
    ++ lineBreak level ++ closing

mutual

/-- The text of a dump at a level. -/
def Dump.textAt (level : Nat) : Dump → String
  | .null => "null"
  | .boolean b => showBool b
  | .text value => Text.quoted value
  | .list items => bracketed "[" "]" level (itemTexts (level + 1) items)
  | .record fields => bracketed "\x7b" "\x7d" level (fieldTexts (level + 1) fields)

/-- The texts of items at a level. -/
def itemTexts (level : Nat) : List Dump → List String
  | [] => []
  | item :: rest => item.textAt level :: itemTexts level rest

/-- The texts of fields at a level. -/
def fieldTexts (level : Nat) : List (String × Dump) → List String
  | [] => []
  | (key, value) :: rest =>
    (Text.quoted key ++ ": " ++ value.textAt level) :: fieldTexts level rest

end

/-- The text of a dump. -/
def Dump.asText (dump : Dump) : String := dump.textAt 0

/-! ## Documents -/

/-- A text that may be missing. -/
def Dump.ofText? : Option String → Dump
  | some value => .text value
  | none => .null

/-- A tagged value. -/
def Dump.tagged (kind : String) (value : Dump) : Dump :=
  .record [("kind", .text kind), ("value", value)]

/-- A tag alone. -/
def Dump.tag (kind : String) : Dump := .record [("kind", .text kind)]

/-- An expression: its source and its shape. -/
def Expression.dump (e : Expression) : Dump :=
  .record [("source", .text e.source), ("kind", .text e.kind.label)]

/-- A value of an attribute. -/
def Value.dump : Value → Dump
  | bare => .tag "true"
  | text value => .tagged "str" (.text value)
  | number source => .tagged "number" (.text source)
  | boolean b => .tagged "bool" (.boolean b)
  | expression e => .tagged "expr" e.dump

/-- A value of a case. -/
def CaseValue.dump : CaseValue → Dump
  | text value => .tagged "str" (.text value)
  | number source => .tagged "number" (.text source)
  | boolean b => .tagged "bool" (.boolean b)
  | null => .tag "null"

/-- An attribute of a component. -/
def Property.dump : Property → Dump
  | named key value =>
    .record [("kind", .text "named"), ("key", .text key), ("value", value.dump)]
  | spread argument => .record [("kind", .text "spread"), ("argument", argument.dump)]

/-- The record of a node: the name of its kind and its fields. -/
def Node.record (node : Node) (fields : List (String × Dump)) : Dump :=
  .record (("type", .text node.typeName) :: fields)

mutual

/-- A node with everything in it. -/
def Node.dump : Node → Dump
  | node@(.state declaration) => node.record [("name", .ofText? declaration.name),
      ("value", declaration.value.dump), ("is_hook", .boolean declaration.isHook)]
  | node@(.props spread names) =>
    node.record [("spread", .boolean spread), ("names", .list (names.map .text))]
  | node@(.ifBlock condition children) =>
    node.record [("condition", condition.dump), ("children", .list (dumpNodes children))]
  | node@(.loop items itemName children) => node.record [("items", items.dump),
      ("loop_var", .text itemName), ("children", .list (dumpNodes children))]
  | node@(.async promise key done failed loading doneAlias failedAlias) =>
    node.record [("promise", promise.dump), ("key", (key.map Expression.dump).getD .null),
      ("then", .list (dumpNodes done)), ("catch", .list (dumpNodes failed)),
      ("loading", .list (dumpNodes loading)), ("then_alias", .text doneAlias),
      ("catch_alias", .text failedAlias)]
  | node@(.router routes) => node.record [("routes", .list (dumpRoutes routes))]
  | node@(.switch value cases) =>
    node.record [("value", value.dump), ("cases", .list (dumpCases cases))]
  | node@(.slot name) => node.record [("name", .ofText? name)]
  | node@(.slotContent name element) =>
    node.record [("name", .text name), ("element", element.dump)]
  | node@(.onMount children) => node.record [("children", .list (dumpNodes children))]
  | node@(.component name properties children) => node.record [("name", .text name),
      ("attributes", .list (properties.map Property.dump)),
      ("children", .list (dumpNodes children))]
  | node@(.fragment children) => node.record [("children", .list (dumpNodes children))]
  | node@(.text value) => node.record [("value", .text value)]
  | node@(.expression e) => node.record [("expression", e.dump)]

/-- Nodes, in order. -/
def dumpNodes : List Node → List Dump
  | [] => []
  | node :: rest => node.dump :: dumpNodes rest

/-- Routes, in order. -/
def dumpRoutes : List (Route Node) → List Dump
  | [] => []
  | ⟨path, boundAs, children⟩ :: rest =>
    .record [("path", .text path), ("let_var", .ofText? boundAs),
      ("children", .list (dumpNodes children))] :: dumpRoutes rest

/-- Cases, in order. -/
def dumpCases : List (Case Node) → List Dump
  | [] => []
  | ⟨value, children⟩ :: rest =>
    .record [("value", value.dump), ("children", .list (dumpNodes children))] :: dumpCases rest

end

/-- A document with all its nodes. -/
def Document.dump (document : Document) : Dump :=
  .record [("body", .list (dumpNodes document.body))]

end Componentry
