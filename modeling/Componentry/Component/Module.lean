import Componentry.Component.Body
import Componentry.Component.Parts
import Componentry.Component.Setup
import Componentry.Component.Usage

/-!
# Generated modules

A module is put together as data first: which hooks and components it imports, which props it takes,
its setup and its body. `Module.text` writes it out.

* `Options`: the names that a module takes from its surroundings.
* `generate`: the module of a document, or what prevents it.
* `tagNames`: the components a text refers to. The imports are read off the rendered body, so a tag
  that an author wrote inside of an expression is imported as well.
-/

namespace Componentry

/-- The names that a generated module takes from its surroundings. -/
structure Options where
  /-- The module that provides the element factory. -/
  jsxModule : String := "preact"
  /-- The element factory. -/
  jsxPragma : String := "h"
  /-- The module that provides the hooks. -/
  hooksModule : String := "preact/hooks"
  /-- The module that provides all components of the project. -/
  registryModule : String := "./_componentRegistry.js"
  /-- The tag around the body of a component; a fragment if it is empty. -/
  wrapperTag : String := "div"
  /-- The extension of source files, which the header tells. -/
  sourceExtension : String := "speck"
deriving DecidableEq, Repr, Inhabited

/-- The props a component takes. -/
inductive Signature where
  /-- All, as one object. -/
  | whole
  /-- Some as variables; `rest` says whether the others are needed, too. -/
  | named (names : List String) (rest : Bool)
deriving DecidableEq, Repr, Inhabited

/-- The parameter of the component function. -/
def Signature.pieces : Signature → List Piece
  | whole => [.code "props"]
  | named names rest =>
    .code "\x7b " :: [Piece.code ", "].intercalate (names.map fun name => [.authored name])
      ++ [.code (if rest then ", ...props \x7d" else " \x7d")]

/-- A generated module. -/
structure Module where
  /-- The name of the component. -/
  name : String
  options : Options
  /-- The imported hooks. -/
  hooks : List Hook
  /-- The imported components, in the order of their first use. -/
  components : List String
  signature : Signature
  setup : Setup
  body : List Piece

/-! ## Text -/

namespace Module

/-- The first line of every generated file. -/
def header : String := "// AUTO-GENERATED BY SPECK. DO NOT EDIT."

/-- An import of names, if there are any. -/
def importPieces (names : List Piece) (source : String) : List Piece :=
  if names.isEmpty then []
  else .code "import \x7b " :: [Piece.code ", "].intercalate (names.map fun name => [name])
    ++ [.code " \x7d from '", .authored source, .code "';\n"]

/-- A tag around the body, in a given form; a fragment has no name. -/
def wrapperPieces (start : String) (tag : String) : List Piece :=
  [.code start, .authored tag, .code ">"]

/-- The pieces up to the brace of the component function: a header, the imports and the
parameter. -/
def head (m : Module) : List Piece :=
  [.code (header ++ "\n// This file was compiled from a ."), .authored m.options.sourceExtension,
      .code " component.\n\n"]
    ++ importPieces [.authored m.options.jsxPragma] m.options.jsxModule
    ++ importPieces (m.hooks.map fun hook => .code hook.name) m.options.hooksModule
    ++ importPieces (m.components.map .authored) m.options.registryModule
    ++ [.code "\nexport default function ", .authored m.name, .code "("] ++ m.signature.pieces
    ++ [.code ") \x7b\n"]

/-- The statement that returns the body, with the wrapper around it. -/
def result (m : Module) : List Piece :=
  .code "  return (\n    " :: wrapperPieces "<" m.options.wrapperTag ++ .code "\n"
    :: (if writesNothing m.body then [] else .code "      " :: m.body ++ [.code "\n"])
    ++ .code "    " :: wrapperPieces "</" m.options.wrapperTag ++ [.code "\n  );\n"]

/-- The pieces of the component function behind its brace. -/
def function (m : Module) : List Piece :=
  laidOut m.setup.lines ++ m.result ++ [.code "\x7d\n"]

/-- The pieces of a module. -/
def pieces (m : Module) : List Piece := m.head ++ m.function

/-- The text of a module. -/
def text (m : Module) : String := textOf m.pieces

end Module

/-! ## Components in use -/

/-- Whether a character continues the name of an imported component. -/
def isTagChar (c : Char) : Bool := Text.isAsciiLetter c || Text.isAsciiDigit c

/-- The component name at the front of a text, if a tag has just been opened there: an ASCII
capital, letters and digits, and then the end of the word. -/
def tagNameAt? (text : List Char) : Option String :=
  match text with
  | c :: rest =>
    let name := rest.takeWhile isTagChar
    if 'A' ≤ c && c ≤ 'Z' && !(rest.dropWhile isTagChar).head?.any Text.isWordChar then
      some (String.ofList (c :: name))
    else none
  | [] => none

/-- The names of components behind `<` in a text, in order. -/
def tagNames : List Char → List String
  | [] => []
  | c :: rest =>
    let found := if c = '<' then tagNameAt? rest else none
    found.toList ++ tagNames rest

/-- The components that a text refers to besides its own, each once, in the order of their first
use. -/
def usedComponents (own : String) (text : String) : List String :=
  ((tagNames text.toList).filter (· != own)).foldl
    (fun names name => if names.contains name then names else names ++ [name]) []

/-! ## Generation -/

/-- Why there is no module for a document. -/
inductive GenerationError where
  | emptyDocument
  | missingStateName (position : Position)
  | invalidComponentName (name : String)
deriving DecidableEq, Repr

/-- The wording of an error. -/
def GenerationError.message : GenerationError → String
  | emptyDocument => "no markup found in source"
  | missingStateName position =>
    "missing state name at line " ++ toString position.line ++ ", column "
      ++ toString position.column
  | invalidComponentName name => "invalid component name '" ++ name ++ "'"

/-- The declarations of states, all of which need a name. -/
def declareStates (mentioned : String → Bool) :
    List StateDeclaration → Except GenerationError (List Declaration)
  | [] => .ok []
  | state :: rest =>
    match state.name with
    | none => .error (.missingStateName state.position)
    | some name => do
      let more ← declareStates mentioned rest
      return .ofState mentioned name state :: more

/-- The hooks that a setup and a body call. -/
def hooksOf (setup : Setup) (usage : Usage) : List Hook :=
  (if setup.needsState || usage.needsState then [Hook.state] else [])
    ++ (if setup.cells.isEmpty then [] else [.ref])
    ++ (if setup.needsEffect || usage.needsEffect then [.effect] else [])

/-- The props a component takes, given what its body needs. -/
def signatureOf (names : List String) (usage : Usage) : Signature :=
  if names.isEmpty then .whole else .named names (usage.readsProps names)

/-- The module of a component taken apart. -/
def Parts.module (parts : Parts) (name : String) (options : Options) :
    Except GenerationError Module := do
  let usage := usageOfNodes parts.body
  let scripts := usage.scripts ++ parts.mounts.map (fun e => e.source ++ ";")
  let mentioned := fun word => scripts.any (Text.mentions · word)
  let declarations ← declareStates mentioned parts.states
  let setup : Setup := ⟨declarations, parts.mounts⟩
  let body := renderNodes ⟨.root name, parts.propNames⟩ parts.body
  return {
    name, options, setup, body
    hooks := hooksOf setup usage
    components := usedComponents name (textOf body)
    signature := signatureOf parts.propNames usage }

/-- The module of a document, with warnings about what has no effect. -/
def generate (document : Document) (name : String) (options : Options) :
    Except GenerationError (Reported Module) :=
  if document.body.isEmpty then .error .emptyDocument
  else if !Text.isName name.toList then .error (.invalidComponentName name)
  else do
    let parts := document.parts
    let m ← parts.value.module name options
    let misplaced := (usageOfNodes parts.value.body).misplaced
    return ⟨m, parts.warnings ++ misplaced.map (fun tag => ⟨.misplaced tag, none⟩)⟩

end Componentry
