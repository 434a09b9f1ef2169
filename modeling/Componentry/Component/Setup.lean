import Componentry.Component.Piece
import Componentry.Document.Basic

/-!
# The setup of a component

The lines in front of the body: the declarations of states, the function that writes cells back, and
the effect that runs on mount.

A state has one of two forms. A reactive state is declared with a setter; calling it renders the
component again. A cell is a variable that keeps its value from one rendering to the next, written
back by `update`. Which form a state takes is inferred: a computed initial value or a mention of the
setter makes it reactive.
-/

namespace Componentry

/-- The name of the setter of a state. -/
def setterName (name : String) : String :=
  "set" ++ String.ofList (Text.Capital.capitalize name.toList)

/-- A declared state, with its initial value as a script. -/
inductive Declaration where
  | reactive (name value : String)
  | cell (name value : String)
deriving DecidableEq, Repr, Inhabited

namespace Declaration

/-- The form of a state, given which names the author's scripts mention. -/
def ofState (mentioned : String → Bool) (name : String) (state : StateDeclaration) : Declaration :=
  if state.isHook || mentioned (setterName name) then reactive name state.value.script
  else cell name state.value.script

/-- The name of a cell. -/
def cellName? : Declaration → Option String
  | reactive _ _ => none
  | cell name _ => some name

/-- The lines that declare a state. -/
def lines : Declaration → List (List Piece)
  | reactive name value =>
    [[.code "const [", .authored name, .code ", ", .authored (setterName name), .code "] = ",
      .hook .state, .code "(", .script value, .code ");"]]
  | cell name value =>
    [[.code "const _", .authored name, .code "Ref = ", .hook .ref, .code "(", .script value,
        .code ");"],
      [.code "let ", .authored name, .code " = _", .authored name, .code "Ref.current;"]]

end Declaration

/-- Lines as they stand in a component function. -/
def laidOut (lines : List (List Piece)) : List Piece :=
  lines.flatMap fun line => .code "  " :: line ++ [.code "\n"]

/-- What a component does before it renders. -/
structure Setup where
  declarations : List Declaration
  /-- The expressions that run on mount. -/
  mounts : List Expression
deriving DecidableEq, Repr, Inhabited

namespace Setup

/-- The names of the cells. -/
def cells (setup : Setup) : List String :=
  setup.declarations.filterMap Declaration.cellName?

/-- The lines of the function that writes cells back and renders again. -/
def updateLines (cells : List String) : List (List Piece) :=
  if cells.isEmpty then []
  else [[.code "const [, _forceRender] = ", .hook .state, .code "(0);"],
      [.code "function update() \x7b"]]
    ++ cells.map (fun name =>
      [.code "  _", .authored name, .code "Ref.current = ", .authored name, .code ";"])
    ++ [[.code "  _forceRender((x) => x + 1);"], [.code "\x7d"]]

/-- The lines of the effect that runs on mount. -/
def mountLines (mounts : List Expression) : List (List Piece) :=
  if mounts.isEmpty then []
  else [.hook .effect, .code "(() => \x7b"]
    :: mounts.map (fun e => [.code "  ", .script e.source, .code ";"]) ++ [[.code "\x7d, []);"]]

/-- All lines of the setup. -/
def lines (setup : Setup) : List (List Piece) :=
  setup.declarations.flatMap Declaration.lines ++ updateLines setup.cells
    ++ mountLines setup.mounts

/-- Whether the setup keeps reactive state: every state does, a cell by way of `update`. -/
def needsState (setup : Setup) : Bool := !setup.declarations.isEmpty

/-- Whether the setup has an effect. -/
def needsEffect (setup : Setup) : Bool := !setup.mounts.isEmpty

end Setup

end Componentry
