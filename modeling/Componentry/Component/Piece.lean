import Componentry.Text.Word

/-!
# Pieces of generated text

Generated text is a list of pieces that remember where they come from: text that the generator
always writes, calls of hooks, reads of slots, tags, and what the author of the component wrote. The
text itself is put together last, by `textOf`.
-/

namespace Componentry

/-- A function of the component runtime. -/
inductive Hook where
  | state
  | ref
  | effect
deriving DecidableEq, Repr, Inhabited

/-- The name that a hook is imported and called by. -/
def Hook.name : Hook → String
  | state => "useState"
  | ref => "useRef"
  | effect => "useEffect"

/-- A piece of generated text. -/
inductive Piece where
  /-- Text that is always the same. -/
  | code (text : String)
  /-- An expression of the author. -/
  | script (source : String)
  /-- Other text of the author: content, names and values. -/
  | authored (text : String)
  /-- A literal for a text of the author. -/
  | literal (value : String)
  /-- The call of a hook, up to its arguments. -/
  | hook (hook : Hook)
  /-- The beginning of a tag. -/
  | opening (tag : String)
  /-- A slot that is a variable. -/
  | slotVariable (name : String)
  /-- A slot that is a field of the props. -/
  | slotField (name : Option String)
deriving DecidableEq, Repr, Inhabited

/-- The text of a piece. -/
def Piece.text : Piece → String
  | code text => text
  | script source => source
  | authored text => text
  | literal value => Text.quoted value
  | hook h => h.name
  | opening tag => "<" ++ tag
  | slotVariable name => name
  | slotField (some name) => "props[" ++ Text.quoted name ++ "]"
  | slotField none => "props.children"

/-- The text of pieces in a row. -/
def textOf (pieces : List Piece) : String :=
  String.join (pieces.map Piece.text)

/-- Whether pieces have no text at all. -/
def writesNothing (pieces : List Piece) : Bool :=
  pieces.all fun piece => piece.text.isEmpty

/-- Pieces inside braces. -/
def braced (pieces : List Piece) : List Piece :=
  .code "\x7b" :: pieces ++ [.code "\x7d"]

/-- Pieces as a fragment. -/
def fragmentOf (pieces : List Piece) : List Piece :=
  .code "<>" :: pieces ++ [.code "</>"]

/-- A statement that returns pieces as a fragment. -/
def returnOf (pieces : List Piece) : List Piece :=
  .code "return (" :: fragmentOf pieces ++ [.code ");"]

/-- An expression that runs statements at once and has their result. -/
def immediately (pieces : List Piece) : List Piece :=
  .code "\x7b(() => \x7b\n" :: pieces ++ [.code "\n\x7d)()\x7d"]

end Componentry
