/-!
# Positions in a source text

Offsets count bytes of the UTF-8 form, as the script reader does. A position is what people are
told: a line and a column, both from 1, where only a line feed ends a line and a column counts
characters.

* `before text offset`: the characters that lie wholly before an offset.
* `Position.ofOffset text offset`: the position of an offset; one inside a character counts as the
  start of that character, one past the end as the end.
* `Position.after`: how a position moves over one character, the scanning view of the same thing.
-/

namespace Componentry.Text

/-- The number of bytes of a text in UTF-8. -/
def size : List Char → Nat
  | [] => 0
  | c :: rest => c.utf8Size + size rest

/-- The longest beginning of a text that fits into `offset` bytes. -/
def before : List Char → Nat → List Char
  | [], _ => []
  | c :: rest, offset =>
    if c.utf8Size ≤ offset then c :: before rest (offset - c.utf8Size) else []

/-- What is left of a text behind `before text offset`. -/
def behind : List Char → Nat → List Char
  | [], _ => []
  | c :: rest, offset =>
    if c.utf8Size ≤ offset then behind rest (offset - c.utf8Size) else c :: rest

/-- The part of a text between two offsets. -/
def slice (text : List Char) (start stop : Nat) : List Char :=
  before (behind text start) (stop - start)

end Componentry.Text

namespace Componentry

/-- A line and a column, both counted from 1. -/
structure Position where
  line : Nat
  column : Nat
deriving DecidableEq, Repr, Inhabited

namespace Position

/-- Where every text starts. -/
def start : Position := ⟨1, 1⟩

/-- The position behind a character that stands at `position`. -/
def after (position : Position) (c : Char) : Position :=
  if c = '\n' then ⟨position.line + 1, 1⟩ else ⟨position.line, position.column + 1⟩

/-- The position of an offset: one line more than there are line feeds before it, and one column
more than there are characters since the last of them. -/
def ofOffset (text : List Char) (offset : Nat) : Position :=
  let passed := Text.before text offset
  { line := passed.count '\n' + 1
    column := (passed.reverse.takeWhile (· != '\n')).length + 1 }

end Position

end Componentry
