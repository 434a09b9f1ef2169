import Componentry.Text.Blank

/-!
# Paths

Paths are kept as texts, because reports show them as they were given. `Path.ofText` reads the steps
of a path: empty steps and single dots say nothing, double dots lead up. What a path ends in matters
only for where it may lead.
-/

namespace Componentry

open Text

/-- A step of a path. -/
inductive Step where
  | down (name : String)
  | up
deriving DecidableEq, Repr, Inhabited

/-- How the text of a path ends. -/
inductive Ending where
  /-- In a name or in double dots. -/
  | name
  /-- In a slash, which asks for a directory. -/
  | slash
  /-- In a single dot, with or without slashes behind it, which stands for a directory that is
  there. -/
  | dot
  /-- The text is empty, and nothing can be there. -/
  | nowhere
deriving DecidableEq, Repr, Inhabited

/-- A path, taken apart. -/
structure Path where
  /-- Whether the path starts at the root. -/
  absolute : Bool
  steps : List Step
  ending : Ending
deriving DecidableEq, Repr, Inhabited

namespace Path

/-- The step that a part between slashes stands for. -/
def step? (part : List Char) : Option Step :=
  if part = [] ∨ part = ['.'] then none
  else if part = ['.', '.'] then some .up
  else some (.down (String.ofList part))

/-- How a path with given parts ends. -/
def endingOf (parts : List (List Char)) : Ending :=
  match parts.reverse.find? (!·.isEmpty), parts.getLast? with
  | some ['.'], _ => .dot
  | _, some [] => if parts.length ≤ 1 then .nowhere else .slash
  | _, _ => .name

/-- Reads a path. -/
def ofText (text : String) : Path :=
  let parts := splitAt '/' text.toList
  { absolute := text.toList.head? == some '/'
    steps := parts.filterMap step?
    ending := endingOf parts }

/-- The path of the temporary file for a file: in the same directory, with `.tmp` behind the
name. -/
def temporary (path : Path) : Path :=
  match path.steps.getLast? with
  | some (.down name) =>
    { path with steps := path.steps.dropLast ++ [.down (name ++ ".tmp")], ending := .name }
  | _ => { path with steps := path.steps ++ [.down ".tmp"], ending := .name }

end Path

/-! ## Texts of paths -/

/-- The path of a name in a directory. An absolute name stands for itself. -/
def joinPath (directory name : String) : String :=
  if name.toList.head? = some '/' then name
  else if directory.isEmpty || directory.toList.getLast? = some '/' then directory ++ name
  else directory ++ "/" ++ name

/-! ## File names -/

/-- Splits a file name at its last dot into stem and extension. A name without a dot, or with only
one at its front, has no extension. -/
def splitName (name : List Char) : List Char × Option (List Char) :=
  let extension := (name.reverse.takeWhile (· != '.')).reverse
  let stem := name.take (name.length - extension.length - 1)
  if stem.isEmpty then (name, none) else (stem, some extension)

/-- The stem of a file name. -/
def stemOf (name : String) : String := String.ofList (splitName name.toList).1

/-- Whether a file name has a given extension. -/
def hasExtension (extension name : String) : Bool :=
  (splitName name.toList).2 == some extension.toList

end Componentry
