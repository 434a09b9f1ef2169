import Componentry.Text.Word

/-!
# Routes

A route path such as `/users/:id` is a list of segments: text that stands for itself, and parameters
that take one part of a path. A colon with nothing behind it in its part is text.

* `segments`: the segments of a path; adjacent texts are one segment.
* `Pattern.match?`: the values of the parameters in a concrete path.
* `Pattern.regex`: the same test as the source of a regular expression, one group for each
  parameter.

A parameter reaches up to the next slash, so whatever follows it starts with one, and a parameter
can take all characters up to there without trying less.
-/

namespace Componentry.Route

/-- A piece of a route path. -/
inductive Segment where
  | literal (text : String)
  | parameter (name : String)
deriving DecidableEq, Repr, Inhabited

/-- Puts a character of text in front of a segment list. -/
def pushChar (c : Char) : List Segment → List Segment
  | .literal text :: rest => .literal (String.ofList (c :: text.toList)) :: rest
  | rest => .literal (String.ofList [c]) :: rest

/-- Whether a character ends a part of a path. -/
def isSlash (c : Char) : Bool := c == '/'

/-- The segments of a path. -/
def segments : List Char → List Segment
  | [] => []
  | c :: rest =>
    let name := rest.takeWhile (fun d => !isSlash d)
    if c = ':' ∧ name ≠ [] then
      .parameter (String.ofList name) :: segments (rest.dropWhile (fun d => !isSlash d))
    else pushChar c (segments rest)
termination_by path => path.length
decreasing_by
  · have := (List.dropWhile_sublist (l := rest) (fun d => !isSlash d)).length_le
    simp only [List.length_cons]
    omega
  · simp

/-- A route path with its segments. -/
structure Pattern where
  path : String
  segments : List Segment
deriving DecidableEq, Repr

/-- The pattern that a path is. Every text is one. -/
def Pattern.parse (path : String) : Pattern :=
  ⟨path, Route.segments path.toList⟩

/-- The name of a parameter. -/
def Segment.parameter? : Segment → Option String
  | literal _ => none
  | parameter name => some name

/-- Whether a segment is text. -/
def Segment.isLiteral (segment : Segment) : Bool :=
  segment.parameter?.isNone

/-- Elements that occur earlier in the list too, each once, in the order of their second
occurrence. -/
def repeated (seen found : List String) : List String → List String
  | [] => []
  | name :: rest =>
    if seen.contains name && !found.contains name then
      name :: repeated (name :: seen) (name :: found) rest
    else repeated (name :: seen) found rest

/-- The characters with a meaning of their own in a regular expression. -/
def regexMarks : List Char :=
  ['\\', '.', '+', '*', '?', '(', ')', '|', '[', ']', '{', '}', '^', '$', '#', '&', '-', '~']

/-- A text as a regular expression that matches just it. -/
def regexEscape (text : List Char) : List Char :=
  text.flatMap fun c => if regexMarks.contains c then ['\\', c] else [c]

/-- The group that takes one part of a path. -/
def parameterGroup : String := "([^/]+)"

/-- A segment as a regular expression. -/
def Segment.regex : Segment → String
  | literal text => String.ofList (regexEscape text.toList)
  | parameter _ => parameterGroup

/-- The values that the parameters of a segment list take in a path. -/
def values? : List Segment → List Char → Option (List String)
  | [], path => if path.isEmpty then some [] else none
  | .literal text :: rest, path => do values? rest (← Text.after? text.toList path)
  | .parameter _ :: rest, path =>
    let value := path.takeWhile (fun c => !isSlash c)
    if value.isEmpty then none
    else (values? rest (path.dropWhile (fun c => !isSlash c))).map (String.ofList value :: ·)

/-- The parameters of a match with their values, in the order of the path. -/
structure Parameters where
  entries : List (String × String)
deriving DecidableEq, Repr

/-- The value of a parameter. If a name repeats, the last one counts. -/
def Parameters.get? (parameters : Parameters) (name : String) : Option String :=
  (parameters.entries.reverse.find? (fun entry => entry.1 == name)).map Prod.snd

namespace Pattern

/-- Whether a pattern has no parameters. -/
def isStatic (pattern : Pattern) : Bool :=
  pattern.segments.all Segment.isLiteral

/-- The names of the parameters, in order. -/
def parameterNames (pattern : Pattern) : List String :=
  pattern.segments.filterMap Segment.parameter?

/-- The names of parameters that occur more than once. -/
def repeatedParameters (pattern : Pattern) : List String :=
  repeated [] [] pattern.parameterNames

/-- The source of a regular expression that matches whole paths. -/
def regex (pattern : Pattern) : String :=
  "^" ++ String.join (pattern.segments.map Segment.regex) ++ "$"

/-- The parameters of a concrete path, if it matches. A pattern without parameters matches its own
text. -/
def match? (pattern : Pattern) (path : String) : Option Parameters :=
  if pattern.isStatic then
    if pattern.path = path then some ⟨[]⟩ else none
  else
    (values? pattern.segments path.toList).map fun values =>
      ⟨pattern.parameterNames.zip values⟩

end Pattern

end Componentry.Route
