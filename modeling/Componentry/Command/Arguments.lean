/-!
# Command lines

What the arguments of the program ask for. Arguments are read from left to right, and the first one
that settles the matter counts: a mistake, or a request for the version or for help.

Options take a value behind `=` or as the next argument. In the latter form it may not start with a
dash, unless it is a single one. An option may be given once and never with an empty value. Behind
`--` there are no options any more.

`-v` may stand in front of the command and behind it, and repeats. If it stands behind the command,
only those count.
-/

namespace Componentry

/-- The settings that commands on a project take. -/
structure ProjectArguments where
  source : Option String := none
  output : Option String := none
  settings : Option String := none
deriving DecidableEq, Repr, Inhabited

/-- What the program is to do. -/
inductive Command where
  | build (arguments : ProjectArguments)
  | check (arguments : ProjectArguments)
  /-- Prints the document of a source file. -/
  | dump (file : String)
deriving DecidableEq, Repr, Inhabited

/-- What the arguments ask for. -/
inductive Request where
  | run (command : Command) (verbosity : Nat)
  | version
  | help
  /-- The arguments are mistaken. -/
  | misuse
deriving DecidableEq, Repr, Inhabited

namespace Request

/-! ## Single arguments -/

/-- An argument by its form. -/
inductive Argument where
  /-- `--name` or `--name=value`. -/
  | long (name : String) (value : Option String)
  /-- Letters behind a dash. -/
  | short (letters : List Char)
  /-- `--`. -/
  | divider
  | plain (text : String)
deriving DecidableEq, Repr

/-- Splits a text at its first equals sign. -/
def splitValue (text : List Char) : String × Option String :=
  match text.dropWhile (· != '=') with
  | [] => (String.ofList text, none)
  | _ :: value => (String.ofList (text.takeWhile (· != '=')), some (String.ofList value))

/-- The form of an argument. -/
def Argument.ofText (text : String) : Argument :=
  match text.toList with
  | ['-', '-'] => divider
  | '-' :: '-' :: rest => let (name, value) := splitValue rest; long name value
  | '-' :: c :: rest => short (c :: rest)
  | _ => plain text

/-- Whether an argument can be the value of the option in front of it. -/
def isValue (text : String) : Bool :=
  match Argument.ofText text with
  | .plain _ => true
  | _ => false

/-- What the letters behind a dash say: how often `-v` is among them, and what stops the reading. -/
inductive Letters where
  | verbose (count : Nat)
  | stop (request : Request)
deriving DecidableEq, Repr

/-- Reads letters behind a dash. Help and version are asked for by letters too, the version only in
front of the command. -/
def letters (atTop : Bool) (count : Nat) : List Char → Letters
  | [] => .verbose count
  | c :: rest =>
    if c = 'v' then letters atTop (count + 1) rest
    else if c = 'h' then .stop .help
    else if c = 'V' && atTop then .stop .version
    else .stop .misuse

/-! ## Commands -/

/-- Whether a command has options for a project, or takes a file. -/
inductive CommandKind where
  | build
  | check
  | dump
deriving DecidableEq, Repr

/-- The command with a given name. -/
def commandOf? : String → Option CommandKind
  | "build" => some .build
  | "check" => some .check
  | "ir" => some .dump
  | _ => none

/-- What was read of the arguments of a command. -/
structure Progress where
  arguments : ProjectArguments := {}
  file : Option String := none
  verbosity : Nat := 0
deriving DecidableEq, Repr, Inhabited

/-- Sets an option to a value, unless it is unknown, set already, or the value is empty. -/
def setOption? (kind : CommandKind) (name value : String) (progress : Progress) : Option Progress :=
  let given := progress.arguments
  if value.isEmpty || kind = .dump then none
  else match name with
    | "src" =>
      if given.source.isSome then none
      else some { progress with arguments := { given with source := some value } }
    | "out" =>
      if given.output.isSome then none
      else some { progress with arguments := { given with output := some value } }
    | "config" =>
      if given.settings.isSome then none
      else some { progress with arguments := { given with settings := some value } }
    | _ => none

/-- Takes an argument that is not an option. -/
def takePlain? (kind : CommandKind) (text : String) (progress : Progress) : Option Progress :=
  if kind = .dump && progress.file.isNone && !text.isEmpty then
    some { progress with file := some text }
  else none

/-- Takes arguments that are not options. -/
def takeAll (kind : CommandKind) (progress : Progress) : List String → Option Progress
  | [] => some progress
  | text :: rest => (takePlain? kind text progress).bind (takeAll kind · rest)

/-- The request for a command whose arguments are read. -/
def finish (kind : CommandKind) (above : Nat) (progress : Progress) : Request :=
  let verbosity := if progress.verbosity > 0 then progress.verbosity else above
  match kind, progress.file with
  | .build, _ => .run (.build progress.arguments) verbosity
  | .check, _ => .run (.check progress.arguments) verbosity
  | .dump, some file => .run (.dump file) verbosity
  | .dump, none => .misuse

/-- Reads the arguments of a command; `above` is how often `-v` stood in front of it. -/
def ofCommand (kind : CommandKind) (above : Nat) (progress : Progress) : List String → Request
  | [] => finish kind above progress
  | text :: rest =>
    match Argument.ofText text with
    | .divider =>
      match takeAll kind progress rest with
      | some progress => finish kind above progress
      | none => .misuse
    | .plain _ =>
      match takePlain? kind text progress with
      | some progress => ofCommand kind above progress rest
      | none => .misuse
    | .short found =>
      match letters false 0 found with
      | .verbose count =>
        ofCommand kind above { progress with verbosity := progress.verbosity + count } rest
      | .stop request => request
    | .long name (some value) =>
      match setOption? kind name value progress with
      | some progress => ofCommand kind above progress rest
      | none => .misuse
    | .long name none =>
      if name = "verbosity" then
        ofCommand kind above { progress with verbosity := progress.verbosity + 1 } rest
      else if name = "help" then .help
      else match rest with
        | value :: rest =>
          if isValue value then
            match setOption? kind name value progress with
            | some progress => ofCommand kind above progress rest
            | none => .misuse
          else .misuse
        | [] => .misuse

/-! ## The program -/

/-- What help on commands asks for: each has to exist, and commands have none of their own. -/
def ofHelp : List String → Request
  | [] => .help
  | [name] => if (commandOf? name).isSome || name = "help" then .help else .misuse
  | _ => .misuse

/-- Reads arguments up to the command; `count` is how often `-v` stood there so far. -/
def ofTop (count : Nat) : List String → Request
  | [] => .misuse
  | text :: rest =>
    match Argument.ofText text with
    | .divider | .long _ (some _) => .misuse
    | .plain name =>
      match commandOf? name with
      | some kind => ofCommand kind count {} rest
      | none => if name = "help" then ofHelp rest else .misuse
    | .short found =>
      match letters true 0 found with
      | .verbose more => ofTop (count + more) rest
      | .stop request => request
    | .long name none =>
      if name = "verbosity" then ofTop (count + 1) rest
      else if name = "version" then .version
      else if name = "help" then .help
      else .misuse

/-- What the arguments of the program ask for. -/
def ofArguments (arguments : List String) : Request := ofTop 0 arguments

end Request

end Componentry
