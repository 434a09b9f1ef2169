import Componentry.Component.Module
import Componentry.Project.Disk
import Componentry.Toml.Document

/-!
# Settings of a project

Where the sources of a project are, where the compiled components go, and what they import. Settings
come from a file, and what the file does not say has a default. Directories given on the command
line count more.

Unknown keys are ignored. A known one has to be a string.
-/

namespace Componentry

/-- Where files are and what they are called. -/
structure Layout where
  sourceDirectory : String := "src/components"
  outputDirectory : String := "src/.compiled"
  sourceExtension : String := "speck"
  outputExtension : String := "jsx"
  /-- The file that lists all components, in the output directory. -/
  registryFile : String := "_componentRegistry.js"
deriving DecidableEq, Repr, Inhabited

/-- The modules that compiled components import. -/
structure Runtime where
  jsxModule : String := "preact"
  jsxPragma : String := "h"
  hooksModule : String := "preact/hooks"
  wrapperTag : String := "div"
deriving DecidableEq, Repr, Inhabited

/-- The settings of a project. -/
structure Settings where
  layout : Layout := {}
  runtime : Runtime := {}
deriving DecidableEq, Repr, Inhabited

namespace Settings

/-! ## Reading -/

/-- The string that a setting is. -/
def string? : Toml.Item → Option String
  | .text value => some value
  | _ => none

/-- The values of known keys, in their order; a missing one has its default. A list gives values in
this order, and a date has no known keys. -/
def section? (item : Option Toml.Item) (known : List (String × String)) : Option (List String) :=
  match item with
  | none | some (.date _) => some (known.map Prod.snd)
  | some (.table _ entries) => known.mapM fun (key, default) =>
    match entries.lookup key with
    | none => some default
    | some value => string? value
  | some (.array items) => do
    let given ← (items.take known.length).mapM string?
    return given ++ (known.drop items.length).map Prod.snd
  | some _ => none

/-- The layout, given as a section of a file. -/
def layout? (item : Option Toml.Item) : Option Layout :=
  let default : Layout := {}
  match section? item [("src_dir", default.sourceDirectory), ("out_dir", default.outputDirectory),
      ("source_extension", default.sourceExtension), ("output_extension", default.outputExtension),
      ("registry_file", default.registryFile)] with
  | some [source, output, sourceExtension, outputExtension, registry] =>
    some ⟨source, output, sourceExtension, outputExtension, registry⟩
  | _ => none

/-- The runtime, given as a section of a file. -/
def runtime? (item : Option Toml.Item) : Option Runtime :=
  let default : Runtime := {}
  match section? item [("jsx_module", default.jsxModule), ("jsx_pragma", default.jsxPragma),
      ("hooks_module", default.hooksModule), ("wrapper_tag", default.wrapperTag)] with
  | some [jsxModule, jsxPragma, hooksModule, wrapperTag] =>
    some ⟨jsxModule, jsxPragma, hooksModule, wrapperTag⟩
  | _ => none

/-- The settings in the text of a file. -/
def parse? (text : String) : Option Settings := do
  let entries ← Toml.parse? text
  return ⟨← layout? (entries.lookup "compiler"), ← runtime? (entries.lookup "runtime")⟩

/-! ## Use -/

/-- Settings with the directories given on the command line. -/
def withDirectories (settings : Settings) (source output : Option String) : Settings :=
  { settings with layout :=
    { settings.layout with
      sourceDirectory := source.getD settings.layout.sourceDirectory
      outputDirectory := output.getD settings.layout.outputDirectory } }

/-- The options for generated modules. The registry stands beside them. -/
def options (settings : Settings) : Options where
  jsxModule := settings.runtime.jsxModule
  jsxPragma := settings.runtime.jsxPragma
  hooksModule := settings.runtime.hooksModule
  registryModule := "./" ++ settings.layout.registryFile
  wrapperTag := settings.runtime.wrapperTag
  sourceExtension := settings.layout.sourceExtension

/-! ## Loading -/

/-- Why settings cannot be loaded. -/
inductive LoadError where
  | unreadable (path : String) (failure : Failure)
  | malformed
deriving DecidableEq, Repr

/-- The wording of an error, followed by what caused it. -/
def LoadError.message : LoadError → String
  | unreadable path failure =>
    "IO error reading " ++ path ++ ": " ++ failure.message ++ ": " ++ failure.message
  | malformed => "Failed to parse configuration: not a valid settings file"

/-- The settings in a file. -/
def loadFile (disk : Disk) (path : String) : Except LoadError Settings :=
  match disk.readText (.ofText path) with
  | .error failure => .error (.unreadable path failure)
  | .ok text =>
    match parse? text with
    | some settings => .ok settings
    | none => .error .malformed

/-- The file that settings are read from if no other is given. It may be missing. -/
def defaultFile : String := "./speck.toml"

/-- The settings of a project, from a given file or from the default one. -/
def load (disk : Disk) (path : Option String) : Except LoadError Settings :=
  match path with
  | some path => loadFile disk path
  | none => if disk.isFile (.ofText defaultFile) then loadFile disk defaultFile else .ok {}

end Settings

end Componentry
