import Componentry.Lowering
import Componentry.Markup.Program
import Componentry.Project.Settings

/-!
# Building a project

`compile` reads a source file, lowers its markup and generates the module. A build compiles every
source file of a project on its own, writes the output of each, and lists all compiled components in
the registry. A check compiles in the same way and writes nothing.

A file that fails does not stop the others, and its former output stays. The registry is written
last: it lists the components whose output is there, except those that failed in this run.
-/

namespace Componentry

/-! ## Compiling a source file -/

/-- Why a source file cannot be compiled. -/
inductive CompileError where
  | malformed (error : SyntaxError)
  | ungenerated (error : GenerationError)
deriving DecidableEq, Repr

/-- The wording of an error. -/
def CompileError.message : CompileError → String
  | malformed e => "parse error: " ++ e.message
  | ungenerated e => e.message

/-- Compiles a source file to a module. The result depends on nothing but the arguments. Warnings of
lowering come before those of generation. -/
def compile (source name : String) (options : Options) : Except CompileError (Reported Module) :=
  match Markup.Program.parse source with
  | .error e => .error (.malformed e)
  | .ok program =>
    let lowered := program.lower
    match generate lowered.value name options with
    | .error e => .error (.ungenerated e)
    | .ok generated => .ok ⟨generated.value, lowered.warnings ++ generated.warnings⟩

/-! ## Reports -/

/-- Whether outputs are written. -/
inductive Mode where
  | write
  | check
deriving DecidableEq, Repr, Inhabited

/-- What happened to a source file. -/
inductive Status where
  | compiled
  /-- The output was there already. -/
  | unchanged
  /-- Nothing was to be written. -/
  | checked
  | failed (message : String)
deriving DecidableEq, Repr, Inhabited

/-- Whether a file is fine. -/
def Status.isSuccess : Status → Bool
  | failed _ => false
  | _ => true

/-- What happened to a source file, and its warnings. -/
structure FileReport where
  source : String
  output : String
  component : String
  status : Status
  warnings : List Warning
deriving DecidableEq, Repr

/-- What stops a whole run, or the registry. -/
inductive BuildError where
  | noSources (path : String)
  | unlisted (path : String) (failure : Failure)
  | unmade (path : String) (failure : Failure)
  | unwritten (path : String) (failure : Failure)
deriving DecidableEq, Repr

/-- The wording of an error. -/
def BuildError.message : BuildError → String
  | noSources path => "source directory not found: " ++ path
  | unlisted path failure =>
    "failed to list " ++ path ++ ": IO error for operation on " ++ path ++ ": " ++ failure.message
  | unmade path failure => "failed to create " ++ path ++ ": " ++ failure.message
  | unwritten path failure => "failed to write " ++ path ++ ": " ++ failure.message

/-- The wording of an error, followed by what caused it. -/
def BuildError.messageWithCause : BuildError → String
  | unmade path failure => (unmade path failure).message ++ ": " ++ failure.message
  | unwritten path failure => (unwritten path failure).message ++ ": " ++ failure.message
  | other => other.message

/-- What happened to the registry. -/
inductive RegistryStatus where
  | written (path : String) (components : List String)
  | failed (error : BuildError)
  | skipped
deriving DecidableEq, Repr

/-- What happened in a run. -/
structure BuildReport where
  mode : Mode
  files : List FileReport
  registry : RegistryStatus
deriving DecidableEq, Repr

namespace BuildReport

/-- The number of files with a given status. -/
def count (report : BuildReport) (p : Status → Bool) : Nat :=
  report.files.countP fun file => p file.status

/-- The number of files that failed. -/
def failed (report : BuildReport) : Nat :=
  report.count fun status => !status.isSuccess

/-- Whether a run succeeded: a check if no file failed, a build if the registry was written and not
all files failed. -/
def succeeded (report : BuildReport) : Bool :=
  match report.mode, report.registry with
  | .check, _ => report.failed == 0
  | .write, .failed _ => false
  | .write, _ => report.files.isEmpty || report.failed < report.files.length

end BuildReport

/-! ## Source files -/

/-- The names of the files in a directory that have an extension, in order. -/
def fileNames (extension : String) (children : List (String × Entry)) : List String :=
  (children.filter fun (name, entry) => entry.isFile && hasExtension extension name).map Prod.fst

/-- The names of the source files. -/
def sourceNames (disk : Disk) (layout : Layout) : Except BuildError (List String) :=
  let directory := layout.sourceDirectory
  if disk.isDirectory (.ofText directory) then
    match disk.list (.ofText directory) with
    | .ok children => .ok (fileNames layout.sourceExtension children)
    | .error failure => .error (.unlisted directory failure)
  else .error (.noSources directory)

/-- The path of the output of a component. -/
def outputPath (layout : Layout) (component : String) : String :=
  joinPath layout.outputDirectory (component ++ "." ++ layout.outputExtension)

/-- Whether a file holds just a text. -/
def isUpToDate (disk : Disk) (path : Path) (text : String) : Bool :=
  match disk.readText path with
  | .ok found => found == text
  | .error _ => false

/-- Writes the output of a component unless it is there. -/
def writeOutput (disk : Disk) (output text : String) : Status × Disk :=
  if isUpToDate disk (.ofText output) text then (.unchanged, disk)
  else
    match disk.replaceText (.ofText output) text with
    | (.ok (), written) => (.compiled, written)
    | (.error failure, left) => (.failed ("failed to write output: " ++ failure.message), left)

/-- Reads and compiles a source file. -/
def compileFile (disk : Disk) (source component : String) (options : Options) :
    Except String (Reported Module) :=
  match disk.readText (.ofText source) with
  | .error failure => .error ("failed to read file: " ++ failure.message)
  | .ok text =>
    match compile text component options with
    | .ok compiled => .ok compiled
    | .error e => .error e.message

/-- Builds one source file, given by its name. -/
def buildFile (settings : Settings) (mode : Mode) (disk : Disk) (name : String) :
    FileReport × Disk :=
  let source := joinPath settings.layout.sourceDirectory name
  let component := stemOf name
  let output := outputPath settings.layout component
  match compileFile disk source component settings.options with
  | .error message => (⟨source, output, component, .failed message, []⟩, disk)
  | .ok compiled =>
    match mode with
    | .check => (⟨source, output, component, .checked, compiled.warnings⟩, disk)
    | .write =>
      let (status, disk) := writeOutput disk output compiled.value.text
      (⟨source, output, component, status, compiled.warnings⟩, disk)

/-- Builds source files one after the other. -/
def buildFiles (settings : Settings) (mode : Mode) (disk : Disk) :
    List String → List FileReport × Disk
  | [] => ([], disk)
  | name :: rest =>
    let (report, disk) := buildFile settings mode disk name
    let (reports, disk) := buildFiles settings mode disk rest
    (report :: reports, disk)

/-! ## The registry -/

/-- The text of a registry: it imports all components and exports them again. -/
def registryText (components : List String) (extension : String) : String :=
  "\n".intercalate (components.map fun name =>
      "import " ++ name ++ " from './" ++ name ++ "." ++ extension ++ "';")
    ++ "\n\nexport \x7b\n  " ++ ", ".intercalate components ++ "\n\x7d;\n"

/-- The path of the registry. -/
def registryPath (layout : Layout) : String :=
  joinPath layout.outputDirectory layout.registryFile

/-- The components whose output is there, except some. -/
def registeredComponents (disk : Disk) (layout : Layout) (excluded : List String) :
    Except Failure (List String) := do
  let children ← disk.list (.ofText layout.outputDirectory)
  let names := (fileNames layout.outputExtension children).filter (· != layout.registryFile)
  return (names.map stemOf).filter fun stem => !excluded.contains stem

/-- Writes the registry. -/
def writeRegistry (disk : Disk) (layout : Layout) (excluded : List String) :
    RegistryStatus × Disk :=
  match registeredComponents disk layout excluded with
  | .error failure => (.failed (.unlisted layout.outputDirectory failure), disk)
  | .ok components =>
    let path := registryPath layout
    match disk.replaceText (.ofText path) (registryText components layout.outputExtension) with
    | (.ok (), written) => (.written path components, written)
    | (.error failure, left) => (.failed (.unwritten path failure), left)

/-! ## Runs -/

/-- The components of the files that failed. -/
def failedComponents (files : List FileReport) : List String :=
  (files.filter fun file => !file.status.isSuccess).map FileReport.component

/-- Builds or checks a project. The disk is told also if the run fails, for some directories may
have been made. -/
def build (settings : Settings) (mode : Mode) (disk : Disk) :
    Except BuildError BuildReport × Disk :=
  match sourceNames disk settings.layout with
  | .error error => (.error error, disk)
  | .ok names =>
    match mode with
    | .check =>
      let (files, disk) := buildFiles settings .check disk names
      (.ok ⟨.check, files, .skipped⟩, disk)
    | .write =>
      let output := settings.layout.outputDirectory
      match disk.makeDirectories (.ofText output) with
      | (.error failure, left) => (.error (.unmade output failure), left)
      | (.ok (), disk) =>
        let (files, disk) := buildFiles settings .write disk names
        let (registry, disk) := writeRegistry disk settings.layout (failedComponents files)
        (.ok ⟨.write, files, registry⟩, disk)

end Componentry
