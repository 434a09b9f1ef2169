import Componentry.Command.Arguments
import Componentry.Document.Dump
import Componentry.Project.Report

/-!
# Running a command

`Request.run` answers a request on a disk: what is printed, how the program exits, and what the disk
is like afterwards.
-/

namespace Componentry

/-- What a run of the program comes to. -/
structure Outcome where
  output : Output
  /-- The exit status: 0 for success, 1 for failure, 2 for mistaken arguments. -/
  exit : Nat
  disk : Disk

/-- The name and the version of the program. -/
def versionText : String := "speck 0.1.0-alpha.1"

/-- How the program is called. -/
def usageText : String :=
  "Usage: speck [-v]... <COMMAND>\n\n"
    ++ "Commands:\n"
    ++ "  build [--src DIR] [--out DIR] [--config FILE]  Compile every component\n"
    ++ "  check [--src DIR] [--out DIR] [--config FILE]  Compile without writing anything\n"
    ++ "  ir FILE                                        Print the document of a component"

/-- A failed run, and the disk it leaves. -/
def Outcome.failed (disk : Disk) (output : Output) (message : String) : Outcome :=
  ⟨output ++ Output.errorLine ("Error: " ++ message), 1, disk⟩

/-- What is printed in front of a report. -/
def announcement (settings : Settings) (verbosity : Nat) : Output :=
  if verbosity > 0 then
    .line ("Compiling " ++ settings.layout.sourceDirectory ++ " -> "
      ++ settings.layout.outputDirectory)
  else {}

/-- Builds or checks the project. -/
def runProject (mode : Mode) (arguments : ProjectArguments) (verbosity : Nat) (disk : Disk) :
    Outcome :=
  match Settings.load disk arguments.settings with
  | .error error => .failed disk {} error.message
  | .ok loaded =>
    let settings := loaded.withDirectories arguments.source arguments.output
    let announced := announcement settings verbosity
    match build settings mode disk with
    | (.error error, left) => .failed left announced error.messageWithCause
    | (.ok report, disk) =>
      ⟨announced ++ report.output verbosity, if report.succeeded then 0 else 1, disk⟩

/-- Prints the document of a source file, with its warnings. -/
def runDump (file : String) (disk : Disk) : Outcome :=
  match disk.readText (.ofText file) with
  | .error failure => .failed disk {} ("failed to read " ++ file ++ ": " ++ failure.message)
  | .ok text =>
    match Markup.Program.parse text with
    | .error error => .failed disk {} ("failed to parse " ++ file ++ ": " ++ error.message)
    | .ok program =>
      let lowered := program.lower
      let warnings := lowered.warnings.map fun warning =>
        Output.errorLine ("warning: " ++ warning.text)
      ⟨Output.concat warnings ++ .line lowered.value.dump.asText, 0, disk⟩

/-- Runs a command. -/
def Command.run (command : Command) (verbosity : Nat) (disk : Disk) : Outcome :=
  match command with
  | build arguments => runProject .write arguments verbosity disk
  | check arguments => runProject .check arguments verbosity disk
  | dump file => runDump file disk

/-- Answers a request. -/
def Request.answer (request : Request) (disk : Disk) : Outcome :=
  match request with
  | run command verbosity => command.run verbosity disk
  | version => ⟨.line versionText, 0, disk⟩
  | help => ⟨.line usageText, 0, disk⟩
  | misuse => ⟨.errorLine usageText, 2, disk⟩

/-! ## What a request depends on -/

/-- The files that a request reads before anything else. -/
def Request.files : Request → List String
  | run (.build arguments) _ | run (.check arguments) _ =>
    [arguments.settings.getD Settings.defaultFile]
  | run (.dump file) _ => [file]
  | _ => []

/-- The directories that a request works in, as the settings say. -/
def Request.directories (request : Request) (disk : Disk) : List String :=
  match request with
  | run (.build arguments) _ | run (.check arguments) _ =>
    match Settings.load disk arguments.settings with
    | .error _ => []
    | .ok loaded =>
      let layout := (loaded.withDirectories arguments.source arguments.output).layout
      [layout.sourceDirectory, layout.outputDirectory, registryPath layout]
  | _ => []

end Componentry
