import Componentry.Project.Build

/-!
# The text of a report

One line for each file with its warnings, a summary, and what happened to the registry. Failures go
to the error stream, everything else to the output stream.
-/

namespace Componentry

/-- What a run prints on its two streams. -/
structure Output where
  out : String := ""
  err : String := ""
deriving DecidableEq, Repr, Inhabited

namespace Output

/-- Prints first one output and then another. -/
protected def append (a b : Output) : Output := ⟨a.out ++ b.out, a.err ++ b.err⟩

instance : Append Output := ⟨Output.append⟩

/-- A line on the output stream. -/
def line (text : String) : Output := { out := text ++ "\n" }

/-- A line on the error stream. -/
def errorLine (text : String) : Output := { err := text ++ "\n" }

/-- Outputs one after the other. -/
def concat (outputs : List Output) : Output := outputs.foldl (· ++ ·) {}

end Output

open Output

/-- The line about a file, behind its number. -/
def statusLine (progress : String) (file : FileReport) : Output :=
  match file.status with
  | .compiled => line (progress ++ " Compiled: " ++ file.source ++ " -> " ++ file.output)
  | .unchanged => line (progress ++ " Unchanged: " ++ file.source)
  | .checked => line (progress ++ " Ok: " ++ file.source)
  | .failed message =>
    errorLine (progress ++ " Failed: failed to compile file " ++ file.source ++ ": " ++ message)

/-- The lines about a file. -/
def fileLines (verbosity number total : Nat) (file : FileReport) : Output :=
  let progress := "[" ++ toString number ++ "/" ++ toString total ++ "]"
  statusLine progress file
    ++ concat (file.warnings.map fun warning => line ("    warning: " ++ warning.text))
    ++ (if verbosity > 1 && file.status.isSuccess then line ("    component: " ++ file.component)
      else {})

/-- The lines about files, counted from a number. -/
def filesLines (verbosity total : Nat) : Nat → List FileReport → Output
  | _, [] => {}
  | number, file :: rest =>
    fileLines verbosity number total file ++ filesLines verbosity total (number + 1) rest

/-- The summary of a run. -/
def summaryLine (report : BuildReport) : Output :=
  let failed := toString report.failed ++ " failed"
  match report.mode with
  | .write => line ("Summary: " ++ toString (report.count (· == .compiled)) ++ " compiled, "
      ++ toString (report.count (· == .unchanged)) ++ " unchanged, " ++ failed)
  | .check => line ("Summary: " ++ toString (report.count (· == .checked)) ++ " ok, " ++ failed)

/-- The line about the registry. -/
def registryLine : RegistryStatus → Output
  | .written path components => line ("Registry updated: " ++ path ++ " ("
      ++ toString components.length ++ " components)")
  | .failed error => errorLine ("Registry failed: " ++ error.message)
  | .skipped => {}

/-- What is printed about a run. -/
def BuildReport.output (report : BuildReport) (verbosity : Nat) : Output :=
  filesLines verbosity report.files.length 1 report.files
    ++ (if report.files.isEmpty then line "No source files found" else {})
    ++ line "" ++ summaryLine report ++ registryLine report.registry

end Componentry
