import Componentry.Command.Run

/-!
# The program

Everything is decided by `Request.answer`, on a disk that is a value. Here this value is filled from
the real disk, as far as a request can depend on it, and what has changed in it is carried out.
-/

namespace Componentry

/-! ## Loading -/

/-- The text of a location. -/
def Location.text (location : Location) : String := "/" ++ "/".intercalate location

/-- What bytes hold. -/
def Content.ofBytes (bytes : ByteArray) : Content :=
  match String.fromUTF8? bytes with
  | some value => .text value
  | none => .binary bytes.toList

/-- Loads what is at a location. -/
def loadEntry (disk : Disk) (location : Location) : IO Disk := do
  let path := (← IO.currentDir) / location.text
  if ← path.isDir then return disk.put location .directory
  else if ← path.pathExists then
    return disk.put location (.file (.ofBytes (← IO.FS.readBinFile path)))
  else return disk

/-- Loads all that is on the way along steps, and tells where they lead. -/
def loadWay (disk : Disk) (start : Location) (steps : List Step) : IO (Disk × Location) :=
  steps.foldlM (fun (disk, location) step => do
    let location := Disk.stepFrom location step
    return (← loadEntry disk location, location)) (disk, start)

/-- Loads all that is on the way along a path, and what is directly in its end. -/
def loadPath (disk : Disk) (text : String) : IO Disk := do
  let path := Path.ofText text
  let (disk, location) ← loadWay disk (disk.start path) path.steps
  let directory := (← IO.currentDir) / location.text
  if ← directory.isDir then
    (← directory.readDir).foldlM (fun disk entry =>
      loadEntry disk (location ++ [entry.fileName])) disk
  else return disk

/-- The real disk, as far as a request can depend on it. -/
def loadFor (request : Request) : IO Disk := do
  let here := (← IO.currentDir).components.filter (· != "")
  let (disk, _) ← loadWay (.empty here) [] (here.map .down)
  let disk ← request.files.foldlM loadPath disk
  (request.directories disk).foldlM loadPath disk

/-! ## Storing -/

/-- Carries out a change. -/
def store (location : Location) : Disk.Change → IO Unit
  | .made => IO.FS.createDirAll location.text
  | .removed => IO.FS.removeFile location.text
  | .written (.binary bytes) => IO.FS.writeBinFile location.text ⟨bytes.toArray⟩
  | .written (.text text) => do
    let temporary := location.text ++ ".tmp"
    IO.FS.writeFile temporary text
    IO.FS.rename temporary location.text

/-- Carries out changes, directories before what is in them. -/
def storeAll (changes : List (Location × Disk.Change)) : IO Unit :=
  (changes.mergeSort fun a b => a.1.length ≤ b.1.length).forM fun (location, change) =>
    store location change

end Componentry

open Componentry in
/-- Answers the request that the arguments make. -/
def main (arguments : List String) : IO UInt32 := do
  let request := Request.ofArguments arguments
  let disk ← loadFor request
  let outcome := request.answer disk
  storeAll (Disk.changes disk outcome.disk)
  (← IO.getStdout).putStr outcome.output.out
  (← IO.getStderr).putStr outcome.output.err
  return outcome.exit.toUInt32
