import Componentry.Project.Path

/-!
# Disks

Directories and files as a value. A disk is a list of entries, at most one for each location, and
the location that relative paths start from. `Disk.get?` is what a disk says about a location; every
operation is made of `Disk.put` and `Disk.erase`.

An operation on a path fails as it would on a real disk. An operation that has several steps may
fail behind some of them, and then tells what the disk is like.

Some of what a real disk has is left out. There are no links, so a location is reached by one path
only. There are no permissions: nothing is refused for the lack of them, and that an output gets
back the permissions of the file it replaces, which may fail behind the renaming, is not modelled.
There is no limit to the length of a name or to the space for contents. All names are texts; a name
that is not UTF-8 cannot be written down.
-/

namespace Componentry

/-- A place on a disk: the names of the directories to go through, and its own. -/
abbrev Location := List String

/-- What a file holds: a text, or bytes that are not the encoding of any text. -/
inductive Content where
  | text (value : String)
  | binary (bytes : List UInt8)
deriving DecidableEq, Repr, Inhabited

/-- What is at a location. -/
inductive Entry where
  | directory
  | file (content : Content)
deriving DecidableEq, Repr, Inhabited

/-- Whether an entry is a file. -/
def Entry.isFile : Entry → Bool
  | directory => false
  | file _ => true

/-- Why an operation on a disk fails. -/
inductive Failure where
  | missing
  | busy
  | occupied
  | notDirectory
  | isDirectory
  | notText
deriving DecidableEq, Repr, Inhabited

/-- The wording of a failure. -/
def Failure.message : Failure → String
  | missing => "No such file or directory (os error 2)"
  | busy => "Device or resource busy (os error 16)"
  | occupied => "File exists (os error 17)"
  | notDirectory => "Not a directory (os error 20)"
  | isDirectory => "Is a directory (os error 21)"
  | notText => "stream did not contain valid UTF-8"

/-- Directories and files. -/
structure Disk where
  /-- Where relative paths start. -/
  here : Location
  entries : List (Location × Entry)
  distinct : (entries.map Prod.fst).Nodup
deriving DecidableEq, Repr

namespace Disk

/-! ## Entries -/

/-- A disk with nothing on it. -/
def empty (here : Location) : Disk := ⟨here, [], List.nodup_nil⟩

instance : Inhabited Disk := ⟨empty []⟩

/-- What is at a location. The root is always a directory. -/
def get? (disk : Disk) (location : Location) : Option Entry :=
  if location = [] then some .directory else disk.entries.lookup location

/-- The entries at other locations. -/
def others (disk : Disk) (location : Location) : List (Location × Entry) :=
  disk.entries.filter fun entry => entry.1 != location

theorem nodup_others (disk : Disk) (location : Location) :
    ((disk.others location).map Prod.fst).Nodup :=
  disk.distinct.sublist (List.filter_sublist.map _)

theorem not_mem_others (disk : Disk) (location : Location) :
    location ∉ (disk.others location).map Prod.fst := by
  simp [others]

/-- Puts an entry at a location, in place of what is there. -/
def put (disk : Disk) (location : Location) (entry : Entry) : Disk where
  here := disk.here
  entries := (location, entry) :: disk.others location
  distinct := List.nodup_cons.2 ⟨disk.not_mem_others location, disk.nodup_others location⟩

/-- Removes what is at a location. -/
def erase (disk : Disk) (location : Location) : Disk where
  here := disk.here
  entries := disk.others location
  distinct := disk.nodup_others location

/-- Leaving out a location leaves the entries at all others as they are. -/
theorem lookup_others (disk : Disk) (location found : Location) :
    (disk.others location).lookup found
      = if found = location then none else disk.entries.lookup found := by
  unfold others
  induction disk.entries with
  | nil => simp
  | cons entry rest ih =>
    obtain ⟨place, content⟩ := entry
    by_cases hl : place = location
    · subst hl
      by_cases hf : found = place
      · subst hf
        simpa using ih
      · have hb : (found == place) = false := by simpa using hf
        simpa [List.lookup_cons, hb, hf] using ih
    · rw [List.filter_cons_of_pos (by simpa using hl), List.lookup_cons, List.lookup_cons, ih]
      by_cases hf : found = place
      · subst hf
        simp [hl]
      · have hb : (found == place) = false := by simpa using hf
        simp [hb]

/-- What a disk says after an entry was put. -/
theorem get?_put (disk : Disk) (location found : Location) (entry : Entry) :
    (disk.put location entry).get? found
      = if found = [] then some .directory
        else if found = location then some entry else disk.get? found := by
  unfold get? put
  by_cases hr : found = []
  · simp [hr]
  · by_cases hl : found = location
    · simp [hl]
    · have hb : (found == location) = false := by simpa using hl
      simp [hr, hl, List.lookup_cons, hb, lookup_others]

/-- What a disk says after a location was cleared. -/
theorem get?_erase (disk : Disk) (location found : Location) :
    (disk.erase location).get? found
      = if found = [] then some .directory
        else if found = location then none else disk.get? found := by
  unfold get? erase
  by_cases hr : found = []
  · simp [hr]
  · simp [hr, lookup_others]

/-- The name of an entry, if it is directly in a directory. -/
def nameIn? (directory : Location) (location : Location) : Option String :=
  match location.getLast? with
  | some name => if location.dropLast = directory then some name else none
  | none => none

/-- The entries directly in a directory, ordered by their names. -/
def children (disk : Disk) (directory : Location) : List (String × Entry) :=
  (disk.entries.filterMap fun (location, entry) =>
    (nameIn? directory location).map (·, entry)).mergeSort (fun a b => !(b.1 < a.1))

/-! ## Paths -/

/-- The location that a step leads to. The root is its own parent. -/
def stepFrom (location : Location) : Step → Location
  | .down name => location ++ [name]
  | .up => location.dropLast

/-- Fails unless there is a directory at a location. -/
def requireDirectory (disk : Disk) (location : Location) : Except Failure Unit :=
  match disk.get? location with
  | none => .error .missing
  | some (.file _) => .error .notDirectory
  | some .directory => .ok ()

/-- The location that steps lead to. Every step starts from a directory. -/
def walk (disk : Disk) (location : Location) : List Step → Except Failure Location
  | [] => .ok location
  | step :: rest => do
    disk.requireDirectory location
    disk.walk (stepFrom location step) rest

/-- Where a path starts. -/
def start (disk : Disk) (path : Path) : Location :=
  if path.absolute then [] else disk.here

/-- The location of a path. Nothing needs to be there. -/
def locate (disk : Disk) (path : Path) : Except Failure Location :=
  if path.ending = .nowhere then .error .missing
  else disk.walk (disk.start path) path.steps

/-- What is at a path. -/
def look (disk : Disk) (path : Path) : Except Failure Entry := do
  let location ← disk.locate path
  match disk.get? location, path.ending with
  | none, _ => .error .missing
  | some .directory, _ => .ok .directory
  | some (.file content), .name => .ok (.file content)
  | some (.file _), _ => .error .notDirectory

/-- Whether there is a directory at a path. -/
def isDirectory (disk : Disk) (path : Path) : Bool :=
  match disk.look path with
  | .ok .directory => true
  | _ => false

/-- Whether there is a file at a path. -/
def isFile (disk : Disk) (path : Path) : Bool :=
  match disk.look path with
  | .ok (.file _) => true
  | _ => false

/-! ## Reading -/

/-- The text of a file. -/
def readText (disk : Disk) (path : Path) : Except Failure String := do
  match ← disk.look path with
  | .directory => .error .isDirectory
  | .file (.text value) => .ok value
  | .file (.binary _) => .error .notText

/-- The names and entries in a directory, ordered by name. -/
def list (disk : Disk) (path : Path) : Except Failure (List (String × Entry)) := do
  let location ← disk.locate path
  disk.requireDirectory location
  return disk.children location

/-! ## Writing -/

/-- Why no directory can be made at a file: what is behind it on the way is looked for first, unless
a directory was made in front of it. -/
def blocked (made dotted last : Bool) : Failure :=
  if last then if dotted then .notDirectory else .occupied
  else if made then .occupied else .notDirectory

/-- Makes the directories on the way along steps. The last one is not made if a dot is behind it.
The directories that were made stay, also if a later one cannot be made. -/
def makeWay (disk : Disk) (location : Location) (made dotted : Bool) :
    List Step → Except Failure Unit × Disk
  | [] => (.ok (), disk)
  | step :: rest =>
    let next := stepFrom location step
    match disk.get? next with
    | some .directory => disk.makeWay next made dotted rest
    | some (.file _) => (.error (blocked made dotted rest.isEmpty), disk)
    | none =>
      if rest.isEmpty && dotted then (.error .missing, disk)
      else (disk.put next .directory).makeWay next true dotted rest

/-- Makes a directory and all directories above it, unless they are there. -/
def makeDirectories (disk : Disk) (path : Path) : Except Failure Unit × Disk :=
  disk.makeWay (disk.start path) false (path.ending = .dot) path.steps

/-- Writes a text to a file, new or not. -/
def writeText (disk : Disk) (path : Path) (text : String) : Except Failure Disk := do
  let location ← disk.locate path
  match disk.get? location with
  | some .directory => .error .isDirectory
  | _ => return disk.put location (.file (.text text))

/-- Where a file can be moved to: the location of a path that names a file or nothing. -/
def moveTarget (disk : Disk) (path : Path) : Except Failure Location := do
  let location ← disk.locate path
  match path.steps.getLast?, path.ending, disk.get? location with
  | some (.down _), .name, some .directory => .error .isDirectory
  | some (.down _), .name, _ => .ok location
  | some (.down _), .slash, _ => .error .notDirectory
  | some (.down _), .dot, none => .error .missing
  | some (.down _), .dot, some (.file _) => .error .notDirectory
  | _, _, _ => .error .busy

/-- Writes a text to a file so that the file changes at once or not at all: the text goes to a
temporary file, which is then moved. The temporary file does not stay, whatever happens. -/
def replaceText (disk : Disk) (path : Path) (text : String) : Except Failure Unit × Disk :=
  match disk.writeText path.temporary text, disk.locate path.temporary with
  | .ok written, .ok temporary =>
    match written.moveTarget path with
    | .ok location => (.ok (), (written.erase temporary).put location (.file (.text text)))
    | .error failure => (.error failure, written.erase temporary)
  | .error failure, _ => (.error failure, disk)
  | _, .error failure => (.error failure, disk)

/-! ## Comparing -/

/-- How an entry of one disk differs from the other. -/
inductive Change where
  /-- The file is new or has another content. -/
  | written (content : Content)
  /-- The directory is new. -/
  | made
  /-- The entry is gone. -/
  | removed
deriving DecidableEq, Repr

/-- The change that leads from an entry to another one. -/
def changeOf (before after : Option Entry) : Option Change :=
  match before, after with
  | some .directory, some .directory => none
  | _, some .directory => some .made
  | some (.file old), some (.file new) => if old = new then none else some (.written new)
  | _, some (.file new) => some (.written new)
  | some _, none => some .removed
  | none, none => none

/-- The locations that differ between two disks, each with its change. -/
def changes (before after : Disk) : List (Location × Change) :=
  let locations := before.entries.map Prod.fst
    ++ (after.entries.map Prod.fst).filter fun location => (before.get? location).isNone
  locations.filterMap fun location =>
    (changeOf (before.get? location) (after.get? location)).map (location, ·)

end Disk

end Componentry
