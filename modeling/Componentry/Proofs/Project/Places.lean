import Mathlib.Data.List.Basic
import Componentry.Proofs.Project.Names
import Componentry.Proofs.Text.Layout

/-!
# Where paths lead

A path leads to a location step by step, and every step has to start from a directory.  `Disk.place`
is where the steps lead if nobody looks at the disk; a path that can be followed leads there
(`walk_eq_ok`).

**Joined paths.**  A name in a directory adds one step to the steps of the directory, whatever the
text of the directory looks like (`ofText_joinPath`), and so does its temporary file.

**Open directories.**  `Disk.Opens` says that a path leads to a directory.  Nothing in a build takes
a directory away (`Disk.KeepsDirectories`), so what is open stays open.
-/

namespace Componentry

open Text

/-! ## Joined paths -/

namespace Path

lemma endingOf_append {parts : List (List Char)} {name : String} (h : IsFileName name) :
    endingOf (parts ++ [name.toList]) = .name := by
  have hnone : ¬(name.toList = [] ∨ name.toList = ['.']) := by
    intro hor
    have hstep := h.isStep
    rw [step?, if_pos hor] at hstep
    cases hstep
  rw [not_or] at hnone
  have hfind : (parts ++ [name.toList]).reverse.find? (!·.isEmpty) = some name.toList := by
    rw [List.reverse_append, List.reverse_singleton, List.singleton_append, List.find?_cons_of_pos]
    simpa using hnone.1
  rw [endingOf, hfind, List.getLast?_append, List.getLast?_singleton, Option.some_or]
  split
  · next heq => exact absurd (Option.some.inj heq) hnone.2
  · next _ heq _ => exact absurd (Option.some.inj heq) hnone.1
  · rfl

/-- **A name in a directory is one step more.** -/
theorem ofText_joinPath (directory : String) {name : String} (h : IsFileName name) :
    ofText (joinPath directory name)
      = { absolute := (ofText directory).absolute
          steps := (ofText directory).steps ++ [.down name]
          ending := .name } := by
  have hparts : splitAt '/' name.toList = [name.toList] := splitAt_of_notMem h.noSlash
  have hhead : name.toList.head? ≠ some '/' := fun heq => h.noSlash (List.mem_of_mem_head? heq)
  have hjoined : ∀ front : List Char, splitAt '/' (front ++ '/' :: name.toList)
      = splitAt '/' front ++ [name.toList] := by
    intro front
    rw [splitAt_append, hparts]
  have hlast : [name.toList].filterMap step? = [.down name] := by
    rw [List.filterMap_cons, h.isStep]
    rfl
  rw [joinPath, if_neg hhead]
  split_ifs with hdirectory
  · rcases Bool.or_eq_true_iff.mp hdirectory with hempty | hslash
    · obtain rfl : directory = "" := by simpa using hempty
      have hnil : splitAt '/' ("" : String).toList = [[]] := rfl
      have hending : endingOf [name.toList] = .name := @endingOf_append [] name h
      simp only [ofText, String.empty_append, hparts, hnil, hlast, hending]
      simp [hhead, step?]
    · -- the slash at the end of the directory is the one in front of the name
      obtain ⟨front, hfront⟩ := List.getLast?_eq_some_iff.mp (by simpa using hslash)
      have htext : (directory ++ name).toList = front ++ '/' :: name.toList := by
        rw [String.toList_append, hfront, List.append_assoc, List.singleton_append]
      have hsplit : splitAt '/' directory.toList = splitAt '/' front ++ [[]] := by
        rw [hfront, splitAt_append]
        rfl
      have hnil : [([] : List Char)].filterMap step? = [] := rfl
      have hfirst : (front ++ '/' :: name.toList).head? = directory.toList.head? := by
        rw [hfront]
        cases front <;> rfl
      simp only [ofText, htext, hjoined, hsplit, hfirst, endingOf_append h, List.filterMap_append,
        hlast, hnil, List.append_nil]
  · rw [Bool.or_eq_true, not_or] at hdirectory
    have htext : (directory ++ "/" ++ name).toList = directory.toList ++ '/' :: name.toList := by
      simp
    have hne : directory.toList ≠ [] := by simpa using hdirectory.1
    simp only [ofText, htext, hjoined, endingOf_append h, List.filterMap_append, hlast]
    rw [List.head?_append_of_ne_nil _ hne]

/-- The temporary file of a name in a directory. -/
lemma temporary_joinPath (directory : String) {name : String} (h : IsFileName name) :
    (ofText (joinPath directory name)).temporary
      = { absolute := (ofText directory).absolute
          steps := (ofText directory).steps ++ [.down (name ++ ".tmp")]
          ending := .name } := by
  rw [ofText_joinPath directory h, temporary]
  simp

end Path

/-! ## Places -/

namespace Disk

/-- Where a path leads, if every step on the way can be taken. -/
def place (disk : Disk) (path : Path) : Location :=
  path.steps.foldl stepFrom (disk.start path)

/-- What is at a path. -/
def entryAt (disk : Disk) (path : Path) : Option Entry := disk.get? (disk.place path)

/-- The locations that a way goes through behind its start. -/
def way (location : Location) : List Step → List Location
  | [] => []
  | step :: rest => stepFrom location step :: way (stepFrom location step) rest

variable {disk : Disk}

lemma requireDirectory_eq_ok {location : Location} :
    disk.requireDirectory location = .ok () ↔ disk.get? location = some .directory := by
  rw [requireDirectory]
  split <;> simp_all

lemma walk_append (location : Location) (front rest : List Step) :
    disk.walk location (front ++ rest)
      = disk.walk location front >>= fun found => disk.walk found rest := by
  induction front generalizing location with
  | nil => rfl
  | cons step front ih =>
      rw [List.cons_append, walk, walk]
      cases disk.requireDirectory location with
      | error failure => rfl
      | ok _ => exact ih _

lemma walk_eq_ok {location found : Location} {steps : List Step}
    (h : disk.walk location steps = .ok found) :
    found = steps.foldl stepFrom location := by
  induction steps generalizing location with
  | nil => exact (Except.ok.inj h).symm
  | cons step rest ih =>
      rw [walk] at h
      cases hd : disk.requireDirectory location with
      | error failure =>
          rw [hd] at h
          cases h
      | ok _ =>
          rw [hd] at h
          exact ih h

/-- A way through directories can be walked, and leads to a directory. -/
lemma walk_of_way {location : Location} {steps : List Step}
    (hstart : disk.get? location = some .directory)
    (hway : ∀ found ∈ way location steps, disk.get? found = some .directory) :
    disk.walk location steps = .ok (steps.foldl stepFrom location)
      ∧ disk.get? (steps.foldl stepFrom location) = some .directory := by
  induction steps generalizing location with
  | nil => exact ⟨rfl, hstart⟩
  | cons step rest ih =>
      rw [way, List.forall_mem_cons] at hway
      rw [walk, requireDirectory_eq_ok.mpr hstart, List.foldl_cons]
      exact ih hway.1 hway.2

/-- A path leads to a directory. -/
structure Opens (disk : Disk) (path : Path) : Prop where
  walked : disk.walk (disk.start path) path.steps = .ok (disk.place path)
  isDirectory : disk.get? (disk.place path) = some .directory

/-- The way of a step down from an open directory. -/
lemma Opens.walk_down {path : Path} (h : disk.Opens path) (name : String) :
    disk.walk (disk.start path) (path.steps ++ [.down name]) = .ok (disk.place path ++ [name]) := by
  rw [walk_append, h.walked]
  change disk.walk (disk.place path) [.down name] = _
  rw [walk, requireDirectory_eq_ok.mpr h.isDirectory]
  rfl

section Joined

variable {directory name : String}

lemma place_joinPath (h : IsFileName name) :
    disk.place (.ofText (joinPath directory name)) = disk.place (.ofText directory) ++ [name] := by
  rw [place, Path.ofText_joinPath directory h, List.foldl_append]
  rfl

lemma place_temporary (h : IsFileName name) :
    disk.place (Path.ofText (joinPath directory name)).temporary
      = disk.place (.ofText directory) ++ [name ++ ".tmp"] := by
  rw [place, Path.temporary_joinPath directory h, List.foldl_append]
  rfl

lemma Opens.locate_joinPath (hopen : disk.Opens (.ofText directory)) (h : IsFileName name) :
    disk.locate (.ofText (joinPath directory name))
      = .ok (disk.place (.ofText directory) ++ [name]) := by
  rw [locate, Path.ofText_joinPath directory h, if_neg (by simp)]
  exact hopen.walk_down name

lemma Opens.locate_temporary (hopen : disk.Opens (.ofText directory)) (h : IsFileName name) :
    disk.locate (Path.ofText (joinPath directory name)).temporary
      = .ok (disk.place (.ofText directory) ++ [name ++ ".tmp"]) := by
  rw [locate, Path.temporary_joinPath directory h, if_neg (by simp)]
  exact hopen.walk_down (name ++ ".tmp")

end Joined

/-! ## Disks that keep their directories -/

lemma start_of_here {other : Disk} (h : other.here = disk.here) (path : Path) :
    other.start path = disk.start path := by
  rw [start, start, h]

lemma place_of_here {other : Disk} (h : other.here = disk.here) (path : Path) :
    other.place path = disk.place path := by
  rw [place, place, start_of_here h]

/-- Every directory of a disk is one of another disk, and relative paths start at the same place. -/
structure KeepsDirectories (disk other : Disk) : Prop where
  here : other.here = disk.here
  kept : ∀ location, disk.get? location = some .directory → other.get? location = some .directory

namespace KeepsDirectories

variable {other third : Disk}

lemma refl (disk : Disk) : disk.KeepsDirectories disk := ⟨rfl, fun _ h => h⟩

lemma trans (h : disk.KeepsDirectories other) (hthird : other.KeepsDirectories third) :
    disk.KeepsDirectories third :=
  ⟨hthird.here.trans h.here, fun location hl => hthird.kept location (h.kept location hl)⟩

lemma start (h : disk.KeepsDirectories other) (path : Path) : other.start path = disk.start path :=
  start_of_here h.here path

lemma place (h : disk.KeepsDirectories other) (path : Path) : other.place path = disk.place path :=
  place_of_here h.here path

lemma walk (h : disk.KeepsDirectories other) {location found : Location} {steps : List Step}
    (hwalk : disk.walk location steps = .ok found) : other.walk location steps = .ok found := by
  induction steps generalizing location with
  | nil => exact hwalk
  | cons step rest ih =>
      rw [Disk.walk] at hwalk ⊢
      cases hd : disk.requireDirectory location with
      | error failure =>
          rw [hd] at hwalk
          cases hwalk
      | ok _ =>
          rw [hd] at hwalk
          rw [requireDirectory_eq_ok.mpr (h.kept _ (requireDirectory_eq_ok.mp hd))]
          exact ih hwalk

/-- What is open stays open. -/
lemma opens (h : disk.KeepsDirectories other) {path : Path} (hopen : disk.Opens path) :
    other.Opens path := by
  constructor
  · rw [h.start, h.place]
    exact h.walk hopen.walked
  · rw [h.place]
    exact h.kept _ hopen.isDirectory

end KeepsDirectories

end Disk

end Componentry
