import Mathlib.Data.List.Basic
import Componentry.Proofs.Project.Places

/-!
# What a write changes

A file is replaced by way of a temporary file, so a write looks at two locations and changes at most
these two. `Slot` is what is at both, and `Slot.write` says what a write makes of them.
`replaceText_slot` ties it to the disk: in an open directory the outcome is that of the slot, and
everything outside of the slot is as it was (`Disk.Refills`).  So what a write does to a disk never
has to be looked at again.

**Making directories.**  `makeWay` puts directories where nothing was, on the way only
(`makeWay_changed`); if it succeeds, all of the way is there (`makeWay_ok`), and nothing is left to
be made (`makeWay_of_way`).
-/

namespace Componentry

/-! ## Making directories -/

namespace Disk

lemma keepsDirectories_put {disk : Disk} {location : Location} {entry : Entry}
    (h : disk.get? location ≠ some .directory) :
    disk.KeepsDirectories (disk.put location entry) := by
  refine ⟨rfl, fun found hfound => ?_⟩
  rw [get?_put]
  split_ifs with hroot hl
  · rfl
  · exact absurd (hl ▸ hfound) h
  · exact hfound

/-- What one step can do: go on from a directory that is there, stop, or go on from a new one. -/
lemma makeWay_cases (disk : Disk) (location : Location) (made dotted : Bool) (step : Step)
    (rest : List Step) :
    (disk.get? (stepFrom location step) = some .directory
      ∧ disk.makeWay location made dotted (step :: rest)
        = disk.makeWay (stepFrom location step) made dotted rest)
      ∨ (∃ failure, disk.makeWay location made dotted (step :: rest) = (.error failure, disk))
      ∨ (disk.get? (stepFrom location step) = none
        ∧ disk.makeWay location made dotted (step :: rest)
        = (disk.put (stepFrom location step) .directory).makeWay (stepFrom location step) true
          dotted rest) := by
  rw [makeWay]
  cases hget : disk.get? (stepFrom location step) with
  | none =>
      by_cases hlast : (rest.isEmpty && dotted) = true
      · exact .inr (.inl ⟨.missing, if_pos hlast⟩)
      · exact .inr (.inr ⟨rfl, if_neg hlast⟩)
  | some entry =>
      cases entry with
      | directory => exact .inl ⟨rfl, rfl⟩
      | file content => exact .inr (.inl ⟨_, rfl⟩)

/-- The directories that are made are put where nothing was. -/
lemma keepsDirectories_makeWay (disk : Disk) (location : Location) (made dotted : Bool)
    (steps : List Step) :
    disk.KeepsDirectories (disk.makeWay location made dotted steps).2 := by
  induction steps generalizing disk location made with
  | nil => exact .refl disk
  | cons step rest ih =>
      rcases makeWay_cases disk location made dotted step rest with
        ⟨-, h⟩ | ⟨failure, h⟩ | ⟨hnone, h⟩
      · rw [h]
        exact ih ..
      · rw [h]
        exact .refl disk
      · rw [h]
        exact (keepsDirectories_put (by simp [hnone])).trans (ih ..)

lemma get?_put_self {disk : Disk} {location : Location} (hnone : disk.get? location = none)
    (entry : Entry) :
    (disk.put location entry).get? location = some entry := by
  have hroot : location ≠ [] := by
    rintro rfl
    cases hnone
  rw [get?_put, if_neg hroot, if_pos rfl]

lemma get?_put_of_ne {disk : Disk} {location found : Location} (hne : found ≠ location)
    (entry : Entry) :
    (disk.put location entry).get? found = disk.get? found := by
  rw [get?_put, if_neg hne]
  split_ifs with hroot
  · rw [hroot]
    rfl
  · rfl

/-- What making directories changes: where nothing was, on the way, there is a directory. -/
lemma makeWay_changed {disk : Disk} {location found : Location} {made dotted : Bool}
    {steps : List Step}
    (hchanged : (disk.makeWay location made dotted steps).2.get? found ≠ disk.get? found) :
    found ∈ way location steps ∧ disk.get? found = none
      ∧ (disk.makeWay location made dotted steps).2.get? found = some .directory := by
  induction steps generalizing disk location made with
  | nil => exact absurd rfl hchanged
  | cons step rest ih =>
      rw [way, List.mem_cons]
      rcases makeWay_cases disk location made dotted step rest with
        ⟨-, h⟩ | ⟨failure, h⟩ | ⟨hnone, h⟩
      · rw [h] at hchanged ⊢
        exact ⟨.inr (ih hchanged).1, (ih hchanged).2⟩
      · rw [h] at hchanged
        exact absurd rfl hchanged
      · rw [h] at hchanged ⊢
        by_cases hfound : found = stepFrom location step
        · -- the directory made here stays
          subst hfound
          exact ⟨.inl rfl, hnone, (keepsDirectories_makeWay ..).kept _ (get?_put_self hnone _)⟩
        · have hput := @get?_put_of_ne disk _ _ hfound .directory
          rw [← hput] at hchanged
          obtain ⟨hmem, hbefore, hafter⟩ := ih hchanged
          exact ⟨.inr hmem, hput ▸ hbefore, hafter⟩

/-- If directories can be made, all of the way is there. -/
lemma makeWay_ok {disk : Disk} {location : Location} {made dotted : Bool} {steps : List Step}
    (hok : (disk.makeWay location made dotted steps).1 = .ok ()) :
    ∀ found ∈ way location steps,
      (disk.makeWay location made dotted steps).2.get? found = some .directory := by
  induction steps generalizing disk location made with
  | nil => exact fun found hfound => absurd hfound List.not_mem_nil
  | cons step rest ih =>
      rw [way, List.forall_mem_cons]
      rcases makeWay_cases disk location made dotted step rest with
        ⟨hthere, h⟩ | ⟨failure, h⟩ | ⟨hnone, h⟩
      · rw [h] at hok ⊢
        exact ⟨(keepsDirectories_makeWay ..).kept _ hthere, ih hok⟩
      · rw [h] at hok
        cases hok
      · rw [h] at hok ⊢
        exact ⟨(keepsDirectories_makeWay ..).kept _ (get?_put_self hnone _), ih hok⟩

/-- What a disk says after directories were made. -/
lemma get?_makeWay {disk : Disk} {location : Location} {made dotted : Bool} {steps : List Step}
    (hok : (disk.makeWay location made dotted steps).1 = .ok ()) (found : Location) :
    (disk.makeWay location made dotted steps).2.get? found
      = if found ∈ way location steps then some .directory else disk.get? found := by
  split_ifs with hway
  · exact makeWay_ok hok found hway
  · exact Classical.byContradiction fun hchanged => hway (makeWay_changed hchanged).1

/-- What was there stays. -/
lemma makeWay_kept {disk : Disk} {location found : Location} {made dotted : Bool}
    {steps : List Step} {entry : Entry} (h : disk.get? found = some entry) :
    (disk.makeWay location made dotted steps).2.get? found = some entry := by
  rw [← h]
  refine Classical.byContradiction fun hchanged => ?_
  rw [(makeWay_changed hchanged).2.1] at h
  cases h

/-- Nothing is made on a way that is there. -/
lemma makeWay_of_way {disk : Disk} {location : Location} (made dotted : Bool) {steps : List Step}
    (h : ∀ found ∈ way location steps, disk.get? found = some .directory) :
    disk.makeWay location made dotted steps = (.ok (), disk) := by
  induction steps generalizing location with
  | nil => rfl
  | cons step rest ih =>
      rw [way, List.forall_mem_cons] at h
      rw [makeWay, h.1]
      exact ih h.2

end Disk

/-! ## Slots -/

/-- What is at a file and at its temporary file. -/
structure Slot where
  target : Option Entry
  temporary : Option Entry
deriving DecidableEq

namespace Slot

/-- What a write makes of a slot.  A directory stands in the way in both places; the temporary file
does not stay. -/
def write (slot : Slot) (text : String) : Except Failure Unit × Slot :=
  if slot.temporary = some .directory then (.error .isDirectory, slot)
  else if slot.target = some .directory then (.error .isDirectory, ⟨slot.target, none⟩)
  else (.ok (), ⟨some (.file (.text text)), none⟩)

/-- The cases of a write. -/
lemma write_cases (slot : Slot) (text : String) :
    (slot.temporary = some .directory ∧ slot.write text = (.error .isDirectory, slot))
      ∨ (slot.temporary ≠ some .directory ∧ slot.target = some .directory
        ∧ slot.write text = (.error .isDirectory, ⟨some .directory, none⟩))
      ∨ (slot.temporary ≠ some .directory ∧ slot.target ≠ some .directory
        ∧ slot.write text = (.ok (), ⟨some (.file (.text text)), none⟩)) := by
  rw [write]
  split_ifs with htemporary htarget
  · exact .inl ⟨htemporary, rfl⟩
  · exact .inr (.inl ⟨htemporary, htarget, by rw [htarget]⟩)
  · exact .inr (.inr ⟨htemporary, htarget, rfl⟩)

/-- A second write finds what the first one left, and leaves it. -/
lemma write_write (slot : Slot) (text : String) :
    (slot.write text).2.write text = ((slot.write text).1, (slot.write text).2) := by
  rcases slot.write_cases text with ⟨htemporary, hwrite⟩ | ⟨-, -, hwrite⟩ | ⟨-, -, hwrite⟩
  · rw [hwrite, hwrite]
  · rw [hwrite]
    rfl
  · rw [hwrite]
    rfl

/-- The directories of a slot are still there. -/
def KeepsDirectories (slot after : Slot) : Prop :=
  (slot.target = some .directory → after.target = some .directory)
    ∧ (slot.temporary = some .directory → after.temporary = some .directory)

lemma KeepsDirectories.refl (slot : Slot) : slot.KeepsDirectories slot := ⟨id, id⟩

/-- Directories are not written over. -/
lemma keepsDirectories_write (slot : Slot) (text : String) :
    slot.KeepsDirectories (slot.write text).2 := by
  rcases slot.write_cases text with ⟨-, hwrite⟩ | ⟨htemporary, -, hwrite⟩ | ⟨htemporary, htarget, -⟩
  · rw [hwrite]
    exact .refl slot
  · rw [hwrite]
    exact ⟨fun _ => rfl, fun h => absurd h htemporary⟩
  · exact ⟨fun h => absurd h htarget, fun h => absurd h htemporary⟩

/-- Writes an output to a slot unless it is there. -/
def settle (slot : Slot) (text : String) : Status × Slot :=
  if slot.target = some (.file (.text text)) then (.unchanged, slot)
  else
    match slot.write text with
    | (.ok (), written) => (.compiled, written)
    | (.error failure, left) => (.failed ("failed to write output: " ++ failure.message), left)

/-- The cases of an output: it is there, it is written, or the slot keeps its target. -/
lemma settle_cases (slot : Slot) (text : String) :
    (slot.target = some (.file (.text text)) ∧ slot.settle text = (.unchanged, slot))
      ∨ (slot.target ≠ some .directory ∧ slot.temporary ≠ some .directory
        ∧ slot.settle text = (.compiled, ⟨some (.file (.text text)), none⟩))
      ∨ ∃ message, (slot.settle text).1 = .failed message
        ∧ (slot.settle text).2.target = slot.target
        ∧ ((slot.settle text).2.temporary = slot.temporary ∧ slot.temporary = some .directory
          ∨ (slot.settle text).2.temporary = none ∧ slot.temporary ≠ some .directory) := by
  rw [settle]
  split_ifs with hthere
  · exact .inl ⟨hthere, rfl⟩
  · rcases slot.write_cases text with ⟨htemporary, hwrite⟩ | ⟨htemporary, htarget, hwrite⟩
        | ⟨htemporary, htarget, hwrite⟩
    · rw [hwrite]
      exact .inr (.inr ⟨_, rfl, rfl, .inl ⟨rfl, htemporary⟩⟩)
    · rw [hwrite]
      exact .inr (.inr ⟨_, rfl, htarget.symm, .inr ⟨rfl, htemporary⟩⟩)
    · rw [hwrite]
      exact .inr (.inl ⟨htarget, htemporary, rfl⟩)

lemma keepsDirectories_settle (slot : Slot) (text : String) :
    slot.KeepsDirectories (slot.settle text).2 := by
  have hwrite := slot.keepsDirectories_write text
  rw [settle]
  split_ifs
  · exact .refl slot
  · generalize slot.write text = written at hwrite
    rcases written with ⟨_ | _, left⟩ <;> exact hwrite

end Slot

/-- The status of a file in a second run. -/
def Status.settled : Status → Status
  | .compiled => .unchanged
  | status => status

/-- An output that was settled once is there; an output that could not be written cannot be written
again. -/
lemma Slot.settle_settle (slot : Slot) (text : String) :
    (slot.settle text).2.settle text = ((slot.settle text).1.settled, (slot.settle text).2) := by
  by_cases hthere : slot.target = some (.file (.text text))
  · have hsettle : slot.settle text = (.unchanged, slot) := if_pos hthere
    rw [hsettle, hsettle]
    rfl
  · have hsettle : slot.settle text = match slot.write text with
        | (.ok (), written) => (.compiled, written)
        | (.error failure, left) =>
          (.failed ("failed to write output: " ++ failure.message), left) :=
      if_neg hthere
    rcases slot.write_cases text with ⟨htemporary, hwrite⟩ | ⟨-, -, hwrite⟩ | ⟨-, -, hwrite⟩
    · rw [hwrite] at hsettle
      rw [hsettle, hsettle]
      rfl
    · rw [hsettle, hwrite]
      rfl
    · rw [hsettle, hwrite]
      exact if_pos rfl

/-! ## Slots of a disk -/

namespace Disk

/-- The slot of a name in a directory. -/
def slot (disk : Disk) (home : Location) (name : String) : Slot :=
  ⟨disk.get? (home ++ [name]), disk.get? (home ++ [name ++ ".tmp"])⟩

/-- A disk holds what another one held, but in one slot. -/
structure Refills (disk : Disk) (home : Location) (name : String) (slot : Slot) (after : Disk) :
    Prop where
  here : after.here = disk.here
  filled : after.slot home name = slot
  others : ∀ location, location ≠ home ++ [name] → location ≠ home ++ [name ++ ".tmp"] →
    after.get? location = disk.get? location

lemma name_ne_temporary (name : String) : name ≠ name ++ ".tmp" := by
  intro h
  have hlength := congrArg (fun text => text.toList.length) h
  simp at hlength

lemma target_ne_temporary (home : Location) (name : String) :
    home ++ [name] ≠ home ++ [name ++ ".tmp"] := by
  simpa using name_ne_temporary name

variable {disk after : Disk} {home : Location} {name : String} {slot : Slot}

/-- A disk fills its own slots. -/
lemma refills_self (disk : Disk) (home : Location) (name : String) :
    disk.Refills home name (disk.slot home name) disk :=
  ⟨rfl, rfl, fun _ _ _ => rfl⟩

/-- Slots that do not meet do not change each other. -/
lemma Refills.slot_of_ne (h : disk.Refills home name slot after) {found : String}
    (hne : found ≠ name) (htemporary : found ≠ name ++ ".tmp") (hfound : found ++ ".tmp" ≠ name) :
    after.slot home found = disk.slot home found := by
  have happend : found ++ ".tmp" ≠ name ++ ".tmp" := by
    simpa [← String.toList_inj] using hne
  refine congrArg₂ Slot.mk (h.others _ ?_ ?_) (h.others _ ?_ ?_) <;> simpa

/-- What is at a location once a slot was filled. -/
lemma Refills.cases (h : disk.Refills home name slot after) (location : Location) :
    (location = home ++ [name] ∧ after.get? location = slot.target)
      ∨ (location = home ++ [name ++ ".tmp"] ∧ after.get? location = slot.temporary)
      ∨ after.get? location = disk.get? location := by
  have htarget : after.get? (home ++ [name]) = slot.target := congrArg Slot.target h.filled
  have htemporary : after.get? (home ++ [name ++ ".tmp"]) = slot.temporary :=
    congrArg Slot.temporary h.filled
  by_cases hname : location = home ++ [name]
  · exact .inl ⟨hname, hname ▸ htarget⟩
  · by_cases htmp : location = home ++ [name ++ ".tmp"]
    · exact .inr (.inl ⟨htmp, htmp ▸ htemporary⟩)
    · exact .inr (.inr (h.others location hname htmp))

/-- Filling a slot with what is in it changes nothing. -/
lemma Refills.unchanged (h : disk.Refills home name (disk.slot home name) after)
    (location : Location) :
    after.get? location = disk.get? location := by
  rcases h.cases location with ⟨rfl, hget⟩ | ⟨rfl, hget⟩ | hget <;> exact hget

lemma Refills.keepsDirectories (h : disk.Refills home name slot after)
    (hslot : (disk.slot home name).KeepsDirectories slot) : disk.KeepsDirectories after := by
  refine ⟨h.here, fun location hl => ?_⟩
  rcases h.cases location with ⟨rfl, hget⟩ | ⟨rfl, hget⟩ | hget
  · exact hget.trans (hslot.1 hl)
  · exact hget.trans (hslot.2 hl)
  · exact hget.trans hl

variable {directory : String}

lemma writeText_temporary (hopen : disk.Opens (.ofText directory)) (hname : IsFileName name)
    (text : String) :
    disk.writeText (Path.ofText (joinPath directory name)).temporary text
      = if disk.get? (disk.place (.ofText directory) ++ [name ++ ".tmp"]) = some .directory
        then .error .isDirectory
        else .ok (disk.put (disk.place (.ofText directory) ++ [name ++ ".tmp"])
          (.file (.text text))) := by
  rw [writeText, hopen.locate_temporary hname]
  rcases hget : disk.get? (disk.place (.ofText directory) ++ [name ++ ".tmp"]) with _ | _ | _
  all_goals
    simp only [bind, Except.bind, hget]
    rfl

lemma moveTarget_slot (hopen : disk.Opens (.ofText directory)) (hname : IsFileName name) :
    disk.moveTarget (.ofText (joinPath directory name))
      = if disk.get? (disk.place (.ofText directory) ++ [name]) = some .directory
        then .error .isDirectory else .ok (disk.place (.ofText directory) ++ [name]) := by
  rw [moveTarget, hopen.locate_joinPath hname, Path.ofText_joinPath directory hname]
  rcases hget : disk.get? (disk.place (.ofText directory) ++ [name]) with _ | _ | _
  all_goals
    simp only [bind, Except.bind, hget, List.getLast?_concat]
    rfl

/-- A file that was put and erased leaves nothing. -/
lemma get?_erase_put {location : Location} (hroot : location ≠ []) (entry : Entry)
    (found : Location) :
    ((disk.put location entry).erase location).get? found
      = if found = location then none else disk.get? found := by
  rw [get?_erase]
  by_cases hl : found = location
  · rw [if_neg (hl ▸ hroot), if_pos hl, if_pos hl]
  · rw [if_neg hl, if_neg hl, get?_put_of_ne hl]
    split_ifs with hfound
    · rw [hfound]
      rfl
    · rfl

/-- **The outcome of a write in an open directory is that of its slot**, and nothing else
changes. -/
theorem replaceText_slot (hopen : disk.Opens (.ofText directory)) (hname : IsFileName name)
    (text : String) :
    (disk.replaceText (.ofText (joinPath directory name)) text).1
        = ((disk.slot (disk.place (.ofText directory)) name).write text).1
      ∧ disk.Refills (disk.place (.ofText directory)) name
        ((disk.slot (disk.place (.ofText directory)) name).write text).2
        (disk.replaceText (.ofText (joinPath directory name)) text).2 := by
  have hwrite := writeText_temporary hopen hname text
  have hlocate := hopen.locate_temporary hname
  have hnil : disk.place (.ofText directory) ++ [name ++ ".tmp"] ≠ [] := by simp
  have hne := target_ne_temporary (disk.place (.ofText directory)) name
  rcases (disk.slot (disk.place (.ofText directory)) name).write_cases text with
    ⟨htemporary, hslot⟩ | ⟨htemporary, htarget, hslot⟩ | ⟨htemporary, htarget, hslot⟩
  · -- nothing can be written in place of a directory
    rw [hslot, replaceText, hwrite.trans (if_pos htemporary)]
    exact ⟨rfl, refills_self ..⟩
  all_goals
    -- the temporary file is no directory, so the way to the target is as it was
    have hkeeps := @keepsDirectories_put disk _ (.file (.text text)) htemporary
    have hmove := moveTarget_slot (hkeeps.opens hopen) hname
    rw [hkeeps.place, get?_put_of_ne hne] at hmove
  · rw [hslot, replaceText, hwrite.trans (if_neg htemporary), hlocate]
    simp only [hmove.trans (if_pos htarget)]
    refine ⟨trivial, rfl, ?_, fun location _ hl => ?_⟩
    · rw [slot, get?_erase_put hnil, get?_erase_put hnil, if_neg hne, if_pos rfl]
      exact congrArg₂ Slot.mk htarget rfl
    · rw [get?_erase_put hnil, if_neg hl]
  · rw [hslot, replaceText, hwrite.trans (if_neg htemporary), hlocate]
    simp only [hmove.trans (if_neg htarget)]
    refine ⟨trivial, rfl, ?_, fun location hl htmp => ?_⟩
    · rw [slot, get?_put, if_neg (by simp), if_pos rfl, get?_put_of_ne hne.symm,
        get?_erase_put hnil, if_pos rfl]
    · rw [get?_put_of_ne hl, get?_erase_put hnil, if_neg htmp]

/-! ## Reading and settling -/

/-- The text of what is at a location. -/
def readEntry : Option Entry → Except Failure String
  | none => .error .missing
  | some .directory => .error .isDirectory
  | some (.file (.text value)) => .ok value
  | some (.file (.binary _)) => .error .notText

/-- A file in an open directory is read at its location. -/
lemma readText_slot (hopen : disk.Opens (.ofText directory)) (hname : IsFileName name) :
    disk.readText (.ofText (joinPath directory name))
      = readEntry (disk.get? (disk.place (.ofText directory) ++ [name])) := by
  rw [readText, look, hopen.locate_joinPath hname, Path.ofText_joinPath directory hname]
  rcases hget : disk.get? (disk.place (.ofText directory) ++ [name]) with _ | _ | _ | _
  all_goals
    simp only [bind, Except.bind, hget]
    rfl

lemma isUpToDate_slot (hopen : disk.Opens (.ofText directory)) (hname : IsFileName name)
    (text : String) :
    isUpToDate disk (.ofText (joinPath directory name)) text = true
      ↔ (disk.slot (disk.place (.ofText directory)) name).target = some (.file (.text text)) := by
  rw [isUpToDate, readText_slot hopen hname, slot]
  rcases disk.get? (disk.place (.ofText directory) ++ [name]) with
    _ | _ | _ | _ <;> simp [readEntry]

/-- **The outcome of an output in an open directory is that of its slot**, and nothing else
changes. -/
theorem writeOutput_slot (hopen : disk.Opens (.ofText directory)) (hname : IsFileName name)
    (text : String) :
    (writeOutput disk (joinPath directory name) text).1
        = ((disk.slot (disk.place (.ofText directory)) name).settle text).1
      ∧ disk.Refills (disk.place (.ofText directory)) name
        ((disk.slot (disk.place (.ofText directory)) name).settle text).2
        (writeOutput disk (joinPath directory name) text).2 := by
  have huptodate := isUpToDate_slot hopen hname text
  rw [writeOutput, Slot.settle]
  by_cases hthere : (disk.slot (disk.place (.ofText directory)) name).target
    = some (.file (.text text))
  · rw [if_pos hthere, if_pos (huptodate.mpr hthere)]
    exact ⟨rfl, refills_self ..⟩
  · rw [if_neg hthere, if_neg (mt huptodate.mp hthere)]
    obtain ⟨hresult, hrefills⟩ := replaceText_slot hopen hname text
    generalize disk.replaceText (.ofText (joinPath directory name)) text
      = replaced at hresult hrefills
    generalize (disk.slot (disk.place (.ofText directory)) name).write text
      = written at hresult hrefills
    obtain ⟨result, after⟩ := replaced
    obtain ⟨_, slot⟩ := written
    obtain rfl : result = _ := hresult
    cases result with
    | ok _ => exact ⟨rfl, hrefills⟩
    | error failure => exact ⟨rfl, hrefills⟩

end Disk

end Componentry
