import Mathlib.Data.List.Sort
import Componentry.Proofs.Project.Places

/-!
# What a directory lists

A listing is read off the entries of a disk, whose order says nothing.  `mem_children` says what is
listed in terms of `Disk.get?`, and `pairwise_fileNames` that it is listed by name.  So two disks
list the same files with an extension as soon as they agree on which of these are files
(`fileNames_congr`): a listing depends on nothing else.

The two listings of a build come to this: the sources (`sourceNames_eq_ok`), and the components
whose output is there (`registeredComponents_congr`).
-/

namespace Componentry

namespace Disk

variable {disk other : Disk} {home : Location}

lemma get?_eq_some_iff {location : Location} {entry : Entry} (hroot : location ≠ []) :
    disk.get? location = some entry ↔ (location, entry) ∈ disk.entries := by
  rw [get?, if_neg hroot]
  constructor
  · intro h
    obtain ⟨front, rest, hentries, -⟩ := List.lookup_eq_some_iff.mp h
    rw [hentries]
    exact List.mem_append_right front List.mem_cons_self
  · intro h
    obtain ⟨front, rest, hentries⟩ := List.append_of_mem h
    refine List.lookup_eq_some_iff.mpr ⟨front, rest, hentries, fun found hfound => ?_⟩
    -- another entry for the location in front of this one would be a second one
    have hdistinct := disk.distinct
    rw [hentries, List.map_append, List.nodup_append'] at hdistinct
    simp only [bne_iff_ne, ne_eq]
    intro heq
    refine hdistinct.2.2 (List.mem_map_of_mem hfound) ?_
    rw [← heq]
    exact List.mem_cons_self

lemma nameIn?_eq_some_iff {location : Location} {name : String} :
    nameIn? home location = some name ↔ location = home ++ [name] := by
  rw [nameIn?]
  constructor
  · intro h
    split at h
    · next last hlast =>
        split_ifs at h with hhome
        obtain ⟨front, hfront⟩ := List.getLast?_eq_some_iff.mp hlast
        rw [hfront, List.dropLast_concat] at hhome
        rw [hfront, hhome, Option.some.inj h]
    · cases h
  · rintro rfl
    simp

/-- What is listed is what is there. -/
lemma mem_children {name : String} {entry : Entry} :
    (name, entry) ∈ disk.children home ↔ disk.get? (home ++ [name]) = some entry := by
  rw [children, List.mem_mergeSort, List.mem_filterMap, get?_eq_some_iff (by simp)]
  constructor
  · rintro ⟨⟨location, found⟩, hmem, hfound⟩
    obtain ⟨last, hlast, heq⟩ := Option.map_eq_some_iff.mp hfound
    obtain ⟨rfl, rfl⟩ := Prod.mk.inj heq
    rwa [nameIn?_eq_some_iff.mp hlast] at hmem
  · intro h
    exact ⟨_, h, by simp [nameIn?_eq_some_iff.mpr rfl]⟩

/-- No name is listed twice. -/
lemma nodup_children (disk : Disk) (home : Location) :
    ((disk.children home).map Prod.fst).Nodup := by
  have hnames : ((disk.entries.map Prod.fst).filterMap (nameIn? home)).Nodup := by
    refine disk.distinct.filterMap fun location found name hname hfound => ?_
    rw [nameIn?_eq_some_iff.mp hname, nameIn?_eq_some_iff.mp hfound]
  rw [children, ((List.mergeSort_perm _ _).map Prod.fst).nodup_iff, List.map_filterMap]
  rw [List.filterMap_map] at hnames
  refine (List.filterMap_congr fun entry _ => ?_) ▸ hnames
  obtain ⟨location, content⟩ := entry
  dsimp only [Function.comp_apply]
  cases nameIn? home location <;> rfl

/-- Listings are ordered by name. -/
lemma pairwise_children (disk : Disk) (home : Location) :
    (disk.children home).Pairwise fun a b => a.1 < b.1 := by
  have hsorted : (disk.children home).Pairwise fun a b => (!(b.1 < a.1)) = true := by
    refine List.pairwise_mergeSort (fun a b c hab hbc => ?_) (fun a b => ?_) _
    · simp only [Bool.not_eq_true', decide_eq_false_iff_not, String.not_lt] at hab hbc ⊢
      exact String.le_trans hab hbc
    · simp only [Bool.or_eq_true, Bool.not_eq_true', decide_eq_false_iff_not, String.not_lt]
      exact String.le_total a.1 b.1
  have hne : (disk.children home).Pairwise fun a b => a.1 ≠ b.1 := by
    rw [← List.pairwise_map]
    exact nodup_children disk home
  refine hsorted.imp₂ (fun a b hle hab => ?_) hne
  simp only [Bool.not_eq_true', decide_eq_false_iff_not, String.not_lt] at hle
  exact Classical.byContradiction fun hlt => hab (String.le_antisymm hle (String.not_lt.mp hlt))

end Disk

/-! ## Files with an extension -/

section Files

variable {disk other : Disk} {home : Location} {extension : String}

lemma mem_fileNames {name : String} :
    name ∈ fileNames extension (disk.children home)
      ↔ hasExtension extension name = true
        ∧ ∃ content, disk.get? (home ++ [name]) = some (.file content) := by
  rw [fileNames, List.mem_map]
  constructor
  · rintro ⟨⟨found, entry⟩, hmem, rfl⟩
    rw [List.mem_filter, Bool.and_eq_true] at hmem
    obtain ⟨hmem, hfile, hextension⟩ := hmem
    cases entry with
    | directory => cases hfile
    | file content => exact ⟨hextension, content, Disk.mem_children.mp hmem⟩
  · rintro ⟨hextension, content, hget⟩
    refine ⟨(name, .file content), List.mem_filter.mpr ⟨Disk.mem_children.mpr hget, ?_⟩, rfl⟩
    simp [Entry.isFile, hextension]

/-- Files are listed by name, and each once. -/
lemma pairwise_fileNames (extension : String) (disk : Disk) (home : Location) :
    (fileNames extension (disk.children home)).Pairwise (· < ·) := by
  rw [fileNames, List.pairwise_map]
  exact (Disk.pairwise_children disk home).filter _

lemma nodup_fileNames (extension : String) (disk : Disk) (home : Location) :
    (fileNames extension (disk.children home)).Nodup := by
  refine (pairwise_fileNames extension disk home).imp fun {a b} hlt heq => ?_
  rw [heq] at hlt
  exact String.lt_irrefl b hlt

/-- **A listing depends on which locations are files, and on nothing else.** -/
theorem fileNames_congr
    (h : ∀ name, hasExtension extension name = true →
      ((∃ content, disk.get? (home ++ [name]) = some (.file content))
        ↔ ∃ content, other.get? (home ++ [name]) = some (.file content))) :
    fileNames extension (disk.children home) = fileNames extension (other.children home) := by
  have : Std.Antisymm (α := String) (· < ·) := ⟨fun a b hab hba => absurd hba (String.lt_asymm hab)⟩
  have : Std.Irrefl (α := String) (· < ·) := ⟨String.lt_irrefl⟩
  refine (pairwise_fileNames extension disk home).eq_of_mem_iff
    (pairwise_fileNames extension other home) ?_
  intro name
  rw [mem_fileNames, mem_fileNames]
  exact and_congr_right fun hextension => h name hextension

end Files

/-! ## The listings of a build -/

section Build

variable {disk other : Disk} {layout : Layout}

/-- An open directory is listed, unless its path is empty. -/
lemma list_of_opens {path : Path} (hopen : disk.Opens path) :
    disk.list path
      = if path.ending = .nowhere then .error .missing
        else .ok (disk.children (disk.place path)) := by
  rw [Disk.list, Disk.locate, hopen.walked]
  split_ifs
  · rfl
  · change (disk.requireDirectory (disk.place path) >>= fun _ => _) = _
    rw [Disk.requireDirectory_eq_ok.mpr hopen.isDirectory]
    rfl

lemma look_eq_directory {path : Path} :
    disk.look path = .ok .directory ↔ path.ending ≠ .nowhere ∧ disk.Opens path := by
  rw [Disk.look, Disk.locate]
  constructor
  · intro h
    split_ifs at h with hnowhere
    · cases h
    cases hwalk : disk.walk (disk.start path) path.steps with
    | error failure =>
        rw [hwalk] at h
        cases h
    | ok location =>
        obtain rfl : location = disk.place path := Disk.walk_eq_ok hwalk
        rw [hwalk] at h
        refine ⟨hnowhere, hwalk, ?_⟩
        -- a file is no directory, whatever the path ends in
        rcases hget : disk.get? (disk.place path) with _ | _ | content
        · simp [bind, Except.bind, hget] at h
        · rfl
        · cases hending : path.ending <;> simp [bind, Except.bind, hget, hending] at h
  · rintro ⟨hending, hopen⟩
    rw [if_neg hending, hopen.walked]
    simp [bind, Except.bind, hopen.isDirectory]

lemma isDirectory_iff {path : Path} :
    disk.isDirectory path = true ↔ path.ending ≠ .nowhere ∧ disk.Opens path := by
  rw [← look_eq_directory, Disk.isDirectory]
  rcases disk.look path with _ | _ | _ <;> simp

/-- When there are sources, and which. -/
lemma sourceNames_eq_ok {names : List String} :
    sourceNames disk layout = .ok names
      ↔ (Path.ofText layout.sourceDirectory).ending ≠ .nowhere
        ∧ disk.Opens (.ofText layout.sourceDirectory)
        ∧ names = fileNames layout.sourceExtension
          (disk.children (disk.place (.ofText layout.sourceDirectory))) := by
  rw [sourceNames]
  constructor
  · intro h
    split_ifs at h with hdirectory
    obtain ⟨hending, hopen⟩ := isDirectory_iff.mp hdirectory
    rw [list_of_opens hopen, if_neg hending] at h
    exact ⟨hending, hopen, (Except.ok.inj h).symm⟩
  · rintro ⟨hending, hopen, rfl⟩
    rw [if_pos (isDirectory_iff.mpr ⟨hending, hopen⟩), list_of_opens hopen, if_neg hending]

lemma mem_sourceNames {names : List String} (h : sourceNames disk layout = .ok names)
    {name : String} :
    name ∈ names ↔ hasExtension layout.sourceExtension name = true ∧ ∃ content,
      disk.get? (disk.place (.ofText layout.sourceDirectory) ++ [name]) = some (.file content) := by
  rw [(sourceNames_eq_ok.mp h).2.2, mem_fileNames]

lemma nodup_sourceNames {names : List String} (h : sourceNames disk layout = .ok names) :
    names.Nodup := by
  rw [(sourceNames_eq_ok.mp h).2.2]
  exact nodup_fileNames ..

/-- The components that are listed depend on the outputs that are there. -/
lemma registeredComponents_congr (hopen : disk.Opens (.ofText layout.outputDirectory))
    (hkeeps : disk.KeepsDirectories other) (excluded : List String)
    (h : ∀ name, hasExtension layout.outputExtension name = true →
      other.get? (disk.place (.ofText layout.outputDirectory) ++ [name])
        = disk.get? (disk.place (.ofText layout.outputDirectory) ++ [name])) :
    registeredComponents other layout excluded = registeredComponents disk layout excluded := by
  have hnames : fileNames layout.outputExtension
      (other.children (disk.place (.ofText layout.outputDirectory)))
      = fileNames layout.outputExtension
        (disk.children (disk.place (.ofText layout.outputDirectory))) :=
    fileNames_congr fun name hname => by rw [h name hname]
  rw [registeredComponents, registeredComponents, list_of_opens hopen,
    list_of_opens (hkeeps.opens hopen), hkeeps.place]
  split_ifs
  · rfl
  · change Except.ok _ = Except.ok _
    rw [hnames]

end Build

end Componentry
