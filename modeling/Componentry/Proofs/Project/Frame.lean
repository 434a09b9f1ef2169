import Componentry.Command.Run
import Componentry.Proofs.Project.Stages

/-!
# What a run changes

`Touched` lists the places that a build may change, each with what is there afterwards: a directory
on the way to the outputs, the output of a source that compiles, the registry, and the temporary
files of these two, which are gone.  Every stage of a build changes such places only, and so does
the build as a whole (`Stages.touched`).  The rest of `BuildFrame` follows from it and from names:
no place on the list has the name of a source, and no file on it has the name of a temporary file.

**Ancestors.**  The way to the outputs is that of the text of their path.  In `a/b/../c` it goes
through `a/b`, which is made if it is not there.

`run_frame` is about the commands themselves.  A check and a dump change nothing, whatever happens.
-/

namespace Componentry

/-- The places that a build may change, with what is there afterwards. -/
inductive Touched (settings : Settings) (disk : Disk) : Location → Option Entry → Prop
  /-- A new directory on the way to the outputs. -/
  | made {location : Location}
      (hway : location ∈ Disk.way (disk.start (.ofText settings.layout.outputDirectory))
        (Path.ofText settings.layout.outputDirectory).steps)
      (hnew : disk.get? location = none) : Touched settings disk location (some .directory)
  /-- The output of a source that compiles. -/
  | output {names : List String} {name : String} {compiled : Reported Module}
      (hsources : sourceNames disk settings.layout = .ok names) (hmem : name ∈ names)
      (hcompile : compileFile disk (joinPath settings.layout.sourceDirectory name) (stemOf name)
        settings.options = .ok compiled) :
      Touched settings disk (disk.place (.ofText (outputPath settings.layout (stemOf name))))
        (some (.file (.text compiled.value.text)))
  /-- Its temporary file, which is gone. -/
  | outputTemporary {names : List String} {name : String} {compiled : Reported Module}
      (hsources : sourceNames disk settings.layout = .ok names) (hmem : name ∈ names)
      (hcompile : compileFile disk (joinPath settings.layout.sourceDirectory name) (stemOf name)
        settings.options = .ok compiled) :
      Touched settings disk
        (disk.place (Path.ofText (outputPath settings.layout (stemOf name))).temporary) none
  | registry (components : List String) :
      Touched settings disk (disk.place (.ofText (registryPath settings.layout)))
        (some (.file (.text (registryText components settings.layout.outputExtension))))
  | registryTemporary :
      Touched settings disk (disk.place (Path.ofText (registryPath settings.layout)).temporary) none

/-- What a build does to a disk, and what it does not. -/
structure BuildFrame (settings : Settings) (disk : Disk) (result : Except BuildError BuildReport)
    (after : Disk) : Prop where
  /-- Only listed places change. -/
  touched : ∀ location, after.get? location ≠ disk.get? location →
    Touched settings disk location (after.get? location)
  /-- What has the name of a source is left alone, also in the directory of the outputs. -/
  sources : ∀ home name, hasExtension "speck" name = true → disk.get? (home ++ [name]) ≠ none →
    after.get? (home ++ [name]) = disk.get? (home ++ [name])
  /-- A source that does not compile keeps its former output. -/
  uncompiled : ∀ names name message, sourceNames disk settings.layout = .ok names → name ∈ names →
    compileFile disk (joinPath settings.layout.sourceDirectory name) (stemOf name) settings.options
      = .error message →
    ∀ entry, disk.entryAt (.ofText (outputPath settings.layout (stemOf name))) = some entry →
      after.entryAt (.ofText (outputPath settings.layout (stemOf name))) = some entry
  /-- So does any file that is reported to have failed, also one that could not be written. -/
  failed : ∀ report, result = .ok report → ∀ file ∈ report.files, file.status.isSuccess = false →
    ∀ entry, disk.entryAt (.ofText file.output) = some entry →
    after.entryAt (.ofText file.output) = some entry
  /-- A temporary file that is there was there before. -/
  temporaries : ∀ home name content, after.get? (home ++ [name ++ ".tmp"]) = some (.file content) →
    disk.get? (home ++ [name ++ ".tmp"]) = some (.file content)

variable {settings : Settings} {disk : Disk}

/-! ## The list of places -/

lemma touched_makeDirectories {location : Location}
    (h : (disk.makeDirectories (.ofText settings.layout.outputDirectory)).2.get? location
      ≠ disk.get? location) :
    Touched settings disk location
      ((disk.makeDirectories (.ofText settings.layout.outputDirectory)).2.get? location) := by
  obtain ⟨hway, hnew, hmade⟩ := Disk.makeWay_changed h
  rw [Disk.makeDirectories, hmade]
  exact .made hway hnew

namespace Touched

variable {location : Location} {entry : Option Entry}

/-- Places on the list are new directories, or told by their last letters. -/
lemma letter (hdefault : settings.layout.HasDefaultNames) (hdisk : disk.WellFormed)
    (h : Touched settings disk location entry) :
    (disk.get? location = none ∧ entry = some .directory) ∨ lastLetter location = some 'x'
      ∨ lastLetter location = some 's' ∨ (lastLetter location = some 'p' ∧ entry = none) := by
  cases h with
  | made hway hnew => exact .inl ⟨hnew, rfl⟩
  | output hsources hmem _ =>
      rw [place_output hdefault (hdisk.isSourceName hdefault hsources hmem)]
      exact .inr (.inl (by simp))
  | outputTemporary hsources hmem _ =>
      rw [place_output_temporary hdefault (hdisk.isSourceName hdefault hsources hmem)]
      exact .inr (.inr (.inr ⟨by simp, rfl⟩))
  | registry components =>
      rw [place_registry hdefault]
      exact .inr (.inr (.inl (by simp [hdefault.getLast?_registryFile])))
  | registryTemporary =>
      rw [place_registry_temporary hdefault]
      exact .inr (.inr (.inr ⟨by simp, rfl⟩))

/-- The output of a source is on the list if it is new, or if this source compiles. -/
lemma compiled (hdefault : settings.layout.HasDefaultNames) (hdisk : disk.WellFormed)
    {name : String} (hname : IsSourceName name) (h : Touched settings disk location entry)
    (hlocation : location = settings.outputHome disk ++ [outputName name]) :
    disk.get? location = none ∨ ∃ compiled, compileFile disk
      (joinPath settings.layout.sourceDirectory name) (stemOf name) settings.options
        = .ok compiled := by
  have hletter := congrArg lastLetter hlocation
  cases h with
  | made hway hnew => exact .inl hnew
  | @output names other compiled hsources hmem hcompile =>
      have hother := hdisk.isSourceName hdefault hsources hmem
      rw [place_output hdefault hother] at hlocation
      obtain rfl : other = name := hother.eq_of_outputName hname (by simpa using hlocation)
      exact .inr ⟨compiled, hcompile⟩
  | outputTemporary hsources hmem _ =>
      rw [place_output_temporary hdefault (hdisk.isSourceName hdefault hsources hmem)] at hletter
      simp at hletter
  | registry components =>
      rw [place_registry hdefault] at hletter
      simp [hdefault.getLast?_registryFile] at hletter
  | registryTemporary =>
      rw [place_registry_temporary hdefault] at hletter
      simp at hletter

end Touched

/-! ## Every stage keeps to the list -/

namespace Stages

variable {made built after : Disk} {names : List String} {report : BuildReport}

/-- A source compiles to what it compiles to on the disk that the build starts from. -/
lemma compileFile_eq_made (h : Stages settings disk names made built report after) {name : String}
    (hmem : name ∈ names) :
    compileFile disk (joinPath settings.layout.sourceDirectory name) (stemOf name) settings.options
      = compileEntry (made.get? (settings.sourceHome made ++ [name])) (stemOf name)
        settings.options := by
  obtain ⟨-, hopen, -⟩ := sourceNames_eq_ok.mp h.sources
  obtain ⟨-, content, hget⟩ := (mem_sourceNames h.sources).mp hmem
  rw [compileFile_eq hopen (h.isSource name hmem).isFileName, sourceHome_of_here h.keeps_made.here,
    Settings.sourceHome, h.made_kept hget, hget]

/-- What building the files changes. -/
lemma touched_files (hdefault : settings.layout.HasDefaultNames)
    (h : Stages settings disk names made built report after) {location : Location}
    (hchanged : built.get? location ≠ made.get? location) :
    Touched settings disk location (built.get? location) := by
  have hhome : settings.outputHome made = settings.outputHome disk :=
    outputHome_of_here h.keeps_made.here
  rcases h.files.cases location with ⟨name, hmem, rfl, hget⟩ | ⟨name, hmem, rfl, hget⟩ | hget
  · rw [hget] at hchanged ⊢
    obtain ⟨compiled, hcompile, htext⟩ := outcome_changed.1 hchanged
    rw [Settings.outcomeOn, htext, hhome, ← place_output hdefault (h.isSource name hmem)]
    exact .output h.sources hmem ((h.compileFile_eq_made hmem).trans hcompile)
  · rw [hget] at hchanged ⊢
    obtain ⟨⟨compiled, hcompile⟩, hnone⟩ := outcome_changed.2 hchanged
    rw [Settings.outcomeOn, hnone, hhome, ← place_output_temporary hdefault (h.isSource name hmem)]
    exact .outputTemporary h.sources hmem ((h.compileFile_eq_made hmem).trans hcompile)
  · exact absurd hget hchanged

/-- What writing the registry changes. -/
lemma touched_registry (hdefault : settings.layout.HasDefaultNames)
    (h : Stages settings disk names made built report after) {location : Location}
    (hchanged : after.get? location ≠ built.get? location) :
    Touched settings disk location (after.get? location) := by
  have hhome : settings.outputHome built = settings.outputHome disk :=
    outputHome_of_here h.keeps_built.here
  rcases h.refills.cases location with ⟨rfl, hget⟩ | ⟨rfl, hget⟩ | hget
  · rw [hget] at hchanged ⊢
    obtain ⟨listed, htext⟩ := (registryOutcome_changed ..).1 hchanged
    rw [htext, hhome, ← place_registry hdefault]
    exact .registry listed
  · rw [hget] at hchanged ⊢
    rw [(registryOutcome_changed ..).2 hchanged, hhome, ← place_registry_temporary hdefault]
    exact .registryTemporary
  · exact absurd hget hchanged

/-- **A build changes listed places only.** -/
theorem touched (hdefault : settings.layout.HasDefaultNames)
    (h : Stages settings disk names made built report after) {location : Location}
    (hchanged : after.get? location ≠ disk.get? location) :
    Touched settings disk location (after.get? location) := by
  -- the last stage that changes the place says what is there
  by_cases hregistry : after.get? location = built.get? location
  · rw [hregistry] at hchanged ⊢
    by_cases hfiles : built.get? location = made.get? location
    · rw [hfiles] at hchanged ⊢
      have hmaking := @touched_makeDirectories settings disk location
      rw [h.making] at hmaking
      exact hmaking hchanged
    · exact h.touched_files hdefault hfiles
  · exact h.touched_registry hdefault hregistry

/-- A file that failed keeps its former output. -/
lemma failed (hdefault : settings.layout.HasDefaultNames)
    (h : Stages settings disk names made built report after) {file : FileReport}
    (hfile : file ∈ report.files) (hfailed : file.status.isSuccess = false) {entry : Entry}
    (hentry : disk.entryAt (.ofText file.output) = some entry) :
    after.entryAt (.ofText file.output) = some entry := by
  rw [h.files.reports, List.mem_map] at hfile
  obtain ⟨name, hmem, rfl⟩ := hfile
  have houtput : (settings.outcomeOn made name).1.output
      = outputPath settings.layout (stemOf name) := by
    obtain ⟨status, warnings, hreport⟩ := exists_outcome_eq settings .write name
      (made.get? (settings.sourceHome made ++ [name]))
      (made.slot (settings.outputHome made) (outputName name))
    rw [Settings.outcomeOn, hreport, fileReport]
  rw [houtput, Disk.entryAt, place_output hdefault (h.isSource name hmem)] at hentry ⊢
  rw [outputHome_of_here h.keeps.here, ← outputHome_of_here h.keeps_made.here]
  calc after.get? (settings.outputHome made ++ [outputName name])
      = (settings.outcomeOn made name).2.target :=
  congrArg Slot.target (h.slot_of_mem hdefault hmem)
    _ = made.get? (settings.outputHome made ++ [outputName name]) := outcome_failed hfailed
    _ = some entry := h.made_kept (by rwa [outputHome_of_here h.keeps_made.here])

end Stages

/-! ## Runs -/

/-- Nothing but listed places changes, whatever a build comes to. -/
lemma touched_of_build (hdefault : settings.layout.HasDefaultNames) (hdisk : disk.WellFormed)
    {location : Location}
    (hchanged : (build settings .write disk).2.get? location ≠ disk.get? location) :
    Touched settings disk location ((build settings .write disk).2.get? location) := by
  rcases build_write_cases hdefault hdisk with
    ⟨error, h⟩ | ⟨error, h⟩ | ⟨report, after, names, made, built, h, hstages⟩
  · rw [h] at hchanged
    exact absurd rfl hchanged
  · rw [h] at hchanged ⊢
    exact touched_makeDirectories hchanged
  · rw [h] at hchanged ⊢
    exact hstages.touched hdefault hchanged

lemma here_of_build (hdefault : settings.layout.HasDefaultNames) (hdisk : disk.WellFormed) :
    (build settings .write disk).2.here = disk.here := by
  rcases build_write_cases hdefault hdisk with
    ⟨error, h⟩ | ⟨error, h⟩ | ⟨report, after, names, made, built, h, hstages⟩
  · rw [h]
  · rw [h]
    exact (disk.keepsDirectories_makeDirectories _).here
  · rw [h]
    exact hstages.keeps.here

/-- A source that does not compile keeps its former output. -/
lemma kept_of_uncompiled (hdefault : settings.layout.HasDefaultNames) (hdisk : disk.WellFormed)
    {name message : String} (hname : IsSourceName name)
    (hcompile : compileFile disk (joinPath settings.layout.sourceDirectory name) (stemOf name)
      settings.options = .error message) {entry : Entry}
    (hentry : disk.entryAt (.ofText (outputPath settings.layout (stemOf name))) = some entry) :
    (build settings .write disk).2.entryAt (.ofText (outputPath settings.layout (stemOf name)))
      = some entry := by
  rw [Disk.entryAt, place_output hdefault hname] at hentry ⊢
  rw [outputHome_of_here (here_of_build hdefault hdisk), ← hentry]
  refine Classical.byContradiction fun hchanged => ?_
  rcases (touched_of_build hdefault hdisk hchanged).compiled hdefault hdisk hname rfl with
    hnew | ⟨compiled, hok⟩
  · rw [hentry] at hnew
    cases hnew
  · rw [hcompile] at hok
    cases hok

/-- **The frame of a build.** -/
theorem build_frame (hdefault : settings.layout.HasDefaultNames) (hdisk : disk.WellFormed) :
    BuildFrame settings disk (build settings .write disk).1 (build settings .write disk).2 := by
  refine ⟨fun _ => touched_of_build hdefault hdisk, fun home name hextension hthere => ?_, ?_, ?_,
    fun home name content hfile => ?_⟩
  · -- a source has another last letter than any place on the list, unless it is a new directory
    refine Classical.byContradiction fun hchanged => ?_
    have hletter := @getLast?_of_hasExtension _ _ 'k' (by decide) hextension
    rcases (touched_of_build hdefault hdisk hchanged).letter hdefault hdisk with
      ⟨hnew, -⟩ | h | h | ⟨h, -⟩
    · exact hthere hnew
    all_goals simp [hletter] at h
  · intro names name message hsources hmem hcompile entry hentry
    exact kept_of_uncompiled hdefault hdisk (hdisk.isSourceName hdefault hsources hmem) hcompile
      hentry
  · intro report hreport file hmem hfailed entry hentry
    obtain ⟨names, made, built, h⟩ := exists_stages hdefault hdisk (Prod.ext hreport rfl)
    exact h.failed hdefault hmem hfailed hentry
  · by_cases hchanged : (build settings .write disk).2.get? (home ++ [name ++ ".tmp"])
        = disk.get? (home ++ [name ++ ".tmp"])
    · rw [← hchanged, hfile]
    · -- a place that changed has a directory now, or nothing
      rcases (touched_of_build hdefault hdisk hchanged).letter hdefault hdisk with
        ⟨-, h⟩ | h | h | ⟨-, h⟩
      · rw [hfile] at h
        cases h
      · simp at h
      · simp at h
      · rw [hfile] at h
        cases h

/-- A check leaves the disk as it is. -/
lemma build_check_disk (settings : Settings) (disk : Disk) :
    (build settings .check disk).2 = disk := by
  rw [build]
  cases sourceNames disk settings.layout with
  | error error => rfl
  | ok names => exact buildFiles_check_disk settings disk names

lemma runProject_disk {arguments : ProjectArguments} {loaded : Settings}
    (hload : Settings.load disk arguments.settings = .ok loaded) (mode : Mode) (verbosity : Nat) :
    (runProject mode arguments verbosity disk).disk
      = (build (loaded.withDirectories arguments.source arguments.output) mode disk).2 := by
  rw [runProject, hload]
  dsimp only
  rcases build (loaded.withDirectories arguments.source arguments.output) mode disk with
    ⟨_ | _, left⟩ <;> rfl

lemma runProject_disk_of_error {arguments : ProjectArguments} {error : Settings.LoadError}
    (hload : Settings.load disk arguments.settings = .error error) (mode : Mode) (verbosity : Nat) :
    (runProject mode arguments verbosity disk).disk = disk := by
  rw [runProject, hload]
  rfl

lemma run_check_disk (arguments : ProjectArguments) (verbosity : Nat) (disk : Disk) :
    ((Command.check arguments).run verbosity disk).disk = disk := by
  rw [Command.run]
  cases hload : Settings.load disk arguments.settings with
  | error error => exact runProject_disk_of_error hload .check verbosity
  | ok loaded => rw [runProject_disk hload, build_check_disk]

lemma run_dump_disk (file : String) (verbosity : Nat) (disk : Disk) :
    ((Command.dump file).run verbosity disk).disk = disk := by
  rw [Command.run, runDump]
  cases disk.readText (.ofText file) with
  | error failure => rfl
  | ok text =>
      dsimp only
      cases Markup.Program.parse text <;> rfl

lemma Layout.HasDefaultNames.withDirectories (h : settings.layout.HasDefaultNames)
    (source output : Option String) :
    (settings.withDirectories source output).layout.HasDefaultNames := by
  simp only [Layout.HasDefaultNames, Settings.withDirectories, h.sourceExtension, h.outputExtension,
    h.registryFile]

/-- **The frame of a run.**  A check and a dump change nothing.  A build changes nothing if its
settings cannot be loaded; with names by default it changes the places of `Touched` only, leaves
sources and the outputs of failed files alone, and leaves no temporary file of its own. -/
theorem run_frame (hdisk : disk.WellFormed) (verbosity : Nat) :
    (∀ arguments, ((Command.check arguments).run verbosity disk).disk = disk)
      ∧ (∀ file, ((Command.dump file).run verbosity disk).disk = disk)
      ∧ ∀ arguments : ProjectArguments,
        (∀ error, Settings.load disk arguments.settings = .error error →
          ((Command.build arguments).run verbosity disk).disk = disk)
        ∧ ∀ loaded, Settings.load disk arguments.settings = .ok loaded →
          loaded.layout.HasDefaultNames →
          BuildFrame (loaded.withDirectories arguments.source arguments.output) disk
            (build (loaded.withDirectories arguments.source arguments.output) .write disk).1
            ((Command.build arguments).run verbosity disk).disk := by
  refine ⟨fun arguments => run_check_disk arguments verbosity disk,
    fun file => run_dump_disk file verbosity disk,
    fun arguments => ⟨fun error hload => ?_, fun loaded hload hdefault => ?_⟩⟩
  · rw [Command.run]
    exact runProject_disk_of_error hload .write verbosity
  · rw [Command.run, runProject_disk hload]
    exact build_frame (hdefault.withDirectories ..) hdisk

/-- The sources of the gallery stand among its outputs, and the command comes to a report on
them. -/
theorem run_frame_gallery : (∃ report, (build inPlace .write gallery).1 = .ok report)
    ∧ BuildFrame inPlace gallery (build inPlace .write gallery).1
      ((Command.build ⟨some "src", some "src", none⟩).run 0 gallery).disk := by
  obtain ⟨report, after, hbuild, -⟩ := build_gallery
  have hload : Settings.load gallery none = .ok {} := by decide +kernel
  exact ⟨⟨report, congrArg Prod.fst hbuild⟩,
    ((run_frame wellFormed_gallery 0).2.2 ⟨some "src", some "src", none⟩).2 {} hload rfl⟩

end Componentry
