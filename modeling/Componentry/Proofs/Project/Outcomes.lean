import Mathlib.Data.List.Basic
import Componentry.Proofs.Project.Listing
import Componentry.Proofs.Project.Slots

/-!
# What a build makes of its files

A source file goes into its own slot: `outcome` says what a build makes of it, given what is at the
source and in the slot of its output, and of nothing else.  `buildFiles_built` is the run: every
file has the outcome that it has on the disk that the run starts from, whatever was built in front
of it, and outside of the slots nothing changes.

**The registry.**  The registry has a slot too.  `registryOutcome` is what a build makes of it,
given the components to list.
-/

namespace Componentry

/-! ## The outcome of a file -/

/-- Where the sources are. -/
def Settings.sourceHome (settings : Settings) (disk : Disk) : Location :=
  disk.place (.ofText settings.layout.sourceDirectory)

/-- Where the outputs go. -/
def Settings.outputHome (settings : Settings) (disk : Disk) : Location :=
  disk.place (.ofText settings.layout.outputDirectory)

section Homes

variable {settings : Settings} {disk other : Disk} {name : String}

lemma sourceHome_of_here (h : other.here = disk.here) :
    settings.sourceHome other = settings.sourceHome disk :=
  Disk.place_of_here h _

lemma outputHome_of_here (h : other.here = disk.here) :
    settings.outputHome other = settings.outputHome disk :=
  Disk.place_of_here h _

lemma place_source (hname : IsFileName name) :
    disk.place (.ofText (joinPath settings.layout.sourceDirectory name))
      = settings.sourceHome disk ++ [name] :=
  Disk.place_joinPath hname

lemma place_output (hdefault : settings.layout.HasDefaultNames) (hname : IsSourceName name) :
    disk.place (.ofText (outputPath settings.layout (stemOf name)))
      = settings.outputHome disk ++ [outputName name] := by
  rw [hdefault.outputPath]
  exact Disk.place_joinPath hname.isFileName_outputName

lemma place_output_temporary (hdefault : settings.layout.HasDefaultNames)
    (hname : IsSourceName name) :
    disk.place (Path.ofText (outputPath settings.layout (stemOf name))).temporary
      = settings.outputHome disk ++ [outputName name ++ ".tmp"] := by
  rw [hdefault.outputPath]
  exact Disk.place_temporary hname.isFileName_outputName

lemma place_registry (hdefault : settings.layout.HasDefaultNames) :
    disk.place (.ofText (registryPath settings.layout))
      = settings.outputHome disk ++ [settings.layout.registryFile] :=
  Disk.place_joinPath hdefault.isFileName_registryFile

lemma place_registry_temporary (hdefault : settings.layout.HasDefaultNames) :
    disk.place (Path.ofText (registryPath settings.layout)).temporary
      = settings.outputHome disk ++ [settings.layout.registryFile ++ ".tmp"] :=
  Disk.place_temporary hdefault.isFileName_registryFile

end Homes

/-- Compiles what is at the location of a source file. -/
def compileEntry (entry : Option Entry) (component : String) (options : Options) :
    Except String (Reported Module) :=
  match Disk.readEntry entry with
  | .error failure => .error ("failed to read file: " ++ failure.message)
  | .ok text =>
    match compile text component options with
    | .ok compiled => .ok compiled
    | .error e => .error e.message

/-- The report on a source file. -/
def fileReport (settings : Settings) (name : String) (status : Status) (warnings : List Warning) :
    FileReport where
  source := joinPath settings.layout.sourceDirectory name
  output := outputPath settings.layout (stemOf name)
  component := stemOf name
  status := status
  warnings := warnings

/-- What a run makes of a source file, given what is there and in the slot of its output. -/
def outcome (settings : Settings) (mode : Mode) (name : String) (source : Option Entry)
    (slot : Slot) : FileReport × Slot :=
  match compileEntry source (stemOf name) settings.options with
  | .error message => (fileReport settings name (.failed message) [], slot)
  | .ok compiled =>
    match mode with
    | .check => (fileReport settings name .checked compiled.warnings, slot)
    | .write =>
      (fileReport settings name (slot.settle compiled.value.text).1 compiled.warnings,
        (slot.settle compiled.value.text).2)

section Outcome

variable {settings : Settings} {mode : Mode} {name : String} {source : Option Entry} {slot : Slot}

/-- What can come of a file in a build: it does not compile and its slot is left alone, or its
output is settled. -/
lemma outcome_write_cases (settings : Settings) (name : String) (source : Option Entry)
    (slot : Slot) :
    (∃ message, compileEntry source (stemOf name) settings.options = .error message
        ∧ outcome settings .write name source slot
          = (fileReport settings name (.failed message) [], slot))
      ∨ ∃ compiled, compileEntry source (stemOf name) settings.options = .ok compiled
        ∧ outcome settings .write name source slot
          = (fileReport settings name (slot.settle compiled.value.text).1 compiled.warnings,
            (slot.settle compiled.value.text).2) := by
  cases hcompile : compileEntry source (stemOf name) settings.options with
  | error message => exact .inl ⟨message, rfl, by rw [outcome, hcompile]⟩
  | ok compiled => exact .inr ⟨compiled, rfl, by rw [outcome, hcompile]⟩

/-- A report names its file. -/
lemma exists_outcome_eq (settings : Settings) (mode : Mode) (name : String) (source : Option Entry)
    (slot : Slot) : ∃ status warnings,
      (outcome settings mode name source slot).1 = fileReport settings name status warnings := by
  rw [outcome]
  cases compileEntry source (stemOf name) settings.options with
  | error message => exact ⟨_, _, rfl⟩
  | ok compiled => cases mode <;> exact ⟨_, _, rfl⟩

/-- A file changes its slot only if it compiles: the output is what was compiled, and there is no
temporary file. -/
lemma outcome_changed :
    ((outcome settings .write name source slot).2.target ≠ slot.target →
        ∃ compiled, compileEntry source (stemOf name) settings.options = .ok compiled
          ∧ (outcome settings .write name source slot).2.target
            = some (.file (.text compiled.value.text)))
      ∧ ((outcome settings .write name source slot).2.temporary ≠ slot.temporary →
        (∃ compiled, compileEntry source (stemOf name) settings.options = .ok compiled)
          ∧ (outcome settings .write name source slot).2.temporary = none) := by
  rcases outcome_write_cases settings name source slot with ⟨_, -, h⟩ | ⟨compiled, hcompile, h⟩
  · rw [h]
    exact ⟨fun hne => absurd rfl hne, fun hne => absurd rfl hne⟩
  · rw [h, hcompile]
    rcases slot.settle_cases compiled.value.text with
      ⟨-, hsettle⟩ | ⟨-, -, hsettle⟩ | ⟨_, -, htarget, htemporary⟩
    · rw [hsettle]
      exact ⟨fun hne => absurd rfl hne, fun hne => absurd rfl hne⟩
    · rw [hsettle]
      exact ⟨fun _ => ⟨compiled, rfl, rfl⟩, fun _ => ⟨⟨compiled, rfl⟩, rfl⟩⟩
    · refine ⟨fun hne => absurd htarget hne, fun hne => ?_⟩
      rcases htemporary with ⟨hkept, -⟩ | ⟨hnone, -⟩
      · exact absurd hkept hne
      · exact ⟨⟨compiled, rfl⟩, hnone⟩

/-- The output of a file that failed is left as it is. -/
lemma outcome_failed
    (hfailed : (outcome settings .write name source slot).1.status.isSuccess = false) :
    (outcome settings .write name source slot).2.target = slot.target := by
  rcases outcome_write_cases settings name source slot with ⟨_, -, h⟩ | ⟨compiled, -, h⟩
  · rw [h]
  · rw [h] at hfailed ⊢
    rcases slot.settle_cases compiled.value.text with
      ⟨-, hsettle⟩ | ⟨-, -, hsettle⟩ | ⟨_, -, htarget, -⟩
    · rw [hsettle]
    · rw [hsettle] at hfailed
      cases hfailed
    · exact htarget

lemma outcome_check_slot : (outcome settings .check name source slot).2 = slot := by
  rw [outcome]
  cases compileEntry source (stemOf name) settings.options <;> rfl

lemma keepsDirectories_outcome :
    slot.KeepsDirectories (outcome settings .write name source slot).2 := by
  rcases outcome_write_cases settings name source slot with ⟨_, -, h⟩ | ⟨compiled, -, h⟩
  · rw [h]
    exact .refl slot
  · rw [h]
    exact slot.keepsDirectories_settle compiled.value.text

end Outcome

variable {settings : Settings} {disk : Disk} {name : String}

/-- A source file is compiled as what is at its location. -/
lemma compileFile_eq (hsource : disk.Opens (.ofText settings.layout.sourceDirectory))
    (hname : IsFileName name) (component : String) (options : Options) :
    compileFile disk (joinPath settings.layout.sourceDirectory name) component options
      = compileEntry (disk.get? (settings.sourceHome disk ++ [name])) component options := by
  rw [compileFile, Disk.readText_slot hsource hname]
  rfl

/-- Building a file, put together from its report and what is left of the disk. -/
lemma buildFile_eq (settings : Settings) (mode : Mode) (disk : Disk) (name : String) :
    buildFile settings mode disk name
      = match compileFile disk (joinPath settings.layout.sourceDirectory name) (stemOf name)
            settings.options with
        | .error message => (fileReport settings name (.failed message) [], disk)
        | .ok compiled =>
          match mode with
          | .check => (fileReport settings name .checked compiled.warnings, disk)
          | .write =>
            (fileReport settings name
                (writeOutput disk (outputPath settings.layout (stemOf name)) compiled.value.text).1
                compiled.warnings,
              (writeOutput disk (outputPath settings.layout (stemOf name))
                compiled.value.text).2) := by
  -- opened by hand: the equation that `rw` would use is slow to make
  delta buildFile
  dsimp only
  cases compileFile disk (joinPath settings.layout.sourceDirectory name) (stemOf name)
    settings.options with
  | error message => rfl
  | ok compiled =>
      cases mode with
      | check => rfl
      | write =>
          dsimp only
          rcases writeOutput disk (outputPath settings.layout (stemOf name))
            compiled.value.text with
            ⟨status, after⟩
          rfl

/-- A check looks at the source only. -/
lemma buildFile_check (hsource : disk.Opens (.ofText settings.layout.sourceDirectory))
    (hname : IsFileName name) (slot : Slot) :
    buildFile settings .check disk name
      = ((outcome settings .check name (disk.get? (settings.sourceHome disk ++ [name])) slot).1,
        disk) := by
  rw [buildFile_eq, compileFile_eq hsource hname, outcome]
  rcases compileEntry (disk.get? (settings.sourceHome disk ++ [name])) (stemOf name)
    settings.options <;> rfl

/-- What a build makes of a source file on a disk. -/
def Settings.outcomeOn (settings : Settings) (disk : Disk) (name : String) : FileReport × Slot :=
  outcome settings .write name (disk.get? (settings.sourceHome disk ++ [name]))
    (disk.slot (settings.outputHome disk) (outputName name))

/-- **Building a file changes its slot**, and nothing else. -/
theorem buildFile_write (hdefault : settings.layout.HasDefaultNames)
    (hsource : disk.Opens (.ofText settings.layout.sourceDirectory))
    (houtput : disk.Opens (.ofText settings.layout.outputDirectory)) (hname : IsSourceName name) :
    (buildFile settings .write disk name).1 = (settings.outcomeOn disk name).1
      ∧ disk.Refills (settings.outputHome disk) (outputName name) (settings.outcomeOn disk name).2
        (buildFile settings .write disk name).2 := by
  rw [Settings.outcomeOn, buildFile_eq, compileFile_eq hsource hname.isFileName,
    Settings.outputHome]
  rcases outcome_write_cases settings name (disk.get? (settings.sourceHome disk ++ [name]))
    (disk.slot (disk.place (.ofText settings.layout.outputDirectory)) (outputName name)) with
    ⟨message, hcompile, h⟩ | ⟨compiled, hcompile, h⟩
  · rw [h, hcompile]
    exact ⟨rfl, Disk.refills_self ..⟩
  · obtain ⟨hstatus, hrefills⟩ :=
      Disk.writeOutput_slot houtput hname.isFileName_outputName compiled.value.text
    rw [← hdefault.outputPath] at hstatus hrefills
    rw [h, hcompile, ← hstatus]
    dsimp only
    exact ⟨rfl, hrefills⟩

/-! ## Files one after the other -/

/-- What has become of files on a disk: each has the outcome it had by itself, and nothing else
changes. -/
structure Built (settings : Settings) (disk : Disk) (names : List String)
    (reports : List FileReport) (after : Disk) : Prop where
  reports : reports = names.map fun name => (settings.outcomeOn disk name).1
  keeps : disk.KeepsDirectories after
  filled : ∀ name ∈ names,
    after.slot (settings.outputHome disk) (outputName name) = (settings.outcomeOn disk name).2
  others : ∀ location,
    (∀ name ∈ names, location ≠ settings.outputHome disk ++ [outputName name]
      ∧ location ≠ settings.outputHome disk ++ [outputName name ++ ".tmp"]) →
    after.get? location = disk.get? location

namespace Built

variable {names : List String} {reports : List FileReport} {after : Disk}

/-- Slots of other names are left alone. -/
lemma slot_of_ne (h : Built settings disk names reports after) {found : String}
    (hletter : found.toList.getLast? ≠ some 'p') (hne : ∀ name ∈ names, found ≠ outputName name) :
    after.slot (settings.outputHome disk) found = disk.slot (settings.outputHome disk) found := by
  refine congrArg₂ Slot.mk (h.others _ fun name hmem => ⟨?_, ?_⟩)
    (h.others _ fun name hmem => ⟨?_, ?_⟩)
    <;> intro heq
  · exact hne name hmem (by simpa using heq)
  · exact hletter (by simpa using congrArg lastLetter heq)
  · simpa using congrArg lastLetter heq
  · exact hne name hmem (by simpa [← String.toList_inj] using heq)

/-- Nothing changes at a name that ends like no output. -/
lemma get?_of_letter (h : Built settings disk names reports after) {location : Location}
    (houtput : lastLetter location ≠ some 'x') (htemporary : lastLetter location ≠ some 'p') :
    after.get? location = disk.get? location := by
  refine h.others _ fun name _ => ⟨?_, ?_⟩ <;> rintro rfl
  · exact houtput (by simp)
  · exact htemporary (by simp)

/-- What is at a location once files were built. -/
lemma cases (h : Built settings disk names reports after) (location : Location) :
    (∃ name ∈ names, location = settings.outputHome disk ++ [outputName name]
        ∧ after.get? location = (settings.outcomeOn disk name).2.target)
      ∨ (∃ name ∈ names, location = settings.outputHome disk ++ [outputName name ++ ".tmp"]
        ∧ after.get? location = (settings.outcomeOn disk name).2.temporary)
      ∨ after.get? location = disk.get? location := by
  by_cases htarget : ∃ name ∈ names, location = settings.outputHome disk ++ [outputName name]
  · obtain ⟨name, hmem, rfl⟩ := htarget
    exact .inl ⟨name, hmem, rfl, congrArg Slot.target (h.filled name hmem)⟩
  by_cases htemporary :
    ∃ name ∈ names, location = settings.outputHome disk ++ [outputName name ++ ".tmp"]
  · obtain ⟨name, hmem, rfl⟩ := htemporary
    exact .inr (.inl ⟨name, hmem, rfl, congrArg Slot.temporary (h.filled name hmem)⟩)
  · exact .inr (.inr (h.others location fun name hmem =>
      ⟨fun heq => htarget ⟨name, hmem, heq⟩, fun heq => htemporary ⟨name, hmem, heq⟩⟩))

/-- Files that change nothing by themselves change nothing together. -/
lemma unchanged (h : Built settings disk names reports after)
    (hslots : ∀ name ∈ names,
      (settings.outcomeOn disk name).2 = disk.slot (settings.outputHome disk) (outputName name))
    (location : Location) : after.get? location = disk.get? location := by
  rcases h.cases location with ⟨name, hmem, rfl, hget⟩ | ⟨name, hmem, rfl, hget⟩ | hget
  · exact hget.trans (congrArg Slot.target (hslots name hmem))
  · exact hget.trans (congrArg Slot.temporary (hslots name hmem))
  · exact hget

end Built

/-- The outcome of a file is the same once another one was built. -/
lemma outcomeOn_of_refills {after : Disk} {other : String} {slot : Slot} (hname : IsSourceName name)
    (hother : IsSourceName other) (hne : other ≠ name) (hkeeps : disk.KeepsDirectories after)
    (h : disk.Refills (settings.outputHome disk) (outputName name) slot after) :
    settings.outcomeOn after other = settings.outcomeOn disk other := by
  have hletter := hother.getLast?
  have hsource : after.get? (settings.sourceHome disk ++ [other])
      = disk.get? (settings.sourceHome disk ++ [other]) := by
    refine h.others _ ?_ ?_ <;> intro heq <;> simpa [hletter] using congrArg lastLetter heq
  have hslot : after.slot (settings.outputHome disk) (outputName other)
      = disk.slot (settings.outputHome disk) (outputName other) := by
    refine h.slot_of_ne (fun heq => hne (hother.eq_of_outputName hname heq)) ?_ ?_
    · intro heq
      simpa using congrArg (fun text => text.toList.getLast?) heq
    · intro heq
      simpa using congrArg (fun text => text.toList.getLast?) heq
  rw [Settings.outcomeOn, Settings.outcomeOn, sourceHome_of_here hkeeps.here,
    outputHome_of_here hkeeps.here, hsource, hslot]

lemma buildFiles_cons (settings : Settings) (mode : Mode) (disk : Disk) (name : String)
    (rest : List String) :
    buildFiles settings mode disk (name :: rest)
      = ((buildFile settings mode disk name).1
          :: (buildFiles settings mode (buildFile settings mode disk name).2 rest).1,
        (buildFiles settings mode (buildFile settings mode disk name).2 rest).2) := by
  simp only [buildFiles]

/-- **Files do not get in each other's way.** -/
theorem buildFiles_built {names : List String} (hdefault : settings.layout.HasDefaultNames)
    (hsource : disk.Opens (.ofText settings.layout.sourceDirectory))
    (houtput : disk.Opens (.ofText settings.layout.outputDirectory))
    (hnames : ∀ name ∈ names, IsSourceName name) (hnodup : names.Nodup) :
    Built settings disk names (buildFiles settings .write disk names).1
      (buildFiles settings .write disk names).2 := by
  induction names generalizing disk with
  | nil => exact ⟨rfl, .refl disk, by simp, fun _ _ => rfl⟩
  | cons name rest ih =>
      rw [List.forall_mem_cons] at hnames
      rw [List.nodup_cons] at hnodup
      obtain ⟨hreport, hrefills⟩ := buildFile_write hdefault hsource houtput hnames.1
      rw [buildFiles_cons]
      generalize buildFile settings .write disk name = built at hreport hrefills
      have hkeeps : disk.KeepsDirectories built.2 :=
        hrefills.keepsDirectories keepsDirectories_outcome
      have hrest := ih (hkeeps.opens hsource) (hkeeps.opens houtput) hnames.2 hnodup.2
      generalize buildFiles settings .write built.2 rest = run at hrest
      -- the rest of the files have the outcome they have before this one is built
      have hsame : ∀ other ∈ rest, settings.outcomeOn built.2 other
          = settings.outcomeOn disk other := by
        intro other hmem
        refine outcomeOn_of_refills hnames.1 (hnames.2 other hmem) ?_ hkeeps hrefills
        rintro rfl
        exact hnodup.1 hmem
      -- and this one keeps its slot
      have hslot : run.2.slot (settings.outputHome disk) (outputName name)
          = built.2.slot (settings.outputHome disk) (outputName name) := by
        rw [← outputHome_of_here hkeeps.here]
        refine hrest.slot_of_ne (by simp) fun other hmem heq => hnodup.1 ?_
        rwa [hnames.1.eq_of_outputName (hnames.2 other hmem) heq]
      constructor
      · rw [List.map_cons, hreport, hrest.reports]
        exact congrArg _ (List.map_congr_left fun other hmem =>
          congrArg Prod.fst (hsame other hmem))
      · exact hkeeps.trans hrest.keeps
      · rw [List.forall_mem_cons]
        refine ⟨hslot.trans hrefills.filled, fun other hmem => ?_⟩
        rw [← hsame other hmem, ← hrest.filled other hmem, outputHome_of_here hkeeps.here]
      · intro location hl
        rw [List.forall_mem_cons] at hl
        rw [hrest.others location (by simpa only [outputHome_of_here hkeeps.here] using hl.2),
          hrefills.others location hl.1.1 hl.1.2]

/-- A check changes nothing. -/
lemma buildFiles_check_disk (settings : Settings) (disk : Disk) (names : List String) :
    (buildFiles settings .check disk names).2 = disk := by
  induction names with
  | nil => rfl
  | cons name rest ih =>
      have hfile : (buildFile settings .check disk name).2 = disk := by
        rw [buildFile_eq]
        cases compileFile disk (joinPath settings.layout.sourceDirectory name) (stemOf name)
          settings.options
          <;> rfl
      rw [buildFiles_cons, hfile]
      exact ih

/-- The reports of a check. -/
lemma buildFiles_check {names : List String}
    (hsource : disk.Opens (.ofText settings.layout.sourceDirectory))
    (hnames : ∀ name ∈ names, IsSourceName name) (slot : String → Slot) :
    (buildFiles settings .check disk names).1 = names.map fun name =>
      (outcome settings .check name (disk.get? (settings.sourceHome disk ++ [name]))
        (slot name)).1 := by
  induction names with
  | nil => rfl
  | cons name rest ih =>
      rw [List.forall_mem_cons] at hnames
      simp only [buildFiles_cons, buildFile_check hsource hnames.1.isFileName (slot name),
        List.map_cons, ih hnames.2]

/-! ## The registry -/

/-- What a build makes of the registry, given the components to list and what is in its slot. -/
def registryOutcome (layout : Layout) (components : Except Failure (List String)) (slot : Slot) :
    RegistryStatus × Slot :=
  match components with
  | .error failure => (.failed (.unlisted layout.outputDirectory failure), slot)
  | .ok components =>
    match slot.write (registryText components layout.outputExtension) with
    | (.ok (), written) => (.written (registryPath layout) components, written)
    | (.error failure, left) => (.failed (.unwritten (registryPath layout) failure), left)

/-- The registry is left alone, or written to its slot. -/
lemma registryOutcome_cases (layout : Layout) (components : Except Failure (List String))
    (slot : Slot) :
    (registryOutcome layout components slot).2 = slot
      ∨ ∃ listed, (registryOutcome layout components slot).2
        = (slot.write (registryText listed layout.outputExtension)).2 := by
  cases components with
  | error failure => exact .inl rfl
  | ok listed =>
      refine .inr ⟨listed, ?_⟩
      rw [registryOutcome]
      rcases slot.write (registryText listed layout.outputExtension) with ⟨_ | _, _⟩ <;> rfl

/-- What the registry changes in its slot. -/
lemma registryOutcome_changed (layout : Layout) (components : Except Failure (List String))
    (slot : Slot) :
    ((registryOutcome layout components slot).2.target ≠ slot.target → ∃ listed,
        (registryOutcome layout components slot).2.target
          = some (.file (.text (registryText listed layout.outputExtension))))
      ∧ ((registryOutcome layout components slot).2.temporary ≠ slot.temporary →
        (registryOutcome layout components slot).2.temporary = none) := by
  rcases registryOutcome_cases layout components slot with h | ⟨listed, h⟩
  · rw [h]
    exact ⟨fun hne => absurd rfl hne, fun hne => absurd rfl hne⟩
  · rw [h]
    rcases slot.write_cases (registryText listed layout.outputExtension) with
      ⟨-, hwrite⟩ | ⟨-, htarget, hwrite⟩ | ⟨-, -, hwrite⟩
    · rw [hwrite]
      exact ⟨fun hne => absurd rfl hne, fun hne => absurd rfl hne⟩
    · rw [hwrite]
      exact ⟨fun hne => absurd htarget.symm hne, fun _ => rfl⟩
    · rw [hwrite]
      exact ⟨fun _ => ⟨listed, rfl⟩, fun _ => rfl⟩

lemma keepsDirectories_registryOutcome (layout : Layout) (components : Except Failure (List String))
    (slot : Slot) : slot.KeepsDirectories (registryOutcome layout components slot).2 := by
  rcases registryOutcome_cases layout components slot with h | ⟨listed, h⟩
  · rw [h]
    exact .refl slot
  · rw [h]
    exact slot.keepsDirectories_write _

/-- A second build finds the registry as the first one left it. -/
lemma registryOutcome_again (layout : Layout) (components : Except Failure (List String))
    (slot : Slot) :
    registryOutcome layout components (registryOutcome layout components slot).2
      = registryOutcome layout components slot := by
  cases components with
  | error failure => rfl
  | ok components =>
      have hagain := slot.write_write (registryText components layout.outputExtension)
      rcases hwrite : slot.write (registryText components layout.outputExtension) with ⟨_ | _, left⟩
      all_goals
        rw [hwrite] at hagain
        simp only [registryOutcome, hwrite, hagain]

/-- **Writing the registry changes its slot**, and nothing else. -/
theorem writeRegistry_slot {layout : Layout} (houtput : disk.Opens (.ofText layout.outputDirectory))
    (hregistry : IsFileName layout.registryFile) (excluded : List String) :
    (writeRegistry disk layout excluded).1
        = (registryOutcome layout (registeredComponents disk layout excluded)
          (disk.slot (disk.place (.ofText layout.outputDirectory)) layout.registryFile)).1
      ∧ disk.Refills (disk.place (.ofText layout.outputDirectory)) layout.registryFile
        (registryOutcome layout (registeredComponents disk layout excluded)
          (disk.slot (disk.place (.ofText layout.outputDirectory)) layout.registryFile)).2
        (writeRegistry disk layout excluded).2 := by
  rw [writeRegistry]
  cases registeredComponents disk layout excluded with
  | error failure => exact ⟨rfl, Disk.refills_self ..⟩
  | ok components =>
      obtain ⟨hresult, hrefills⟩ :=
        Disk.replaceText_slot houtput hregistry (registryText components layout.outputExtension)
      rw [registryOutcome]
      dsimp only [registryPath]
      generalize disk.replaceText (.ofText (joinPath layout.outputDirectory layout.registryFile))
        (registryText components layout.outputExtension) = replaced at hresult hrefills
      generalize (disk.slot (disk.place (.ofText layout.outputDirectory)) layout.registryFile).write
        (registryText components layout.outputExtension) = written at hresult hrefills
      obtain ⟨result, after⟩ := replaced
      obtain ⟨_, slot⟩ := written
      obtain rfl : result = _ := hresult
      cases result with
      | ok _ => exact ⟨rfl, hrefills⟩
      | error failure => exact ⟨rfl, hrefills⟩

end Componentry
