import Componentry.Proofs.Project.Stages

/-!
# Building again

A second build finds the disk as the first one left it.  Its sources are the same and its
directories are there; each output is there, or cannot be written for the same reason as before; and
the registry lists the same components, because what was written to the directory of the outputs in
between is no component.  So the second build says what the first one said, but that nothing was
compiled anew (`build_again`).

Two disks are compared by what is at their locations: the order of the entries of a disk means
nothing, and it changes.
-/

namespace Componentry

/-- The report on a file in a second run. -/
def FileReport.settled (file : FileReport) : FileReport :=
  { file with status := file.status.settled }

/-- The report of a second run: what was compiled is unchanged now. -/
def BuildReport.settled (report : BuildReport) : BuildReport :=
  { report with files := report.files.map FileReport.settled }

/-! ## Reports -/

lemma isSuccess_settled (status : Status) : status.settled.isSuccess = status.isSuccess := by
  cases status <;> rfl

lemma failedComponents_settled (files : List FileReport) :
    failedComponents (files.map FileReport.settled) = failedComponents files := by
  rw [failedComponents, failedComponents, List.filter_map, List.map_map]
  have hsame : ((fun file : FileReport => !file.status.isSuccess) ∘ FileReport.settled)
      = fun file => !file.status.isSuccess := by
    funext file
    simp [FileReport.settled, isSuccess_settled]
  rw [hsame]
  rfl

/-- A second run succeeds as the first one did. -/
lemma succeeded_settled (report : BuildReport) : report.settled.succeeded = report.succeeded := by
  have hfailed : report.settled.failed = report.failed := by
    simp only [BuildReport.failed, BuildReport.count, BuildReport.settled, List.countP_map]
    congr 1
    funext file
    simp [FileReport.settled, isSuccess_settled]
  rw [BuildReport.succeeded, BuildReport.succeeded, hfailed]
  simp [BuildReport.settled]

lemma settled_fileReport (settings : Settings) (name : String) (status : Status)
    (warnings : List Warning) :
    (fileReport settings name status warnings).settled
      = fileReport settings name status.settled warnings := by
  rw [FileReport.settled, fileReport, fileReport]

/-- A file that is built again leaves its slot as it is. -/
lemma outcome_again (settings : Settings) (name : String) (source : Option Entry) (slot : Slot) :
    outcome settings .write name source (outcome settings .write name source slot).2
      = ((outcome settings .write name source slot).1.settled,
        (outcome settings .write name source slot).2) := by
  rcases outcome_write_cases settings name source slot with
    ⟨message, -, h⟩ | ⟨compiled, hcompile, -⟩
  · simp only [h, settled_fileReport, Status.settled]
  · simp only [outcome, hcompile, slot.settle_settle, settled_fileReport]

/-! ## The stages of a second build -/

namespace Stages

variable {settings : Settings} {disk made built after : Disk} {names : List String}
  {report : BuildReport}

/-- The sources are the same. -/
lemma sources_again (hdefault : settings.layout.HasDefaultNames)
    (h : Stages settings disk names made built report after) :
    sourceNames after settings.layout = .ok names := by
  obtain ⟨hending, hopen, hnames⟩ := sourceNames_eq_ok.mp h.sources
  refine sourceNames_eq_ok.mpr ⟨hending, h.keeps.opens hopen, ?_⟩
  rw [hnames, h.keeps.place]
  refine fileNames_congr fun name hextension => exists_congr fun content => ?_
  rw [hdefault.sourceExtension] at hextension
  rw [h.get?_source hdefault hextension, h.made_file_iff]

/-- No directory has to be made. -/
lemma making_again (h : Stages settings disk names made built report after) :
    after.makeDirectories (.ofText settings.layout.outputDirectory) = (.ok (), after) := by
  refine Disk.makeWay_of_way _ _ fun found hfound => ?_
  rw [h.keeps.start] at hfound
  refine (h.files.keeps.trans h.keeps_registry).kept found ?_
  rw [h.get?_made, if_pos hfound]

/-- Every file has the outcome of a second build. -/
lemma outcomeOn_again (hdefault : settings.layout.HasDefaultNames)
    (h : Stages settings disk names made built report after) {name : String} (hmem : name ∈ names) :
    settings.outcomeOn after name
      = ((settings.outcomeOn made name).1.settled, (settings.outcomeOn made name).2) := by
  have hkeeps := h.files.keeps.trans h.keeps_registry
  rw [Settings.outcomeOn, outputHome_of_here hkeeps.here, h.slot_of_mem hdefault hmem,
    h.get?_source hdefault (h.isSource name hmem).extension, sourceHome_of_here hkeeps.here]
  exact outcome_again ..

/-- The files of a second build. -/
lemma files_again (hdefault : settings.layout.HasDefaultNames)
    (h : Stages settings disk names made built report after) {reports : List FileReport}
    {again : Disk} (hagain : Built settings after names reports again) :
    reports = report.files.map FileReport.settled := by
  rw [hagain.reports, h.files.reports, List.map_map]
  refine List.map_congr_left fun name hmem => ?_
  rw [h.outcomeOn_again hdefault hmem]
  rfl

/-- Building the files again changes nothing. -/
lemma unchanged_again (hdefault : settings.layout.HasDefaultNames)
    (h : Stages settings disk names made built report after) {reports : List FileReport}
    {again : Disk} (hagain : Built settings after names reports again) (location : Location) :
    again.get? location = after.get? location := by
  refine hagain.unchanged (fun name hmem => ?_) location
  rw [h.outcomeOn_again hdefault hmem,
    outputHome_of_here (h.files.keeps.trans h.keeps_registry).here, h.slot_of_mem hdefault hmem]

/-- A second build lists the same components: the registry itself is no output. -/
lemma components_again (hdefault : settings.layout.HasDefaultNames)
    (h : Stages settings disk names made built report after) {reports : List FileReport}
    {again : Disk} (hagain : Built settings after names reports again) (excluded : List String) :
    registeredComponents again settings.layout excluded
      = registeredComponents built settings.layout excluded := by
  refine registeredComponents_congr (h.files.keeps.opens h.opens)
    (h.keeps_registry.trans hagain.keeps) excluded fun name hextension => ?_
  rw [hdefault.outputExtension] at hextension
  have hletter := @getLast?_of_hasExtension _ _ 'x' (by decide) hextension
  rw [h.unchanged_again hdefault hagain]
  exact h.get?_registry hdefault (by simp [hletter]) (by simp [hletter])

end Stages

/-- **Building is idempotent.**  If a build comes to a report, then building again changes nothing,
wherever one looks.  The second report is the first one, with `unchanged` for `compiled`, and the
run succeeds if the first one did. -/
theorem build_again {settings : Settings} (hdefault : settings.layout.HasDefaultNames) {disk : Disk}
    (hdisk : disk.WellFormed) {report : BuildReport} {after : Disk}
    (hbuild : build settings .write disk = (.ok report, after)) :
    (build settings .write after).1 = .ok report.settled
      ∧ report.settled.succeeded = report.succeeded
      ∧ ∀ location, (build settings .write after).2.get? location = after.get? location := by
  obtain ⟨names, made, built, h⟩ := exists_stages hdefault hdisk hbuild
  obtain ⟨-, hsource, -⟩ := sourceNames_eq_ok.mp (h.sources_again hdefault)
  have hopens : built.Opens (.ofText settings.layout.outputDirectory) := h.files.keeps.opens h.opens
  have hfiles := buildFiles_built hdefault hsource (h.keeps_registry.opens hopens) h.isSource
    (nodup_sourceNames h.sources)
  rw [build_of_making (h.sources_again hdefault) h.making_again]
  generalize buildFiles settings .write after names = again at hfiles
  have hsame := h.unchanged_again hdefault hfiles
  obtain ⟨hregistry, hrefills⟩ :=
    writeRegistry_slot ((h.keeps_registry.trans hfiles.keeps).opens hopens)
    hdefault.isFileName_registryFile (failedComponents again.1)
  -- the slot of the registry holds what the first build left in it
  have hslot : again.2.slot (again.2.place (.ofText settings.layout.outputDirectory))
        settings.layout.registryFile
      = (registryOutcome settings.layout
        (registeredComponents built settings.layout (failedComponents report.files))
        (built.slot (settings.outputHome built) settings.layout.registryFile)).2 := by
    rw [(h.keeps_registry.trans hfiles.keeps).place, Disk.slot, hsame, hsame]
    exact h.refills.filled
  have hfailed : failedComponents again.1 = failedComponents report.files := by
    rw [h.files_again hdefault hfiles, failedComponents_settled]
  rw [hslot, h.components_again hdefault hfiles, hfailed,
    registryOutcome_again] at hregistry hrefills
  rw [hfailed]
  refine ⟨?_, succeeded_settled report, fun location => ?_⟩
  · rw [hregistry, h.files_again hdefault hfiles, ← h.registry, BuildReport.settled, h.mode]
  · rw [← hslot] at hrefills
    rw [hrefills.unchanged, hsame]

/-- What can be built in the gallery is built, and the rest fails a second time. -/
theorem build_again_gallery : ∃ report after, build inPlace .write gallery = (.ok report, after)
    ∧ (∃ file ∈ report.files, file.status = .compiled)
    ∧ (∃ file ∈ report.files,
      file.status = .failed "failed to write output: Is a directory (os error 21)")
    ∧ (build inPlace .write after).1 = .ok report.settled
    ∧ report.settled.succeeded = report.succeeded
    ∧ ∀ location, (build inPlace .write after).2.get? location = after.get? location := by
  obtain ⟨report, after, hbuild, hcompiled, hfailed⟩ := build_gallery
  exact ⟨report, after, hbuild, hcompiled, hfailed,
    build_again hasDefaultNames_inPlace wellFormed_gallery hbuild⟩

end Componentry
