import Componentry.Proofs.Project.Stages

/-!
# Files on their own

What becomes of a file depends on three places: its source, its output, and the temporary file of
its output.  A run is told file by file (`ByFile`), each outcome from the disk that the run starts
from; the directories on the way to the outputs are made first, and this is all that the rest of the
disk has to do with it (`Settings.readied`).

So two runs that agree in these places agree on the file (`build_isolated`), whatever else is there:
other sources may be there or not, compile or not, and be written or not.
-/

namespace Componentry

variable {settings : Settings} {mode : Mode} {disk : Disk} {names : List String} {name : String}

/-- What is at a location when a run comes to its files. -/
def Settings.readied (settings : Settings) (mode : Mode) (disk : Disk) (location : Location) :
    Option Entry :=
  if mode = .write ∧ location ∈ Disk.way (disk.start (.ofText settings.layout.outputDirectory))
    (Path.ofText settings.layout.outputDirectory).steps
  then some .directory else disk.get? location

/-- The outcome of a file in a run, told from the disk that the run starts from. -/
def Settings.outcomeFrom (settings : Settings) (mode : Mode) (disk : Disk) (name : String) :
    FileReport × Slot :=
  outcome settings mode name (settings.readied mode disk (settings.sourceHome disk ++ [name]))
    ⟨settings.readied mode disk (settings.outputHome disk ++ [outputName name]),
      settings.readied mode disk (settings.outputHome disk ++ [outputName name ++ ".tmp"])⟩

/-- A run, file by file. -/
structure ByFile (settings : Settings) (mode : Mode) (disk : Disk) (names : List String)
    (report : BuildReport) (after : Disk) : Prop where
  here : after.here = disk.here
  sources : sourceNames disk settings.layout = .ok names
  isSource : ∀ name ∈ names, IsSourceName name
  files : report.files = names.map fun name => (settings.outcomeFrom mode disk name).1
  outputs : ∀ name, IsSourceName name → after.get? (settings.outputHome disk ++ [outputName name])
    = if name ∈ names then (settings.outcomeFrom mode disk name).2.target
      else settings.readied mode disk (settings.outputHome disk ++ [outputName name])

/-! ## Both modes, file by file -/

lemma readied_check (location : Location) :
    settings.readied .check disk location = disk.get? location :=
  if_neg (by simp)

namespace Stages

variable {made built after : Disk} {report : BuildReport}

lemma readied_eq (h : Stages settings disk names made built report after) (location : Location) :
    settings.readied .write disk location = made.get? location := by
  rw [h.get?_made, Settings.readied]
  simp

lemma outcomeFrom_eq (h : Stages settings disk names made built report after) (name : String) :
    settings.outcomeFrom .write disk name = settings.outcomeOn made name := by
  rw [Settings.outcomeFrom, Settings.outcomeOn, h.readied_eq, h.readied_eq, h.readied_eq,
    sourceHome_of_here h.keeps_made.here, outputHome_of_here h.keeps_made.here]
  rfl

lemma byFile (hdefault : settings.layout.HasDefaultNames)
    (h : Stages settings disk names made built report after) :
    ByFile settings .write disk names report after := by
  refine ⟨h.keeps.here, h.sources, h.isSource, ?_, fun name hname => ?_⟩
  · simp only [h.files.reports, h.outcomeFrom_eq]
  · rw [h.outcomeFrom_eq, h.readied_eq, ← outputHome_of_here h.keeps_made.here]
    split_ifs with hmem
    · exact congrArg Slot.target (h.slot_of_mem hdefault hmem)
    · -- no other source has this output
      have hslot := h.files.slot_of_ne (by simp) fun other hother heq =>
        hmem ((hname.eq_of_outputName (h.isSource other hother) heq).symm ▸ hother)
      exact congrArg Slot.target ((h.slot_registry hdefault name).trans hslot)

end Stages

/-- A check, file by file. -/
lemma byFile_check (hdefault : settings.layout.HasDefaultNames) (hdisk : disk.WellFormed)
    {report : BuildReport} {after : Disk}
    (hbuild : build settings .check disk = (.ok report, after)) :
    ∃ names, ByFile settings .check disk names report after := by
  rw [build] at hbuild
  cases hsources : sourceNames disk settings.layout with
  | error error =>
      rw [hsources] at hbuild
      cases hbuild
  | ok names =>
      obtain ⟨-, hsource, -⟩ := sourceNames_eq_ok.mp hsources
      have hisSource : ∀ name ∈ names, IsSourceName name :=
        fun name hmem => hdisk.isSourceName hdefault hsources hmem
      have hdiskAfter := buildFiles_check_disk settings disk names
      have hreports := buildFiles_check hsource hisSource fun name =>
        disk.slot (settings.outputHome disk) (outputName name)
      rw [hsources] at hbuild
      dsimp only at hbuild
      generalize buildFiles settings .check disk names = run at hbuild hdiskAfter hreports
      cases hbuild
      refine ⟨names, congrArg Disk.here hdiskAfter, hsources, hisSource, ?_, fun name _ => ?_⟩
      · simp only [hreports, Settings.outcomeFrom, readied_check, Disk.slot]
      · rw [hdiskAfter, readied_check, ite_eq_right_iff.mpr]
        intro _
        rw [Settings.outcomeFrom, outcome_check_slot, readied_check]

/-- A run that comes to a report, file by file. -/
lemma exists_byFile (hdefault : settings.layout.HasDefaultNames) (hdisk : disk.WellFormed)
    {report : BuildReport} {after : Disk}
    (hbuild : build settings mode disk = (.ok report, after)) :
    ∃ names, ByFile settings mode disk names report after := by
  cases mode with
  | check => exact byFile_check hdefault hdisk hbuild
  | write =>
      obtain ⟨names, made, built, h⟩ := exists_stages hdefault hdisk hbuild
      exact ⟨names, h.byFile hdefault⟩

/-! ## One file in two runs -/

lemma joinPath_inj {directory other : String} (hname : IsFileName name) (hother : IsFileName other)
    (h : joinPath directory name = joinPath directory other) : name = other := by
  have hhead : ∀ {found : String}, IsFileName found → found.toList.head? ≠ some '/' :=
    fun hfound heq => hfound.noSlash (List.mem_of_mem_head? heq)
  rw [joinPath, joinPath, if_neg (hhead hname), if_neg (hhead hother)] at h
  split_ifs at h <;> simpa [← String.toList_inj] using h

namespace ByFile

variable {report : BuildReport} {after : Disk}

/-- Which sources there are. -/
lemma mem_names (hdefault : settings.layout.HasDefaultNames)
    (h : ByFile settings mode disk names report after) (hname : IsSourceName name) :
    name ∈ names ↔ ∃ content, disk.get? (settings.sourceHome disk ++ [name])
      = some (.file content) := by
  rw [mem_sourceNames h.sources, hdefault.sourceExtension]
  exact and_iff_right hname.extension

/-- A source that is there has one entry in the report, any other has none. -/
lemma entries (h : ByFile settings mode disk names report after) (hname : IsSourceName name) :
    report.files.filter (fun file => file.source = joinPath settings.layout.sourceDirectory name)
      = if name ∈ names then [(settings.outcomeFrom mode disk name).1] else [] := by
  have hsource : ∀ other ∈ names,
      decide ((settings.outcomeFrom mode disk other).1.source
        = joinPath settings.layout.sourceDirectory name)
        = decide (other = name) := by
    intro other hmem
    obtain ⟨status, warnings, hreport⟩ := exists_outcome_eq settings mode other
      (settings.readied mode disk (settings.sourceHome disk ++ [other]))
      ⟨settings.readied mode disk (settings.outputHome disk ++ [outputName other]),
        settings.readied mode disk (settings.outputHome disk ++ [outputName other ++ ".tmp"])⟩
    rw [Settings.outcomeFrom, hreport, decide_eq_decide]
    constructor
    · exact joinPath_inj (h.isSource other hmem).isFileName hname.isFileName
    · rintro rfl
      rfl
  have hfilter : names.filter ((fun file : FileReport => decide
      (file.source = joinPath settings.layout.sourceDirectory name)) ∘ fun other =>
        (settings.outcomeFrom mode disk other).1) = List.replicate (names.count name) name :=
    (List.filter_congr hsource).trans (List.filter_eq name)
  rw [h.files, List.filter_map, hfilter, (nodup_sourceNames h.sources).count]
  split_ifs <;> rfl

end ByFile

/-- Runs that agree at a location agree on what is there when they come to their files. -/
lemma readied_congr {other : Disk} (hhere : other.here = disk.here) {location : Location}
    (h : other.get? location = disk.get? location) :
    settings.readied mode other location = settings.readied mode disk location := by
  rw [Settings.readied, Settings.readied, Disk.start_of_here hhere, h]

/-- **Files are built in isolation.**  Two disks agree on a source, on its output and on the
temporary file of its output, and a run comes to a report on both.  Then the entries of the source
in the two reports are the same, and so is what is at its output in the end.  If the source is
there, it has just one entry. -/
theorem build_isolated (hdefault : settings.layout.HasDefaultNames) {other : Disk}
    (hdisk : disk.WellFormed) (hother : other.WellFormed) (hhere : other.here = disk.here)
    {report otherReport : BuildReport} {after otherAfter : Disk}
    (hbuild : build settings mode disk = (.ok report, after))
    (hotherBuild : build settings mode other = (.ok otherReport, otherAfter))
    (hname : IsSourceName name) {source output : String}
    (hsource : source = joinPath settings.layout.sourceDirectory name)
    (houtput : output = outputPath settings.layout (stemOf name))
    (hagree : other.entryAt (.ofText source) = disk.entryAt (.ofText source)
      ∧ other.entryAt (.ofText output) = disk.entryAt (.ofText output)
      ∧ other.entryAt (Path.ofText output).temporary
        = disk.entryAt (Path.ofText output).temporary) :
    otherReport.files.filter (fun file => file.source = source)
        = report.files.filter (fun file => file.source = source)
      ∧ otherAfter.entryAt (.ofText output) = after.entryAt (.ofText output)
      ∧ ((∃ content, disk.entryAt (.ofText source) = some (.file content)) →
        ∃ entry, report.files.filter (fun file => file.source = source) = [entry]) := by
  rw [hsource, houtput] at hagree ⊢
  obtain ⟨names, h⟩ := exists_byFile hdefault hdisk hbuild
  obtain ⟨otherNames, hotherRun⟩ := exists_byFile hdefault hother hotherBuild
  obtain ⟨hsource, houtput, htemporary⟩ := hagree
  -- all paths lead to the same places on both disks
  simp only [Disk.entryAt, place_source hname.isFileName, place_output hdefault hname,
    place_output_temporary hdefault hname, sourceHome_of_here hhere, outputHome_of_here hhere,
    outputHome_of_here h.here, outputHome_of_here (hotherRun.here.trans hhere)]
    at hsource houtput htemporary ⊢
  have hnames : name ∈ otherNames ↔ name ∈ names := by
    rw [h.mem_names hdefault hname, hotherRun.mem_names hdefault hname, sourceHome_of_here hhere,
      hsource]
  have houtcome : settings.outcomeFrom mode other name = settings.outcomeFrom mode disk name := by
    rw [Settings.outcomeFrom, Settings.outcomeFrom, sourceHome_of_here hhere,
      outputHome_of_here hhere, readied_congr hhere hsource, readied_congr hhere houtput,
      readied_congr hhere htemporary]
  refine ⟨?_, ?_, fun hthere => ?_⟩
  · simp only [h.entries hname, hotherRun.entries hname, hnames, houtcome]
  · have hafter := hotherRun.outputs name hname
    simp only [outputHome_of_here hhere, hnames, houtcome, readied_congr hhere houtput] at hafter
    rw [hafter, h.outputs name hname]
  · rw [h.entries hname, if_pos ((h.mem_names hdefault hname).mpr hthere)]
    exact ⟨_, rfl⟩

/-- The gallery with one source gone, one broken, and no way to write the registry. -/
def attic : Disk :=
  ((gallery.erase ["src", "Scan.speck"]).put ["src", "Wall.speck"] (.file (.text "<p>"))).put
    ["src", "_componentRegistry.js"] .directory

/-- The same becomes of a card in the gallery and in the attic. -/
theorem build_isolated_card : ∃ report after otherReport otherAfter,
    build inPlace .write gallery = (.ok report, after)
    ∧ build inPlace .write attic = (.ok otherReport, otherAfter)
    ∧ otherReport.files.filter (fun file => file.source = "src/Card.speck")
      = report.files.filter (fun file => file.source = "src/Card.speck")
    ∧ otherAfter.entryAt (.ofText "src/Card.jsx") = after.entryAt (.ofText "src/Card.jsx")
    ∧ ∃ entry, report.files.filter (fun file => file.source = "src/Card.speck") = [entry] := by
  have hattic : attic.WellFormed := ⟨by decide +kernel, by decide +kernel⟩
  have hcard : IsSourceName "Card.speck" := ⟨by decide +kernel, by decide +kernel⟩
  obtain ⟨report, after, hbuild, -⟩ := build_gallery
  obtain ⟨otherReport, otherAfter, hotherBuild, -⟩ :=
    exists_build hasDefaultNames_inPlace hattic (by decide +kernel) (by decide +kernel)
  have hsource : "src/Card.speck" = joinPath inPlace.layout.sourceDirectory "Card.speck" := by
    decide +kernel
  have houtput : "src/Card.jsx" = outputPath inPlace.layout (stemOf "Card.speck") := by
    decide +kernel
  obtain ⟨hentries, hafter, hentry⟩ :=
    build_isolated hasDefaultNames_inPlace wellFormed_gallery hattic rfl
    hbuild hotherBuild hcard hsource houtput
      ⟨by decide +kernel, by decide +kernel, by decide +kernel⟩
  exact ⟨report, after, otherReport, otherAfter, hbuild, hotherBuild, hentries, hafter,
    hentry ⟨.text "<p>hi</p>", by decide +kernel⟩⟩

end Componentry
