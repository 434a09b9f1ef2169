import Componentry.Proofs.Project.Outcomes

/-!
# The stages of a build

`build_write_cases` takes a build apart.  It stops before it changes anything, it stops while
directories are made, or it goes through all of its stages: directories are made, files are built,
and the registry is written (`Stages`).  What is true of each stage was said before, so here it is
only put together: what is in a slot in the end, and what is anywhere else.

A disk has to be one that can be found (`Disk.WellFormed`): a name with a slash in it would lead
elsewhere.
-/

namespace Componentry

/-- A disk as it is found: relative paths start from a directory, and there are no slashes in
names. -/
structure Disk.WellFormed (disk : Disk) : Prop where
  here : disk.get? disk.here = some .directory
  names : ∀ entry ∈ disk.entries, ∀ name ∈ entry.1, '/' ∉ name.toList

variable {settings : Settings} {disk : Disk}

lemma Disk.keepsDirectories_makeDirectories (disk : Disk) (path : Path) :
    disk.KeepsDirectories (disk.makeDirectories path).2 :=
  keepsDirectories_makeWay ..

namespace Disk.WellFormed

/-- Sources have the names of sources. -/
lemma isSourceName (h : disk.WellFormed) (hdefault : settings.layout.HasDefaultNames)
    {names : List String} (hsources : sourceNames disk settings.layout = .ok names) {name : String}
    (hmem : name ∈ names) :
    IsSourceName name := by
  obtain ⟨hextension, content, hget⟩ := (mem_sourceNames hsources).mp hmem
  rw [hdefault.sourceExtension] at hextension
  rw [get?_eq_some_iff (by simp)] at hget
  exact ⟨h.names _ hget name (by simp), hextension⟩

/-- A directory that could be made is open. -/
lemma opens_makeDirectories (h : disk.WellFormed) {path : Path}
    (hok : (disk.makeDirectories path).1 = .ok ()) :
    (disk.makeDirectories path).2.Opens path := by
  have hkeeps := disk.keepsDirectories_makeDirectories path
  have hstart : disk.get? (disk.start path) = some .directory := by
    rw [start]
    split_ifs
    · rfl
    · exact h.here
  have hwalk := walk_of_way (hkeeps.kept _ hstart) (makeWay_ok hok)
  rw [← hkeeps.start] at hwalk
  exact ⟨hwalk.1, hwalk.2⟩

end Disk.WellFormed

/-- The stages of a build that comes to a report. -/
structure Stages (settings : Settings) (disk : Disk) (names : List String) (made built : Disk)
    (report : BuildReport) (after : Disk) : Prop where
  mode : report.mode = .write
  sources : sourceNames disk settings.layout = .ok names
  isSource : ∀ name ∈ names, IsSourceName name
  making : disk.makeDirectories (.ofText settings.layout.outputDirectory) = (.ok (), made)
  opens : made.Opens (.ofText settings.layout.outputDirectory)
  files : Built settings made names report.files built
  registry : report.registry = (registryOutcome settings.layout
    (registeredComponents built settings.layout (failedComponents report.files))
    (built.slot (settings.outputHome built) settings.layout.registryFile)).1
  refills : built.Refills (settings.outputHome built) settings.layout.registryFile
    (registryOutcome settings.layout
      (registeredComponents built settings.layout (failedComponents report.files))
      (built.slot (settings.outputHome built) settings.layout.registryFile)).2 after

/-- A build on a disk with sources, where the directory of the outputs can be made. -/
lemma build_of_making {names : List String} {made : Disk}
    (hsources : sourceNames disk settings.layout = .ok names)
    (hmaking : disk.makeDirectories (.ofText settings.layout.outputDirectory) = (.ok (), made)) :
    build settings .write disk
      = (.ok ⟨.write, (buildFiles settings .write made names).1,
          (writeRegistry (buildFiles settings .write made names).2 settings.layout
            (failedComponents (buildFiles settings .write made names).1)).1⟩,
        (writeRegistry (buildFiles settings .write made names).2 settings.layout
          (failedComponents (buildFiles settings .write made names).1)).2) := by
  rw [build, hsources]
  dsimp only
  rw [hmaking]

/-- What a build can come to. -/
lemma build_write_cases (hdefault : settings.layout.HasDefaultNames) (hdisk : disk.WellFormed) :
    (∃ error, build settings .write disk = (.error error, disk))
      ∨ (∃ error, build settings .write disk
        = (.error error, (disk.makeDirectories (.ofText settings.layout.outputDirectory)).2))
      ∨ ∃ report after names made built, build settings .write disk = (.ok report, after)
        ∧ Stages settings disk names made built report after := by
  cases hsources : sourceNames disk settings.layout with
  | error error => exact .inl ⟨error, by rw [build, hsources]⟩
  | ok names =>
      right
      rcases hmaking : disk.makeDirectories (.ofText settings.layout.outputDirectory) with
        ⟨result, made⟩
      cases result with
      | error failure =>
          refine .inl ⟨.unmade settings.layout.outputDirectory failure, ?_⟩
          rw [build, hsources]
          dsimp only
          rw [hmaking]
      | ok _ =>
          right
          obtain ⟨-, hsource, -⟩ := sourceNames_eq_ok.mp hsources
          have hkeeps := disk.keepsDirectories_makeDirectories
            (.ofText settings.layout.outputDirectory)
          have hopens := hdisk.opens_makeDirectories (congrArg Prod.fst hmaking)
          rw [hmaking] at hkeeps hopens
          have hisSource : ∀ name ∈ names, IsSourceName name :=
            fun name hmem => hdisk.isSourceName hdefault hsources hmem
          have hfiles := buildFiles_built hdefault (hkeeps.opens hsource) hopens hisSource
            (nodup_sourceNames hsources)
          obtain ⟨hregistry, hrefills⟩ := writeRegistry_slot (hfiles.keeps.opens hopens)
            hdefault.isFileName_registryFile
            (failedComponents (buildFiles settings .write made names).1)
          exact ⟨_, _, names, made, _, build_of_making hsources hmaking,
            ⟨rfl, hsources, hisSource, hmaking, hopens, hfiles, hregistry, hrefills⟩⟩

namespace Stages

variable {names : List String} {made built after : Disk} {report : BuildReport}

lemma keeps_made (h : Stages settings disk names made built report after) :
    disk.KeepsDirectories made := by
  have hkeeps := disk.keepsDirectories_makeDirectories (.ofText settings.layout.outputDirectory)
  rwa [h.making] at hkeeps

lemma keeps_built (h : Stages settings disk names made built report after) :
    disk.KeepsDirectories built :=
  h.keeps_made.trans h.files.keeps

lemma keeps_registry (h : Stages settings disk names made built report after) :
    built.KeepsDirectories after :=
  h.refills.keepsDirectories (keepsDirectories_registryOutcome ..)

lemma keeps (h : Stages settings disk names made built report after) :
    disk.KeepsDirectories after :=
  h.keeps_built.trans h.keeps_registry

/-- What is there once the directory of the outputs was made. -/
lemma get?_made (h : Stages settings disk names made built report after) (location : Location) :
    made.get? location
      = if location ∈ Disk.way (disk.start (.ofText settings.layout.outputDirectory))
          (Path.ofText settings.layout.outputDirectory).steps
        then some .directory else disk.get? location := by
  have hget := @Disk.get?_makeWay disk _ _ _ _ (congrArg Prod.fst h.making) location
  rwa [← Disk.makeDirectories, h.making] at hget

/-- What was there stays when the directory of the outputs is made. -/
lemma made_kept (h : Stages settings disk names made built report after) {location : Location}
    {entry : Entry} (hget : disk.get? location = some entry) : made.get? location = some entry := by
  have hkept := @Disk.makeWay_kept disk (disk.start (.ofText settings.layout.outputDirectory))
    location false ((Path.ofText settings.layout.outputDirectory).ending = .dot)
    (Path.ofText settings.layout.outputDirectory).steps entry hget
  rwa [← Disk.makeDirectories, h.making] at hkept

/-- No file is made. -/
lemma made_file_iff (h : Stages settings disk names made built report after) {location : Location}
    {content : Content} :
    made.get? location = some (.file content) ↔ disk.get? location = some (.file content) := by
  constructor
  · intro hget
    rw [h.get?_made] at hget
    split_ifs at hget
    · cases hget
    · exact hget
  · exact h.made_kept

/-- The registry is told apart from what ends otherwise. -/
lemma get?_registry (hdefault : settings.layout.HasDefaultNames)
    (h : Stages settings disk names made built report after) {location : Location}
    (hregistry : lastLetter location ≠ some 's') (htemporary : lastLetter location ≠ some 'p') :
    after.get? location = built.get? location := by
  refine h.refills.others location ?_ ?_ <;> rintro rfl
  · exact hregistry (by simp [hdefault.getLast?_registryFile])
  · exact htemporary (by simp)

/-- The slot of an output is not that of the registry. -/
lemma slot_registry (hdefault : settings.layout.HasDefaultNames)
    (h : Stages settings disk names made built report after) (name : String) :
    after.slot (settings.outputHome made) (outputName name)
      = built.slot (settings.outputHome made) (outputName name) := by
  have hletter := hdefault.getLast?_registryFile
  have hrefills := h.refills
  rw [outputHome_of_here h.files.keeps.here] at hrefills
  refine hrefills.slot_of_ne ?_ ?_ ?_ <;> intro heq
  all_goals simpa [hletter] using congrArg (fun text => text.toList.getLast?) heq

/-- What is in the slot of an output in the end. -/
lemma slot_of_mem (hdefault : settings.layout.HasDefaultNames)
    (h : Stages settings disk names made built report after) {name : String} (hmem : name ∈ names) :
    after.slot (settings.outputHome made) (outputName name) = (settings.outcomeOn made name).2 := by
  rw [h.slot_registry hdefault, h.files.filled name hmem]

/-- Sources are left alone. -/
lemma get?_source (hdefault : settings.layout.HasDefaultNames)
    (h : Stages settings disk names made built report after) {name : String}
    (hextension : hasExtension "speck" name = true) (home : Location) :
    after.get? (home ++ [name]) = made.get? (home ++ [name]) := by
  have hletter := @getLast?_of_hasExtension _ _ 'k' (by decide) hextension
  rw [h.get?_registry hdefault (by simp [hletter]) (by simp [hletter])]
  exact h.files.get?_of_letter (by simp [hletter]) (by simp [hletter])

end Stages

/-- A build that comes to a report goes through all stages. -/
lemma exists_stages (hdefault : settings.layout.HasDefaultNames) (hdisk : disk.WellFormed)
    {report : BuildReport} {after : Disk} (h : build settings .write disk = (.ok report, after)) :
    ∃ names made built, Stages settings disk names made built report after := by
  rcases build_write_cases hdefault hdisk with
    ⟨error, herror⟩ | ⟨error, herror⟩ | ⟨_, _, names, made, built, hok, hstages⟩
  · rw [herror] at h
    cases h
  · rw [herror] at h
    cases h
  · rw [hok] at h
    cases h
    exact ⟨names, made, built, hstages⟩

/-- A build whose directories are there comes to a report, and every source has its outcome in
it. -/
lemma exists_build (hdefault : settings.layout.HasDefaultNames) (hdisk : disk.WellFormed)
    (hsource : disk.isDirectory (.ofText settings.layout.sourceDirectory) = true)
    (hmaking : disk.makeDirectories (.ofText settings.layout.outputDirectory) = (.ok (), disk)) :
    ∃ report after, build settings .write disk = (.ok report, after)
      ∧ ∀ name, hasExtension "speck" name = true → ∀ content,
        disk.get? (settings.sourceHome disk ++ [name]) = some (.file content) →
        (settings.outcomeOn disk name).1 ∈ report.files := by
  obtain ⟨hending, hopen⟩ := isDirectory_iff.mp hsource
  have hsources := sourceNames_eq_ok.mpr ⟨hending, hopen, rfl⟩
  have hopens := hdisk.opens_makeDirectories (congrArg Prod.fst hmaking)
  rw [hmaking] at hopens
  have hfiles := buildFiles_built hdefault hopen hopens
    (fun name hmem => hdisk.isSourceName hdefault hsources hmem) (nodup_sourceNames hsources)
  refine ⟨_, _, build_of_making hsources hmaking, fun name hextension content hget => ?_⟩
  rw [hfiles.reports]
  rw [← hdefault.sourceExtension] at hextension
  exact List.mem_map_of_mem ((mem_sourceNames hsources).mpr ⟨hextension, content, hget⟩)

/-! ## A project

Everything in one directory: a source that compiles, with a temporary file left behind, one that is
no text, and one with a directory in place of its output.
-/

/-- Settings for sources and outputs in one directory. -/
def inPlace : Settings := ({} : Settings).withDirectories (some "src") (some "src")

lemma hasDefaultNames_inPlace : inPlace.layout.HasDefaultNames := rfl

/-- Three sources, of which one can be built. -/
def gallery : Disk :=
  [(["src"], .directory), (["src", "Card.speck"], .file (.text "<p>hi</p>")),
    (["src", "Card.jsx.tmp"], .file (.text "left behind")),
    (["src", "Scan.speck"], .file (.binary [255])),
    (["src", "Wall.speck"], .file (.text "<p>hi</p>")), (["src", "Wall.jsx"], .directory)].foldl
    (fun disk (location, entry) => disk.put location entry) (Disk.empty [])

lemma wellFormed_gallery : gallery.WellFormed :=
  ⟨by decide +kernel, by decide +kernel⟩

/-- The build of the gallery comes to a report, with a file that is compiled and one that cannot be
written. -/
lemma build_gallery : ∃ report after, build inPlace .write gallery = (.ok report, after)
    ∧ (∃ file ∈ report.files, file.status = .compiled)
    ∧ ∃ file ∈ report.files,
      file.status = .failed "failed to write output: Is a directory (os error 21)" := by
  obtain ⟨report, after, hbuild, hfiles⟩ :=
    exists_build hasDefaultNames_inPlace wellFormed_gallery (by decide +kernel) (by decide +kernel)
  have hcard := hfiles "Card.speck" (by decide +kernel) (.text "<p>hi</p>") (by decide +kernel)
  have hwall := hfiles "Wall.speck" (by decide +kernel) (.text "<p>hi</p>") (by decide +kernel)
  exact ⟨report, after, hbuild, ⟨_, hcard, by decide +kernel⟩, ⟨_, hwall, by decide +kernel⟩⟩

end Componentry
