import Componentry.Project.Report
import Componentry.Proofs.Project.Stages
import Componentry.Proofs.Text.ByteOrder

/-!
# What the registry lists

The registry is read off the directory of the outputs once all files were built, so it depends on
what this run has written there, on what former runs have left there, and on the files that failed.
`Listed` says in terms of the final disk which files count, and `registry_exact` that these are
listed and no others, each once, ordered by the bytes of their names.  `Stages.listed_iff` says the
same in terms of the disk before the build: listed are the outputs of the sources that succeed, and
what was left there without a source.

What is written for the components of a registry is read off its lines (`splitAt_registryText`):
they are imported one after the other, and exported with all their names in one line
(`splitAt_exports`).

Writing the registry itself does not get in the way: neither the registry nor its temporary file has
the extension of an output (`Stages.fileNames_after`).
-/

namespace Componentry

open Text

/-- A file that the registry lists: it has the extension of an output, it is in the directory of the
outputs in the end, it is not the registry, and it is not the output of a component that failed. -/
structure Listed (settings : Settings) (report : BuildReport) (after : Disk) (name : String) :
    Prop where
  extension : hasExtension settings.layout.outputExtension name = true
  present : ∃ content, after.get? (settings.outputHome after ++ [name]) = some (.file content)
  notRegistry : name ≠ settings.layout.registryFile
  notFailed : ∀ file ∈ report.files, file.status.isSuccess = false → file.component ≠ stemOf name

/-! ## The text -/

/-- The import of a component in a registry. -/
def registryImport (extension component : String) : String :=
  "import " ++ component ++ " from './" ++ component ++ "." ++ extension ++ "';"

/-- The lines of a registry: an import for each component in turn, and one export.  Without
components the first line is empty. -/
def registryLines (components : List String) (extension : String) : List String :=
  (if components = [] then [""] else components.map (registryImport extension))
    ++ ["", "export \x7b", "  " ++ ", ".intercalate components, "\x7d;", ""]

lemma registryText_eq (components : List String) (extension : String) :
    registryText components extension = "\n".intercalate (registryLines components extension) := by
  let imports := components.map (registryImport extension)
  have himports : "\n".intercalate imports
      = "\n".intercalate (if components = [] then [""] else imports) := by
    split_ifs with hnone
    · simp [imports, hnone]
    · rfl
  have hsome : (if components = [] then [""] else imports) ≠ [] := by
    split_ifs with hnone <;> simp [imports, hnone]
  change "\n".intercalate imports ++ "\n\nexport \x7b\n  " ++ ", ".intercalate components
    ++ "\n\x7d;\n" = _
  rw [registryLines, String.intercalate_append_of_ne_nil hsome (by simp), himports]
  simp [← String.toList_inj]

/-- A registry has these lines, unless a name breaks one. -/
lemma splitAt_registryText {components : List String} {extension : String}
    (hcomponents : ∀ component ∈ components, '\n' ∉ component.toList)
    (hextension : '\n' ∉ extension.toList) :
    splitAt '\n' (registryText components extension).toList
      = (registryLines components extension).map String.toList := by
  have himport : ∀ component ∈ components, '\n' ∉ (registryImport extension component).toList :=
    fun component hmem => by simp [registryImport, hcomponents component hmem, hextension]
  have hexports : '\n' ∉ (", ".intercalate components).toList := by
    intro hbreak
    rw [String.toList_intercalate] at hbreak
    rcases mem_joined hbreak with hseparator | ⟨_, hname, hbreak⟩
    · exact absurd hseparator (by decide)
    · obtain ⟨component, hmem, rfl⟩ := List.mem_map.mp hname
      exact hcomponents component hmem hbreak
  have hunbroken : ∀ line ∈ registryLines components extension, '\n' ∉ line.toList := by
    rw [registryLines, List.forall_mem_append]
    constructor
    · split_ifs
      · simp
      · simpa using himport
    · simpa using hexports
  rw [registryText_eq, String.toList_intercalate]
  exact splitAt_intercalate (by simp [registryLines]) (List.forall_mem_map.mpr hunbroken)

/-- The export names the components in turn. -/
lemma splitAt_exports {components : List String} (hsome : components ≠ [])
    (hcomponents : ∀ component ∈ components, ',' ∉ component.toList) :
    splitAt ',' (" " ++ ", ".intercalate components).toList
      = components.map fun component => (" " ++ component).toList := by
  have hjoined : (" " ++ ", ".intercalate components).toList
      = [','].intercalate (components.map fun component => (" " ++ component).toList) := by
    clear hcomponents
    induction components with
    | nil => exact absurd rfl hsome
    | cons component rest ih =>
        cases rest with
        | nil => simp
        | cons next more =>
            have hrest := ih (List.cons_ne_nil _ _)
            rw [List.map_cons] at hrest
            rw [List.map_cons, List.map_cons, List.intercalate_cons_cons, ← hrest,
              String.intercalate_cons_cons]
            simp
  rw [hjoined, splitAt_intercalate (by simpa using hsome) (by simpa using hcomponents)]

/-! ## Stems -/

/-- Files with the same extension and the same stem are the same. -/
lemma eq_of_stemOf {extension name other : String} (hname : hasExtension extension name = true)
    (hother : hasExtension extension other = true) (h : stemOf name = stemOf other) :
    name = other := by
  obtain ⟨hnone, stem, hstem, rfl⟩ := hasExtension_iff.mp hname
  obtain ⟨-, otherStem, hotherStem, rfl⟩ := hasExtension_iff.mp hother
  rw [stemOf_append hstem hnone, stemOf_append hotherStem hnone] at h
  rw [h]

lemma IsSourceName.hasExtension_outputName {name : String} (h : IsSourceName name) :
    hasExtension "jsx" (outputName name) = true :=
  hasExtension_iff.mpr ⟨by decide, _, h.eq_stemOf.1, rfl⟩

lemma IsSourceName.stemOf_outputName {name : String} (h : IsSourceName name) :
    stemOf (outputName name) = stemOf name :=
  stemOf_append h.eq_stemOf.1 (by decide)

/-! ## Outcomes -/

/-- The output of a file that succeeds is there. -/
lemma outcome_success {settings : Settings} {name : String} {source : Option Entry} {slot : Slot}
    (hsuccess : (outcome settings .write name source slot).1.status.isSuccess = true) :
    ∃ content, (outcome settings .write name source slot).2.target = some (.file content) := by
  rcases outcome_write_cases settings name source slot with ⟨_, -, h⟩ | ⟨compiled, -, h⟩
  · rw [h] at hsuccess
    cases hsuccess
  · rw [h] at hsuccess ⊢
    rcases slot.settle_cases compiled.value.text with
      ⟨htarget, hsettle⟩ | ⟨-, -, hsettle⟩ | ⟨message, hstatus, -, -⟩
    · rw [hsettle]
      exact ⟨_, htarget⟩
    · rw [hsettle]
      exact ⟨_, rfl⟩
    · dsimp only [fileReport] at hsuccess
      rw [hstatus] at hsuccess
      cases hsuccess

lemma component_outcomeOn (settings : Settings) (disk : Disk) (name : String) :
    (settings.outcomeOn disk name).1.component = stemOf name := by
  obtain ⟨status, warnings, hreport⟩ := exists_outcome_eq settings .write name
    (disk.get? (settings.sourceHome disk ++ [name]))
    (disk.slot (settings.outputHome disk) (outputName name))
  rw [Settings.outcomeOn, hreport, fileReport]

/-- What the status of the registry says. -/
lemma registryOutcome_written {layout : Layout} {components : Except Failure (List String)}
    {slot : Slot} {path : String} {listed : List String}
    (h : (registryOutcome layout components slot).1 = .written path listed) :
    components = .ok listed ∧ path = registryPath layout
      ∧ (registryOutcome layout components slot).2.target
        = some (.file (.text (registryText listed layout.outputExtension))) := by
  cases components with
  | error failure => cases h
  | ok found =>
      rw [registryOutcome] at h ⊢
      rcases slot.write_cases (registryText found layout.outputExtension) with
        ⟨-, hwrite⟩ | ⟨-, -, hwrite⟩ | ⟨-, -, hwrite⟩
      · rw [hwrite] at h
        cases h
      · rw [hwrite] at h
        cases h
      · rw [hwrite] at h ⊢
        cases h
        exact ⟨rfl, rfl, rfl⟩

/-! ## The listing -/

/-- The files that are listed, given the components to leave out. -/
def listedFiles (disk : Disk) (layout : Layout) (excluded : List String) : List String :=
  (fileNames layout.outputExtension
    (disk.children (disk.place (.ofText layout.outputDirectory)))).filter
    fun name => name != layout.registryFile && !excluded.contains (stemOf name)

lemma registeredComponents_of_opens {disk : Disk} {layout : Layout}
    (hopen : disk.Opens (.ofText layout.outputDirectory)) (excluded : List String) :
    registeredComponents disk layout excluded
      = if (Path.ofText layout.outputDirectory).ending = .nowhere then .error .missing
        else .ok ((listedFiles disk layout excluded).map stemOf) := by
  rw [registeredComponents, list_of_opens hopen]
  split_ifs
  · rfl
  · change Except.ok _ = Except.ok _
    rw [List.filter_map, List.filter_filter, listedFiles]
    congr 3
    funext name
    exact Bool.and_comm ..

lemma mem_failedComponents {files : List FileReport} {component : String} :
    component ∈ failedComponents files
      ↔ ∃ file ∈ files, file.status.isSuccess = false ∧ file.component = component := by
  simp [failedComponents, and_assoc]

/-- What is listed, in terms of the disk. -/
lemma mem_listedFiles {settings : Settings} {report : BuildReport} {after : Disk} {name : String} :
    name ∈ listedFiles after settings.layout (failedComponents report.files)
      ↔ Listed settings report after name := by
  simp only [listedFiles, List.mem_filter, mem_fileNames, Bool.and_eq_true, bne_iff_ne,
    Bool.not_eq_true', List.contains_eq_mem, decide_eq_false_iff_not, mem_failedComponents]
  constructor
  · rintro ⟨⟨hextension, hpresent⟩, hregistry, hfailed⟩
    exact ⟨hextension, hpresent, hregistry, fun file hfile hstatus heq =>
      hfailed ⟨file, hfile, hstatus, heq⟩⟩
  · rintro ⟨hextension, hpresent, hregistry, hfailed⟩
    refine ⟨⟨hextension, hpresent⟩, hregistry, ?_⟩
    rintro ⟨file, hfile, hstatus, heq⟩
    exact hfailed file hfile hstatus heq

namespace Stages

variable {settings : Settings} {disk made built after : Disk} {names : List String}
  {report : BuildReport}

/-- The last letter of an output.  Neither the registry nor a temporary file has it. -/
lemma getLast?_of_output (hdefault : settings.layout.HasDefaultNames) {name : String}
    (h : hasExtension settings.layout.outputExtension name = true) :
    name.toList.getLast? = some 'x' := by
  rw [hdefault.outputExtension] at h
  exact getLast?_of_hasExtension (by decide) h

/-- The outputs that are there when the registry is written are those that are there in the end. -/
lemma fileNames_after (hdefault : settings.layout.HasDefaultNames)
    (h : Stages settings disk names made built report after) (home : Location) :
    fileNames settings.layout.outputExtension (built.children home)
      = fileNames settings.layout.outputExtension (after.children home) := by
  refine fileNames_congr fun name hextension => ?_
  have hletter := getLast?_of_output hdefault hextension
  rw [h.get?_registry hdefault (by simp [hletter]) (by simp [hletter])]

lemma listedFiles_after (hdefault : settings.layout.HasDefaultNames)
    (h : Stages settings disk names made built report after) (excluded : List String) :
    listedFiles built settings.layout excluded = listedFiles after settings.layout excluded := by
  rw [listedFiles, listedFiles, h.fileNames_after hdefault, h.keeps_registry.place]

/-- Every report is that of a source. -/
lemma exists_source (h : Stages settings disk names made built report after) {file : FileReport}
    (hfile : file ∈ report.files) :
    ∃ name ∈ names, file = (settings.outcomeOn made name).1 ∧ file.component = stemOf name := by
  rw [h.files.reports, List.mem_map] at hfile
  obtain ⟨name, hmem, rfl⟩ := hfile
  exact ⟨name, hmem, rfl, component_outcomeOn ..⟩

/-- The output of a file that succeeds is listed: no other file has its component. -/
lemma listed_of_success (hdefault : settings.layout.HasDefaultNames)
    (h : Stages settings disk names made built report after) {name : String} (hmem : name ∈ names)
    (hsuccess : (settings.outcomeOn made name).1.status.isSuccess = true) :
    Listed settings report after (outputName name) := by
  have hname := h.isSource name hmem
  constructor
  · rw [hdefault.outputExtension]
    exact hname.hasExtension_outputName
  · obtain ⟨content, htarget⟩ := outcome_success hsuccess
    refine ⟨content, ?_⟩
    rw [outputHome_of_here (h.files.keeps.trans h.keeps_registry).here]
    exact (congrArg Slot.target (h.slot_of_mem hdefault hmem)).trans htarget
  · intro heq
    have hletter := congrArg (fun text => text.toList.getLast?) heq
    simp [hdefault.getLast?_registryFile] at hletter
  · intro file hfile hfailed heq
    obtain ⟨other, hother, rfl, hcomponent⟩ := h.exists_source hfile
    rw [hcomponent, hname.stemOf_outputName] at heq
    obtain rfl : other = name :=
      eq_of_stemOf (h.isSource other hother).extension hname.extension heq
    rw [hsuccess] at hfailed
    cases hfailed

/-- A file with the extension of an output is left alone if it is the output of no source. -/
lemma get?_of_ne_output (hdefault : settings.layout.HasDefaultNames)
    (h : Stages settings disk names made built report after) {name : String}
    (hextension : hasExtension settings.layout.outputExtension name = true)
    (hother : ∀ source ∈ names, name ≠ outputName source) :
    after.get? (settings.outputHome after ++ [name])
      = made.get? (settings.outputHome disk ++ [name]) := by
  have hletter := getLast?_of_output hdefault hextension
  rw [outputHome_of_here h.keeps.here,
    h.get?_registry hdefault (by simp [hletter]) (by simp [hletter]),
    ← outputHome_of_here h.keeps_made.here]
  exact congrArg Slot.target (h.files.slot_of_ne (by simp [hletter]) hother)

/-- What is listed, in terms of the disk before the build: the outputs of the sources that succeed,
and the files with the extension of an output that are there and are the output of no source. -/
lemma listed_iff (hdefault : settings.layout.HasDefaultNames)
    (h : Stages settings disk names made built report after) {name : String} :
    Listed settings report after name ↔
      (∃ source ∈ names, name = outputName source
        ∧ (settings.outcomeOn made source).1.status.isSuccess = true)
      ∨ (hasExtension settings.layout.outputExtension name = true
        ∧ (∀ source ∈ names, name ≠ outputName source)
        ∧ ∃ content, disk.get? (settings.outputHome disk ++ [name]) = some (.file content)) := by
  constructor
  · intro hlisted
    by_cases hsource : ∃ source ∈ names, name = outputName source
    · obtain ⟨source, hmem, rfl⟩ := hsource
      refine .inl ⟨source, hmem, rfl, ?_⟩
      by_contra hfailed
      have hfile : (settings.outcomeOn made source).1 ∈ report.files := by
        rw [h.files.reports]
        exact List.mem_map_of_mem hmem
      refine hlisted.notFailed _ hfile (by simpa using hfailed) ?_
      rw [(h.isSource source hmem).stemOf_outputName, component_outcomeOn]
    · push Not at hsource
      obtain ⟨content, hget⟩ := hlisted.present
      rw [h.get?_of_ne_output hdefault hlisted.extension hsource, h.made_file_iff] at hget
      exact .inr ⟨hlisted.extension, hsource, content, hget⟩
  · rintro (⟨source, hmem, rfl, hsuccess⟩ | ⟨hextension, hother, content, hget⟩)
    · exact h.listed_of_success hdefault hmem hsuccess
    · refine ⟨hextension, ⟨content, ?_⟩, ?_, ?_⟩
      · rw [h.get?_of_ne_output hdefault hextension hother, h.made_file_iff]
        exact hget
      · rintro rfl
        have hletter := getLast?_of_output hdefault hextension
        simp [hdefault.getLast?_registryFile] at hletter
      · intro file hfile hfailed heq
        obtain ⟨source, hmem, rfl, hcomponent⟩ := h.exists_source hfile
        have hname := h.isSource source hmem
        rw [hcomponent, ← hname.stemOf_outputName] at heq
        rw [hdefault.outputExtension] at hextension
        exact hother source hmem (eq_of_stemOf hextension hname.hasExtension_outputName heq.symm)

/-- The registry is written unless a directory is in its way, or the path of the outputs is
empty. -/
lemma written_of_free (hdefault : settings.layout.HasDefaultNames)
    (h : Stages settings disk names made built report after)
    (hending : (Path.ofText settings.layout.outputDirectory).ending ≠ .nowhere)
    (hfree : made.get? (settings.outputHome made ++ [settings.layout.registryFile])
      ≠ some .directory
      ∧ made.get? (settings.outputHome made ++ [settings.layout.registryFile ++ ".tmp"])
        ≠ some .directory) :
    ∃ components, report.registry = .written (registryPath settings.layout) components := by
  have hletter := hdefault.getLast?_registryFile
  have hslot : built.slot (settings.outputHome built) settings.layout.registryFile
      = made.slot (settings.outputHome made) settings.layout.registryFile := by
    rw [outputHome_of_here h.files.keeps.here]
    refine h.files.slot_of_ne (by simp [hletter]) fun name _ heq => ?_
    simpa [hletter] using congrArg (fun text => text.toList.getLast?) heq
  rw [h.registry, hslot, registeredComponents_of_opens (h.files.keeps.opens h.opens),
    if_neg hending]
  refine ⟨(listedFiles built settings.layout (failedComponents report.files)).map stemOf, ?_⟩
  rw [registryOutcome]
  rcases (made.slot (settings.outputHome made) settings.layout.registryFile).write_cases
    (registryText
    ((listedFiles built settings.layout (failedComponents report.files)).map stemOf)
    settings.layout.outputExtension) with ⟨htemporary, -⟩ | ⟨-, htarget, -⟩ | ⟨-, -, hwrite⟩
  · exact absurd htemporary hfree.2
  · exact absurd htarget hfree.1
  · rw [hwrite]

end Stages

/-- **The registry is exact.**  If a build writes the registry, then the file reads as the text for
the components that were told, and these are the stems of the listed files, ordered by the bytes of
their names.  None is there twice.  Every component that was compiled or unchanged is among them,
and none that failed; and the report tells their number. -/
theorem registry_exact {settings : Settings} (hdefault : settings.layout.HasDefaultNames)
    {disk : Disk} (hdisk : disk.WellFormed) {report : BuildReport} {after : Disk}
    (hbuild : build settings .write disk = (.ok report, after)) {path : String}
    {components : List String} (hregistry : report.registry = .written path components) :
    path = registryPath settings.layout
      ∧ after.readText (.ofText path)
        = .ok (registryText components settings.layout.outputExtension)
      ∧ (∃ files : List String, components = files.map stemOf
        ∧ files.Pairwise (fun name next => bytesOf name < bytesOf next)
        ∧ ∀ name, name ∈ files ↔ Listed settings report after name)
      ∧ components.Nodup
      ∧ (∀ file ∈ report.files, file.status = .compiled ∨ file.status = .unchanged →
        file.component ∈ components)
      ∧ (∀ file ∈ report.files,
        ∀ message, file.status = .failed message → file.component ∉ components)
      ∧ registryLine report.registry = .line ("Registry updated: " ++ path ++ " ("
        ++ toString components.length ++ " components)") := by
  obtain ⟨names, made, built, h⟩ := exists_stages hdefault hdisk hbuild
  have hopens := h.files.keeps.opens h.opens
  obtain ⟨hcomponents, rfl, htarget⟩ := registryOutcome_written (h.registry.symm.trans hregistry)
  have hholds : after.get? (settings.outputHome built ++ [settings.layout.registryFile])
      = some (.file (.text (registryText components settings.layout.outputExtension))) :=
    (congrArg Slot.target h.refills.filled).trans htarget
  rw [registeredComponents_of_opens hopens] at hcomponents
  split_ifs at hcomponents
  obtain rfl := Except.ok.inj hcomponents
  rw [h.listedFiles_after hdefault] at hregistry hholds ⊢
  generalize hfiles : listedFiles after settings.layout (failedComponents report.files) = files
    at hregistry hholds ⊢
  have hlisted : ∀ name, name ∈ files ↔ Listed settings report after name := by
    intro name
    rw [← hfiles]
    exact mem_listedFiles
  have hsorted : files.Pairwise (· < ·) := by
    rw [← hfiles]
    exact (pairwise_fileNames ..).filter _
  have hnodup : files.Nodup := by
    rw [← hfiles]
    exact (nodup_fileNames ..).filter _
  refine ⟨rfl, ?_, ⟨files, rfl, hsorted.imp bytesOf_lt, hlisted⟩, ?_, ?_, ?_, ?_⟩
  · rw [registryPath,
      Disk.readText_slot (h.keeps_registry.opens hopens) hdefault.isFileName_registryFile,
      h.keeps_registry.place]
    exact congrArg Disk.readEntry hholds
  · refine hnodup.map_on fun name hname other hother heq => ?_
    exact eq_of_stemOf ((hlisted name).mp hname).extension ((hlisted other).mp hother).extension heq
  · intro file hfile hstatus
    obtain ⟨name, hmem, rfl, hcomponent⟩ := h.exists_source hfile
    have hsuccess : (settings.outcomeOn made name).1.status.isSuccess = true := by
      rcases hstatus with hstatus | hstatus <;> rw [hstatus] <;> rfl
    rw [hcomponent, ← (h.isSource name hmem).stemOf_outputName]
    exact List.mem_map_of_mem ((hlisted _).mpr (h.listed_of_success hdefault hmem hsuccess))
  · intro file hfile message hstatus hmem
    obtain ⟨name, hname, hstem⟩ := List.mem_map.mp hmem
    exact ((hlisted name).mp hname).notFailed file hfile (by rw [hstatus]; rfl) hstem.symm
  · rw [hregistry]
    rfl

/-- The gallery with an output that a former run has left for a source that fails now, and one
without a source. -/
def museum : Disk :=
  (gallery.put ["src", "Scan.jsx"] (.file (.text "left"))).put ["src", "Poster.jsx"]
    (.file (.text "made"))

/-- The names of the files of the museum. -/
def museumFiles : List String :=
  ["Poster.jsx", "Scan.jsx", "Wall.speck", "Scan.speck", "Card.jsx.tmp", "Card.speck"]

lemma file_museum_iff {name : String} :
    (∃ content, museum.get? ["src", name] = some (.file content)) ↔ name ∈ museumFiles := by
  have hfiles : museum.entries.filter (fun found => found.2 != .directory)
      = [(["src", "Poster.jsx"], .file (.text "made")), (["src", "Scan.jsx"], .file (.text "left")),
        (["src", "Wall.speck"], .file (.text "<p>hi</p>")),
        (["src", "Scan.speck"], .file (.binary [255])),
        (["src", "Card.jsx.tmp"], .file (.text "left behind")),
        (["src", "Card.speck"], .file (.text "<p>hi</p>"))] := by decide +kernel
  have hfound : ∀ content, museum.get? ["src", name] = some (.file content)
      ↔ (["src", name], .file content)
        ∈ museum.entries.filter (fun found => found.2 != .directory) := by
    intro content
    rw [Disk.get?_eq_some_iff (by simp), List.mem_filter]
    exact (and_iff_left rfl).symm
  simp [hfound, hfiles, museumFiles, exists_or]

section

variable {names : List String} {made built after : Disk} {report : BuildReport}

/-- The sources of the museum. -/
lemma mem_sources_museum (h : Stages inPlace museum names made built report after) {name : String} :
    name ∈ names ↔ name ∈ ["Card.speck", "Scan.speck", "Wall.speck"] := by
  have hplace : museum.place (.ofText inPlace.layout.sourceDirectory) = ["src"] := by decide +kernel
  rw [mem_sourceNames h.sources, hplace, List.singleton_append, file_museum_iff, and_comm]
  constructor
  · rintro ⟨hmem, hextension⟩
    have hsources : ∀ name ∈ museumFiles, hasExtension inPlace.layout.sourceExtension name = true →
        name ∈ ["Card.speck", "Scan.speck", "Wall.speck"] := by decide +kernel
    exact hsources name hmem hextension
  · revert name
    decide +kernel

/-- Listed are the output of the card, and that of the poster, which has no source. -/
lemma listed_museum (h : Stages inPlace museum names museum built report after) {name : String} :
    Listed inPlace report after name ↔ name ∈ ["Card.jsx", "Poster.jsx"] := by
  have hplace : inPlace.outputHome museum = ["src"] := by decide +kernel
  have hsucceeds : ∀ source ∈ ["Card.speck", "Scan.speck", "Wall.speck"],
      ((inPlace.outcomeOn museum source).1.status.isSuccess = true ↔ source = "Card.speck") := by
    decide +kernel
  have hleft : ∀ name ∈ museumFiles, (hasExtension "jsx" name = true
      ∧ ∀ source ∈ ["Card.speck", "Scan.speck", "Wall.speck"], name ≠ outputName source)
      ↔ name = "Poster.jsx" := by decide +kernel
  rw [h.listed_iff hasDefaultNames_inPlace, hplace, List.singleton_append, file_museum_iff]
  simp only [mem_sources_museum h]
  constructor
  · rintro (⟨source, hmem, rfl, hsuccess⟩ | ⟨hextension, hother, hmem⟩)
    · rw [(hsucceeds source hmem).mp hsuccess]
      decide +kernel
    · rw [(hleft name hmem).mp ⟨hextension, hother⟩]
      decide +kernel
  · intro hmem
    rcases List.mem_pair.mp hmem with rfl | rfl
    · exact .inl ⟨"Card.speck", by simp, by decide +kernel, (hsucceeds _ (by simp)).mpr rfl⟩
    · obtain ⟨hextension, hother⟩ := (hleft "Poster.jsx" (by decide)).mpr rfl
      exact .inr ⟨hextension, hother, by decide⟩

end

/-- The registry of the museum lists the card, which is compiled, and the poster, which is left from
a former run.  It does not list the scan, although its former output is still there. -/
theorem registry_exact_museum : ∃ report after,
    build inPlace .write museum = (.ok report, after)
    ∧ report.registry = .written "src/_componentRegistry.js" ["Card", "Poster"]
    ∧ after.readText (.ofText "src/_componentRegistry.js")
      = .ok ("import Card from './Card.jsx';\nimport Poster from './Poster.jsx';\n\n"
        ++ "export \x7b\n  Card, Poster\n\x7d;\n")
    ∧ ∀ name, name ∈ ["Card.jsx", "Poster.jsx"] ↔ Listed inPlace report after name := by
  have hmuseum : museum.WellFormed := ⟨by decide +kernel, by decide +kernel⟩
  have hmaking : museum.makeDirectories (.ofText inPlace.layout.outputDirectory)
      = (.ok (), museum) := by
    decide +kernel
  obtain ⟨report, after, hbuild, -⟩ :=
    exists_build hasDefaultNames_inPlace hmuseum (by decide +kernel) hmaking
  obtain ⟨names, made, built, hstages⟩ := exists_stages hasDefaultNames_inPlace hmuseum hbuild
  obtain rfl : museum = made := congrArg Prod.snd (hmaking.symm.trans hstages.making)
  obtain ⟨components, hregistry⟩ :=
    hstages.written_of_free hasDefaultNames_inPlace (by decide +kernel)
    ⟨by decide +kernel, by decide +kernel⟩
  obtain ⟨-, hread, ⟨files, hcomponents, hsorted, hlisted⟩, -⟩ :=
    registry_exact hasDefaultNames_inPlace hmuseum hbuild hregistry
  have hpath : registryPath inPlace.layout = "src/_componentRegistry.js" := by decide +kernel
  have hfiles : files = ["Card.jsx", "Poster.jsx"] := by
    have : Std.Irrefl fun name next : String => bytesOf name < bytesOf next :=
      ⟨fun _ => List.lt_irrefl _⟩
    have : Std.Antisymm fun name next : String => bytesOf name < bytesOf next :=
      ⟨fun _ _ hlt hgt => absurd hgt (List.lt_asymm hlt)⟩
    exact hsorted.eq_of_mem_iff (by decide +kernel) fun name =>
      (hlisted name).trans (listed_museum hstages)
  have hnames : components = ["Card", "Poster"] := by
    rw [hcomponents, hfiles]
    decide +kernel
  rw [hpath, hnames] at hregistry hread
  rw [hfiles] at hlisted
  refine ⟨report, after, hbuild, hregistry, ?_, hlisted⟩
  rw [hread]
  decide +kernel

end Componentry
