import Mathlib.Data.List.TakeWhile
import Componentry.Project.Build

/-!
# Names of files

`IsFileName` is what the name of a file is like.  `hasExtension_iff` takes a name with an extension
apart into its stem and the extension.

**Names in a build.**  The files of a build have names that do not meet, if these are left to their
defaults (`Layout.HasDefaultNames`).  They are told apart by their last letters: a source ends in
`k`, an output in `x`, the registry in `s` and a temporary file in `p`.
-/

namespace Componentry

/-! ## Stems and extensions -/

/-- The name of a file: there is no slash in it, and it is a step down. -/
structure IsFileName (name : String) : Prop where
  noSlash : '/' ∉ name.toList
  isStep : Path.step? name.toList = some (.down name)

lemma isFileName_of_ne {name : String} (hslash : '/' ∉ name.toList) (hnil : name ≠ "")
    (hdot : name ≠ ".") (hdots : name ≠ "..") : IsFileName name := by
  have htext : ∀ text : String, name ≠ text → name.toList ≠ text.toList :=
    fun text h heq => h (String.toList_inj.mp heq)
  refine ⟨hslash, ?_⟩
  rw [Path.step?, if_neg, if_neg, String.ofList_toList]
  · exact htext ".." hdots
  · rintro (h | h)
    · exact htext "" hnil h
    · exact htext "." hdot h

/-- A name that ends in a letter is a file name. -/
lemma isFileName_of_getLast? {name : String} {c : Char} (hslash : '/' ∉ name.toList)
    (hlast : name.toList.getLast? = some c) (hc : c ≠ '.') : IsFileName name := by
  refine isFileName_of_ne hslash ?_ ?_ ?_ <;> rintro rfl
  · cases hlast
  · exact hc (Option.some.inj hlast).symm
  · exact hc (Option.some.inj hlast).symm

/-- A name with an extension is its stem, a dot and the extension. -/
lemma splitName_append {stem extension : List Char} (hstem : stem ≠ [])
    (hextension : '.' ∉ extension) :
    splitName (stem ++ '.' :: extension) = (stem, some extension) := by
  have hbehind : ((stem ++ '.' :: extension).reverse.takeWhile (· != '.')).reverse = extension := by
    have hall : ∀ c ∈ extension.reverse, (c != '.') = true := by
      intro c hc
      have : c ≠ '.' := fun h => hextension (by simpa [h] using hc)
      simpa using this
    rw [List.reverse_append, List.reverse_cons, List.append_assoc,
      List.takeWhile_append_of_pos hall]
    simp
  have hlength : (stem ++ '.' :: extension).length - extension.length - 1 = stem.length := by
    simp only [List.length_append, List.length_cons]
    omega
  simp only [splitName, hbehind, hlength, List.take_left']
  simp [hstem]

/-- What the extension of a name is. -/
lemma hasExtension_iff {extension name : String} :
    hasExtension extension name = true
      ↔ '.' ∉ extension.toList ∧ ∃ stem, stem ≠ "" ∧ name = stem ++ "." ++ extension := by
  constructor
  · intro h
    have hsplit : (splitName name.toList).2 = some extension.toList := by
      simpa [hasExtension] using h
    simp only [splitName] at hsplit
    split_ifs at hsplit with hstem
    rw [Option.some.injEq] at hsplit
    have hnone : '.' ∉ extension.toList := by
      rw [← hsplit, List.mem_reverse]
      intro hmem
      simpa using List.mem_takeWhile_imp hmem
    rw [hsplit] at hstem
    -- behind the extension, read from the end, comes the dot that ended it
    obtain ⟨front, hfront⟩ : ∃ front, name.toList = front ++ '.' :: extension.toList := by
      have hrest := List.takeWhile_append_dropWhile (p := (· != '.')) (l := name.toList.reverse)
      cases hdrop : name.toList.reverse.dropWhile (· != '.') with
      | nil =>
          rw [hdrop, List.append_nil] at hrest
          rw [hrest, List.reverse_reverse] at hsplit
          simp [hsplit] at hstem
      | cons c rest =>
          have hc : c = '.' := by
            have := List.head_dropWhile_not (p := (· != '.')) (l := name.toList.reverse)
              (by simp [hdrop])
            simpa [hdrop] using this
          refine ⟨rest.reverse, ?_⟩
          rw [hdrop, hc] at hrest
          have hname := congrArg List.reverse hrest
          rw [List.reverse_reverse, List.reverse_append, hsplit, List.reverse_cons] at hname
          rw [← hname, List.append_assoc, List.singleton_append]
    refine ⟨hnone, String.ofList front, ?_, ?_⟩
    · intro hnil
      have hfrontNil : front = [] := by simpa using congrArg String.toList hnil
      simp [hfront, hfrontNil] at hstem
    · rw [← String.toList_inj, hfront]
      simp
  · rintro ⟨hnone, stem, hstem, rfl⟩
    have hne : stem.toList ≠ [] := fun h => hstem (by simpa using h)
    have hname : (stem ++ "." ++ extension).toList = stem.toList ++ '.' :: extension.toList := by
      simp
    rw [hasExtension, hname, splitName_append hne hnone]
    simp

lemma stemOf_append {stem extension : String} (hstem : stem ≠ "")
    (hextension : '.' ∉ extension.toList) :
    stemOf (stem ++ "." ++ extension) = stem := by
  have hne : stem.toList ≠ [] := fun h => hstem (by simpa using h)
  have hname : (stem ++ "." ++ extension).toList = stem.toList ++ '.' :: extension.toList := by simp
  rw [stemOf, hname, splitName_append hne hextension]
  simp

/-! ## Names in a build -/

/-- A layout that says nothing but its directories. -/
def Layout.HasDefaultNames (layout : Layout) : Prop :=
  layout = { sourceDirectory := layout.sourceDirectory, outputDirectory := layout.outputDirectory }

/-- The name of a source file. -/
structure IsSourceName (name : String) : Prop where
  noSlash : '/' ∉ name.toList
  extension : hasExtension "speck" name = true

/-- The name of the output of a source file. -/
def outputName (name : String) : String := stemOf name ++ "." ++ "jsx"

/-- The last letter of the name at a location. -/
def lastLetter (location : Location) : Option Char :=
  location.getLast?.bind fun name => name.toList.getLast?

@[simp] lemma lastLetter_append (home : Location) (name : String) :
    lastLetter (home ++ [name]) = name.toList.getLast? := by
  simp [lastLetter]

@[simp] lemma getLast?_outputName (name : String) :
    (outputName name).toList.getLast? = some 'x' := by
  simp [outputName, List.getLast?_append]

@[simp] lemma getLast?_temporary (name : String) : (name ++ ".tmp").toList.getLast? = some 'p' := by
  simp [List.getLast?_append]

lemma getLast?_of_hasExtension {extension name : String} {c : Char}
    (hc : extension.toList.getLast? = some c) (h : hasExtension extension name = true) :
    name.toList.getLast? = some c := by
  obtain ⟨-, stem, -, rfl⟩ := hasExtension_iff.mp h
  rw [String.toList_append, List.getLast?_append, hc, Option.some_or]

namespace IsSourceName

variable {name other : String}

lemma getLast? (h : IsSourceName name) : name.toList.getLast? = some 'k' :=
  getLast?_of_hasExtension (by decide) h.extension

lemma eq_stemOf (h : IsSourceName name) :
    stemOf name ≠ "" ∧ name = stemOf name ++ "." ++ "speck" := by
  obtain ⟨hextension, stem, hstem, rfl⟩ := hasExtension_iff.mp h.extension
  rw [stemOf_append hstem hextension]
  exact ⟨hstem, rfl⟩

lemma isFileName (h : IsSourceName name) : IsFileName name :=
  isFileName_of_getLast? h.noSlash h.getLast? (by decide)

lemma isFileName_outputName (h : IsSourceName name) : IsFileName (outputName name) := by
  have hstem : '/' ∉ (stemOf name).toList := by
    intro hmem
    apply h.noSlash
    rw [h.eq_stemOf.2]
    simp [hmem]
  refine isFileName_of_getLast? ?_ (getLast?_outputName name) (by decide)
  simp [outputName, hstem]

/-- Different sources have different outputs. -/
lemma eq_of_outputName (h : IsSourceName name) (hother : IsSourceName other)
    (heq : outputName name = outputName other) : name = other := by
  have hstem : stemOf name = stemOf other := by
    simpa [outputName, ← String.toList_inj] using heq
  rw [h.eq_stemOf.2, hother.eq_stemOf.2, hstem]

end IsSourceName

namespace Layout.HasDefaultNames

variable {layout : Layout}

lemma sourceExtension (h : layout.HasDefaultNames) : layout.sourceExtension = "speck" :=
  congrArg Layout.sourceExtension h

lemma outputExtension (h : layout.HasDefaultNames) : layout.outputExtension = "jsx" :=
  congrArg Layout.outputExtension h

lemma registryFile (h : layout.HasDefaultNames) : layout.registryFile = "_componentRegistry.js" :=
  congrArg Layout.registryFile h

lemma outputPath (h : layout.HasDefaultNames) (name : String) :
    Componentry.outputPath layout (stemOf name)
      = joinPath layout.outputDirectory (outputName name) := by
  rw [Componentry.outputPath, h.outputExtension]
  rfl

lemma getLast?_registryFile (h : layout.HasDefaultNames) :
    layout.registryFile.toList.getLast? = some 's' := by
  rw [h.registryFile]
  decide

lemma isFileName_registryFile (h : layout.HasDefaultNames) : IsFileName layout.registryFile := by
  refine isFileName_of_getLast? ?_ h.getLast?_registryFile (by decide)
  rw [h.registryFile]
  decide

end Layout.HasDefaultNames

end Componentry
