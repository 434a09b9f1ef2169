import Mathlib.Data.List.Basic
import Componentry.Component.Module
import Componentry.Proofs.Component.Rendering
import Componentry.Proofs.Component.RouteTest

/-!
# Tags in a text

A module imports the components whose tags are found in the text of its body.  The text is scanned
as it stands, so what is found has to be compared with the tags that rendering opened.

**Scanning.**  The scanner looks behind every `<` for a capital, letters and digits up to the end of
a word.  A name of this form (`isImportable`) is found wherever it ends a word
(`tagNameAt?_of_isImportable`), and no other name is ever found (`isImportable_of_tagNames`).

**Rendering.**  The tags that a body opens are those of the rendered components, in order
(`tagsOf_renderNodes`), and rendering puts a blank or the end of the tag behind each of them
(`tagsEnd_renderNodes`).
-/

namespace Componentry

open Route Text

/-! ## Names that are found -/

/-- Whether a tag can be found in a text: an ASCII capital, followed by ASCII letters and digits. -/
def isImportable (tag : String) : Bool :=
  match tag.toList with
  | [] => false
  | c :: rest => 'A' ≤ c && c ≤ 'Z' && rest.all isTagChar

lemma isImportable_iff {tag : String} :
    isImportable tag = true
      ↔ ∃ c rest, tag.toList = c :: rest ∧ 'A' ≤ c ∧ c ≤ 'Z' ∧ ∀ d ∈ rest, isTagChar d = true := by
  unfold isImportable
  cases tag.toList <;> simp [and_assoc]

lemma toNat_le_of_isTagChar {c : Char} (h : isTagChar c = true) : c.toNat < 128 := by
  simp only [isTagChar, isAsciiLetter, isAsciiDigit, Bool.or_eq_true, Bool.and_eq_true,
    decide_eq_true_eq] at h
  rcases h with (h | h) | h <;> exact Nat.lt_of_le_of_lt (UInt32.le_iff_toNat_le.mp h.2) (by decide)

lemma isTagChar_of_capital {c : Char} (hA : 'A' ≤ c) (hZ : c ≤ 'Z') : isTagChar c = true := by
  simp [isTagChar, isAsciiLetter, hA, hZ]

/-- A character of an imported name belongs to a word. -/
lemma isWordChar_of_isTagChar {c : Char} (h : isTagChar c = true) : isWordChar c = true := by
  rw [isWordChar, if_pos (toNat_le_of_isTagChar h)]
  rw [isTagChar] at h
  rw [h, Bool.true_or]

/-! ## The scanner -/

/-- A word ends in front of a text. -/
def EndsWord (text : List Char) : Prop :=
  ∃ c rest, text = c :: rest ∧ isWordChar c = false

/-- Every name that is found has the form. -/
lemma isImportable_of_tagNameAt? {text : List Char} {tag : String}
    (h : tagNameAt? text = some tag) :
    isImportable tag = true := by
  cases text with
  | nil => exact absurd h (by simp [tagNameAt?])
  | cons c rest =>
      simp only [tagNameAt?] at h
      split_ifs at h with hc
      cases h
      simp only [Bool.and_eq_true, decide_eq_true_eq] at hc
      refine isImportable_iff.mpr ⟨c, rest.takeWhile isTagChar, String.toList_ofList, hc.1.1,
        hc.1.2, ?_⟩
      intro d hd
      exact List.mem_takeWhile_imp hd

lemma isImportable_of_tagNames {text : List Char} {tag : String} (h : tag ∈ tagNames text) :
    isImportable tag = true := by
  induction text with
  | nil => exact absurd h (by simp [tagNames])
  | cons c rest ih =>
      simp only [tagNames, List.mem_append, Option.mem_toList] at h
      rcases h with h | h
      · split_ifs at h
        exact isImportable_of_tagNameAt? h
      · exact ih h

/-- A name of the form is found in front of the end of a word. -/
lemma tagNameAt?_of_isImportable {tag : String} (h : isImportable tag = true) {behind : List Char}
    (hend : EndsWord behind) : tagNameAt? (tag.toList ++ behind) = some tag := by
  obtain ⟨c, rest, htag, hA, hZ, hrest⟩ := isImportable_iff.mp h
  obtain ⟨d, more, rfl, hd⟩ := hend
  have hstop : ¬ isTagChar d = true := fun hchar => by
    rw [isWordChar_of_isTagChar hchar] at hd
    exact absurd hd (by simp)
  have htake : (rest ++ d :: more).takeWhile isTagChar = rest := by
    rw [List.takeWhile_append_of_pos hrest, List.takeWhile_cons_of_neg hstop, List.append_nil]
  have hdrop : (rest ++ d :: more).dropWhile isTagChar = d :: more := by
    rw [List.dropWhile_append_of_pos hrest, List.dropWhile_cons_of_neg hstop]
  rw [htag, List.cons_append, tagNameAt?, htake, hdrop]
  simp [hA, hZ, hd, ← htag]

/-- Nothing is found behind the tag of a native element. -/
lemma tagNameAt?_of_native {tag : String} (h : isCustomTag tag = false) {behind : List Char}
    (hend : EndsWord behind) : tagNameAt? (tag.toList ++ behind) = none := by
  obtain ⟨d, more, rfl, hd⟩ := hend
  -- the first character is no capital: it begins the tag, or it ends the word
  have hfirst : ∀ c rest, tag.toList ++ d :: more = c :: rest → ¬ ('A' ≤ c ∧ c ≤ 'Z') := by
    rintro c rest hcons ⟨hA, hZ⟩
    cases htag : tag.toList with
    | nil =>
        rw [htag, List.nil_append] at hcons
        obtain ⟨rfl, -⟩ := List.cons.inj hcons
        rw [isWordChar_of_isTagChar (isTagChar_of_capital hA hZ)] at hd
        exact absurd hd (by simp)
    | cons first tail =>
        rw [htag, List.cons_append] at hcons
        obtain ⟨rfl, -⟩ := List.cons.inj hcons
        have hascii := toNat_le_of_isTagChar (isTagChar_of_capital hA hZ)
        simp [isCustomTag, htag, Capital.isCapital, hascii, hA, hZ] at h
  cases hcons : tag.toList ++ d :: more with
  | nil => exact absurd hcons (by simp)
  | cons c rest =>
      rw [tagNameAt?, if_neg]
      simp only [Bool.and_eq_true, decide_eq_true_eq]
      exact fun hc => hfirst c rest hcons hc.1

/-- Nothing is found in a text without `<`. -/
lemma tagNames_of_notMem {text : List Char} (h : '<' ∉ text) (rest : List Char) :
    tagNames (text ++ rest) = tagNames rest := by
  induction text with
  | nil => rfl
  | cons c text ih =>
      rw [List.mem_cons, not_or] at h
      rw [List.cons_append, tagNames, if_neg (Ne.symm h.1), ih h.2]
      rfl

/-- What is found in the rest of a text is found in the whole. -/
lemma mem_tagNames_append {front text : List Char} {tag : String} (h : tag ∈ tagNames text) :
    tag ∈ tagNames (front ++ text) := by
  induction front with
  | nil => exact h
  | cons c front ih =>
      rw [List.cons_append, tagNames, List.mem_append]
      exact Or.inr ih

/-- The names in use are those that are found, each once and in order, but for the component's
own. -/
lemma usedComponents_eq (own text : String) :
    usedComponents own text = ((tagNames text.toList).filter (· != own)).eraseDups := by
  -- the names collected so far come first, and those among them are not collected again
  have hfold : ∀ tags known : List String,
      tags.foldl (fun names name => if names.contains name then names else names ++ [name]) known
        = known ++ (tags.filter fun tag => !known.contains tag).eraseDups := by
    intro tags
    induction tags with
    | nil => simp
    | cons tag tags ih =>
        intro known
        rw [List.foldl_cons, ih, List.filter_cons]
        by_cases hknown : known.contains tag = true
        · rw [if_pos hknown, if_neg (by rw [hknown]; simp)]
        · rw [if_neg hknown, if_pos (by rw [Bool.eq_false_iff.mpr hknown]; rfl),
            List.eraseDups_cons, List.filter_filter, List.append_assoc, List.singleton_append]
          congr 3
          refine List.filter_congr fun other _ => ?_
          rw [List.contains_append, List.contains_cons, List.contains_nil, Bool.or_false,
            Bool.not_or, Bool.and_comm]
  rw [usedComponents, hfold]
  simp

/-! ## Tags of pieces -/

/-- The tag that a piece opens. -/
def Piece.tag? : Piece → Option String
  | .opening tag => some tag
  | _ => none

/-- The tags that pieces open, in order. -/
def tagsOf (pieces : List Piece) : List String := pieces.filterMap Piece.tag?

lemma tagsOf_marksOf (pieces : List Piece) : tagsOf (marksOf pieces) = tagsOf pieces := by
  induction pieces with
  | nil => rfl
  | cons piece rest ih => cases piece <;> simp_all [tagsOf, Piece.tag?, List.filterMap_cons]

lemma Node.tagsOf_marks (frame : Frame) (node : Node) :
    tagsOf (node.marks frame) = node.componentName?.toList := by
  cases node with
  | async promise key done failed loading doneAlias failedAlias =>
      cases key <;> simp [marks, tagsOf, Piece.tag?, componentName?]
  | onMount children =>
      simp only [marks]
      split_ifs <;> simp [tagsOf, Piece.tag?, componentName?]
  | slot name =>
      simp only [marks]
      split_ifs <;> simp [tagsOf, Piece.tag?, componentName?]
  | _ => simp [marks, tagsOf, Piece.tag?, componentName?, List.filterMap_map]

/-- The tags of the components among placed nodes. -/
def componentNames (nodes : List Placed) : List String :=
  nodes.filterMap fun placed => placed.node.componentName?

/-- **The tags that a body opens are those of the rendered components, in order.** -/
lemma tagsOf_renderNodes (frame : Frame) (nodes : List Node) :
    tagsOf (renderNodes frame nodes) = componentNames (renderedNodes frame nodes) := by
  rw [← tagsOf_marksOf, marksOf_renderNodes, tagsOf, List.filterMap_flatMap, componentNames,
    List.filterMap_eq_flatMap_toList]
  exact List.flatMap_congr fun placed _ => placed.node.tagsOf_marks placed.frame

/-! ## Tags end -/

/-- Behind every tag that pieces open a word ends. -/
def TagsEnd : List Piece → Prop
  | [] => True
  | .opening _ :: rest => EndsWord (codeOf rest) ∧ TagsEnd rest
  | _ :: rest => TagsEnd rest

lemma EndsWord.append {text : List Char} (h : EndsWord text) (behind : List Char) :
    EndsWord (text ++ behind) := by
  obtain ⟨c, rest, rfl, hc⟩ := h
  exact ⟨c, rest ++ behind, rfl, hc⟩

lemma endsWord_blank (text : List Char) : EndsWord (' ' :: text) := ⟨' ', text, rfl, by decide⟩

lemma endsWord_tagEnd (text : List Char) : EndsWord ('>' :: text) := ⟨'>', text, rfl, by decide⟩

section TagsEnd

variable {pieces others : List Piece}

@[simp] lemma tagsEnd_nil : TagsEnd [] := trivial

@[simp] lemma tagsEnd_code (text : String) : TagsEnd (.code text :: pieces) ↔ TagsEnd pieces :=
  Iff.rfl

@[simp] lemma tagsEnd_script (source : String) :
    TagsEnd (.script source :: pieces) ↔ TagsEnd pieces :=
  Iff.rfl

@[simp] lemma tagsEnd_authored (text : String) :
    TagsEnd (.authored text :: pieces) ↔ TagsEnd pieces :=
  Iff.rfl

@[simp] lemma tagsEnd_literal (value : String) :
    TagsEnd (.literal value :: pieces) ↔ TagsEnd pieces :=
  Iff.rfl

@[simp] lemma tagsEnd_hook (hook : Hook) : TagsEnd (.hook hook :: pieces) ↔ TagsEnd pieces :=
  Iff.rfl

@[simp] lemma tagsEnd_slotVariable (name : String) :
    TagsEnd (.slotVariable name :: pieces) ↔ TagsEnd pieces := Iff.rfl

@[simp] lemma tagsEnd_slotField (name : Option String) :
    TagsEnd (.slotField name :: pieces) ↔ TagsEnd pieces := Iff.rfl

/-- Tags that end in front of other pieces end whatever these are. -/
lemma tagsEnd_append (h : TagsEnd pieces) : TagsEnd (pieces ++ others) ↔ TagsEnd others := by
  induction pieces with
  | nil => exact Iff.rfl
  | cons piece rest ih =>
      cases piece with
      | opening tag =>
          have hend : EndsWord (codeOf (rest ++ others)) := by
            rw [codeOf_append]
            exact h.1.append _
          exact (and_iff_right hend).trans (ih h.2)
      | _ => exact ih h

lemma TagsEnd.append (h : TagsEnd pieces) (hothers : TagsEnd others) : TagsEnd (pieces ++ others) :=
  (tagsEnd_append h).mpr hothers

lemma TagsEnd.flatMap {α : Type} {f : α → List Piece} {parts : List α}
    (h : ∀ part ∈ parts, TagsEnd (f part)) : TagsEnd (parts.flatMap f) := by
  induction parts with
  | nil => trivial
  | cons part rest ih =>
      rw [List.forall_mem_cons] at h
      rw [List.flatMap_cons]
      exact h.1.append (ih h.2)

lemma TagsEnd.intercalate {separator : String} {rows : List (List Piece)}
    (h : ∀ row ∈ rows, TagsEnd row) :
    TagsEnd ([Piece.code separator].intercalate rows) := by
  induction rows with
  | nil => trivial
  | cons row rest ih =>
      rw [List.forall_mem_cons] at h
      cases rest with
      | nil => simpa using h.1
      | cons next more =>
          rw [List.intercalate_cons_cons, List.append_assoc]
          exact h.1.append (ih h.2)

/-- Pieces that open no tag. -/
lemma tagsEnd_of_marksOf (h : ∀ mark ∈ marksOf pieces, mark.tag? = none) : TagsEnd pieces := by
  induction pieces with
  | nil => trivial
  | cons piece rest ih =>
      cases piece with
      | opening tag => exact absurd (h _ List.mem_cons_self) (by simp [Piece.tag?])
      | _ => exact ih fun mark hmark => h mark (by simp [hmark])

end TagsEnd

/-! ### Tags of blocks -/

section Blocks

variable {content : List Piece}

lemma TagsEnd.returnOf (h : TagsEnd content) : TagsEnd (returnOf content) := by
  simp [Componentry.returnOf, fragmentOf, tagsEnd_append, h]

lemma TagsEnd.immediately (h : TagsEnd content) : TagsEnd (immediately content) := by
  simp [Componentry.immediately, tagsEnd_append, h]

lemma TagsEnd.ifPieces (h : TagsEnd content) (condition : Expression) :
    TagsEnd (ifPieces condition content) := by
  simp [Componentry.ifPieces, braced, fragmentOf, tagsEnd_append, h]

lemma TagsEnd.loopPieces (h : TagsEnd content) (items : Expression) (itemName : String) :
    TagsEnd (loopPieces items itemName content) := by
  have hitems : TagsEnd (itemsPieces items) :=
    tagsEnd_of_marksOf (by simp [marksOf_itemsPieces, Piece.tag?])
  simp [Componentry.loopPieces, braced, tagsEnd_append, hitems, h.returnOf]

lemma TagsEnd.asyncPieces {done failed loading : List Piece} (hdone : TagsEnd done)
    (hfailed : TagsEnd failed) (hloading : TagsEnd loading) (promise : Expression)
    (key : Option Expression) (doneAlias failedAlias : String) :
    TagsEnd (asyncPieces promise key doneAlias failedAlias done failed loading) := by
  have hrename : ∀ boundAs variableName, TagsEnd (renamePieces boundAs variableName) :=
    fun boundAs variableName => tagsEnd_of_marksOf (by simp [marksOf_renamePieces])
  have hkey : TagsEnd (key.map fun e => Piece.script e.source).toList := by cases key <;> trivial
  refine TagsEnd.immediately ?_
  simp only [List.cons_append, List.append_assoc, List.nil_append, tagsEnd_code, tagsEnd_script,
    tagsEnd_hook, tagsEnd_append hkey, tagsEnd_append (hrename _ _), tagsEnd_append hdone.returnOf,
    tagsEnd_append hfailed.returnOf]
  exact hloading.returnOf

lemma TagsEnd.casePieces (h : TagsEnd content) (value : CaseValue) :
    TagsEnd (casePieces value content) := by
  cases value <;> simp [Componentry.casePieces, tagsEnd_append, h.returnOf]

lemma TagsEnd.switchPieces (h : TagsEnd content) (value : Expression) :
    TagsEnd (switchPieces value content) := by
  refine TagsEnd.immediately ?_
  simp [tagsEnd_append, h]

lemma TagsEnd.routePieces (h : TagsEnd content) (index : Nat) (path : String)
    (boundAs : Option String) :
    TagsEnd (routePieces index path boundAs content) := by
  have hfields : ∀ variableName names,
      TagsEnd ([Piece.code ", "].intercalate (fieldPieces variableName 1 names)) :=
    fun variableName names =>
      tagsEnd_of_marksOf (by simp [marksOf_intercalate, marksOf_fieldPieces])
  unfold Componentry.routePieces
  cases boundAs <;> simp only [emptyBinding, matchBinding] <;> split_ifs <;>
    simp [tagsEnd_append, h.returnOf, hfields]

lemma TagsEnd.slotContentPieces (h : TagsEnd content) (name : String) (element : Node) :
    TagsEnd (slotContentPieces name element content) := by
  cases element <;> simp [Componentry.slotContentPieces, braced, fragmentOf, tagsEnd_append, h]

lemma tagsEnd_propertiesPieces (properties : List Property) :
    TagsEnd (propertiesPieces properties) := by
  refine tagsEnd_of_marksOf fun mark hmark => ?_
  rw [marksOf_propertiesPieces] at hmark
  obtain ⟨source, -, rfl⟩ := List.mem_map.mp hmark
  rfl

/-- What stands in a tag behind its name: nothing, or something that ends the name. -/
def EndsName (pieces : List Piece) : Prop := pieces = [] ∨ EndsWord (codeOf pieces)

lemma endsName_of_blank (pieces : List Piece) : EndsName (.code " " :: pieces) := by
  refine Or.inr ?_
  rw [codeOf_cons]
  exact endsWord_blank _

lemma EndsName.append {pieces others : List Piece} (h : EndsName pieces)
    (hothers : EndsName others) :
    EndsName (pieces ++ others) := by
  rcases h with rfl | h
  · exact hothers
  · refine Or.inr ?_
    rw [codeOf_append]
    exact h.append _

/-- Attributes stand behind a blank. -/
lemma endsName_propertiesPieces (properties : List Property) :
    EndsName (propertiesPieces properties) := by
  cases properties with
  | nil => exact Or.inl rfl
  | cons property rest => exact endsName_of_blank _

/-- Content for slots stands behind a blank. -/
lemma endsName_renderSlots (frame : Frame) (children : List Node) :
    EndsName (renderSlots frame children) := by
  rw [renderSlots_eq_flatMap]
  cases children.filter Node.isSlotContent with
  | nil => exact Or.inl rfl
  | cons child rest => exact endsName_of_blank _

lemma TagsEnd.elementPieces (h : TagsEnd content) (name : String) {properties : List Piece}
    (hproperties : TagsEnd properties) (hname : EndsName properties) :
    TagsEnd (elementPieces name properties content) := by
  -- without attributes the end of the tag follows its name
  have hopening : ∀ behind, EndsWord (codeOf behind) → TagsEnd behind →
      TagsEnd (.opening name :: (properties ++ behind)) := by
    intro behind hend htags
    have hword : EndsWord (codeOf (properties ++ behind)) := by
      rcases hname with rfl | hname
      · exact hend
      · rw [codeOf_append]
        exact hname.append _
    exact ⟨hword, hproperties.append htags⟩
  unfold Componentry.elementPieces
  split_ifs
  · refine hopening _ ?_ trivial
    rw [codeOf_cons]
    exact endsWord_blank _
  · rw [List.append_assoc, List.cons_append, List.cons_append]
    refine hopening _ ?_ (h.append trivial)
    rw [codeOf_cons]
    exact endsWord_tagEnd _

end Blocks

/-- One step: tags end in a node if they do in the nodes it enters. -/
lemma tagsEnd_renderNode_step {frame : Frame} {node : Node}
    (h : ∀ placed ∈ node.entered frame, TagsEnd (renderNode placed.frame placed.node)) :
    TagsEnd (renderNode frame node) := by
  cases node with
  | ifBlock condition children =>
      simp only [Node.entered, List.forall_mem_map] at h
      rw [renderNode, renderNodes_eq_flatMap]
      exact (TagsEnd.flatMap h).ifPieces condition
  | loop items itemName children =>
      simp only [Node.entered, List.forall_mem_map] at h
      rw [renderNode, renderNodes_eq_flatMap]
      exact (TagsEnd.flatMap h).loopPieces items itemName
  | async promise key done failed loading doneAlias failedAlias =>
      simp only [Node.entered, List.forall_mem_append, List.forall_mem_map] at h
      rw [renderNode, renderSettled_eq_flatMap, renderNodes_eq_flatMap, renderNodes_eq_flatMap]
      exact TagsEnd.asyncPieces (TagsEnd.flatMap h.1.1) (TagsEnd.flatMap h.1.2)
        (TagsEnd.flatMap h.2) ..
  | router routes =>
      simp only [Node.entered, List.forall_mem_flatMap, List.forall_mem_map] at h
      have hrows := forall_renderRoutes (P := TagsEnd)
        fun route hroute index => (TagsEnd.flatMap (h route hroute)).routePieces index _ _
      rw [renderNode]
      refine TagsEnd.immediately ?_
      simp only [List.cons_append, tagsEnd_code, tagsEnd_append (TagsEnd.intercalate (hrows 0)),
        tagsEnd_nil]
  | switch value cases =>
      simp only [Node.entered, List.forall_mem_flatMap, List.forall_mem_map] at h
      rw [renderNode, renderCases_eq_flatMap]
      refine TagsEnd.switchPieces (TagsEnd.flatMap fun c hc => ?_) value
      rw [renderNodes_eq_flatMap]
      exact (TagsEnd.flatMap (h c hc)).casePieces c.value
  | slotContent name element =>
      rw [renderNode]
      exact TagsEnd.slotContentPieces (h ⟨frame, element⟩ (List.mem_singleton_self _)) name element
  | component name properties children =>
      simp only [Node.entered, List.forall_mem_append, List.forall_mem_map] at h
      have hcontent : TagsEnd (renderContent frame children) := by
        rw [renderContent_eq_flatMap]
        exact TagsEnd.flatMap h.2
      rw [renderNode]
      refine hcontent.elementPieces name ((tagsEnd_propertiesPieces properties).append ?_)
        ((endsName_propertiesPieces properties).append ?_)
      · split_ifs with htakes
        · rw [if_pos htakes] at h
          rw [renderSlots_eq_flatMap]
          exact TagsEnd.flatMap h.1
        · trivial
      · split_ifs
        · exact endsName_renderSlots frame children
        · exact Or.inl rfl
  | fragment children =>
      simp only [Node.entered, List.forall_mem_map] at h
      rw [renderNode, renderNodes_eq_flatMap]
      exact TagsEnd.flatMap h
  | slot name =>
      rw [renderNode, slotPieces]
      split_ifs <;> trivial
  | onMount children =>
      rw [renderNode]
      unfold mountPieces
      split_ifs
      · trivial
      · refine TagsEnd.immediately ?_
        have hscripts : TagsEnd ((mountExpressions children).flatMap
            fun e => [Piece.script e.source, .code ";\n"]) := TagsEnd.flatMap fun e _ => trivial
        simp only [List.cons_append, tagsEnd_hook, tagsEnd_code, tagsEnd_append hscripts,
          tagsEnd_nil]
  | state _ | props _ _ | text _ | expression _ =>
      rw [renderNode]
      trivial

/-- **Behind every tag that is opened in a rendering a word ends.** -/
lemma tagsEnd_renderNodes (frame : Frame) (nodes : List Node) : TagsEnd (renderNodes frame nodes) :=
  renderNodes_of_step (Q := fun _ => True) (fun _ _ h => TagsEnd.flatMap h)
    (fun _ _ _ h => tagsEnd_renderNode_step h) fun _ _ => trivial

end Componentry
