import Componentry.Proofs.Component.Generation
import Componentry.Proofs.Component.TagScan
import Componentry.Proofs.Lowering.SlotContent

/-!
# Imported components

What a module imports, compared with the components that are rendered in its body.

**Text in between.**  A piece is `Tame` if the scanner finds nothing in it but the tag that it
opens.  Fixed text is: every `<` in it is followed by `>` or `/`.  What the author wrote is if it
has no `<`.  Where all pieces are tame the scanner finds the opened tags and no others
(`tagNames_codeOf`), so the imports are exact.

**Names.**  The names that a component may have are more than those the scanner knows, so a
component can be built and shown without being imported (`rendered_not_imported`).
-/

namespace Componentry

open Route Text

/-! ## Texts without tags -/

/-- Quoting brings no `<` in. -/
lemma notMem_quoted {text : String} (h : '<' ∉ text.toList) : '<' ∉ (quoted text).toList := by
  have hdigit : ∀ n < 16, hexDigit n ≠ '<' := by decide
  have hescaped : ∀ c, c ≠ '<' → '<' ∉ escaped c := by
    intro c hc
    unfold escaped
    split_ifs with hquote hslash hcontrol
    · decide
    · decide
    · split <;> try decide
      have hhigh := hdigit (c.toNat / 16) (by omega)
      have hlow := hdigit (c.toNat % 16) (by omega)
      simp [hhigh.symm, hlow.symm]
    · simpa using hc.symm
  rw [quoted, String.toList_ofList, quote]
  simp only [List.cons_append, List.mem_cons, List.mem_append, List.mem_flatMap, not_or,
    not_exists, not_and, List.not_mem_nil]
  exact ⟨by decide, fun c hc => hescaped c (ne_of_mem_of_not_mem hc h), by decide⟩

lemma notMem_singleQuotes {text : String} (h : '<' ∉ text.toList) :
    '<' ∉ (singleQuotes text).toList := by
  rw [singleQuotes, String.toList_ofList, List.mem_map]
  rintro ⟨c, hc, hquote⟩
  split_ifs at hquote
  · exact absurd hquote (by decide)
  · exact h (hquote ▸ hc)

lemma isDigit_of_mem_toString {n : Nat} {c : Char} (h : c ∈ (toString n).toList) :
    c.isDigit = true :=
  Nat.isDigit_of_mem_toDigits (by decide) (by decide) (by simpa using h : c ∈ Nat.toDigits 10 n)

lemma notMem_toString (n : Nat) : '<' ∉ (toString n).toList :=
  fun h => absurd (isDigit_of_mem_toString h) (by decide)

/-- The segments of a path have no characters but those of the path. -/
lemma mem_path_of_segments {path : String} {segment : Segment}
    (h : segment ∈ (Pattern.parse path).segments) {c : Char} (hc : c ∈ segment.written) :
    c ∈ path.toList := by
  rw [← written_segments path.toList]
  exact List.mem_flatMap.mpr ⟨segment, h, hc⟩

lemma mem_path_of_parameterNames {path name : String}
    (h : name ∈ (Pattern.parse path).parameterNames) {c : Char} (hc : c ∈ name.toList) :
    c ∈ path.toList := by
  obtain ⟨segment, hsegment, hparameter⟩ := List.mem_filterMap.mp h
  cases segment with
  | literal text => exact absurd hparameter (by simp [Segment.parameter?])
  | parameter other =>
      cases hparameter
      exact mem_path_of_segments hsegment (List.mem_cons_of_mem _ hc)

lemma notMem_regex {path : String} (h : '<' ∉ path.toList) :
    '<' ∉ (Pattern.parse path).regex.toList := by
  have hsegment : ∀ segment ∈ (Pattern.parse path).segments, '<' ∉ segment.regex.toList := by
    intro segment hsegment
    cases segment with
    | literal text =>
        rw [Segment.regex, String.toList_ofList, regexEscape, List.mem_flatMap]
        rintro ⟨c, hc, hmem⟩
        have hne : c ≠ '<' := ne_of_mem_of_not_mem (mem_path_of_segments hsegment hc) h
        split_ifs at hmem
        · exact absurd hmem (by simp [hne.symm])
        · exact absurd hmem (by simp [hne.symm])
    | parameter name => exact (by decide : '<' ∉ parameterGroup.toList)
  simpa [Pattern.regex, String.toList_join] using hsegment

/-! ## Tame pieces -/

/-- The scanner finds nothing in a piece but the tag that it opens. -/
def Piece.Tame : Piece → Prop
  | .opening tag => (isCustomTag tag = true → isImportable tag = true) ∧ '<' ∉ tag.toList
  | piece => ∀ behind, tagNames (piece.text.toList ++ behind) = tagNames behind

/-- All pieces are tame. -/
def AllTame (pieces : List Piece) : Prop := ∀ piece ∈ pieces, piece.Tame

@[simp] lemma allTame_nil : AllTame [] := fun _ h => absurd h List.not_mem_nil

@[simp] lemma allTame_cons {piece : Piece} {pieces : List Piece} :
    AllTame (piece :: pieces) ↔ piece.Tame ∧ AllTame pieces :=
  List.forall_mem_cons

@[simp] lemma allTame_append {pieces others : List Piece} :
    AllTame (pieces ++ others) ↔ AllTame pieces ∧ AllTame others :=
  List.forall_mem_append

lemma allTame_flatMap {α : Type} {f : α → List Piece} {parts : List α} :
    AllTame (parts.flatMap f) ↔ ∀ part ∈ parts, AllTame (f part) :=
  List.forall_mem_flatMap

/-- **The scanner finds the opened tags of components and no others**, if all pieces are tame. -/
lemma tagNames_codeOf {pieces : List Piece} (hend : TagsEnd pieces) (h : AllTame pieces) :
    tagNames (codeOf pieces) = (tagsOf pieces).filter isCustomTag := by
  induction pieces with
  | nil => rfl
  | cons piece rest ih =>
      rw [allTame_cons] at h
      rw [codeOf_cons]
      cases piece with
      | opening tag =>
          obtain ⟨hword, hend⟩ := hend
          obtain ⟨⟨himportable, hno⟩, hrest⟩ := h
          have htext : (Piece.opening tag).text.toList = '<' :: tag.toList := by simp [Piece.text]
          rw [htext, List.cons_append, tagNames, if_pos rfl, tagNames_of_notMem hno, ih hend hrest]
          cases hcustom : isCustomTag tag with
          | true =>
              simp [tagNameAt?_of_isImportable (himportable hcustom) hword, tagsOf, Piece.tag?,
                hcustom]
          | false => simp [tagNameAt?_of_native hcustom hword, tagsOf, Piece.tag?, hcustom]
      | _ => exact (h.1 _).trans (ih hend h.2)

section Tame

variable {text : String}

lemma tame_code (h : '<' ∉ text.toList) : (Piece.code text).Tame := tagNames_of_notMem h

lemma tame_script (h : '<' ∉ text.toList) : (Piece.script text).Tame := tagNames_of_notMem h

lemma tame_authored (h : '<' ∉ text.toList) : (Piece.authored text).Tame := tagNames_of_notMem h

lemma tame_literal (h : '<' ∉ text.toList) : (Piece.literal text).Tame :=
  tagNames_of_notMem (notMem_quoted h)

lemma tame_slotVariable (h : '<' ∉ text.toList) : (Piece.slotVariable text).Tame :=
  tagNames_of_notMem h

lemma tame_slotField {name : Option String} (h : ∀ text ∈ name, '<' ∉ text.toList) :
    (Piece.slotField name).Tame := by
  refine tagNames_of_notMem ?_
  cases name with
  | none => decide
  | some text =>
      have hquoted := notMem_quoted (h text rfl)
      simp [Piece.text, hquoted]

@[simp] lemma tame_hook (hook : Hook) : (Piece.hook hook).Tame :=
  tagNames_of_notMem (by cases hook <;> decide)

@[simp] lemma tame_fragmentStart : (Piece.code "<>").Tame := fun behind => by
  simp [Piece.text, tagNames, tagNameAt?]

@[simp] lemma tame_fragmentEnd : (Piece.code "</>").Tame := fun behind => by
  simp [Piece.text, tagNames, tagNameAt?]

@[simp] lemma tame_closing : (Piece.code "</").Tame := fun behind => by
  simp [Piece.text, tagNames, tagNameAt?]

lemma tame_showBool (b : Bool) : (Piece.code (showBool b)).Tame :=
  tame_code (by cases b <;> decide)

end Tame

/-! ## What the author wrote -/

/-- What the author wrote as a value. -/
def Value.texts : Value → List String
  | bare => []
  | text value => [value]
  | number source => [source]
  | boolean _ => []
  | expression e => [e.source]

/-- What the author wrote as an attribute. -/
def Property.texts : Property → List String
  | .named key value => key :: value.texts
  | .spread argument => [argument.source]

/-- What the author wrote as a case. -/
def CaseValue.texts : CaseValue → List String
  | text value => [value]
  | number source => [source]
  | boolean _ | null => []

/-- What the author wrote in a node itself and rendering shows, but for the tag. -/
def Node.texts : Node → List String
  | .ifBlock condition _ => [condition.source]
  | .loop items itemName _ => [items.source, itemName]
  | .async promise key _ _ _ doneAlias failedAlias =>
    promise.source :: doneAlias :: failedAlias :: key.toList.map Expression.source
  | .router routes => routes.flatMap fun route => route.path :: route.boundAs.toList
  | .switch value cases => value.source :: cases.flatMap fun c => c.value.texts
  | .slot name => name.toList
  | .slotContent name _ => [name]
  | .onMount children => (mountExpressions children).map Expression.source
  | .component _ properties _ => properties.flatMap Property.texts
  | .text value => [value]
  | .expression e => [e.source]
  | .state _ | .props _ _ | .fragment _ => []

/-- Nothing that the author wrote in a node can be taken for a tag: there is no `<` in it, and the
    tag of a component is one that the scanner finds. -/
def Node.Scannable (node : Node) : Prop :=
  (∀ text ∈ node.texts, '<' ∉ text.toList)
    ∧ ∀ tag ∈ node.componentName?, (isCustomTag tag = true → isImportable tag = true)
      ∧ '<' ∉ tag.toList

section Blocks

variable {content : List Piece}

lemma allTame_fragmentOf (h : AllTame content) : AllTame (fragmentOf content) := by
  simp [fragmentOf, h]

lemma allTame_returnOf (h : AllTame content) : AllTame (returnOf content) := by
  simp (disch := decide) [returnOf, allTame_fragmentOf h, tame_code]

lemma allTame_braced (h : AllTame content) : AllTame (braced content) := by
  simp (disch := decide) [braced, h, tame_code]

lemma allTame_immediately (h : AllTame content) : AllTame (immediately content) := by
  simp (disch := decide) [immediately, h, tame_code]

lemma allTame_ifPieces (h : AllTame content) {condition : Expression}
    (hcondition : '<' ∉ condition.source.toList) : AllTame (ifPieces condition content) := by
  refine allTame_braced ?_
  simp (disch := decide) [allTame_fragmentOf h, tame_code, tame_script hcondition]

lemma allTame_loopPieces (h : AllTame content) {items : Expression} {itemName : String}
    (hitems : '<' ∉ items.source.toList) (hname : '<' ∉ itemName.toList) :
    AllTame (loopPieces items itemName content) := by
  have hsource : AllTame (itemsPieces items) := by
    unfold itemsPieces
    split <;> simp (disch := decide) [tame_code, tame_script hitems]
  have hindex : '<' ∉ (indexName itemName).toList := by
    unfold indexName
    split_ifs <;> decide
  refine allTame_braced ?_
  simp (disch := decide) [hsource, allTame_returnOf h, tame_code, tame_authored hname,
    tame_code hindex]

lemma allTame_renamePieces {boundAs variableName : String} (hbound : '<' ∉ boundAs.toList)
    (hvariable : '<' ∉ variableName.toList) : AllTame (renamePieces boundAs variableName) := by
  have hcode : (Piece.code (" = " ++ variableName ++ ";\n")).Tame := tame_code (by simp [hvariable])
  unfold renamePieces
  split_ifs <;> simp (disch := decide) [tame_code, tame_authored hbound, hcode]

lemma allTame_asyncPieces {done failed loading : List Piece} (hdone : AllTame done)
    (hfailed : AllTame failed) (hloading : AllTame loading)
    {promise : Expression} {key : Option Expression} {doneAlias failedAlias : String}
    (hpromise : '<' ∉ promise.source.toList) (hkey : ∀ e ∈ key, '<' ∉ e.source.toList)
    (hdoneAlias : '<' ∉ doneAlias.toList) (hfailedAlias : '<' ∉ failedAlias.toList) :
    AllTame (asyncPieces promise key doneAlias failedAlias done failed loading) := by
  have hkeys : AllTame ((key.map fun e => Piece.script e.source).toList) := by
    cases key with
    | none => simp
    | some e => simpa using tame_script (hkey e rfl)
  refine allTame_immediately ?_
  simp (disch := decide) [tame_code, tame_script hpromise, allTame_returnOf hdone,
    allTame_returnOf hfailed, allTame_returnOf hloading, allTame_renamePieces hdoneAlias,
    allTame_renamePieces hfailedAlias, hkeys]

lemma allTame_casePieces (h : AllTame content) {value : CaseValue}
    (hvalue : ∀ text ∈ value.texts, '<' ∉ text.toList) : AllTame (casePieces value content) := by
  have hshown := allTame_returnOf h
  cases value with
  | text text =>
      have htext := tame_literal (hvalue text (List.mem_singleton_self _))
      simp (disch := decide) [casePieces, hshown, tame_code, htext]
  | number source =>
      have hsource := tame_authored (hvalue source (List.mem_singleton_self _))
      simp (disch := decide) [casePieces, hshown, tame_code, hsource]
  | boolean b => simp (disch := decide) [casePieces, hshown, tame_code, tame_showBool]
  | null => simp (disch := decide) [casePieces, hshown, tame_code]

lemma allTame_switchPieces (h : AllTame content) {value : Expression}
    (hvalue : '<' ∉ value.source.toList) : AllTame (switchPieces value content) := by
  refine allTame_immediately ?_
  simp (disch := decide) [h, tame_code, tame_script hvalue]

lemma allTame_intercalate {separator : String} (hseparator : '<' ∉ separator.toList)
    {rows : List (List Piece)} (h : ∀ row ∈ rows, AllTame row) :
    AllTame ([Piece.code separator].intercalate rows) := by
  induction rows with
  | nil => simp
  | cons row rest ih =>
      rw [List.forall_mem_cons] at h
      cases rest with
      | nil => simpa using h.1
      | cons next more =>
          rw [List.intercalate_cons_cons, allTame_append, allTame_append]
          exact ⟨⟨h.1, by simpa using tame_code hseparator⟩, ih h.2⟩

lemma allTame_fieldPieces {variableName : String} (hvariable : '<' ∉ variableName.toList)
    {names : List String} (hnames : ∀ name ∈ names, '<' ∉ name.toList) (group : Nat) :
    ∀ row ∈ fieldPieces variableName group names, AllTame row := by
  induction names generalizing group with
  | nil => simp [fieldPieces]
  | cons name rest ih =>
      rw [List.forall_mem_cons] at hnames
      have hkey : (fieldKey name).Tame := by
        unfold fieldKey
        split_ifs
        · exact tame_authored hnames.1
        · exact tame_literal hnames.1
      have hcode : (Piece.code (": " ++ variableName ++ "[" ++ toString group ++ "]")).Tame :=
        tame_code (by simpa [hvariable] using notMem_toString group)
      rw [fieldPieces, List.forall_mem_cons]
      exact ⟨allTame_cons.mpr ⟨hkey, allTame_cons.mpr ⟨hcode, allTame_nil⟩⟩,
        ih hnames.2 (group + 1)⟩

lemma allTame_matchBinding {variableName : String} (hvariable : '<' ∉ variableName.toList)
    {names : List String} (hnames : ∀ name ∈ names, '<' ∉ name.toList) {boundAs : Option String}
    (hbound : ∀ name ∈ boundAs, '<' ∉ name.toList) :
    AllTame (matchBinding variableName names boundAs) := by
  cases boundAs with
  | none => simp [matchBinding]
  | some name =>
      have hseparator : '<' ∉ ", ".toList := by decide
      have hfields := allTame_intercalate hseparator (allTame_fieldPieces hvariable hnames 1)
      simp (disch := decide) [matchBinding, tame_code, tame_authored (hbound name rfl), hfields]

lemma allTame_routePieces (h : AllTame content) (index : Nat) {path : String}
    {boundAs : Option String} (hpath : '<' ∉ path.toList)
    (hbound : ∀ name ∈ boundAs, '<' ∉ name.toList) :
    AllTame (routePieces index path boundAs content) := by
  have hshown := allTame_returnOf h
  have hempty : AllTame (emptyBinding boundAs) := by
    cases boundAs with
    | none => simp [emptyBinding]
    | some name => simp (disch := decide) [emptyBinding, tame_code, tame_authored (hbound name rfl)]
  have hvariable : '<' ∉ ("_match" ++ toString index).toList := by simpa using notMem_toString index
  simp only [routePieces]
  generalize "_match" ++ toString index = variableName at hvariable
  have hnames : ∀ name ∈ (Pattern.parse path).parameterNames, '<' ∉ name.toList :=
    fun name hname hmem => hpath (mem_path_of_parameterNames hname hmem)
  have hmatch := allTame_matchBinding hvariable hnames hbound
  have hdefined : (Piece.code ("const " ++ variableName ++ " = new RegExp(")).Tame :=
    tame_code (by simpa using hvariable)
  have htested : (Piece.code (").exec(_path);\nif (" ++ variableName ++ ") \x7b\n")).Tame :=
    tame_code (by simpa using hvariable)
  split_ifs
  · simp (disch := decide) [tame_code, tame_literal hpath, hshown, hempty]
  · simp (disch := decide) [tame_code, tame_literal (notMem_regex hpath), hshown, hmatch, hdefined,
      htested]

lemma allTame_mountPieces {expressions : List Expression}
    (h : ∀ e ∈ expressions, '<' ∉ e.source.toList) : AllTame (mountPieces expressions) := by
  have hscripts : AllTame
      (expressions.flatMap (fun e => [Piece.script e.source, .code ";\n"])) := by
    rw [allTame_flatMap]
    intro e he
    simp (disch := decide) [tame_script (h e he), tame_code]
  unfold mountPieces
  split_ifs
  · simp
  · refine allTame_immediately ?_
    simp (disch := decide) [tame_code, hscripts]

lemma allTame_valuePieces {value : Value} (h : ∀ text ∈ value.texts, '<' ∉ text.toList) :
    AllTame (valuePieces value) := by
  cases value with
  | bare => simp [valuePieces]
  | text text =>
      have htext := h text (List.mem_singleton_self _)
      by_cases hhandler : Value.isInlineHandler text = true
      · simp (disch := decide) [valuePieces, Value.script?, hhandler, braced, tame_code,
          tame_script htext]
      · simp (disch := decide) [valuePieces, Value.script?, hhandler, tame_code,
          tame_authored (notMem_singleQuotes htext)]
  | number source =>
      have hsource := h source (List.mem_singleton_self _)
      simp (disch := decide) [valuePieces, braced, tame_code, tame_authored hsource]
  | boolean b => simp (disch := decide) [valuePieces, braced, tame_code, tame_showBool]
  | expression e =>
      have hsource := h e.source (List.mem_singleton_self _)
      simp (disch := decide) [valuePieces, braced, tame_code, tame_script hsource]

lemma allTame_propertiesPieces {properties : List Property}
    (h : ∀ property ∈ properties, ∀ text ∈ property.texts, '<' ∉ text.toList) :
    AllTame (propertiesPieces properties) := by
  have hproperty : ∀ property ∈ properties, AllTame (propertyPieces property) := by
    intro property hmem
    have htexts := h property hmem
    cases property with
    | named key value =>
        rw [Property.texts, List.forall_mem_cons] at htexts
        rw [propertyPieces, allTame_cons]
        exact ⟨tame_authored htexts.1, allTame_valuePieces htexts.2⟩
    | spread argument =>
        have hsource := htexts argument.source (List.mem_singleton_self _)
        simp (disch := decide) [propertyPieces, braced, tame_code, tame_script hsource]
  rw [propertiesPieces, allTame_flatMap]
  intro property hmem
  rw [allTame_cons]
  exact ⟨tame_code (by decide), hproperty property hmem⟩

lemma allTame_slotContentPieces (h : AllTame content) {name : String}
    (hname : '<' ∉ name.toList) (element : Node) :
    AllTame (slotContentPieces name element content) := by
  have hbraced := allTame_braced h
  have hfragment := allTame_braced (allTame_fragmentOf h)
  cases element <;>
    simp (disch := decide) [slotContentPieces, tame_authored hname, tame_code, hbraced, hfragment]

lemma allTame_elementPieces (h : AllTame content) {name : String} {properties : List Piece}
    (hproperties : AllTame properties) (hopening : (Piece.opening name).Tame) :
    AllTame (elementPieces name properties content) := by
  unfold elementPieces
  split_ifs
  · simp (disch := decide) [hproperties, hopening, tame_code]
  · simp (disch := decide) [h, hproperties, hopening, tame_code,
      tame_authored hopening.2]

end Blocks

/-- One step: the pieces of a node are tame if those of the nodes it enters are. -/
lemma allTame_renderNode_step {frame : Frame} {node : Node} (hnode : node.Scannable)
    (h : ∀ placed ∈ node.entered frame, AllTame (renderNode placed.frame placed.node)) :
    AllTame (renderNode frame node) := by
  obtain ⟨htexts, htag⟩ := hnode
  cases node with
  | ifBlock condition children =>
      simp only [Node.entered, List.forall_mem_map] at h
      rw [renderNode, renderNodes_eq_flatMap]
      exact allTame_ifPieces (allTame_flatMap.mpr h) (htexts _ (List.mem_singleton_self _))
  | loop items itemName children =>
      simp only [Node.entered, List.forall_mem_map] at h
      simp only [Node.texts, List.forall_mem_cons] at htexts
      rw [renderNode, renderNodes_eq_flatMap]
      exact allTame_loopPieces (allTame_flatMap.mpr h) htexts.1 htexts.2.1
  | async promise key done failed loading doneAlias failedAlias =>
      simp only [Node.entered, List.forall_mem_append, List.forall_mem_map] at h
      simp only [Node.texts, List.forall_mem_cons, List.forall_mem_map, Option.mem_toList] at htexts
      obtain ⟨hpromise, hdone, hfailed, hkey⟩ := htexts
      rw [renderNode, renderSettled_eq_flatMap, renderNodes_eq_flatMap, renderNodes_eq_flatMap]
      exact allTame_asyncPieces (allTame_flatMap.mpr h.1.1) (allTame_flatMap.mpr h.1.2)
        (allTame_flatMap.mpr h.2) hpromise hkey hdone hfailed
  | router routes =>
      simp only [Node.entered, List.forall_mem_flatMap, List.forall_mem_map] at h
      simp only [Node.texts, List.forall_mem_flatMap, List.forall_mem_cons,
        Option.mem_toList] at htexts
      have hrows := forall_renderRoutes (P := AllTame) fun route hroute index =>
        allTame_routePieces (allTame_flatMap.mpr (h route hroute)) index (htexts route hroute).1
          (htexts route hroute).2
      have hlines := allTame_intercalate (by decide : '<' ∉ "\n".toList) (hrows 0)
      rw [renderNode]
      refine allTame_immediately ?_
      simp (disch := decide) [tame_code, hlines]
  | switch value cases =>
      simp only [Node.entered, List.forall_mem_flatMap, List.forall_mem_map] at h
      simp only [Node.texts, List.forall_mem_cons, List.forall_mem_flatMap] at htexts
      rw [renderNode, renderCases_eq_flatMap]
      refine allTame_switchPieces (allTame_flatMap.mpr fun c hc => ?_) htexts.1
      rw [renderNodes_eq_flatMap]
      exact allTame_casePieces (allTame_flatMap.mpr (h c hc)) (htexts.2 c hc)
  | slot name =>
      have hname : ∀ text ∈ name, '<' ∉ text.toList := by simpa [Node.texts] using htexts
      have hvariable : '<' ∉ (name.getD "children").toList := by
        cases name with
        | none => decide
        | some text => exact hname text rfl
      rw [renderNode, slotPieces]
      split_ifs <;> refine allTame_braced ?_
      · simp [tame_slotVariable hvariable]
      · simp [tame_slotField hname]
  | slotContent name element =>
      rw [renderNode]
      exact allTame_slotContentPieces (h ⟨frame, element⟩ (List.mem_singleton_self _))
        (htexts _ (List.mem_singleton_self _)) element
  | onMount children =>
      rw [renderNode]
      exact allTame_mountPieces fun e he => htexts _ (List.mem_map_of_mem he)
  | component name properties children =>
      simp only [Node.entered, List.forall_mem_append, List.forall_mem_map] at h
      have hcontent : AllTame (renderContent frame children) := by
        rw [renderContent_eq_flatMap]
        exact allTame_flatMap.mpr h.2
      rw [renderNode]
      refine allTame_elementPieces hcontent (allTame_append.mpr ⟨?_, ?_⟩) (htag name rfl)
      · exact allTame_propertiesPieces (List.forall_mem_flatMap.mp htexts)
      · split_ifs with htakes
        · rw [if_pos htakes] at h
          rw [renderSlots_eq_flatMap, allTame_flatMap]
          exact fun child hchild => allTame_cons.mpr ⟨tame_code (by decide), h.1 child hchild⟩
        · simp
  | fragment children =>
      simp only [Node.entered, List.forall_mem_map] at h
      rw [renderNode, renderNodes_eq_flatMap]
      exact allTame_flatMap.mpr h
  | text value =>
      rw [renderNode]
      simpa using tame_authored (htexts value (List.mem_singleton_self _))
  | expression e =>
      rw [renderNode]
      refine allTame_braced ?_
      simpa using tame_script (htexts e.source (List.mem_singleton_self _))
  | state _ | props _ _ =>
      rw [renderNode]
      exact allTame_nil

/-- **Rendering writes tame pieces** where every node that is reached can be scanned. -/
lemma allTame_renderNodes {frame : Frame} {nodes : List Node}
    (h : ∀ placed ∈ renderedNodes frame nodes, placed.node.Scannable) :
    AllTame (renderNodes frame nodes) :=
  renderNodes_of_step (fun _ _ hrow => allTame_flatMap.mpr hrow)
    (fun _ _ hnode hentered => allTame_renderNode_step hnode hentered) h

/-! ## Imports -/

section Generated

variable {document : Document} {name : String} {options : Options} {result : Reported Module}

/-- **The imported components are those that are rendered.**  Where nothing that the author wrote
    can be taken for a tag, a body opens the tags of the rendered components in order, and the
    module imports the custom ones among them but for its own, each at its first place. -/
theorem imports_are_rendered_components (h : generate document name options = .ok result)
    (hscan : ∀ node ∈ document.nodes, node.Scannable) :
    tagsOf result.value.body = componentNames (document.parts.value.rendered name)
      ∧ result.value.components
        = (((componentNames (document.parts.value.rendered name)).filter isCustomTag).filter
            (· != name)).eraseDups := by
  have hm := generated_of_generate h
  have htags : tagsOf result.value.body = componentNames (document.parts.value.rendered name) := by
    rw [hm.body, tagsOf_renderNodes]
    rfl
  refine ⟨htags, ?_⟩
  have hend : TagsEnd result.value.body := by
    rw [hm.body]
    exact tagsEnd_renderNodes ..
  have htame : AllTame result.value.body := by
    rw [hm.body]
    exact allTame_renderNodes fun placed hplaced => hscan _ (Document.mem_nodes_of_parts hplaced)
  rw [hm.components, usedComponents_eq, ← htags, ← tagNames_codeOf hend htame, codeOf]

end Generated

/-- A board that shows itself, with content for a slot and a block that waits. -/
def board : Document :=
  ⟨[.component "div" []
    [.component "Card" [.named "title" (.text "Tasks")]
        [.component "Item" [] [], .slotContent "footer" (.component "Badge" [] [])],
      .async ⟨"load()", .call⟩ none [.component "Item" [] []] [.component "Fault" [] []]
        [.component "Spinner" [] []] "_data" "_error",
      .component "Board" [] []]]⟩

/-- The badge stands in the tag of the card and comes before the item; the board does not import
itself. -/
theorem imports_of_board : ∃ result,
    generate board "Board" {} = .ok result
    ∧ (∀ node ∈ board.nodes, node.Scannable)
    ∧ componentNames (board.parts.value.rendered "Board")
        = ["Card", "Badge", "Item", "Item", "Fault", "Spinner", "Board"]
    ∧ result.value.components = ["Card", "Badge", "Item", "Fault", "Spinner"] := by
  have hscan : ∀ node ∈ board.nodes, node.Scannable := by
    simp [board, Document.nodes, Node.subnodes_eq, Node.children, Node.inner, Node.Scannable,
      Node.texts, Node.componentName?, Property.texts, Value.texts]
    decide
  refine ⟨_, rfl, hscan, ?_⟩
  obtain ⟨hrendered, hcomponents⟩ := @imports_are_rendered_components board "Board" {} _ rfl hscan
  rw [hcomponents, ← hrendered]
  decide

section Generated

variable {document : Document} {name : String} {options : Options} {result : Reported Module}

/-- An opened tag of the form is found, whatever else a text holds. -/
lemma mem_tagNames_codeOf {pieces : List Piece} (hend : TagsEnd pieces) {tag : String}
    (htag : tag ∈ tagsOf pieces) (h : isImportable tag = true) :
    tag ∈ tagNames (codeOf pieces) := by
  induction pieces with
  | nil => exact absurd htag (by simp [tagsOf])
  | cons piece rest ih =>
      rw [codeOf_cons]
      cases piece with
      | opening other =>
          obtain ⟨hword, hend⟩ := hend
          rcases List.mem_cons.mp htag with rfl | htag
          · have htext : (Piece.opening tag).text.toList = '<' :: tag.toList := by simp [Piece.text]
            rw [htext, List.cons_append, tagNames, if_pos rfl, tagNameAt?_of_isImportable h hword]
            exact List.mem_cons_self
          · exact mem_tagNames_append (ih hend htag)
      | _ => exact mem_tagNames_append (ih hend htag)

/-- The tag of a component can be found exactly if it has no characters but ASCII letters and
digits. -/
lemma isImportable_iff_forall {tag : String} (h : isCustomTag tag = true) :
    isImportable tag = true ↔ ∀ c ∈ tag.toList, isTagChar c = true := by
  rw [isImportable_iff]
  constructor
  · rintro ⟨c, rest, htag, hA, hZ, hrest⟩
    rw [htag, List.forall_mem_cons]
    exact ⟨isTagChar_of_capital hA hZ, hrest⟩
  · intro hall
    cases htag : tag.toList with
    | nil => simp [isCustomTag, htag] at h
    | cons c rest =>
        rw [htag, List.forall_mem_cons] at hall
        have hcapital : Capital.isCapital c = true := by simpa [isCustomTag, htag] using h
        rw [Capital.isCapital, if_pos (toNat_le_of_isTagChar hall.1)] at hcapital
        simp only [Bool.and_eq_true, decide_eq_true_eq] at hcapital
        exact ⟨c, rest, rfl, hcapital.1, hcapital.2, hall.2⟩

/-- **A rendered component is imported exactly if its name consists of ASCII letters and
digits.** -/
theorem rendered_imported_iff (h : generate document name options = .ok result) {placed : Placed}
    (hplaced : placed ∈ document.parts.value.rendered name) {tag : String}
    (htag : placed.node.componentName? = some tag) (hcustom : isCustomTag tag = true)
    (hne : tag ≠ name) :
    tag ∈ result.value.components ↔ ∀ c ∈ tag.toList, isTagChar c = true := by
  have hm := generated_of_generate h
  rw [← isImportable_iff_forall hcustom, hm.components, usedComponents_eq, List.mem_eraseDups,
    List.mem_filter, and_iff_left (by simpa using hne)]
  constructor
  · exact isImportable_of_tagNames
  · intro himportable
    have hopened : tag ∈ tagsOf result.value.body := by
      rw [hm.body, tagsOf_renderNodes]
      exact List.mem_filterMap.mpr ⟨placed, hplaced, htag⟩
    refine mem_tagNames_codeOf ?_ hopened himportable
    rw [hm.body]
    exact tagsEnd_renderNodes ..

end Generated

/-- The card of the board is rendered and imported. -/
theorem card_imported : ∃ result,
    generate board "Board" {} = .ok result ∧ isCustomTag "Card" = true
      ∧ "Card" ∈ result.value.components := by
  refine ⟨_, rfl, by decide, ?_⟩
  have hplaced : (⟨board.parts.value.frame "Board",
      .component "Card" [.named "title" (.text "Tasks")]
      [.component "Item" [] [], .slotContent "footer" (.component "Badge" [] [])]⟩ : Placed)
        ∈ board.parts.value.rendered "Board" :=
    List.mem_flatMap.mpr ⟨_, List.mem_cons_self, Node.mem_rendered.mpr (Or.inl rfl)⟩
  exact (rendered_imported_iff rfl hplaced rfl (by decide) (by decide)).mpr
    (List.all_eq_true.mp rfl)

/-- A page with a component whose name has an underscore. -/
def underscorePage : Document := ⟨[.component "div" [] [.component "My_Card" [] []]]⟩

/-- **A component can be built and shown without being imported.**  `My_Card` is a name that a
    component may have, and its tag is one of a component, but the scanner does not take it for a
    name. -/
theorem rendered_not_imported : ∃ result,
    generate underscorePage "Page" {} = .ok result
    ∧ isName "My_Card".toList = true ∧ isCustomTag "My_Card" = true
    ∧ textOf result.value.body = "<My_Card />" ∧ "My_Card" ∉ result.value.components :=
  ⟨_, rfl, by decide, by decide, by decide, by decide⟩

end Componentry
