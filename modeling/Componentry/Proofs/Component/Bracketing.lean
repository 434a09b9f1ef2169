import Componentry.Proofs.Component.Imports
import Componentry.Proofs.Component.StateForms
import Componentry.Proofs.Text.Brackets

/-!
# Brackets of generated modules

A module is put together from templates, and most of their pieces open brackets that a later piece
closes.  `Takes` says what a row of pieces does to the brackets that are awaited, with a rule for
each kind of piece.  So a template is followed from its first piece to its last.

**Blocks.**  The template of a block pairs its own brackets, and leaves those of its content to the
content (`Balanced`).  By induction on nodes this holds of whole bodies (`balanced_renderNodes`).

**Modules.**  Imports, the signature and the setup are followed in the same way.  What is left are
the texts of the author and of the options; `code_nested` assumes that each of them is nested by
itself.
-/

namespace Componentry

open Route Text

/-! ## Nested texts -/

section Texts

variable {text name path : String}

/-- A nested text does not change what is awaited between two others. -/
lemma awaited_around {stack before inside behind next : List Char}
    (hbefore : awaited stack before = some inside) (h : Nested text.toList)
    (hbehind : awaited inside behind = some next) :
    awaited stack (String.ofList before ++ text ++ String.ofList behind).toList = some next := by
  rw [String.toList_append, String.toList_append, String.toList_ofList, String.toList_ofList,
    awaited_append, awaited_append, hbefore, Option.bind_some, h.awaited_eq, Option.bind_some,
    hbehind]

/-- Quoting keeps all brackets and adds none. -/
lemma nested_quoted (h : Nested text.toList) : Nested (quoted text).toList := by
  have hdigit : ∀ n < 16, isBracket (hexDigit n) = false := by decide
  have hescaped : ∀ c, (escaped c).filter isBracket = [c].filter isBracket := by
    intro c
    unfold escaped
    split_ifs with hquote hslash hcontrol
    · subst hquote
      rfl
    · subst hslash
      rfl
    · have hc : isBracket c = false :=
        isBracket_eq_false_of (p := fun c => decide (c.toNat < 0x20)) (by decide)
          (decide_eq_true hcontrol)
      have hhigh := hdigit (c.toNat / 16) (by omega)
      have hlow := hdigit (c.toNat % 16) (by omega)
      rw [List.filter_cons_of_neg (a := c) (by simp [hc])]
      have hfixed : isBracket '\\' = false ∧ isBracket 'u' = false ∧ isBracket '0' = false := by
        decide
      split <;> try rfl
      simp [hfixed, hhigh, hlow]
    · rfl
  rw [quoted, String.toList_ofList, quote, List.cons_append]
  exact .char rfl ((h.of_flatMap fun c _ => hescaped c).append (.char rfl .nil))

lemma nested_singleQuotes (h : Nested text.toList) : Nested (singleQuotes text).toList := by
  rw [singleQuotes, String.toList_ofList, List.map_eq_flatMap]
  refine h.of_flatMap fun c _ => ?_
  split_ifs with hc
  · subst hc
    rfl
  · rfl

/-- The capital form of a character has the same brackets. -/
lemma filter_capital (c : Char) : (Capital.capital c).filter isBracket = [c].filter isBracket := by
  cases hc : isBracket c with
  | true =>
      have hfixed : brackets.all (fun c => Capital.capital c == [c]) = true := by decide
      have hcapital : Capital.capital c = [c] := by
        simpa using List.all_eq_true.mp hfixed c (isBracket_iff.mp hc)
      rw [hcapital]
  | false =>
      rw [List.filter_cons_of_neg (by simp [hc]), List.filter_nil, List.filter_eq_nil_iff]
      intro d hd
      rw [Bool.not_eq_true]
      rcases mem_capital hd with rfl | hcode
      · exact hc
      · exact isBracket_eq_false_of
          (p := fun d => decide ((0x41 ≤ d.toNat ∧ d.toNat ≤ 0x5A) ∨ 0x80 ≤ d.toNat)) (by decide)
          (decide_eq_true hcode)

lemma nested_setterName (h : Nested name.toList) : Nested (setterName name).toList := by
  rw [setterName_toList]
  refine .char rfl (.char rfl (.char rfl (h.of_filter ?_)))
  cases name.toList with
  | nil => rfl
  | cons c rest =>
      rw [Capital.capitalize, List.filter_append, filter_capital, ← List.filter_append,
        List.singleton_append]

lemma nested_toString (n : Nat) : Nested (toString n).toList :=
  nested_of_forall fun _ hc => isBracket_eq_false_of (by decide) (isDigit_of_mem_toString hc)

lemma nested_of_isName (h : isName name.toList = true) : Nested name.toList := by
  have hother : brackets.any
      (fun c => isAlphabetic c || isAlphanumeric c || c == '_' || c == '$') = false := by
    decide +kernel
  refine nested_of_forall fun c hc => isBracket_eq_false_of hother ?_
  cases hname : name.toList with
  | nil => simp [hname] at hc
  | cons first rest =>
      rw [hname] at h hc
      simp only [isName, Bool.and_eq_true, List.all_eq_true] at h
      rcases List.mem_cons.mp hc with rfl | hc
      · grind
      · have hpart := h.2 c hc
        grind

lemma nested_of_isImportable (h : isImportable name = true) : Nested name.toList := by
  obtain ⟨c, rest, hname, hA, hZ, hrest⟩ := isImportable_iff.mp h
  rw [hname]
  refine nested_of_forall fun d hd => isBracket_eq_false_of (p := isTagChar) (by decide) ?_
  rcases List.mem_cons.mp hd with rfl | hd
  · exact isTagChar_of_capital hA hZ
  · exact hrest d hd

/-- A group for each parameter is all that a path without brackets adds. -/
lemma nested_regex (h : ∀ c ∈ path.toList, isBracket c = false) :
    Nested (Pattern.parse path).regex.toList := by
  have hsegment : ∀ segment ∈ (Pattern.parse path).segments, Nested segment.regex.toList := by
    intro segment hsegment
    cases segment with
    | literal text =>
        rw [Segment.regex, String.toList_ofList, regexEscape]
        refine nested_of_forall fun d hd => ?_
        obtain ⟨c, hc, hd⟩ := List.mem_flatMap.mp hd
        have hplain := h c (mem_path_of_segments hsegment hc)
        split_ifs at hd
        · rcases List.mem_pair.mp hd with rfl | rfl
          · rfl
          · exact hplain
        · rwa [List.mem_singleton.mp hd]
    | parameter name => exact (by decide : Nested parameterGroup.toList)
  rw [Pattern.regex, String.toList_append, String.toList_append, String.toList_join,
    List.flatMap_map]
  exact ((by decide : Nested "^".toList).append (.flatMap hsegment)).append (by decide)

end Texts

/-! ## Following pieces -/

/-- The brackets of pieces pair up. -/
def Balanced (pieces : List Piece) : Prop := Nested (codeOf pieces)

/-- Pieces take the awaited brackets from those of a stack to others. -/
def Takes (stack : List Char) (pieces : List Piece) (left : List Char) : Prop :=
  awaited stack (codeOf pieces) = some left

section Takes

variable {stack next left : List Char} {piece : Piece} {pieces front : List Piece}

lemma Takes.nil : Takes stack [] stack := by
  rw [Takes, codeOf_nil, awaited]

lemma Takes.append (h : Takes stack front next) (hrest : Takes next pieces left) :
    Takes stack (front ++ pieces) left := by
  rw [Takes] at h hrest ⊢
  rw [codeOf_append, awaited_append, h, Option.bind_some, hrest]

/-- Fixed text is read. -/
lemma Takes.code {text : List Char} (h : awaited stack text = some next)
    (hrest : Takes next pieces left) :
    Takes stack (.code (String.ofList text) :: pieces) left := by
  rw [Takes] at hrest ⊢
  rw [codeOf_cons, Piece.text, String.toList_ofList, awaited_append, h, Option.bind_some, hrest]

/-- Any nested text can be passed over. -/
lemma Takes.text (h : Nested piece.text.toList) (hrest : Takes stack pieces left) :
    Takes stack (piece :: pieces) left := by
  rw [Takes] at hrest ⊢
  rw [codeOf_cons, awaited_append, h.awaited_eq, Option.bind_some, hrest]

/-- Fixed text around a name is read. -/
lemma Takes.around {before behind inside : List Char} {name : String}
    (hbefore : awaited stack before = some inside) (hname : Nested name.toList)
    (hbehind : awaited inside behind = some next) (hrest : Takes next pieces left) :
    Takes stack (.code (String.ofList before ++ name ++ String.ofList behind) :: pieces) left := by
  rw [Takes] at hrest ⊢
  rw [codeOf_cons, Piece.text, awaited_append, awaited_around hbefore hname hbehind,
    Option.bind_some, hrest]

lemma Takes.last (h : Balanced pieces) : Takes stack pieces stack := h.awaited_eq stack

/-- Any balanced row can be passed over. -/
lemma Takes.row (h : Balanced front) (hrest : Takes stack pieces left) :
    Takes stack (front ++ pieces) left :=
  .append (.last h) hrest

lemma Takes.balanced (h : Takes [] pieces []) : Balanced pieces := nested_iff.mpr h

lemma balanced_nil : Balanced [] := Takes.nil.balanced

lemma balanced_flatMap {α : Type} {f : α → List Piece} {parts : List α}
    (h : ∀ part ∈ parts, Balanced (f part)) : Balanced (parts.flatMap f) := by
  induction parts with
  | nil => exact balanced_nil
  | cons part rest ih =>
      rw [List.forall_mem_cons] at h
      rw [List.flatMap_cons, Balanced, codeOf_append]
      exact h.1.append (ih h.2)

lemma balanced_intercalate {separator : String} (hseparator : Nested separator.toList)
    {rows : List (List Piece)} (h : ∀ row ∈ rows, Balanced row) :
    Balanced ([Piece.code separator].intercalate rows) := by
  induction rows with
  | nil => exact balanced_nil
  | cons row rest ih =>
      rw [List.forall_mem_cons] at h
      cases rest with
      | nil => simpa using h.1
      | cons next more =>
          rw [List.intercalate_cons_cons, List.append_assoc, List.singleton_append]
          exact Takes.balanced <| .row h.1 <| .text hseparator <| .last (ih h.2)

end Takes

/-! ## Blocks -/

section Blocks

variable {content : List Piece}

lemma balanced_braced (h : Balanced content) : Balanced (braced content) := by
  rw [braced, List.cons_append]
  exact Takes.balanced <| .code rfl <| .row h <| .code rfl .nil

lemma balanced_fragmentOf (h : Balanced content) : Balanced (fragmentOf content) := by
  rw [fragmentOf, List.cons_append]
  exact Takes.balanced <| .code rfl <| .row h <| .code rfl .nil

lemma balanced_returnOf (h : Balanced content) : Balanced (returnOf content) := by
  rw [returnOf, List.cons_append]
  exact Takes.balanced <| .code rfl <| .row (balanced_fragmentOf h) <| .code rfl .nil

lemma balanced_immediately (h : Balanced content) : Balanced (immediately content) := by
  rw [immediately, List.cons_append]
  exact Takes.balanced <| .code rfl <| .row h <| .code rfl .nil

lemma balanced_ifPieces (h : Balanced content) {condition : Expression}
    (hcondition : Nested condition.source.toList) : Balanced (ifPieces condition content) := by
  refine balanced_braced ?_
  exact Takes.balanced <| .code rfl <| .text hcondition <| .code rfl <|
    .row (balanced_fragmentOf h) <| .code rfl .nil

lemma balanced_loopPieces (h : Balanced content) {items : Expression} {itemName : String}
    (hitems : Nested items.source.toList) (hname : Nested itemName.toList) :
    Balanced (loopPieces items itemName content) := by
  have hsource : Balanced (itemsPieces items) := by
    unfold itemsPieces
    split
    · exact Takes.balanced <| .text hitems .nil
    · exact Takes.balanced <| .text hitems .nil
    · exact Takes.balanced <| .code rfl <| .text hitems <| .code rfl .nil
  have hindex : Nested (indexName itemName).toList := by
    unfold indexName
    split_ifs <;> decide
  refine balanced_braced ?_
  simp only [List.append_assoc, List.cons_append, List.nil_append]
  exact Takes.balanced <| .row hsource <| .code rfl <| .text hname <| .code rfl <| .text hindex <|
    .code rfl <| .row (balanced_returnOf h) <| .code rfl .nil

lemma balanced_renamePieces {boundAs variableName : String} (hbound : Nested boundAs.toList)
    (hvariable : Nested variableName.toList) : Balanced (renamePieces boundAs variableName) := by
  unfold renamePieces
  split_ifs
  · exact balanced_nil
  · exact Takes.balanced <| .code rfl <| .text hbound <| .around rfl hvariable rfl .nil

lemma nested_hook (hook : Hook) : Nested hook.name.toList := by
  cases hook <;> decide

lemma balanced_asyncPieces {done failed loading : List Piece} (hdone : Balanced done)
    (hfailed : Balanced failed) (hloading : Balanced loading)
    {promise : Expression} {key : Option Expression} {doneAlias failedAlias : String}
    (hpromise : Nested promise.source.toList) (hkey : ∀ e ∈ key, Nested e.source.toList)
    (hdoneAlias : Nested doneAlias.toList) (hfailedAlias : Nested failedAlias.toList) :
    Balanced (asyncPieces promise key doneAlias failedAlias done failed loading) := by
  have hkeys : Balanced ((key.map fun e => Piece.script e.source).toList) := by
    cases key with
    | none => exact balanced_nil
    | some e => exact Takes.balanced <| .text (hkey e rfl) .nil
  have hvalue : Balanced (renamePieces doneAlias settledValue) :=
    balanced_renamePieces hdoneAlias (by decide)
  have herror : Balanced (renamePieces failedAlias settledError) :=
    balanced_renamePieces hfailedAlias (by decide)
  refine balanced_immediately ?_
  simp only [List.append_assoc, List.cons_append, List.nil_append]
  -- three states, the effect up to its key, and a branch for each status
  refine Takes.balanced <|
    .code rfl <| .text (nested_hook _) <| .code rfl <|
    .code rfl <| .text (nested_hook _) <| .code rfl <|
    .code rfl <| .text (nested_hook _) <| .code rfl <|
    .text (nested_hook _) <| .code rfl <| .code rfl <| .text hpromise <| .code rfl <|
    .code rfl <| .code rfl <| .code rfl <| .code rfl <| .code rfl <| .row hkeys <| ?_
  exact .code rfl <| .row hvalue <| .row (balanced_returnOf hdone) <|
    .code rfl <| .row herror <| .row (balanced_returnOf hfailed) <|
    .code rfl <| .last (balanced_returnOf hloading)

lemma nested_showBool (b : Bool) : Nested (showBool b).toList := by
  cases b <;> decide

lemma balanced_casePieces (h : Balanced content) {value : CaseValue}
    (hvalue : ∀ text ∈ value.texts, Nested text.toList) : Balanced (casePieces value content) := by
  have hcase : ∀ shown : Piece, Nested shown.text.toList →
      Balanced (.code "case " :: shown :: .code ": " :: returnOf content ++ [.code "\n"]) := by
    intro shown hshown
    exact Takes.balanced <| .code rfl <| .text hshown <| .code rfl <| .row (balanced_returnOf h) <|
      .code rfl .nil
  cases value with
  | text text => exact hcase _ (nested_quoted (hvalue text (List.mem_singleton_self _)))
  | number source => exact hcase _ (hvalue source (List.mem_singleton_self _))
  | boolean b => exact hcase _ (nested_showBool b)
  | null => exact hcase _ (by decide)

lemma balanced_switchPieces (h : Balanced content) {value : Expression}
    (hvalue : Nested value.source.toList) : Balanced (switchPieces value content) := by
  refine balanced_immediately ?_
  exact Takes.balanced <| .code rfl <| .text hvalue <| .code rfl <| .row h <| .code rfl .nil

lemma balanced_fieldPieces {variableName : String} (hvariable : Nested variableName.toList)
    {names : List String} (hnames : ∀ name ∈ names, Nested name.toList) (group : Nat) :
    ∀ row ∈ fieldPieces variableName group names, Balanced row := by
  induction names generalizing group with
  | nil => simp [fieldPieces]
  | cons name rest ih =>
      rw [List.forall_mem_cons] at hnames
      have hkey : Nested (fieldKey name).text.toList := by
        unfold fieldKey
        split_ifs
        · exact hnames.1
        · exact nested_quoted hnames.1
      have hcode : Nested (": " ++ variableName ++ "[" ++ toString group ++ "]").toList := by
        simp only [String.toList_append, List.append_assoc]
        exact .char rfl <| .char rfl <| hvariable.append <| .pair rfl (nested_toString group) .nil
      rw [fieldPieces, List.forall_mem_cons]
      exact ⟨Takes.balanced <| .text hkey <| .text hcode .nil, ih hnames.2 (group + 1)⟩

lemma balanced_matchBinding {variableName : String} (hvariable : Nested variableName.toList)
    {names : List String} (hnames : ∀ name ∈ names, Nested name.toList) {boundAs : Option String}
    (hbound : ∀ name ∈ boundAs, Nested name.toList) :
    Balanced (matchBinding variableName names boundAs) := by
  cases boundAs with
  | none => exact balanced_nil
  | some name =>
      have hfields := balanced_intercalate (by decide : Nested ", ".toList)
        (balanced_fieldPieces hvariable hnames 1)
      simp only [matchBinding, List.cons_append, List.nil_append]
      exact Takes.balanced <| .code rfl <| .text (hbound name rfl) <| .code rfl <| .row hfields <|
        .code rfl .nil

lemma balanced_routePieces (h : Balanced content) (index : Nat) {path : String}
    {boundAs : Option String} (hpath : ∀ c ∈ path.toList, isBracket c = false)
    (hbound : ∀ name ∈ boundAs, Nested name.toList) :
    Balanced (routePieces index path boundAs content) := by
  have hshown := balanced_returnOf h
  have hempty : Balanced (emptyBinding boundAs) := by
    cases boundAs with
    | none => exact balanced_nil
    | some name => exact Takes.balanced <| .code rfl <| .text (hbound name rfl) <| .code rfl .nil
  have hvariable : Nested ("_match" ++ toString index).toList := by
    rw [String.toList_append]
    exact .append (by decide) (nested_toString index)
  simp only [routePieces]
  generalize "_match" ++ toString index = variableName at hvariable
  have hnames : ∀ name ∈ (Pattern.parse path).parameterNames, Nested name.toList :=
    fun name hname =>
    nested_of_forall fun c hc => hpath c (mem_path_of_parameterNames hname hc)
  have hmatch := balanced_matchBinding hvariable hnames hbound
  split_ifs
  · simp only [List.append_assoc, List.cons_append, List.nil_append]
    exact Takes.balanced <| .code rfl <| .text (nested_quoted (nested_of_forall hpath)) <|
      .code rfl <| .row hempty <| .row hshown <| .code rfl .nil
  · simp only [List.append_assoc, List.cons_append, List.nil_append]
    exact Takes.balanced <| .around rfl hvariable rfl <|
      .text (nested_quoted (nested_regex hpath)) <| .around rfl hvariable rfl <| .row hmatch <|
      .row hshown <| .code rfl .nil

lemma balanced_routerPieces {routes : List (List Piece)} (h : ∀ row ∈ routes, Balanced row) :
    Balanced (routerPieces routes) := by
  have hlines := balanced_intercalate (by decide : Nested "\n".toList) h
  refine balanced_immediately ?_
  exact Takes.balanced <| .code rfl <| .row hlines <| .code rfl .nil

lemma balanced_mountPieces {expressions : List Expression}
    (h : ∀ e ∈ expressions, Nested e.source.toList) :
    Balanced (mountPieces expressions) := by
  have hscripts : Balanced (expressions.flatMap (fun e => [Piece.script e.source, .code ";\n"])) :=
    balanced_flatMap fun e he => Takes.balanced <| .text (h e he) <| .code rfl .nil
  unfold mountPieces
  split_ifs
  · exact balanced_nil
  · refine balanced_immediately ?_
    exact Takes.balanced <| .text (nested_hook _) <| .code rfl <| .row hscripts <| .code rfl .nil

lemma balanced_valuePieces {value : Value} (h : ∀ text ∈ value.texts, Nested text.toList) :
    Balanced (valuePieces value) := by
  have hbraced : ∀ piece : Piece, Nested piece.text.toList →
      Balanced (.code "=" :: braced [piece]) :=
    fun piece hpiece => Takes.balanced <| .code rfl <|
      .last (balanced_braced <| Takes.balanced <| .text hpiece .nil)
  cases value with
  | bare => exact balanced_nil
  | text text =>
      have htext := h text (List.mem_singleton_self _)
      by_cases hhandler : Value.isInlineHandler text = true
      · simp only [valuePieces, Value.script?, if_pos hhandler]
        exact hbraced _ htext
      · simp only [valuePieces, Value.script?, if_neg hhandler]
        exact Takes.balanced <| .code rfl <| .text (nested_singleQuotes htext) <| .code rfl .nil
  | number source => exact hbraced _ (h source (List.mem_singleton_self _))
  | boolean b => exact hbraced _ (nested_showBool b)
  | expression e => exact hbraced _ (h e.source (List.mem_singleton_self _))

lemma balanced_propertiesPieces {properties : List Property}
    (h : ∀ property ∈ properties, ∀ text ∈ property.texts, Nested text.toList) :
    Balanced (propertiesPieces properties) := by
  have hproperty : ∀ property ∈ properties, Balanced (propertyPieces property) := by
    intro property hmem
    have htexts := h property hmem
    cases property with
    | named key value =>
        rw [Property.texts, List.forall_mem_cons] at htexts
        exact Takes.balanced <| .text htexts.1 <| .last (balanced_valuePieces htexts.2)
    | spread argument =>
        refine balanced_braced ?_
        exact Takes.balanced <| .code rfl <|
          .text (htexts argument.source (List.mem_singleton_self _)) .nil
  exact balanced_flatMap fun property hmem =>
    Takes.balanced <| .code rfl <| .last (hproperty property hmem)

lemma balanced_slotPieces {name : Option String} (h : ∀ text ∈ name, Nested text.toList)
    (frame : Frame) :
    Balanced (slotPieces frame name) := by
  have hvariable : Nested (name.getD "children").toList := by
    cases name with
    | none => decide
    | some text => exact h text rfl
  have hfield : Nested (Piece.slotField name).text.toList := by
    cases name with
    | none => decide
    | some text => exact nested_iff.mpr (awaited_around rfl (nested_quoted (h text rfl)) rfl)
  simp only [slotPieces]
  split_ifs <;> refine balanced_braced ?_
  · exact Takes.balanced <| .text hvariable .nil
  · exact Takes.balanced <| .text hfield .nil

lemma balanced_slotContentPieces (h : Balanced content) {name : String} (hname : Nested name.toList)
    (element : Node) : Balanced (slotContentPieces name element content) := by
  have hattribute : ∀ {shown : List Piece}, Balanced shown →
      Balanced (.authored name :: .code "=" :: braced shown) := fun hshown =>
    Takes.balanced <| .text hname <| .code rfl <| .last (balanced_braced hshown)
  cases element with
  | component _ _ _ => exact hattribute h
  | _ => exact hattribute (balanced_fragmentOf h)

lemma balanced_elementPieces (h : Balanced content) {name : String} {properties : List Piece}
    (hproperties : Balanced properties) (hname : Nested name.toList) :
    Balanced (elementPieces name properties content) := by
  have hopening : Nested (Piece.opening name).text.toList := by
    rw [Piece.text, String.toList_append]
    exact .append (by decide) hname
  unfold elementPieces
  split_ifs
  · exact Takes.balanced <| .text hopening <| .row hproperties <| .code rfl .nil
  · simp only [List.append_assoc, List.cons_append]
    exact Takes.balanced <| .text hopening <| .row hproperties <| .code rfl <| .row h <|
      .code rfl <| .text hname <| .code rfl .nil

end Blocks

/-! ## Nodes -/

/-- What the author wrote in a node as a declaration. -/
def Node.declares : Node → List String
  | .state declaration => declaration.name.toList ++ declaration.value.texts
  | .props _ names => names
  | _ => []

/-- All that the author wrote in a node itself. -/
def Node.authored (node : Node) : List String :=
  node.texts ++ node.componentName?.toList ++ node.declares

/-- The paths of the routes in a node. -/
def Node.paths : Node → List String
  | .router routes => routes.map fun route => route.path
  | _ => []

/-- What the author wrote in a node is nested, text by text.  The paths of its routes are among the
texts, and they have no brackets at all. -/
structure Node.WritesNested (node : Node) : Prop where
  authored : ∀ text ∈ node.authored, Nested text.toList
  paths : ∀ path ∈ node.paths, ∀ c ∈ path.toList, isBracket c = false

instance (node : Node) : Decidable node.WritesNested :=
  decidable_of_iff ((∀ text ∈ node.authored, Nested text.toList)
      ∧ ∀ path ∈ node.paths, path.toList.all (fun c => !isBracket c) = true) <| by
    simp only [List.all_eq_true, Bool.not_eq_true']
    exact ⟨fun h => ⟨h.1, h.2⟩, fun h => ⟨h.authored, h.paths⟩⟩

/-- One step: the pieces of a node are balanced if those of the nodes it enters are. -/
lemma balanced_renderNode_step {frame : Frame} {node : Node} (hnode : node.WritesNested)
    (h : ∀ placed ∈ node.entered frame, Balanced (renderNode placed.frame placed.node)) :
    Balanced (renderNode frame node) := by
  obtain ⟨hauthored, hpaths⟩ := hnode
  simp only [Node.authored, List.forall_mem_append, Option.mem_toList] at hauthored
  obtain ⟨⟨htexts, htag⟩, -⟩ := hauthored
  cases node with
  | ifBlock condition children =>
      simp only [Node.entered, List.forall_mem_map] at h
      rw [renderNode, renderNodes_eq_flatMap]
      exact balanced_ifPieces (balanced_flatMap h) (htexts _ (List.mem_singleton_self _))
  | loop items itemName children =>
      simp only [Node.entered, List.forall_mem_map] at h
      simp only [Node.texts, List.forall_mem_cons] at htexts
      rw [renderNode, renderNodes_eq_flatMap]
      exact balanced_loopPieces (balanced_flatMap h) htexts.1 htexts.2.1
  | async promise key done failed loading doneAlias failedAlias =>
      simp only [Node.entered, List.forall_mem_append, List.forall_mem_map] at h
      simp only [Node.texts, List.forall_mem_cons, List.forall_mem_map, Option.mem_toList] at htexts
      obtain ⟨hpromise, hdone, hfailed, hkey⟩ := htexts
      rw [renderNode, renderSettled_eq_flatMap, renderNodes_eq_flatMap, renderNodes_eq_flatMap]
      exact balanced_asyncPieces (balanced_flatMap h.1.1) (balanced_flatMap h.1.2)
        (balanced_flatMap h.2) hpromise hkey hdone hfailed
  | router routes =>
      simp only [Node.entered, List.forall_mem_flatMap, List.forall_mem_map] at h
      simp only [Node.texts, List.forall_mem_flatMap, List.forall_mem_cons,
        Option.mem_toList] at htexts
      simp only [Node.paths, List.forall_mem_map] at hpaths
      have hrows := forall_renderRoutes (P := Balanced) fun route hroute index =>
        balanced_routePieces (balanced_flatMap (h route hroute)) index (hpaths route hroute)
          (htexts route hroute).2
      rw [renderNode]
      exact balanced_routerPieces (hrows 0)
  | switch value cases =>
      simp only [Node.entered, List.forall_mem_flatMap, List.forall_mem_map] at h
      simp only [Node.texts, List.forall_mem_cons, List.forall_mem_flatMap] at htexts
      rw [renderNode, renderCases_eq_flatMap]
      refine balanced_switchPieces (balanced_flatMap fun c hc => ?_) htexts.1
      rw [renderNodes_eq_flatMap]
      exact balanced_casePieces (balanced_flatMap (h c hc)) (htexts.2 c hc)
  | slot name =>
      simp only [Node.texts, Option.mem_toList] at htexts
      rw [renderNode]
      exact balanced_slotPieces htexts frame
  | slotContent name element =>
      rw [renderNode]
      exact balanced_slotContentPieces (h ⟨frame, element⟩ (List.mem_singleton_self _))
        (htexts _ (List.mem_singleton_self _)) element
  | onMount children =>
      rw [renderNode]
      exact balanced_mountPieces fun e he => htexts _ (List.mem_map_of_mem he)
  | component name properties children =>
      simp only [Node.entered, List.forall_mem_append, List.forall_mem_map] at h
      have hslots : Balanced
          (if frame.takesSlots name then renderSlots frame children else []) := by
        split_ifs with htakes
        · rw [if_pos htakes] at h
          rw [renderSlots_eq_flatMap]
          exact balanced_flatMap fun child hchild =>
            Takes.balanced <| .code rfl <| .last (h.1 child hchild)
        · exact balanced_nil
      have hproperties := balanced_propertiesPieces (List.forall_mem_flatMap.mp htexts)
      rw [renderNode, renderContent_eq_flatMap]
      exact balanced_elementPieces (balanced_flatMap h.2)
        (Takes.balanced <| .row hproperties <| .last hslots) (htag name rfl)
  | fragment children =>
      simp only [Node.entered, List.forall_mem_map] at h
      rw [renderNode, renderNodes_eq_flatMap]
      exact balanced_flatMap h
  | text value =>
      rw [renderNode]
      exact Takes.balanced <| .text (htexts value (List.mem_singleton_self _)) .nil
  | expression e =>
      rw [renderNode]
      exact balanced_braced <| Takes.balanced <|
        .text (htexts e.source (List.mem_singleton_self _)) .nil
  | state _ | props _ _ =>
      rw [renderNode]
      exact balanced_nil

/-- **Rendering pairs its brackets** where every node that is reached is written in nested texts. -/
lemma balanced_renderNodes {frame : Frame} {nodes : List Node}
    (h : ∀ placed ∈ renderedNodes frame nodes, placed.node.WritesNested) :
    Balanced (renderNodes frame nodes) :=
  renderNodes_of_step (fun _ _ hrow => balanced_flatMap hrow)
    (fun _ _ hnode hentered => balanced_renderNode_step hnode hentered) h

/-! ## Setup -/

section Lines

variable {stack next left : List Char} {first : List Piece} {front rest : List (List Piece)}

lemma balanced_laidOut (h : ∀ line ∈ front, Balanced line) : Balanced (laidOut front) :=
  balanced_flatMap fun line hline =>
    Takes.balanced <| .code rfl <| .row (h line hline) <| .code rfl .nil

lemma Takes.line (h : Takes stack first next) (hrest : Takes next (laidOut rest) left) :
    Takes stack (laidOut (first :: rest)) left := by
  rw [laidOut, List.flatMap_cons, List.cons_append, List.cons_append, List.append_assoc]
  exact .code rfl <| .append h <| .code rfl hrest

lemma Takes.lines (h : ∀ line ∈ front, Balanced line) (hrest : Takes stack (laidOut rest) left) :
    Takes stack (laidOut (front ++ rest)) left := by
  rw [laidOut, List.flatMap_append]
  exact .row (balanced_laidOut h) hrest

end Lines

/-- What a declaration is made of. -/
def Declaration.sources : Declaration → List String
  | reactive name value | cell name value => [name, value]

lemma Declaration.balanced_lines {declaration : Declaration}
    (h : ∀ text ∈ declaration.sources, Nested text.toList) :
    ∀ line ∈ declaration.lines, Balanced line := by
  cases declaration with
  | reactive name value =>
      obtain ⟨hname, hvalue⟩ : Nested name.toList ∧ Nested value.toList := by
        simpa [sources] using h
      rw [lines, List.forall_mem_singleton]
      exact Takes.balanced <| .code rfl <| .text hname <| .code rfl <|
        .text (nested_setterName hname) <| .code rfl <| .text (nested_hook _) <| .code rfl <|
        .text hvalue <| .code rfl .nil
  | cell name value =>
      obtain ⟨hname, hvalue⟩ : Nested name.toList ∧ Nested value.toList := by
        simpa [sources] using h
      rw [lines, List.forall_mem_cons, List.forall_mem_singleton]
      constructor
      · exact Takes.balanced <| .code rfl <| .text hname <| .code rfl <| .text (nested_hook _) <|
          .code rfl <| .text hvalue <| .code rfl .nil
      · exact Takes.balanced <| .code rfl <| .text hname <| .code rfl <| .text hname <|
          .code rfl .nil

namespace Setup

/-- The function that writes cells back opens a bracket in one line and closes it in another. -/
lemma balanced_updateLines {cells : List String} (h : ∀ name ∈ cells, Nested name.toList) :
    Balanced (laidOut (updateLines cells)) := by
  have hcells : ∀ line ∈ cells.map (fun name =>
      [Piece.code "  _", .authored name, .code "Ref.current = ",
      .authored name, .code ";"]), Balanced line := by
    rw [List.forall_mem_map]
    exact fun name hname => Takes.balanced <| .code rfl <| .text (h name hname) <| .code rfl <|
      .text (h name hname) <| .code rfl .nil
  unfold updateLines
  split_ifs
  · exact balanced_nil
  · simp only [List.cons_append, List.nil_append]
    exact Takes.balanced <| .line (.code rfl <| .text (nested_hook _) <| .code rfl .nil) <|
      .line (.code rfl .nil) <| .lines hcells <| .line (.code rfl .nil) <|
      .line (.code rfl .nil) .nil

lemma balanced_mountLines {mounts : List Expression} (h : ∀ e ∈ mounts, Nested e.source.toList) :
    Balanced (laidOut (mountLines mounts)) := by
  have hmounts : ∀ line ∈ mounts.map (fun e => [Piece.code "  ", .script e.source, .code ";"]),
      Balanced line := by
    rw [List.forall_mem_map]
    exact fun e he => Takes.balanced <| .code rfl <| .text (h e he) <| .code rfl .nil
  unfold mountLines
  split_ifs
  · exact balanced_nil
  · exact Takes.balanced <| .line (.text (nested_hook _) <| .code rfl .nil) <| .lines hmounts <|
      .line (.code rfl .nil) .nil

lemma balanced_lines {setup : Setup}
    (hdeclared : ∀ declaration ∈ setup.declarations,
      ∀ text ∈ declaration.sources, Nested text.toList)
    (hmounts : ∀ e ∈ setup.mounts, Nested e.source.toList) : Balanced (laidOut setup.lines) := by
  have hlines : ∀ line ∈ setup.declarations.flatMap Declaration.lines, Balanced line := by
    rw [List.forall_mem_flatMap]
    exact fun declaration hmem => Declaration.balanced_lines (hdeclared declaration hmem)
  have hcells : ∀ name ∈ setup.cells, Nested name.toList := by
    intro name hname
    obtain ⟨declaration, hmem, hcell⟩ := List.mem_filterMap.mp hname
    cases declaration with
    | reactive _ _ => exact absurd hcell (by simp [Declaration.cellName?])
    | cell found value =>
        obtain rfl := Option.some.inj hcell
        exact hdeclared _ hmem found List.mem_cons_self
  rw [lines, laidOut, List.flatMap_append, List.flatMap_append, List.append_assoc]
  exact Takes.balanced <| .row (balanced_laidOut hlines) <| .row (balanced_updateLines hcells) <|
    .last (balanced_mountLines hmounts)

end Setup

/-! ## Modules -/

/-- The texts of the options. -/
def Options.texts (options : Options) : List String :=
  [options.jsxModule, options.jsxPragma, options.hooksModule, options.registryModule,
    options.wrapperTag, options.sourceExtension]

lemma Signature.balanced_pieces {names : List String} (h : ∀ name ∈ names, Nested name.toList)
    (rest : Bool) :
    Balanced (named names rest).pieces := by
  have hrow : Balanced
      ([Piece.code ", "].intercalate (names.map fun name => [.authored name])) := by
    refine balanced_intercalate (by decide) (List.forall_mem_map.mpr fun name hname => ?_)
    exact Takes.balanced <| .text (h name hname) .nil
  cases rest <;> exact Takes.balanced <| .code rfl <| .row hrow <| .code rfl .nil

namespace Module

lemma balanced_importPieces {names : List Piece} (h : ∀ name ∈ names, Nested name.text.toList)
    {source : String} (hsource : Nested source.toList) : Balanced (importPieces names source) := by
  have hrow : Balanced ([Piece.code ", "].intercalate (names.map fun name => [name])) := by
    refine balanced_intercalate (by decide) (List.forall_mem_map.mpr fun name hname => ?_)
    exact Takes.balanced <| .text (h name hname) .nil
  unfold importPieces
  split_ifs
  · exact balanced_nil
  · exact Takes.balanced <| .code rfl <| .row hrow <| .code rfl <| .text hsource <| .code rfl .nil

/-- The pieces of a module are balanced if those of its parts are. -/
lemma balanced_pieces {m : Module} (hname : Nested m.name.toList)
    (hoptions : ∀ text ∈ m.options.texts, Nested text.toList)
    (hcomponents : ∀ tag ∈ m.components, Nested tag.toList)
    (hsignature : Balanced m.signature.pieces) (hsetup : Balanced (laidOut m.setup.lines))
    (hbody : Balanced m.body) : Balanced m.pieces := by
  simp only [Options.texts, List.forall_mem_cons] at hoptions
  obtain ⟨hjsx, hpragma, hhooks, hregistry, hwrapper, hextension, -⟩ := hoptions
  have hheader : Nested (header ++ "\n// This file was compiled from a .").toList := by
    rw [String.toList_append]
    exact .append (nested_iff.mpr rfl) (nested_iff.mpr rfl)
  have hfactory : Balanced (importPieces [.authored m.options.jsxPragma] m.options.jsxModule) := by
    refine balanced_importPieces ?_ hjsx
    exact List.forall_mem_singleton.mpr hpragma
  have hruntime :
      Balanced (importPieces (m.hooks.map fun hook => .code hook.name) m.options.hooksModule) := by
    refine balanced_importPieces ?_ hhooks
    exact List.forall_mem_map.mpr fun hook _ => nested_hook hook
  have hregistered :
      Balanced (importPieces (m.components.map .authored) m.options.registryModule) := by
    refine balanced_importPieces ?_ hregistry
    exact List.forall_mem_map.mpr hcomponents
  have hshown : Balanced (if writesNothing m.body then []
      else .code "      " :: m.body ++ [.code "\n"]) := by
    split_ifs
    · exact balanced_nil
    · exact Takes.balanced <| .code rfl <| .row hbody <| .code rfl .nil
  simp only [pieces, head, function, result, wrapperPieces, List.append_assoc, List.cons_append,
    List.nil_append]
  -- the brackets of the function and of what it returns stay open up to the last piece
  refine Takes.balanced <| .text hheader <| .text hextension <| .code rfl <| .row hfactory <|
    .row hruntime <| .row hregistered <| .code rfl <| .text hname <| .code rfl <| .row hsignature <|
    .code rfl <| ?_
  exact .row hsetup <| .code rfl <| .code rfl <| .text hwrapper <| .code rfl <| .code rfl <|
    .row hshown <| .code rfl <| .code rfl <| .text hwrapper <| .code rfl <| .code rfl <|
    .code rfl .nil

end Module

section Generated

variable {document : Document} {name : String} {options : Options} {result : Reported Module}

lemma nested_script {value : Value} (h : ∀ text ∈ value.texts, Nested text.toList) :
    Nested value.script.toList := by
  cases value with
  | bare => decide
  | text text => exact nested_quoted (h text (List.mem_singleton_self _))
  | number source => exact h source (List.mem_singleton_self _)
  | boolean b => exact nested_showBool b
  | expression e => exact h e.source (List.mem_singleton_self _)

lemma Document.mem_nodes_of_declarations {node : Node} (h : node ∈ document.declarations) :
    node ∈ document.nodes := by
  rcases List.mem_append.mp h with htop | hroot
  · exact mem_nodes_of_body (List.mem_of_mem_filter htop)
  · have hchild := List.mem_of_mem_filter hroot
    cases hchildren : document.rootChildren? with
    | none => simp [hchildren] at hchild
    | some children =>
        obtain ⟨root, hmem, rfl⟩ := mem_nodes_of_rootChildren? hchildren
        exact mem_nodes_of_children hmem (by simpa [hchildren] using hchild)

/-- A declared state is made of nested texts. -/
lemma Generated.nested_sources {m : Module} {warnings : List Warning}
    (h : Generated document name options m warnings)
    (hdocument : ∀ node ∈ document.nodes, node.WritesNested) {declaration : Declaration}
    (hmem : declaration ∈ m.setup.declarations) :
    ∀ text ∈ declaration.sources, Nested text.toList := by
  obtain ⟨state, hstate, stateName, hname, rfl⟩ := h.state_of_declaration hmem
  obtain ⟨node, hnode, hdeclares⟩ := List.mem_filterMap.mp hstate
  have htexts := (hdocument node (Document.mem_nodes_of_declarations hnode)).authored
  cases node with
  | state found =>
      obtain rfl := Option.some.inj hdeclares
      simp only [Node.authored, Node.declares, hname, List.forall_mem_append] at htexts
      obtain ⟨-, hstateName, hvalue⟩ := htexts
      have hsources : ∀ text ∈ [stateName, found.value.script], Nested text.toList := by
        simpa using ⟨hstateName stateName (by simp), nested_script hvalue⟩
      unfold Declaration.ofState
      split_ifs <;> exact hsources
  | _ => exact absurd hdeclares (by simp [Node.state?])

lemma Document.nested_mounts (hdocument : ∀ node ∈ document.nodes, node.WritesNested) :
    ∀ e ∈ document.parts.value.mounts, Nested e.source.toList := by
  intro e he
  obtain ⟨node, hnode, hmounts⟩ := List.mem_flatMap.mp he
  have htexts := (hdocument node (mem_nodes_of_declarations hnode)).authored
  cases node with
  | onMount children =>
      refine htexts e.source (List.mem_append_left _ (List.mem_append_left _ ?_))
      exact List.mem_map_of_mem hmounts
  | _ => exact absurd hmounts (by simp [Node.mounts])

lemma Document.nested_propNames (hdocument : ∀ node ∈ document.nodes, node.WritesNested) :
    ∀ prop ∈ document.parts.value.propNames, Nested prop.toList := by
  intro prop hprop
  unfold Parts.propNames at hprop
  split at hprop
  · rename_i names hprops
    have hmem : (false, names) ∈ document.declarations.filterMap Node.props? :=
      List.mem_of_head? hprops
    obtain ⟨node, hnode, hdeclares⟩ := List.mem_filterMap.mp hmem
    have htexts := (hdocument node (mem_nodes_of_declarations hnode)).authored
    cases node with
    | props spread found =>
        obtain ⟨rfl, rfl⟩ : spread = false ∧ found = names := by simpa [Node.props?] using hdeclares
        exact htexts prop (List.mem_append_right _ hprop)
    | _ => exact absurd hdeclares (by simp [Node.props?])
  · exact absurd hprop List.not_mem_nil

/-- **Generated modules are nested.**  Where every text that the author wrote and every option is
nested by itself, and no path of a route has a bracket, the text of the whole module is nested. -/
theorem code_nested (h : generate document name options = .ok result)
    (hdocument : ∀ node ∈ document.nodes, node.WritesNested)
    (hoptions : ∀ text ∈ options.texts, Nested text.toList) : Nested result.value.text.toList := by
  have hm := generated_of_generate h
  have hcomponents : ∀ tag ∈ result.value.components, Nested tag.toList := by
    intro tag htag
    rw [hm.components, usedComponents_eq, List.mem_eraseDups] at htag
    exact nested_of_isImportable (isImportable_of_tagNames (List.mem_of_mem_filter htag))
  have hsignature : Balanced result.value.signature.pieces := by
    rw [hm.signature, signatureOf]
    split_ifs
    · exact Takes.balanced <| .code rfl .nil
    · exact Signature.balanced_pieces (Document.nested_propNames hdocument) _
  have hsetup : Balanced (laidOut result.value.setup.lines) := by
    refine Setup.balanced_lines (fun declaration => hm.nested_sources hdocument) ?_
    rw [hm.mounts]
    exact Document.nested_mounts hdocument
  have hbody : Balanced result.value.body := by
    rw [hm.body]
    exact balanced_renderNodes fun placed hplaced =>
      hdocument _ (Document.mem_nodes_of_parts hplaced)
  exact Module.balanced_pieces (hm.name_eq ▸ nested_of_isName hm.isName) (hm.options_eq ▸ hoptions)
    hcomponents hsignature hsetup hbody

end Generated

/-- A page with brackets in all kinds of texts: values, bindings, attributes, content and cases. -/
def bracketedPage : Document where
  body := [
    .state ⟨some "rows", .expression ⟨"load([\x7b id: 1 \x7d])", .call⟩, true, ⟨1, 7⟩⟩,
    .component "main" [] [
      .props false ["pick = []"],
      .onMount [.expression ⟨"setRows([])", .call⟩],
      .loop ⟨"rows[0]", .other⟩ "\x7b id \x7d" [
        .component "Row" [.named "style" (.text "width: calc(100%)")] [.text "(a)"]],
      .router [⟨"/rows/:id", some "route", [.expression ⟨"route[\"id\"]", .other⟩]⟩],
      .switch ⟨"at(0)", .call⟩ [⟨.text "[]", [.slot (some "none()")]⟩],
      .async ⟨"load(rows)", .call⟩ none [.text "done"] [.text "failed"] [] "[first]" "_error"]]

/-- All these texts are nested, and so is the module. -/
theorem code_nested_bracketed : ∃ result,
    generate bracketedPage "Page" {} = .ok result
    ∧ (∀ node ∈ bracketedPage.nodes, node.WritesNested)
    ∧ (∀ text ∈ ({} : Options).texts, Nested text.toList)
    ∧ Nested result.value.text.toList := by
  have hdocument : ∀ node ∈ bracketedPage.nodes, node.WritesNested := by
    simp only [bracketedPage, Document.nodes, Node.subnodes_eq, Node.children, Node.inner,
      List.flatMap_cons, List.flatMap_nil, List.append_nil, List.cons_append, List.nil_append]
    decide
  have hoptions : ∀ text ∈ ({} : Options).texts, Nested text.toList := by decide
  exact ⟨_, rfl, hdocument, hoptions, @code_nested bracketedPage "Page" {} _ rfl hdocument hoptions⟩

end Componentry
