import Mathlib.Data.List.Forall2
import Componentry.Component.Module
import Componentry.Proofs.Component.Usage

/-!
# What a generated module is made of

Generation fails for one of three reasons, and otherwise puts a module together (`generate_eq`).
`Generated` is the inversion: which part of a module comes from which part of the document.  The
proofs about modules go through its fields, and those that compare two runs through `generate_eq`;
none of them unfolds `generate`.

The rest of the file reads the pieces of a module off.  Imports, the signature and the wrapper hold
no marks, so all marks of a module are in its setup and in its body (`Generated.marksOf_pieces`);
the hooks called by the setup and the scripts in it are listed one by one.
-/

namespace Componentry

/-! ## Inversion -/

/-- The frame that the body of a component is rendered in. -/
def Parts.frame (parts : Parts) (name : String) : Frame := ⟨.root name, parts.propNames⟩

/-- All nodes that are rendered in the body of a component. -/
def Parts.rendered (parts : Parts) (name : String) : List Placed :=
  renderedNodes (parts.frame name) parts.body

/-- The texts that setters are searched in: the scripts of the body and the statements on mount. -/
def Parts.searched (parts : Parts) : List String :=
  (usageOfNodes parts.body).scripts ++ parts.mounts.map fun e => e.source ++ ";"

/-- Whether a name is mentioned where setters are searched. -/
def Parts.mentioned (parts : Parts) (word : String) : Bool :=
  parts.searched.any (Text.mentions · word)

/-- The module of a component with given declarations. -/
def Parts.assembled (parts : Parts) (name : String) (options : Options)
    (declarations : List Declaration) : Module where
  name := name
  options := options
  setup := ⟨declarations, parts.mounts⟩
  body := renderNodes (parts.frame name) parts.body
  hooks := hooksOf ⟨declarations, parts.mounts⟩ (usageOfNodes parts.body)
  components := usedComponents name (textOf (renderNodes (parts.frame name) parts.body))
  signature := signatureOf parts.propNames (usageOfNodes parts.body)

/-- The warnings about a document: those about its parts, then those about misplaced
declarations. -/
def Document.generationWarnings (document : Document) : List Warning :=
  document.parts.warnings
    ++ (usageOfNodes document.parts.value.body).misplaced.map fun tag => ⟨.misplaced tag, none⟩

/-- **Generation is the declaration of states**, and nothing can fail behind it. -/
lemma generate_eq (document : Document) (name : String) (options : Options) :
    generate document name options
      = if document.body.isEmpty then .error .emptyDocument
        else if !Text.isName name.toList then .error (.invalidComponentName name)
        else (declareStates document.parts.value.mentioned document.parts.value.states).map
          fun declarations => ⟨document.parts.value.assembled name options declarations,
            document.generationWarnings⟩ := by
  rw [generate]
  split_ifs
  · rfl
  · rfl
  · change (Parts.module _ _ _ >>= _) = _
    rw [Parts.module]
    change ((declareStates document.parts.value.mentioned document.parts.value.states >>= _) >>= _)
      = _
    cases declareStates document.parts.value.mentioned document.parts.value.states <;> rfl

/-- A module and warnings are those that a document gives. -/
structure Generated (document : Document) (name : String) (options : Options) (m : Module)
    (warnings : List Warning) : Prop where
  isName : Text.isName name.toList = true
  name_eq : m.name = name
  options_eq : m.options = options
  declared : declareStates document.parts.value.mentioned document.parts.value.states
    = .ok m.setup.declarations
  mounts : m.setup.mounts = document.parts.value.mounts
  body : m.body = renderNodes (document.parts.value.frame name) document.parts.value.body
  hooks : m.hooks = hooksOf m.setup (usageOfNodes document.parts.value.body)
  components : m.components = usedComponents name (textOf m.body)
  signature : m.signature
    = signatureOf document.parts.value.propNames (usageOfNodes document.parts.value.body)
  warnings_eq : warnings = document.generationWarnings

/-- Generation that succeeds gives the module of the document. -/
theorem generated_of_generate {document : Document} {name : String} {options : Options}
    {result : Reported Module} (h : generate document name options = .ok result) :
    Generated document name options result.value result.warnings := by
  rw [generate_eq] at h
  split_ifs at h with _ hname
  cases hd : declareStates document.parts.value.mentioned document.parts.value.states with
  | error e => simp [hd, Except.map] at h
  | ok declarations =>
      rw [hd] at h
      cases h
      exact ⟨by simpa using hname, rfl, rfl, hd, rfl, rfl, rfl, rfl, rfl, rfl⟩

/-- States are declared one by one, in order, and all of them have a name. -/
lemma forall₂_of_declareStates {mentioned : String → Bool} {states : List StateDeclaration}
    {declarations : List Declaration} (h : declareStates mentioned states = .ok declarations) :
    List.Forall₂ (fun state declaration =>
        ∃ name, state.name = some name ∧ declaration = .ofState mentioned name state)
      states declarations := by
  induction states generalizing declarations with
  | nil =>
      cases h
      exact .nil
  | cons state rest ih =>
      unfold declareStates at h
      cases hname : state.name with
      | none => simp [hname] at h
      | some name =>
          cases hrest : declareStates mentioned rest with
          | error e => simp [hname, hrest, bind, Except.bind] at h
          | ok more =>
              simp only [hname, hrest] at h
              cases h
              exact .cons ⟨name, hname, rfl⟩ (ih hrest)

/-! ## Marks of a module -/

lemma mem_marksOf {piece : Piece} {pieces : List Piece} (h : piece.isMark = true) :
    piece ∈ marksOf pieces ↔ piece ∈ pieces := by
  simp [marksOf, h]

/-- A body without any text has no marks. -/
lemma marksOf_renderNodes_of_writesNothing {frame : Frame} {nodes : List Node}
    (h : writesNothing (renderNodes frame nodes) = true) :
    marksOf (renderNodes frame nodes) = [] := by
  simp only [renderNodes_eq_flatMap, writesNothing, List.all_flatMap] at h
  simp only [renderNodes_eq_flatMap, marksOf_flatMap, List.flatMap_eq_nil_iff]
  intro node hn
  exact marksOf_of_writesNothing (List.all_eq_true.mp h node hn)

lemma marksOf_importPieces {names : List Piece} (h : marksOf names = []) (source : String) :
    marksOf (Module.importPieces names source) = [] := by
  have hrow : (names.map fun name => [name]).flatMap marksOf = marksOf names := by
    rw [List.flatMap_map, ← marksOf_flatMap, List.flatMap_singleton']
  unfold Module.importPieces
  split_ifs
  · rfl
  · simp [marksOf_intercalate, hrow, h]

lemma marksOf_map_authored (names : List String) : marksOf (names.map .authored) = [] := by
  induction names with
  | nil => rfl
  | cons name rest ih => exact ih

lemma marksOf_map_code (hooks : List Hook) :
    marksOf (hooks.map fun hook => Piece.code hook.name) = [] := by
  induction hooks with
  | nil => rfl
  | cons hook rest ih => exact ih

lemma marksOf_signature (signature : Signature) : marksOf signature.pieces = [] := by
  cases signature with
  | whole => rfl
  | named names rest =>
      have hrow : (names.map fun name => [Piece.authored name]).flatMap marksOf = [] := by
        simp [List.flatMap_map]
      simp [Signature.pieces, marksOf_intercalate, hrow]

/-- Up to its brace a module has no marks. -/
lemma Module.marksOf_head (m : Module) : marksOf m.head = [] := by
  have hpragma : marksOf (importPieces [.authored m.options.jsxPragma] m.options.jsxModule) = [] :=
    marksOf_importPieces rfl _
  have hhooks := marksOf_importPieces (marksOf_map_code m.hooks) m.options.hooksModule
  have hcomponents := marksOf_importPieces (marksOf_map_authored m.components)
    m.options.registryModule
  simp [head, hpragma, hhooks, hcomponents, marksOf_signature]

lemma marksOf_laidOut (lines : List (List Piece)) :
    marksOf (laidOut lines) = lines.flatMap marksOf := by
  simp [laidOut]

section Generated

variable {document : Document} {name : String} {options : Options} {m : Module}
  {warnings : List Warning}

lemma Generated.marksOf_function (h : Generated document name options m warnings) :
    marksOf m.function = m.setup.lines.flatMap marksOf ++ marksOf m.body := by
  have hbody : writesNothing m.body = true → marksOf m.body = [] := by
    rw [h.body]
    exact marksOf_renderNodes_of_writesNothing
  have hresult : marksOf m.result = marksOf m.body := by
    by_cases hn : writesNothing m.body = true
    · simp [Module.result, Module.wrapperPieces, hn, hbody hn]
    · simp [Module.result, Module.wrapperPieces, hn]
  simp [Module.function, marksOf_laidOut, hresult]

/-- **All marks of a module are in its setup and in its body.** -/
theorem Generated.marksOf_pieces (h : Generated document name options m warnings) :
    marksOf m.pieces = m.setup.lines.flatMap marksOf ++ marksOf m.body := by
  simp [Module.pieces, m.marksOf_head, h.marksOf_function]

end Generated

/-! ## Marks of a setup -/

/-- Generated code calls a hook in a setup: a reactive state is declared with one, a cell with
another and its `update` renders again, and there is an effect if something runs on mount. -/
inductive Setup.Calls (setup : Setup) : Hook → Prop
  | reactive {name value} (h : Declaration.reactive name value ∈ setup.declarations) :
      Calls setup .state
  | forceRender {name value} (h : Declaration.cell name value ∈ setup.declarations) :
      Calls setup .state
  | cell {name value} (h : Declaration.cell name value ∈ setup.declarations) : Calls setup .ref
  | mount (h : setup.mounts ≠ []) : Calls setup .effect

/-- The initial value of a declared state, as a script. -/
def Declaration.value : Declaration → String
  | reactive _ value => value
  | cell _ value => value

lemma Setup.cells_eq_nil {setup : Setup} :
    setup.cells = [] ↔ ∀ name value, Declaration.cell name value ∉ setup.declarations := by
  rw [cells, List.filterMap_eq_nil_iff]
  constructor
  · intro h name value hc
    exact absurd (h _ hc) (by simp [Declaration.cellName?])
  · intro h declaration hd
    cases declaration with
    | reactive name value => rfl
    | cell name value => exact absurd hd (h name value)

/-- The marks of the lines that declare a state. -/
def Declaration.marks : Declaration → List Piece
  | reactive _ value => [.hook .state, .script value]
  | cell _ value => [.hook .ref, .script value]

/-- The marks of the lines of a setup, in their order. -/
lemma Setup.marksOf_lines (setup : Setup) :
    setup.lines.flatMap marksOf
      = setup.declarations.flatMap Declaration.marks
        ++ (if setup.cells = [] then [] else [.hook .state])
        ++ (if setup.mounts = [] then []
            else .hook .effect :: setup.mounts.map fun e => .script e.source) := by
  have hdeclared : (setup.declarations.flatMap Declaration.lines).flatMap marksOf
      = setup.declarations.flatMap Declaration.marks := by
    rw [List.flatMap_assoc]
    refine List.flatMap_congr fun declaration _ => ?_
    cases declaration <;> simp [Declaration.lines, Declaration.marks]
  have hupdate : (updateLines setup.cells).flatMap marksOf
      = if setup.cells = [] then [] else [.hook .state] := by
    unfold updateLines
    split_ifs <;> simp_all [List.flatMap_map]
  have hmount : (mountLines setup.mounts).flatMap marksOf
      = if setup.mounts = [] then []
        else .hook .effect :: setup.mounts.map fun e => .script e.source := by
    unfold mountLines
    split_ifs <;> simp_all [List.flatMap_map, ← List.map_eq_flatMap]
  rw [lines, List.flatMap_append, List.flatMap_append, hdeclared, hupdate, hmount]

lemma Setup.hook_mem_lines {setup : Setup} {hook : Hook} :
    Piece.hook hook ∈ setup.lines.flatMap marksOf ↔ setup.Calls hook := by
  rw [marksOf_lines, List.mem_append, List.mem_append, List.mem_flatMap]
  constructor
  · rintro ((⟨declaration, hd, hm⟩ | hm) | hm)
    · cases declaration with
      | reactive name value =>
          have hstate : hook = .state := by simpa [Declaration.marks] using hm
          rw [hstate]
          exact .reactive hd
      | cell name value =>
          have href : hook = .ref := by simpa [Declaration.marks] using hm
          rw [href]
          exact .cell hd
    · split_ifs at hm with hcells
      · exact absurd hm (by simp)
      · have hstate : hook = .state := by simpa using hm
        rw [cells_eq_nil] at hcells
        push Not at hcells
        obtain ⟨name, value, hc⟩ := hcells
        rw [hstate]
        exact .forceRender hc
    · split_ifs at hm with hmounts
      · exact absurd hm (by simp)
      · have heffect : hook = .effect := by simpa using hm
        rw [heffect]
        exact .mount hmounts
  · intro h
    cases h with
    | reactive h => exact Or.inl (Or.inl ⟨_, h, by simp [Declaration.marks]⟩)
    | forceRender h =>
        have hcells : setup.cells ≠ [] := fun hnil => cells_eq_nil.mp hnil _ _ h
        exact Or.inl (Or.inr (by simp [hcells]))
    | cell h => exact Or.inl (Or.inl ⟨_, h, by simp [Declaration.marks]⟩)
    | mount h => exact Or.inr (by simp [h])

/-- The scripts in a setup are the initial values and the statements on mount. -/
lemma Setup.script_mem_lines {setup : Setup} {source : String} :
    Piece.script source ∈ setup.lines.flatMap marksOf
      ↔ (∃ declaration ∈ setup.declarations, declaration.value = source)
        ∨ ∃ e ∈ setup.mounts, e.source = source := by
  have hvalue : ∀ declaration : Declaration,
      Piece.script source ∈ declaration.marks ↔ declaration.value = source := by
    intro declaration
    cases declaration <;> simp [Declaration.marks, Declaration.value, eq_comm]
  have hupdate : Piece.script source ∉ (if setup.cells = [] then [] else [Piece.hook .state]) := by
    split_ifs <;> simp
  have hmounts : Piece.script source ∈ (if setup.mounts = [] then []
      else .hook .effect :: setup.mounts.map fun e => Piece.script e.source)
      ↔ ∃ e ∈ setup.mounts, e.source = source := by
    split_ifs with hnil
    · simp [hnil]
    · simp
  simp only [marksOf_lines, List.mem_append, List.mem_flatMap, hvalue, hupdate, hmounts, or_false]

end Componentry
