import Mathlib.Data.List.Nodup
import Mathlib.Data.List.Pairwise
import Componentry.Proofs.Component.StateForms

/-!
# Identifiers that a setup declares

The lines of a setup declare the names of states, setters, cells, `_forceRender` and `update`.  All
of them but the first come from the generator, and nothing compares them with each other or with the
names of states.  `declaredBy` reads off a line which identifiers it declares, and
`setup_identifiers_nodup_iff` says exactly when some identifier is declared twice: if a state has
the name of a setter, if two setters have one name, or if a state is called `update` and there is a
cell.  Names with a low line in front clash with nothing.
-/

namespace Componentry

open Text

/-! ## Characters -/

namespace Text

/-- A character that ends a name in a declaration. -/
def isSeparator (c : Char) : Bool := c == ',' || c == ']' || c == ' '

lemma isSeparator_of_isNamePart {c : Char} (h : isNamePart c = true) : isSeparator c = false := by
  have hall : ∀ code < 128, isNamePart (Char.ofNat code) = true →
      isSeparator (Char.ofNat code) = false := by
    decide +kernel
  by_cases hascii : c.toNat < 128
  · exact forall_ascii (p := fun c => isNamePart c = true → isSeparator c = false) hall hascii h
  · rw [isSeparator, Bool.or_eq_false_iff, Bool.or_eq_false_iff, beq_eq_false_iff_ne,
      beq_eq_false_iff_ne, beq_eq_false_iff_ne]
    refine ⟨⟨?_, ?_⟩, ?_⟩ <;> rintro rfl <;> exact hascii (by decide)

/-- No capital form has a separator in it. -/
lemma isSeparator_capital (c : Char) (hc : isSeparator c = false) :
    ∀ d ∈ Capital.capital c, isSeparator d = false := by
  intro d hd
  rcases mem_capital hd with rfl | hcode
  · exact hc
  · simp only [isSeparator, Bool.or_eq_false_iff, beq_eq_false_iff_ne]
    refine ⟨⟨?_, ?_⟩, ?_⟩ <;> rintro rfl <;> revert hcode <;> decide

end Text

/-! ## Reading lines -/

/-- The names in a pattern: between commas, behind blanks; some may be left out. -/
def patternNames (pattern : List Char) : List String :=
  let names := (pattern.splitOnP (· == ',')).map fun name => name.dropWhile (· == ' ')
  (names.filter (· ≠ [])).map String.ofList

/-- The identifiers that a line declares, from how it begins: a pattern in brackets, a variable up
to the next blank, or a function up to its parameters.  All other lines declare nothing. -/
def declaredBy (line : String) : List String :=
  match after? "const [".toList line.toList with
  | some rest => patternNames (rest.takeWhile (· != ']'))
  | none =>
    match (after? "const ".toList line.toList).or (after? "let ".toList line.toList) with
    | some rest => [String.ofList (rest.takeWhile (· != ' '))]
    | none => ((after? "function ".toList line.toList).map fun rest =>
        String.ofList (rest.takeWhile (· != '('))).toList

/-- A name that can be told apart in a declaration. -/
structure Separate (name : String) : Prop where
  nonempty : name.toList ≠ []
  plain : ∀ c ∈ name.toList, isSeparator c = false

section Reading

variable {name other line : String}

lemma Separate.of_isScriptName (h : isScriptName name.toList = true) : Separate name := by
  cases hname : name.toList with
  | nil => simp [hname, isScriptName] at h
  | cons c rest =>
      rw [hname, isScriptName, Bool.and_eq_true, List.all_eq_true] at h
      refine ⟨by simp [hname], ?_⟩
      rw [hname]
      exact List.forall_mem_cons.mpr ⟨isSeparator_of_isNamePart (isNamePart_of_isNameStart h.1),
        fun d hd => isSeparator_of_isNamePart (h.2 d hd)⟩

lemma Separate.setterName (h : Separate name) : Separate (setterName name) where
  nonempty := by simp [setterName_toList]
  plain := forall_mem_setterName (by decide) isSeparator_capital h.plain

lemma Separate.ne_of_mem (h : Separate name) (separator : Char)
    (hs : isSeparator separator = true) :
    ∀ c ∈ name.toList, c ≠ separator := by
  rintro c hc rfl
  rw [h.plain c hc] at hs
  exact Bool.noConfusion hs

lemma takeWhile_append_cons {front behind : List Char} {c : Char} (h : ∀ d ∈ front, d ≠ c) :
    (front ++ c :: behind).takeWhile (· != c) = front := by
  rw [List.takeWhile_append_of_pos fun d hd => by simp [h d hd],
    List.takeWhile_cons_of_neg (by simp), List.append_nil]

lemma Separate.dropWhile (h : Separate name) : name.toList.dropWhile (· == ' ') = name.toList := by
  have hblank := h.ne_of_mem ' ' rfl
  cases hname : name.toList with
  | nil => rfl
  | cons c rest =>
      exact List.dropWhile_cons_of_neg (by simpa [hname] using hblank c (by simp [hname]))

lemma Separate.splitOnP (h : Separate name) : name.toList.splitOnP (· == ',') = [name.toList] :=
  List.splitOnP_eq_singleton fun c hc => beq_eq_false_iff_ne.mpr (h.ne_of_mem ',' rfl c hc)

/-- Two names with a comma and a blank between them. -/
lemma patternNames_pair (h : Separate name) (hother : Separate other) :
    patternNames (name.toList ++ ',' :: ' ' :: other.toList) = [name, other] := by
  have hsecond : (' ' :: other.toList).splitOnP (· == ',') = [' ' :: other.toList] := by
    refine List.splitOnP_eq_singleton fun c hc => ?_
    rcases List.mem_cons.mp hc with rfl | hc
    · rfl
    · exact beq_eq_false_iff_ne.mpr (hother.ne_of_mem ',' rfl c hc)
  rw [patternNames, List.splitOnP_append_cons _ _ rfl, h.splitOnP, hsecond]
  simp [h.dropWhile, hother.dropWhile, h.nonempty, hother.nonempty]

lemma declaredBy_pattern (h : Separate name) (hother : Separate other) (behind : String)
    (hline : line.toList = "const [".toList
      ++ ((name.toList ++ ',' :: ' ' :: other.toList) ++ ']' :: behind.toList)) :
    declaredBy line = [name, other] := by
  have hplain : ∀ c ∈ name.toList ++ ',' :: ' ' :: other.toList, c ≠ ']' := by
    intro c hc
    simp only [List.mem_append, List.mem_cons] at hc
    rcases hc with hc | rfl | rfl | hc
    · exact h.ne_of_mem _ rfl c hc
    · decide
    · decide
    · exact hother.ne_of_mem _ rfl c hc
  rw [declaredBy, after?_eq_some.mpr hline]
  exact (congrArg patternNames (takeWhile_append_cons hplain)).trans (patternNames_pair h hother)

lemma declaredBy_cell (h : Separate name) (behind : String)
    (hline : line.toList
      = "const ".toList ++ (("_" ++ name ++ "Ref").toList ++ ' ' :: behind.toList)) :
    declaredBy line = ["_" ++ name ++ "Ref"] := by
  have hno : after? "const [".toList line.toList = none := by
    simp [hline, after?]
  have hplain : ∀ c ∈ ("_" ++ name ++ "Ref").toList, c ≠ ' ' := by
    intro c hc
    simp only [String.toList_append, List.mem_append] at hc
    rcases hc with (hc | hc) | hc
    · rintro rfl
      exact absurd hc (by decide)
    · exact h.ne_of_mem _ rfl c hc
    · rintro rfl
      exact absurd hc (by decide)
  rw [declaredBy, hno, after?_eq_some.mpr hline]
  simp only [Option.some_or, takeWhile_append_cons hplain, String.ofList_toList]

lemma declaredBy_let (h : Separate name) (behind : String)
    (hline : line.toList = "let ".toList ++ (name.toList ++ ' ' :: behind.toList)) :
    declaredBy line = [name] := by
  have hno : after? "const [".toList line.toList = none
      ∧ after? "const ".toList line.toList = none := by
    simp [hline, after?]
  rw [declaredBy, hno.1, hno.2, after?_eq_some.mpr hline]
  simp only [Option.none_or, takeWhile_append_cons (h.ne_of_mem ' ' rfl), String.ofList_toList]

end Reading

/-! ## Identifiers of a setup -/

/-- The name of a declared state. -/
def Declaration.name : Declaration → String
  | reactive name _ => name
  | cell name _ => name

/-- The identifiers of a declared state. -/
def Declaration.identifiers : Declaration → List String
  | reactive name _ => [name, setterName name]
  | cell name _ => ["_" ++ name ++ "Ref", name]

/-- The identifiers of a setup. -/
def Setup.identifiers (setup : Setup) : List String :=
  setup.declarations.flatMap Declaration.identifiers
    ++ if setup.cells = [] then [] else ["_forceRender", "update"]

lemma Declaration.flatMap_declaredBy_texts {declaration : Declaration}
    (h : Separate declaration.name) :
    declaration.texts.flatMap declaredBy = declaration.identifiers := by
  cases declaration with
  | reactive name value =>
      have hline : declaredBy
          ("const [" ++ name ++ ", " ++ setterName name ++ "] = useState(" ++ value ++ ");")
            = [name, setterName name] :=
        declaredBy_pattern h h.setterName (" = useState(" ++ value ++ ");") (by simp)
      simp [texts, identifiers, hline]
  | cell name value =>
      have hcell : declaredBy ("const _" ++ name ++ "Ref = useRef(" ++ value ++ ");")
          = ["_" ++ name ++ "Ref"] :=
        declaredBy_cell h ("= useRef(" ++ value ++ ");") (by simp)
      have hlet : declaredBy ("let " ++ name ++ " = _" ++ name ++ "Ref.current;") = [name] :=
        declaredBy_let h ("= _" ++ name ++ "Ref.current;") (by simp)
      simp [texts, identifiers, hcell, hlet]

lemma flatMap_declaredBy_updateTexts (cells : List String) :
    (updateTexts cells).flatMap declaredBy = ["_forceRender", "update"] := by
  have hback : (cells.map fun name =>
      "  _" ++ name ++ "Ref.current = " ++ name ++ ";").flatMap declaredBy = [] := by
    simp [declaredBy, after?]
  rw [updateTexts, List.flatMap_append, List.flatMap_append, hback]
  decide

lemma Setup.flatMap_declaredBy_mountLines (mounts : List Expression) :
    ((mountLines mounts).map textOf).flatMap declaredBy = [] := by
  unfold mountLines
  split_ifs
  · rfl
  · simp [textOf, Piece.text, declaredBy, after?, Hook.name]

/-- **What the lines of a setup declare.** -/
theorem Setup.flatMap_declaredBy_lines {setup : Setup}
    (h : ∀ declaration ∈ setup.declarations, Separate declaration.name) :
    (setup.lines.map textOf).flatMap declaredBy = setup.identifiers := by
  have hdeclared : (setup.declarations.flatMap Declaration.texts).flatMap declaredBy
      = setup.declarations.flatMap Declaration.identifiers := by
    rw [List.flatMap_assoc]
    exact List.flatMap_congr fun declaration hd =>
      declaration.flatMap_declaredBy_texts (h declaration hd)
  rw [map_textOf_lines, List.flatMap_append, List.flatMap_append, hdeclared,
    flatMap_declaredBy_mountLines, List.append_nil, identifiers]
  split_ifs
  · rfl
  · rw [flatMap_declaredBy_updateTexts]

/-! ## Clashes -/

/-- The identifiers of a setup do not clash. -/
structure Setup.ClashFree (setup : Setup) : Prop where
  /-- No state has the name of a setter. -/
  state_ne_setter : ∀ name value, Declaration.reactive name value ∈ setup.declarations →
    ∀ declaration ∈ setup.declarations, declaration.name ≠ setterName name
  /-- No two states have one setter. -/
  setter_inj : ∀ name value other otherValue, Declaration.reactive name value ∈ setup.declarations →
    Declaration.reactive other otherValue ∈ setup.declarations →
    setterName name = setterName other →
    name = other
  /-- If there is a cell, no state is called like the function that writes cells back. -/
  state_ne_update : setup.cells ≠ [] →
    ∀ declaration ∈ setup.declarations, declaration.name ≠ "update"

lemma setterName_ne (name : String) : setterName name ≠ name := by
  intro h
  have hlength := congrArg (fun text => text.toList.length) h
  simp only [setterName_toList, List.length_cons] at hlength
  cases hname : name.toList with
  | nil => simp [hname] at hlength
  | cons c rest =>
      simp only [hname, Capital.capitalize, List.length_append, List.length_cons] at hlength
      omega

lemma cellVariable_inj {name other : String} (h : "_" ++ name ++ "Ref" = "_" ++ other ++ "Ref") :
    name = other := by
  simpa using h

lemma cellVariable_ne_forceRender (name : String) : "_" ++ name ++ "Ref" ≠ "_forceRender" := by
  intro h
  have hlast := congrArg (fun text => text.toList.reverse.head?) h
  simp at hlast

/-- An identifier is the name of a state, a setter or a variable of a cell. -/
lemma Declaration.mem_identifiers {declaration : Declaration} {identifier : String} :
    identifier ∈ declaration.identifiers
      ↔ identifier = declaration.name
        ∨ (∃ name value, declaration = .reactive name value ∧ identifier = setterName name)
        ∨ ∃ name value, declaration = .cell name value ∧ identifier = "_" ++ name ++ "Ref" := by
  cases declaration with
  | reactive name value => simp [identifiers, Declaration.name]
  | cell name value => simp [identifiers, Declaration.name, or_comm]

/-- A name begins with no low line, so it is none of the generated ones that do. -/
lemma ne_lowLine_append {name : String} (h : name.toList.head? ≠ some '_') (rest : String) :
    name ≠ "_" ++ rest := by
  rintro rfl
  exact h (by simp)

lemma ne_cellVariable {name : String} (h : name.toList.head? ≠ some '_') (other : String) :
    name ≠ "_" ++ other ++ "Ref" := by
  rw [String.append_assoc]
  exact ne_lowLine_append h _

lemma head?_setterName_ne (name : String) : (setterName name).toList.head? ≠ some '_' := by
  simp [setterName_toList]

/-- Two states without clashes share no identifier. -/
lemma Setup.ClashFree.disjoint {setup : Setup} (h : setup.ClashFree)
    (hline : ∀ declaration ∈ setup.declarations, declaration.name.toList.head? ≠ some '_')
    {first second : Declaration} (hfirst : first ∈ setup.declarations)
    (hsecond : second ∈ setup.declarations) (hne : first.name ≠ second.name) :
    first.identifiers.Disjoint second.identifiers := by
  intro identifier hin hin'
  rw [Declaration.mem_identifiers] at hin hin'
  rcases hin with rfl | ⟨name, value, rfl, rfl⟩ | ⟨name, value, rfl, rfl⟩
  · rcases hin' with heq | ⟨other, value', rfl, heq⟩ | ⟨other, value', rfl, heq⟩
    · exact hne heq
    · exact h.state_ne_setter other value' hsecond first hfirst heq
    · exact ne_cellVariable (hline first hfirst) other heq
  · rcases hin' with heq | ⟨other, value', rfl, heq⟩ | ⟨other, value', rfl, heq⟩
    · exact h.state_ne_setter name value hfirst second hsecond heq.symm
    · exact hne (h.setter_inj name value other value' hfirst hsecond heq)
    · exact ne_cellVariable (head?_setterName_ne name) other heq
  · rcases hin' with heq | ⟨other, value', rfl, heq⟩ | ⟨other, value', rfl, heq⟩
    · exact ne_cellVariable (hline second hsecond) name heq.symm
    · exact ne_cellVariable (head?_setterName_ne other) name heq.symm
    · exact hne (cellVariable_inj heq)

/-- The function that writes cells back, and what it calls, share no identifier with a state. -/
lemma Setup.ClashFree.disjoint_update {setup : Setup} (h : setup.ClashFree)
    (hline : ∀ declaration ∈ setup.declarations, declaration.name.toList.head? ≠ some '_')
    (hcells : setup.cells ≠ []) {declaration : Declaration}
    (hd : declaration ∈ setup.declarations) :
    declaration.identifiers.Disjoint ["_forceRender", "update"] := by
  intro identifier hin hin'
  rw [Declaration.mem_identifiers] at hin
  simp only [List.mem_cons, List.not_mem_nil, or_false] at hin'
  rcases hin with rfl | ⟨name, value, rfl, rfl⟩ | ⟨name, value, rfl, rfl⟩
  · rcases hin' with heq | heq
    · exact ne_lowLine_append (hline _ hd) "forceRender" heq
    · exact h.state_ne_update hcells _ hd heq
  · rcases hin' with heq | heq
    · exact ne_lowLine_append (head?_setterName_ne name) "forceRender" heq
    · have hhead := congrArg (fun text => text.toList.head?) heq
      simp [setterName_toList] at hhead
  · rcases hin' with heq | heq
    · exact cellVariable_ne_forceRender name heq
    · have hhead := congrArg (fun text => text.toList.head?) heq
      simp at hhead

lemma Declaration.nodup_identifiers {declaration : Declaration}
    (h : declaration.name.toList.head? ≠ some '_') : declaration.identifiers.Nodup := by
  cases declaration with
  | reactive name value => simpa [identifiers] using (setterName_ne name).symm
  | cell name value =>
      have hne : "_" ++ name ++ "Ref" ≠ name := (ne_cellVariable h name).symm
      simpa [identifiers] using hne

/-- **Identifiers are declared once exactly if they do not clash.** -/
theorem Setup.nodup_identifiers_iff {setup : Setup}
    (hline : ∀ declaration ∈ setup.declarations, declaration.name.toList.head? ≠ some '_')
    (hdistinct : (setup.declarations.map Declaration.name).Nodup) :
    setup.identifiers.Nodup ↔ setup.ClashFree := by
  constructor
  · intro h
    obtain ⟨hstates, -, hupdate⟩ := List.nodup_append.mp h
    obtain ⟨-, hpairs⟩ := List.nodup_flatMap.mp hstates
    have hsymm : Std.Symm (Function.onFun List.Disjoint Declaration.identifiers) :=
      ⟨fun _ _ hdisjoint _ hin hin' => hdisjoint hin' hin⟩
    refine ⟨?_, ?_, ?_⟩
    · intro name value hreactive declaration hd heq
      have hne : Declaration.reactive name value ≠ declaration := by
        rintro rfl
        exact setterName_ne name heq.symm
      exact hpairs.forall hreactive hd hne
        (Declaration.mem_identifiers.mpr (.inr (.inl ⟨name, value, rfl, rfl⟩)))
        (Declaration.mem_identifiers.mpr (.inl heq.symm))
    · intro name value other otherValue hreactive hother heq
      by_contra hnames
      have hne : Declaration.reactive name value ≠ .reactive other otherValue := by simp [hnames]
      exact hpairs.forall hreactive hother hne
        (Declaration.mem_identifiers.mpr (.inr (.inl ⟨name, value, rfl, rfl⟩)))
        (Declaration.mem_identifiers.mpr (.inr (.inl ⟨other, otherValue, rfl, heq⟩)))
    · intro hcells declaration hd heq
      refine hupdate declaration.name ?_ "update" ?_ heq
      · exact List.mem_flatMap.mpr ⟨declaration, hd, Declaration.mem_identifiers.mpr (.inl rfl)⟩
      · simp [hcells]
  · intro h
    have hstates : (setup.declarations.flatMap Declaration.identifiers).Nodup := by
      refine List.nodup_flatMap.mpr ⟨fun declaration hd => ?_, ?_⟩
      · exact declaration.nodup_identifiers (hline declaration hd)
      · exact (List.pairwise_map.mp hdistinct).imp_of_mem fun hfirst hsecond hne =>
          h.disjoint hline hfirst hsecond hne
    rw [identifiers]
    split_ifs with hcells
    · rwa [List.append_nil]
    · refine List.nodup_append'.mpr ⟨hstates, by decide, ?_⟩
      intro identifier hin hupdate
      obtain ⟨declaration, hd, hmem⟩ := List.mem_flatMap.mp hin
      exact h.disjoint_update hline hcells hd hmem hupdate

/-! ## Generated setups -/

lemma Declaration.name_ofState (mentioned : String → Bool) (stateName : String)
    (state : StateDeclaration) :
    (ofState mentioned stateName state).name = stateName := by
  unfold ofState
  split_ifs <;> rfl

/-- The states are declared by their names, in order. -/
lemma Generated.map_name_declarations {document : Document} {name : String} {options : Options}
    {m : Module} {warnings : List Warning} (h : Generated document name options m warnings) :
    m.setup.declarations.map Declaration.name
      = document.parts.value.states.filterMap StateDeclaration.name := by
  have hall := forall₂_of_declareStates h.declared
  generalize document.parts.value.states = states at hall ⊢
  generalize m.setup.declarations = declarations at hall ⊢
  induction hall with
  | nil => rfl
  | cons hfirst _ ih =>
      obtain ⟨stateName, hname, rfl⟩ := hfirst
      rw [List.map_cons, ih, List.filterMap_cons_some hname, Declaration.name_ofState]

/-- **When a setup declares an identifier twice.**  For every module that is generated, from states
with different names that are identifiers without a low line in front:

* its setup declares exactly the names of states, the setters of reactive states, a variable for
  each cell, and `_forceRender` and `update` if there is a cell;
* all of these are different *exactly if* no state has the name of a setter, no two states have one
  setter, and no state is called `update` while there is a cell. -/
theorem setup_identifiers_nodup_iff {document : Document} {name : String} {options : Options}
    {m : Module} {warnings : List Warning} (h : generate document name options = .ok ⟨m, warnings⟩)
    (hscript : ∀ stateName ∈ document.parts.value.states.filterMap StateDeclaration.name,
      isScriptName stateName.toList = true ∧ stateName.toList.head? ≠ some '_')
    (hdistinct : (document.parts.value.states.filterMap StateDeclaration.name).Nodup) :
    (m.setup.lines.map textOf).flatMap declaredBy = m.setup.identifiers
    ∧ (((m.setup.lines.map textOf).flatMap declaredBy).Nodup ↔ m.setup.ClashFree) := by
  have hm : Generated document name options m warnings := generated_of_generate h
  rw [← hm.map_name_declarations] at hscript hdistinct
  have hname : ∀ declaration ∈ m.setup.declarations, isScriptName declaration.name.toList = true
      ∧ declaration.name.toList.head? ≠ some '_' := fun declaration hd =>
    hscript declaration.name (List.mem_map_of_mem hd)
  have hlines : (m.setup.lines.map textOf).flatMap declaredBy = m.setup.identifiers :=
    Setup.flatMap_declaredBy_lines fun declaration hd => .of_isScriptName (hname declaration hd).1
  refine ⟨hlines, ?_⟩
  rw [hlines]
  exact Setup.nodup_identifiers_iff (fun declaration hd => (hname declaration hd).2) hdistinct

/-- A reactive count and a total that is a cell clash with nothing. -/
theorem setup_identifiers_totals : ∃ m warnings,
    generate totalsDocument "Totals" {} = .ok ⟨m, warnings⟩
    ∧ (m.setup.lines.map textOf).flatMap declaredBy
      = ["count", "setCount", "_totalRef", "total", "_forceRender", "update"]
    ∧ m.setup.ClashFree := by
  have h : generate totalsDocument "Totals" {} = .ok ⟨_, _⟩ := rfl
  obtain ⟨hlines, hiff⟩ := setup_identifiers_nodup_iff h (by decide) (by decide)
  refine ⟨_, _, h, hlines, hiff.mp ?_⟩
  rw [hlines]
  decide

/-- **A state that is declared twice.**  The name of this state is an identifier like any other.  It
is also that of the function that writes the cell back. -/
theorem update_declared_twice : ∃ m warnings,
    generate ⟨[.component "div" [] [.state ⟨some "update", .number "0", false, ⟨1, 6⟩⟩,
      .component "p" [] [.expression ⟨"update", .identifier "update"⟩]]]⟩ "Page" {}
        = .ok ⟨m, warnings⟩
    ∧ isScriptName "update".toList = true
    ∧ "let update = _updateRef.current;" ∈ m.setup.lines.map textOf
    ∧ "function update() \x7b" ∈ m.setup.lines.map textOf
    ∧ ¬ ((m.setup.lines.map textOf).flatMap declaredBy).Nodup :=
  ⟨_, _, rfl, by decide, by decide, by decide, by decide⟩

end Componentry
