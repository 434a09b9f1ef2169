import Componentry.Proofs.Component.ModuleText
import Componentry.Proofs.Component.Setters
import Componentry.Proofs.Script.Scanning
import Componentry.Proofs.Text.Runs

/-!
# The form of a state

A state is reactive if its value is computed or its setter is called; all others are cells.  Setters
are found by a search through the scripts of the author.  `Parts.Writes` says which scripts these
are, node by node, and `Parts.mentioned_setterName` that the search compares whole identifiers.  So
for names of ASCII identifier characters the form of a state can be read off the document
(`state_forms`), and with it all lines of the setup: one or two for every state, in the order of the
states, and `update` for the cells.
-/

namespace Componentry

open Text

/-! ## Setters as identifiers -/

namespace Text

lemma toNat_lt_of_isIdentifierChar {c : Char} (h : isIdentifierChar c = true) : c.toNat < 128 := by
  simp only [isIdentifierChar, isAsciiLetter, isAsciiDigit, Bool.or_eq_true, Bool.and_eq_true,
    decide_eq_true_eq, beq_iff_eq, Char.le_def, UInt32.le_iff_toNat_le] at h
  rcases h with ((((⟨-, h⟩ | ⟨-, h⟩) | ⟨-, h⟩) | rfl) | rfl)
  · exact Nat.lt_of_le_of_lt h (by decide)
  · exact Nat.lt_of_le_of_lt h (by decide)
  · exact Nat.lt_of_le_of_lt h (by decide)
  · decide
  · decide

/-- The capital form of an identifier character is one, too. -/
lemma isIdentifierChar_capital (c : Char) (hc : isIdentifierChar c = true) :
    ∀ d ∈ Capital.capital c, isIdentifierChar d = true := by
  have hall : ∀ code < 128, isIdentifierChar (Char.ofNat code) = true →
      (Capital.capital (Char.ofNat code)).all isIdentifierChar = true := by decide +kernel
  have hcapital := forall_ascii
    (p := fun c => isIdentifierChar c = true → (Capital.capital c).all isIdentifierChar = true) hall
    (toNat_lt_of_isIdentifierChar hc) hc
  exact List.all_eq_true.mp hcapital

/-- The character of a code that is not one of a surrogate has that code. -/
lemma toNat_ofNat {code : Nat} (h : code < 0xD800 ∨ 0xDFFF < code ∧ code < 0x110000) :
    (Char.ofNat code).toNat = code := by
  have hof : Char.ofNat code = Char.ofNatAux code h := dif_pos h
  exact congrArg Char.toNat hof

/-- The characters of a capital form are ASCII capitals or not ASCII at all, but for characters that
have no other form. -/
lemma mem_capital {c d : Char} (h : d ∈ Capital.capital c) :
    d = c ∨ (0x41 ≤ d.toNat ∧ d.toNat ≤ 0x5A) ∨ 0x80 ≤ d.toNat := by
  have hexpansions : ∀ entry ∈ Capital.expansions, ∀ code ∈ entry.2,
      (0x41 ≤ code ∧ code ≤ 0x5A ∨ 0x80 ≤ code) ∧ code < 0xD800 := by decide +kernel
  -- the capital forms of a run of letters are all on one side of the surrogates
  have hshifts : ∀ run ∈ Capital.shifts,
      0x41 ≤ (run.1 : Int) + run.2.2.2 ∧ (run.2.1 : Int) + run.2.2.2 ≤ 0x5A
      ∨ 0x80 ≤ (run.1 : Int) + run.2.2.2 ∧ (run.2.1 : Int) + run.2.2.2 < 0xD800
      ∨ 0xDFFF < (run.1 : Int) + run.2.2.2 ∧ (run.2.1 : Int) + run.2.2.2 < 0x110000 := by
    decide +kernel
  unfold Capital.capital at h
  split at h
  · obtain rfl := List.mem_singleton.mp h
    split_ifs with hsmall
    · simp only [Bool.and_eq_true, decide_eq_true_eq, Char.le_def, UInt32.le_iff_toNat_le] at hsmall
      have hlow : 0x61 ≤ c.toNat := hsmall.1
      have hhigh : c.toNat ≤ 0x7A := hsmall.2
      rw [toNat_ofNat (by omega)]
      omega
    · exact .inl rfl
  · split at h
    · rename_i entry hfound
      obtain ⟨code, hcode, rfl⟩ := List.mem_map.mp h
      have hentry := hexpansions entry (List.mem_of_find?_eq_some hfound) code hcode
      rw [toNat_ofNat (.inl hentry.2)]
      exact .inr hentry.1
    · split at h
      · rename_i run hfound
        obtain rfl := List.mem_singleton.mp h
        have hrun := hshifts run (List.mem_of_find?_eq_some hfound)
        have hin := List.find?_some hfound
        simp only [Capital.inRun, Bool.and_eq_true, decide_eq_true_eq] at hin
        rw [toNat_ofNat (by omega)]
        omega
      · exact .inl (List.mem_singleton.mp h)

end Text

lemma setterName_toList (name : String) :
    (setterName name).toList = 's' :: 'e' :: 't' :: Capital.capitalize name.toList := by
  simp [setterName]

/-- What holds of the characters of a name, and is kept by capital forms, holds of its setter. -/
lemma forall_mem_setterName {p : Char → Prop} (hset : p 's' ∧ p 'e' ∧ p 't')
    (hcapital : ∀ c, p c → ∀ d ∈ Capital.capital c, p d) {name : String}
    (h : ∀ c ∈ name.toList, p c) :
    ∀ d ∈ (setterName name).toList, p d := by
  rw [setterName_toList]
  refine List.forall_mem_cons.mpr ⟨hset.1, List.forall_mem_cons.mpr ⟨hset.2.1, ?_⟩⟩
  refine List.forall_mem_cons.mpr ⟨hset.2.2, ?_⟩
  cases hname : name.toList with
  | nil => simp [Capital.capitalize]
  | cons c rest =>
      rw [hname] at h
      intro d hd
      rcases List.mem_append.mp hd with hfirst | hrest
      · exact hcapital c (h c List.mem_cons_self) d hfirst
      · exact h d (List.mem_cons_of_mem _ hrest)

/-! ## Scripts of the author -/

/-- The author wrote a script at a node itself, and not at one inside of it.  A mount block stands
for its own expressions; nodes of other kinds in it are not rendered, and their scripts do not
count. -/
inductive Node.Writes : Node → String → Prop
  | condition {e children} : Writes (.ifBlock e children) e.source
  | items {e boundAs children} : Writes (.loop e boundAs children) e.source
  | promise {e key done failed loading doneAlias failedAlias} :
      Writes (.async e key done failed loading doneAlias failedAlias) e.source
  | key {promise e done failed loading doneAlias failedAlias} :
      Writes (.async promise (some e) done failed loading doneAlias failedAlias) e.source
  | discriminant {e cases} : Writes (.switch e cases) e.source
  | value {name properties children key e} (h : Property.named key (.expression e) ∈ properties) :
      Writes (.component name properties children) e.source
  | handler {name properties children key text} (h : Property.named key (.text text) ∈ properties)
      (hinline : Value.isInlineHandler text = true) :
      Writes (.component name properties children) text
  | spread {name properties children e} (h : Property.spread e ∈ properties) :
      Writes (.component name properties children) e.source
  | child {e} : Writes (.expression e) e.source
  | mount {children e} (h : Node.expression e ∈ children) : Writes (.onMount children) e.source

/-- The author wrote a script in the body, or as a statement on mount.  Below a mount block that is
nested in the body only its own expressions count: `visitedNodes` does not go into it. -/
inductive Parts.Writes (parts : Parts) : String → Prop
  | body {node source} (hnode : node ∈ visitedNodes parts.body) (h : node.Writes source) :
      Writes parts source
  | mount {e} (h : e ∈ parts.mounts) : Writes parts e.source

lemma Value.script?_eq_some {value : Value} {source : String} :
    value.script? = some source
      ↔ (∃ e, value = .expression e ∧ e.source = source)
        ∨ value = .text source ∧ Value.isInlineHandler source = true := by
  cases value with
  | text text =>
      simp only [script?, Option.ite_none_right_eq_some, Option.some.injEq, reduceCtorEq, false_and,
        exists_false, false_or, Value.text.injEq]
      constructor
      · rintro ⟨hinline, rfl⟩
        exact ⟨rfl, hinline⟩
      · rintro ⟨rfl, hinline⟩
        exact ⟨hinline, rfl⟩
  | _ => simp [script?]

/-- The analysis takes from a component its expressions, its inline handlers and its spread
values. -/
lemma Node.writes_component {name : String} {properties : List Property} {children : List Node}
    {source : String} :
    source ∈ properties.filterMap Property.script?
      ↔ (Node.component name properties children).Writes source := by
  rw [List.mem_filterMap]
  constructor
  · rintro ⟨property, hmem, hscript⟩
    cases property with
    | named key value =>
        rcases Value.script?_eq_some.mp hscript with ⟨e, rfl, rfl⟩ | ⟨rfl, hinline⟩
        · exact .value hmem
        · exact .handler hmem hinline
    | spread argument =>
        obtain rfl := Option.some.inj hscript
        exact .spread hmem
  · intro h
    cases h with
    | value hmem => exact ⟨_, hmem, rfl⟩
    | handler hmem hinline => exact ⟨_, hmem, Value.script?_eq_some.mpr (.inr ⟨rfl, hinline⟩)⟩
    | spread hmem => exact ⟨_, hmem, rfl⟩

/-- Most nodes hold one script. -/
lemma Node.mem_singleton_iff_writes {node : Node} {e : Expression} {source : String}
    (h : node.Writes e.source) (honly : ∀ other, node.Writes other → other = e.source) :
    source ∈ [e.source] ↔ node.Writes source := by
  rw [List.mem_singleton]
  refine ⟨?_, honly source⟩
  rintro rfl
  exact h

/-- **What the analysis takes from a node is what the author wrote there.** -/
theorem Node.mem_need_scripts {node : Node} {source : String} :
    source ∈ node.need.scripts ↔ node.Writes source := by
  cases node with
  | component name properties children => exact writes_component
  | onMount children =>
      simp only [need, mountUsage, List.mem_map, mountExpressions, List.mem_filterMap]
      constructor
      · rintro ⟨e, ⟨node, hmem, hexpression⟩, rfl⟩
        cases node with
        | expression found =>
            obtain rfl := Option.some.inj hexpression
            exact .mount hmem
        | _ => simp [asExpression?] at hexpression
      · intro h
        cases h with
        | mount hmem => exact ⟨_, ⟨_, hmem, rfl⟩, rfl⟩
  | async promise key done failed loading doneAlias failedAlias =>
      constructor
      · intro h
        rcases List.mem_cons.mp h with rfl | hkey
        · exact .promise
        · obtain ⟨e, rfl, rfl⟩ := Option.map_eq_some_iff.mp (Option.mem_toList.mp hkey)
          exact .key
      · intro h
        cases h with
        | promise => exact List.mem_cons_self
        | key => exact List.mem_cons_of_mem _ List.mem_cons_self
  | ifBlock condition children => exact mem_singleton_iff_writes .condition (by rintro _ ⟨⟩; rfl)
  | loop items boundAs children => exact mem_singleton_iff_writes .items (by rintro _ ⟨⟩; rfl)
  | switch value cases => exact mem_singleton_iff_writes .discriminant (by rintro _ ⟨⟩; rfl)
  | expression e => exact mem_singleton_iff_writes .child (by rintro _ ⟨⟩; rfl)
  | _ =>
      refine ⟨fun h => absurd h (by simp [need]), ?_⟩
      rintro ⟨⟩

/-- **The search for a setter compares whole identifiers**, in all scripts that the author wrote. -/
theorem Parts.mentioned_setterName {parts : Parts} {stateName : String}
    (h : ∀ c ∈ stateName.toList, isIdentifierChar c = true) :
    parts.mentioned (setterName stateName) = true
      ↔ ∃ source, parts.Writes source
        ∧ (setterName stateName).toList ∈ identifierRuns source.toList := by
  have hne : (setterName stateName).toList ≠ [] := by simp [setterName_toList]
  have hsetter : ∀ d ∈ (setterName stateName).toList, isIdentifierChar d = true :=
    forall_mem_setterName (by decide) isIdentifierChar_capital h
  have hstands : ∀ text : List Char, StandsIn (setterName stateName).toList text
      ↔ (setterName stateName).toList ∈ identifierRuns text := fun text =>
    standsIn_iff_mem_identifierRuns hsetter hne
  -- the semicolon behind a statement on mount ends no other run than the statement does
  have hmount : ∀ source : String,
      identifierRuns (source ++ ";").toList = identifierRuns source.toList := by
    intro source
    rw [String.toList_append]
    exact identifierRuns_append_singleton (by decide)
  simp only [mentioned_iff, hstands, searched, List.mem_append, List.mem_map, mem_scripts,
    Node.mem_need_scripts]
  constructor
  · rintro ⟨text, ⟨node, hnode, hwrites⟩ | ⟨e, he, rfl⟩, hrun⟩
    · exact ⟨text, .body hnode hwrites, hrun⟩
    · exact ⟨e.source, .mount he, hmount _ ▸ hrun⟩
  · rintro ⟨source, hwrites, hrun⟩
    cases hwrites with
    | body hnode hwrites => exact ⟨source, .inl ⟨_, hnode, hwrites⟩, hrun⟩
    | @mount e he => exact ⟨e.source ++ ";", .inr ⟨e, he, rfl⟩, (hmount _).symm ▸ hrun⟩

/-! ## The rule -/

/-- A state is reactive by the rule: its value is computed, or a script of the author has its setter
as a whole identifier. -/
def Parts.MakesReactive (parts : Parts) (state : StateDeclaration) (stateName : String) : Prop :=
  state.isHook = true
    ∨ ∃ source, parts.Writes source ∧ (setterName stateName).toList ∈ identifierRuns source.toList

/-- A declaration has the form that the rule gives to a state. -/
inductive Parts.Declares (parts : Parts) (state : StateDeclaration) : Declaration → Prop
  | reactive {stateName} (hname : state.name = some stateName)
      (hform : (∀ c ∈ stateName.toList, isIdentifierChar c = true) →
        parts.MakesReactive state stateName) :
      Declares parts state (.reactive stateName state.value.script)
  | cell {stateName} (hname : state.name = some stateName)
      (hform : (∀ c ∈ stateName.toList, isIdentifierChar c = true) →
        ¬ parts.MakesReactive state stateName) :
      Declares parts state (.cell stateName state.value.script)

lemma Parts.declares_ofState {parts : Parts} {state : StateDeclaration} {stateName : String}
    (hname : state.name = some stateName) :
    parts.Declares state (.ofState parts.mentioned stateName state) := by
  unfold Declaration.ofState
  split_ifs with hreactive
  · refine .reactive hname fun hchars => ?_
    rw [MakesReactive, ← mentioned_setterName hchars]
    exact Bool.or_eq_true _ _ ▸ hreactive
  · refine .cell hname fun hchars => ?_
    rw [MakesReactive, ← mentioned_setterName hchars]
    simpa using hreactive

/-- **The form of every state.**  For every module that is generated:

* the states are declared one by one and in order.  A state whose name has only ASCII identifier
  characters is declared with its setter exactly if its value is computed or some script in the body
  or on mount has the setter as a whole identifier, and as a cell otherwise.  Of a mount block
  nested in the body only its own expressions count as scripts;
* the setup has the lines of these declarations, the lines of `update` exactly if there is a cell,
  which write back exactly the cells in their order, and the effect on mount;
* these lines are written out between the head of the function and its result. -/
theorem state_forms {document : Document} {name : String} {options : Options} {m : Module}
    {warnings : List Warning} (h : generate document name options = .ok ⟨m, warnings⟩) :
    List.Forall₂ document.parts.value.Declares document.parts.value.states m.setup.declarations
    ∧ m.setup.lines.map textOf
      = m.setup.declarations.flatMap Declaration.texts
        ++ (if m.setup.cells = [] then [] else updateTexts m.setup.cells)
        ++ (Setup.mountLines document.parts.value.mounts).map textOf
    ∧ ∃ front back, m.text = front ++ ") \x7b\n"
        ++ String.join ((m.setup.lines.map textOf).map fun line => "  " ++ line ++ "\n")
        ++ "  return (\n" ++ back := by
  have hm : Generated document name options m warnings := generated_of_generate h
  refine ⟨?_, ?_, m.exists_text_eq⟩
  · refine (forall₂_of_declareStates hm.declared).imp ?_
    rintro state declaration ⟨stateName, hname, rfl⟩
    exact Parts.declares_ofState hname
  · rw [m.setup.map_textOf_lines, hm.mounts]

/-- A page with a count and a total.  A handler calls the setter of the count.  That of the total is
only a part of longer names. -/
def totalsDocument : Document where
  body := [.component "div" [] [
    .state ⟨some "count", .number "0", false, ⟨1, 6⟩⟩,
    .state ⟨some "total", .number "0", false, ⟨1, 25⟩⟩,
    .component "button" [.named "onClick" (.text "() => setCount(count + 1)")] [],
    .component "p" [] [.expression ⟨"resetTotal(setTotals)", .call⟩]]]

/-- The count is reactive, the total a cell. -/
theorem state_forms_totals : ∃ m warnings,
    generate totalsDocument "Totals" {} = .ok ⟨m, warnings⟩
    ∧ List.Forall₂ totalsDocument.parts.value.Declares totalsDocument.parts.value.states
        [.reactive "count" "0", .cell "total" "0"]
    ∧ m.setup.lines.map textOf
      = ["const [count, setCount] = useState(0);", "const _totalRef = useRef(0);",
        "let total = _totalRef.current;", "const [, _forceRender] = useState(0);",
        "function update() \x7b", "  _totalRef.current = total;", "  _forceRender((x) => x + 1);",
        "\x7d"] := by
  have h : generate totalsDocument "Totals" {} = .ok ⟨_, _⟩ := rfl
  obtain ⟨hforms, hlines, -⟩ := state_forms h
  exact ⟨_, _, h, hforms, hlines⟩

end Componentry
