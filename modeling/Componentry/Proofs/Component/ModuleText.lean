import Mathlib.Data.List.Basic
import Componentry.Proofs.Component.Generation

/-!
# The text of a module

A module is written out piece by piece.  This file says which text comes of it, in plain strings:
the lines that import names (`importLine`), the parameter of the component function
(`Signature.parameter`) and the lines of the setup (`Setup.map_textOf_lines`).

`Module.text_eq` puts them together.  It gives the text up to the brace of the component function in
full, so what a proof finds in the record of a module can be said of the text.
-/

namespace Componentry

/-! ## Rows of pieces -/

@[simp] lemma textOf_nil : textOf [] = "" := rfl

@[simp] lemma textOf_cons (piece : Piece) (pieces : List Piece) :
    textOf (piece :: pieces) = piece.text ++ textOf pieces := by
  rw [textOf, List.map_cons, String.join_cons, textOf]

@[simp] lemma textOf_append (pieces others : List Piece) :
    textOf (pieces ++ others) = textOf pieces ++ textOf others := by
  rw [textOf, List.map_append, String.join_append, textOf, textOf]

/-- Rows with a separator between them. -/
lemma textOf_intercalate (separator : String) (rows : List (List Piece)) :
    textOf ([Piece.code separator].intercalate rows)
      = separator.intercalate (rows.map textOf) := by
  induction rows with
  | nil => rfl
  | cons row rest ih =>
      cases rest with
      | nil => simp
      | cons next more =>
          rw [List.intercalate_cons_cons, textOf_append, textOf_append, ih]
          simp [Piece.text]

/-! ## Imports -/

/-- The line that imports names from a module; none if there are no names. -/
def importLine (names : List String) (source : String) : String :=
  if names = [] then ""
  else "import \x7b " ++ ", ".intercalate names ++ " \x7d from '" ++ source ++ "';\n"

lemma textOf_importPieces (names : List Piece) (source : String) :
    textOf (Module.importPieces names source) = importLine (names.map Piece.text) source := by
  cases names with
  | nil => rfl
  | cons name rest =>
      have hrows : ((name :: rest).map fun name => [name]).map textOf
          = (name :: rest).map Piece.text := by simp [Function.comp_def]
      rw [Module.importPieces, if_neg (by simp), importLine, if_neg (by simp), List.cons_append,
        textOf_cons, textOf_append, textOf_intercalate, hrows]
      simp [Piece.text, String.append_assoc]

/-! ## Parameters -/

/-- A parameter that makes props variables, and keeps the others as `props` if `rest` says so. -/
def propsPattern (names : List String) (rest : Bool) : String :=
  "\x7b " ++ ", ".intercalate names ++ (if rest then ", ...props \x7d" else " \x7d")

/-- The parameter of a component function. -/
def Signature.parameter : Signature → String
  | whole => "props"
  | named names rest => propsPattern names rest

lemma textOf_signature (signature : Signature) :
    textOf signature.pieces = signature.parameter := by
  cases signature with
  | whole => simp [Signature.pieces, Signature.parameter, Piece.text]
  | named names rest =>
      have hrows : (names.map fun name => [Piece.authored name]).map textOf = names := by
        simp [Function.comp_def, Piece.text]
      rw [Signature.pieces, List.cons_append, textOf_cons, textOf_append, textOf_intercalate, hrows]
      simp [Signature.parameter, propsPattern, Piece.text, String.append_assoc]

lemma propsPattern_ne_props (names : List String) (rest : Bool) :
    propsPattern names rest ≠ "props" := by
  intro h
  have hfirst := congrArg (fun text => text.toList.head?) h
  simp [propsPattern] at hfirst

/-- Whether the other props are kept can be seen. -/
lemma propsPattern_inj {names : List String} {rest other : Bool} :
    propsPattern names rest = propsPattern names other ↔ rest = other := by
  refine ⟨fun h => ?_, congrArg _⟩
  have hlength := congrArg String.length h
  simp only [propsPattern, String.length_append, Nat.add_left_cancel_iff] at hlength
  revert hlength
  cases rest <;> cases other <;> decide

/-! ## The whole text -/

/-- **The text of a module up to its component function**, and the text of this function. -/
theorem Module.text_eq (m : Module) :
    m.text = header ++ "\n// This file was compiled from a ." ++ m.options.sourceExtension
      ++ " component.\n\n"
      ++ importLine [m.options.jsxPragma] m.options.jsxModule
      ++ importLine (m.hooks.map Hook.name) m.options.hooksModule
      ++ importLine m.components m.options.registryModule
      ++ "\nexport default function " ++ m.name ++ "(" ++ m.signature.parameter ++ ") \x7b\n"
      ++ textOf m.function := by
  have hhooks := textOf_importPieces (m.hooks.map fun hook => .code hook.name) m.options.hooksModule
  have hcomponents := textOf_importPieces (m.components.map .authored) m.options.registryModule
  simp only [List.map_map, Function.comp_def, Piece.text, List.map_id'] at hhooks hcomponents
  simp [text, pieces, head, hhooks, hcomponents, textOf_importPieces, textOf_signature, Piece.text,
    String.append_assoc]

/-! ## Lines of a setup -/

/-- The lines that declare a state, as text. -/
def Declaration.texts : Declaration → List String
  | reactive name value =>
    ["const [" ++ name ++ ", " ++ setterName name ++ "] = useState(" ++ value ++ ");"]
  | cell name value =>
    ["const _" ++ name ++ "Ref = useRef(" ++ value ++ ");",
      "let " ++ name ++ " = _" ++ name ++ "Ref.current;"]

/-- The lines of the function that writes cells back and renders again, as text. -/
def updateTexts (cells : List String) : List String :=
  ["const [, _forceRender] = useState(0);", "function update() \x7b"]
    ++ cells.map (fun name => "  _" ++ name ++ "Ref.current = " ++ name ++ ";")
    ++ ["  _forceRender((x) => x + 1);", "\x7d"]

lemma Declaration.map_textOf_lines (declaration : Declaration) :
    declaration.lines.map textOf = declaration.texts := by
  cases declaration <;> simp [lines, texts, Piece.text, Hook.name, ← String.toList_inj]

lemma Setup.map_textOf_lines (setup : Setup) :
    setup.lines.map textOf
      = setup.declarations.flatMap Declaration.texts
        ++ (if setup.cells = [] then [] else updateTexts setup.cells)
        ++ (mountLines setup.mounts).map textOf := by
  have hdeclared : (setup.declarations.flatMap Declaration.lines).map textOf
      = setup.declarations.flatMap Declaration.texts := by
    rw [List.map_flatMap]
    exact List.flatMap_congr fun declaration _ => declaration.map_textOf_lines
  have hupdate : (updateLines setup.cells).map textOf
      = if setup.cells = [] then [] else updateTexts setup.cells := by
    unfold updateLines
    split_ifs with hnone hnil hnil
    · rfl
    · exact absurd (List.isEmpty_iff.mp hnone) hnil
    · exact absurd (List.isEmpty_iff.mpr hnil) hnone
    · simp [updateTexts, Piece.text, Hook.name, String.append_assoc]
  rw [lines, List.map_append, List.map_append, hdeclared, hupdate]

/-- Every line stands on a line of its own, with two blanks in front. -/
lemma textOf_laidOut (lines : List (List Piece)) :
    textOf (laidOut lines)
      = String.join ((lines.map textOf).map fun line => "  " ++ line ++ "\n") := by
  induction lines with
  | nil => rfl
  | cons line rest ih =>
      rw [List.map_cons, List.map_cons, String.join_cons, ← ih]
      simp [laidOut, Piece.text, String.append_assoc]

/-- The lines of the setup stand between the head of the function and its result. -/
lemma Module.exists_text_eq (m : Module) : ∃ front back,
    m.text = front ++ ") \x7b\n"
      ++ String.join ((m.setup.lines.map textOf).map fun line => "  " ++ line ++ "\n")
      ++ "  return (\n" ++ back := by
  have hresult : ∃ back, textOf m.result = "  return (\n" ++ back := by
    refine ⟨"    " ++ textOf (m.result.tail), ?_⟩
    simp [result, Piece.text, ← String.toList_inj]
  obtain ⟨back, hback⟩ := hresult
  have hsplit : ∀ front setup start rest last : String,
      front ++ (setup ++ (start ++ rest) ++ last) = front ++ setup ++ start ++ (rest ++ last) := by
    intro front setup start rest last
    simp only [String.append_assoc]
  rw [text_eq, function, textOf_append, textOf_append, textOf_laidOut, hback, hsplit]
  exact ⟨_, _, rfl⟩

end Componentry
