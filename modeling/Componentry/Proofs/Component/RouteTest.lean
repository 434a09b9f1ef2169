import Componentry.Component.Body
import Componentry.Proofs.Route.Regex
import Componentry.Proofs.Route.Segments
import Componentry.Proofs.Text.Layout
import Componentry.Proofs.Text.Mention
import Componentry.Proofs.Text.Quoted

/-!
# The code of a route says what its pattern says

A route is written as code: a comparison with its path, or a regular expression and an object with
the groups of a match.  Here that code is read again, by readers that take texts, literals,
expressions and objects as a script does.

**Literals.**  The text of a path goes through two escapings, one for the expression and one for the
literal around it.  Both are undone (`read_regex`, `readLiteral_quote`), and the items of the
expression fall together into the segments of the path (`segmentsOfItems_segments`).

**Objects.**  The key of a field is quoted unless it is a name.  What counts as a name when it is
written and what does when it is read differ, though: `readField_fieldCode` says that a field is
read exactly if its name is an `IsReadableKey`, and `readObject_fieldsCode` that the object is read
exactly if all are.
-/

namespace Componentry

open Route Script Text

/-! ## Readers -/

/-- The text of the literal behind some code, and what follows the literal. -/
def literalBehind? (front : String) (code : List Char) : Option (String × List Char) := do
  let (value, rest) ← readLiteral (← after? front.toList code)
  return (String.ofList value, rest)

/-- Reads the key of a field: a literal, or a name as far as it goes. -/
def readKey (code : List Char) : Option (String × List Char) :=
  match code with
  | '"' :: _ => literalBehind? "" code
  | _ =>
    let name := code.takeWhile isNamePart
    if isScriptName name then some (String.ofList name, code.dropWhile isNamePart) else none

/-- Reads the element of an array at a number written out. -/
def readElement (variableName : String) (code : List Char) : Option (Nat × List Char) := do
  let inside ← after? (variableName ++ "[").toList code
  let rest ← after? [']'] (inside.dropWhile Char.isDigit)
  return (Nat.ofDigitChars 10 (inside.takeWhile Char.isDigit) 0, rest)

/-- Reads a field that takes its value out of an array: its key, and the number of the element. -/
def readField (variableName : String) (code : List Char) : Option ((String × Nat) × List Char) := do
  let (key, behindKey) ← readKey code
  let (group, rest) ← readElement variableName (← after? [':', ' '] behindKey)
  return ((key, group), rest)

/-- Reads fields between commas up to the closing brace.  The first argument bounds their number. -/
def readFields (variableName : String) : Nat → List Char → Option (List (String × Nat) × List Char)
  | 0, _ => none
  | steps + 1, code => do
    let (field, rest) ← readField variableName code
    match after? [',', ' '] rest with
    | some next =>
      let (more, rest) ← readFields variableName steps next
      return (field :: more, rest)
    | none => return ([field], ← after? [' ', '}'] rest)

/-- Reads the fields of an object, from behind its opening brace.  Every key is read as written,
also `__proto__`.  A script treats that one apart: it sets the prototype of the object instead of a
field, and two of them in one object are an early error. -/
def readObject (variableName : String) (code : List Char) :
    Option (List (String × Nat) × List Char) :=
  readFields variableName code.length code

/-- The segments that items of a regular expression fall together into; groups have no names. -/
def segmentsOfItems : List Item → List Segment
  | [] => []
  | .char c :: rest => pushChar c (segmentsOfItems rest)
  | .part :: rest => .parameter "" :: segmentsOfItems rest

/-- A segment without the name of its parameter. -/
def Route.Segment.unnamed : Segment → Segment
  | .literal text => .literal text
  | .parameter _ => .parameter ""

/-! ## Segments -/

/-- Characters in front of segments that begin with no text are a text of their own. -/
lemma segmentsOfItems_chars {text : List Char} {items : List Item} (hne : text ≠ [])
    (hnext : ∀ next, (segmentsOfItems items).head? ≠ some (.literal next)) :
    segmentsOfItems (text.map .char ++ items)
      = .literal (String.ofList text) :: segmentsOfItems items := by
  induction text with
  | nil => exact absurd rfl hne
  | cons c text ih =>
      rw [List.map_cons, List.cons_append, segmentsOfItems]
      cases text with
      | nil =>
          rw [List.map_nil, List.nil_append]
          unfold pushChar
          split
          · rename_i next rest heq
            exact absurd (by rw [heq]; rfl) (hnext next)
          · rfl
      | cons d text =>
          rw [ih (by simp)]
          simp [pushChar]

/-- **The items of segments fall together into them**, if the texts among them are not empty and
    stand apart. -/
lemma segmentsOfItems_segments {segments : List Segment} (h : WellFormed segments) :
    segmentsOfItems (segments.flatMap Segment.items) = segments.map Segment.unnamed := by
  induction segments with
  | nil => rfl
  | cons segment behind ih =>
      obtain ⟨hfits, hbehind⟩ := h
      rw [List.flatMap_cons, List.map_cons]
      cases segment with
      | literal text =>
          obtain ⟨hne, hnext, -, -⟩ := hfits
          rw [Segment.items, segmentsOfItems_chars (mt String.toList_eq_nil_iff.mp hne), ih hbehind,
            String.ofList_toList]
          · rfl
          · intro next hhead
            rw [ih hbehind, List.head?_map] at hhead
            obtain ⟨first, hfirst, hunnamed⟩ := Option.map_eq_some_iff.mp hhead
            cases first with
            | literal other => exact hnext other hfirst
            | parameter name => exact absurd hunnamed (by simp [Segment.unnamed])
      | parameter name =>
          rw [Segment.items, List.singleton_append, segmentsOfItems, ih hbehind]
          rfl

/-! ## Code -/

/-- The text of pieces as characters. -/
def codeOf (pieces : List Piece) : List Char := (textOf pieces).toList

lemma codeOf_eq_flatMap (pieces : List Piece) :
    codeOf pieces = pieces.flatMap fun piece => piece.text.toList := by
  rw [codeOf, textOf, String.toList_join, List.flatMap_map]

@[simp] lemma codeOf_nil : codeOf [] = [] := by rw [codeOf_eq_flatMap, List.flatMap_nil]

@[simp] lemma codeOf_cons (piece : Piece) (pieces : List Piece) :
    codeOf (piece :: pieces) = piece.text.toList ++ codeOf pieces := by
  rw [codeOf_eq_flatMap, codeOf_eq_flatMap, List.flatMap_cons]

@[simp] lemma codeOf_append (pieces others : List Piece) :
    codeOf (pieces ++ others) = codeOf pieces ++ codeOf others := by
  rw [codeOf_eq_flatMap, codeOf_eq_flatMap, codeOf_eq_flatMap, List.flatMap_append]

lemma writesNothing_iff (pieces : List Piece) :
    writesNothing pieces = true ↔ codeOf pieces = [] := by
  rw [writesNothing, codeOf_eq_flatMap, List.all_eq_true, List.flatMap_eq_nil_iff]
  simp [String.isEmpty_iff]

lemma after?_append (front rest : List Char) : after? front (front ++ rest) = some rest :=
  after?_eq_some.mpr rfl

/-- A literal behind some code is read as its text. -/
lemma literalBehind?_quoted (front text : String) (rest : List Char) :
    literalBehind? front (front.toList ++ ((quoted text).toList ++ rest)) = some (text, rest) := by
  simp [literalBehind?, after?_append, quoted, readLiteral_quote]

/-! ## Keys -/

/-- The key of a field is read as its name.  What is quoted always is; what stands for itself has to
be a name of a script.  So `__proto__` is readable, although it does not make a field in a script
(see `readObject`). -/
def IsReadableKey (name : String) : Prop :=
  isName name.toList = true → isScriptName name.toList = true

instance (name : String) : Decidable (IsReadableKey name) :=
  inferInstanceAs (Decidable (_ → _))

/-- No character of a name is a colon or a quote. -/
lemma isName_forall {name : List Char} (h : isName name = true) :
    ∀ c ∈ name, c ≠ ':' ∧ c ≠ '"' := by
  have hcolon : (isAlphabetic ':' || isAlphanumeric ':') = false := by decide +kernel
  have hquote : (isAlphabetic '"' || isAlphanumeric '"') = false := by decide +kernel
  rw [Bool.or_eq_false_iff] at hcolon hquote
  cases name with
  | nil => simp
  | cons first name =>
      simp only [isName, Bool.and_eq_true, List.all_eq_true, Bool.or_eq_true, beq_iff_eq] at h
      intro c hc
      rcases List.mem_cons.mp hc with rfl | hc
      · constructor <;> rintro rfl <;> simp [hcolon, hquote] at h
      · have hpart := h.2 c hc
        constructor <;> rintro rfl <;> simp [hcolon, hquote] at hpart

/-- A quoted key is read as its name. -/
lemma readKey_quoted (name : String) (rest : List Char) :
    readKey ((quoted name).toList ++ rest) = some (name, rest) := by
  have hliteral := literalBehind?_quoted "" name rest
  have hcode : (quoted name).toList ++ rest
      = '"' :: (name.toList.flatMap escaped ++ '"' :: rest) := by
    simp [quoted, quote]
  rw [String.toList_empty, List.nil_append] at hliteral
  rw [← hliteral, hcode]
  rfl

/-- A key that is not quoted is read as a name as far as it goes. -/
lemma readKey_unquoted {name : List Char} (h : '"' ∉ name) (rest : List Char) :
    readKey (name ++ ':' :: rest)
      = if isScriptName ((name ++ ':' :: rest).takeWhile isNamePart)
        then some (String.ofList ((name ++ ':' :: rest).takeWhile isNamePart),
          (name ++ ':' :: rest).dropWhile isNamePart)
        else none := by
  unfold readKey
  split
  · rename_i inside hcode
    cases name with
    | nil => exact absurd hcode (by simp)
    | cons c name => exact absurd (List.cons.inj hcode).1 fun hc => h (hc ▸ List.mem_cons_self)
  · rfl

/-- No name goes on beyond a colon. -/
lemma takeWhile_isNamePart_colon {name : List Char} (h : ∀ c ∈ name, isNamePart c = true)
    (rest : List Char) :
    (name ++ ':' :: rest).takeWhile isNamePart = name
      ∧ (name ++ ':' :: rest).dropWhile isNamePart = ':' :: rest := by
  have hcolon : ¬ isNamePart ':' = true := by decide +kernel
  rw [List.takeWhile_append_of_pos h, List.dropWhile_append_of_pos h,
    List.takeWhile_cons_of_neg hcolon, List.dropWhile_cons_of_neg hcolon, List.append_nil]
  exact ⟨rfl, rfl⟩

/-- A name of a script in front of a colon is read as itself. -/
lemma readKey_name {name : List Char} (h : isScriptName name = true) (rest : List Char) :
    readKey (name ++ ':' :: rest) = some (String.ofList name, ':' :: rest) := by
  have hpart : ∀ c ∈ name, isNamePart c = true := isScriptName_forall h
  have hquote : '"' ∉ name := fun hmem => absurd (hpart _ hmem) (by decide +kernel)
  obtain ⟨htake, hdrop⟩ := takeWhile_isNamePart_colon hpart rest
  rw [readKey_unquoted hquote, htake, hdrop, if_pos h]

/-- **A name that is none of a script is not read as a key**: reading stops inside of it, in front
    of a character that is no colon, or refuses the whole. -/
lemma readKey_other {name : List Char} (hname : isName name = true)
    (hscript : ¬ isScriptName name = true) {rest : List Char} {key : String} {behind : List Char}
    (h : readKey (name ++ ':' :: rest) = some (key, behind)) : behind.head? ≠ some ':' := by
  have hquote : '"' ∉ name := fun hmem => (isName_forall hname _ hmem).2 rfl
  rw [readKey_unquoted hquote] at h
  cases hstop : name.dropWhile isNamePart with
  | nil =>
      have hpart : ∀ c ∈ name, isNamePart c = true := List.dropWhile_eq_nil_iff.mp hstop
      rw [(takeWhile_isNamePart_colon hpart rest).1, if_neg hscript] at h
      exact absurd h (by simp)
  | cons d inside =>
      have hmem : d ∈ name := List.dropWhile_subset _ (hstop ▸ List.mem_cons_self)
      rw [List.dropWhile_append, hstop] at h
      split_ifs at h with hread hempty
      · exact absurd hempty (by simp)
      · obtain ⟨-, rfl⟩ := Prod.mk.inj (Option.some.inj h)
        simpa using (isName_forall hname d hmem).1

/-! ## Objects -/

/-- The code of the element that a field takes. -/
def elementCode (variableName : String) (group : Nat) : List Char :=
  (variableName ++ "[" ++ toString group ++ "]").toList

/-- An element of an array is read as its number. -/
lemma readElement_elementCode (variableName : String) (group : Nat) (rest : List Char) :
    readElement variableName (elementCode variableName group ++ rest) = some (group, rest) := by
  have hdigits : ∀ c ∈ Nat.toDigits 10 group, c.isDigit = true :=
    fun c hc => Nat.isDigit_of_mem_toDigits (by decide) (by decide) hc
  have hcode : elementCode variableName group ++ rest
      = (variableName ++ "[").toList ++ (Nat.toDigits 10 group ++ ([']'] ++ rest)) := by
    simp [elementCode]
  have htake : ([']'] ++ rest).takeWhile Char.isDigit = [] := rfl
  have hdrop : ([']'] ++ rest).dropWhile Char.isDigit = [']'] ++ rest := rfl
  rw [readElement, hcode, after?_append]
  simp only [Option.bind_eq_bind, Option.bind_some]
  rw [List.takeWhile_append_of_pos hdigits, List.dropWhile_append_of_pos hdigits, htake, hdrop,
    after?_append, List.append_nil, Nat.ofDigitChars_ten_toDigits]
  rfl

/-- The code of a field. -/
def fieldCode (variableName name : String) (group : Nat) : List Char :=
  codeOf [fieldKey name, .code (": " ++ variableName ++ "[" ++ toString group ++ "]")]

lemma fieldCode_eq (variableName name : String) (group : Nat) :
    fieldCode variableName name group
      = (fieldKey name).text.toList ++ ':' :: ' ' :: elementCode variableName group := by
  simp [fieldCode, elementCode, Piece.text]

/-- A field is read once its key is. -/
lemma readField_of_readKey {variableName key : String} {code : List Char} {group : Nat}
    {rest : List Char}
    (h : readKey code = some (key, [':', ' '] ++ (elementCode variableName group ++ rest))) :
    readField variableName code = some ((key, group), rest) := by
  rw [readField, h]
  simp only [Option.bind_eq_bind, Option.bind_some]
  rw [after?_append, Option.bind_some, readElement_elementCode]
  rfl

/-- **A field is read exactly if its key can be read**, as its name and its group. -/
lemma readField_fieldCode (variableName name : String) (group : Nat) (rest : List Char) :
    readField variableName (fieldCode variableName name group ++ rest)
      = if IsReadableKey name then some ((name, group), rest) else none := by
  rw [fieldCode_eq, List.append_assoc, List.cons_append, List.cons_append]
  by_cases hname : isName name.toList = true
  · have htext : (fieldKey name).text = name := by rw [fieldKey, if_pos hname, Piece.text]
    rw [htext]
    by_cases hscript : isScriptName name.toList = true
    · have hkey : IsReadableKey name := fun _ => hscript
      rw [if_pos hkey]
      refine readField_of_readKey ?_
      rw [readKey_name hscript, String.ofList_toList]
      rfl
    · have hkey : ¬ IsReadableKey name := fun hkey => hscript (hkey hname)
      rw [if_neg hkey, readField]
      cases hread : readKey (name.toList ++ ':' :: ' '
        :: (elementCode variableName group ++ rest)) with
      | none => rfl
      | some found =>
          obtain ⟨key, behind⟩ := found
          have hbehind : after? [':', ' '] behind = none := by
            cases hafter : after? [':', ' '] behind with
            | none => rfl
            | some rest =>
                rw [after?_eq_some] at hafter
                exact absurd (by rw [hafter]; rfl) (readKey_other hname hscript hread)
          simp [hbehind]
  · have htext : (fieldKey name).text = quoted name := by rw [fieldKey, if_neg hname, Piece.text]
    have hkey : IsReadableKey name := fun h => absurd h hname
    rw [htext, if_pos hkey]
    refine readField_of_readKey ?_
    rw [readKey_quoted]
    rfl

/-- The code of fields in a row. -/
def fieldsCode (variableName : String) (group : Nat) (names : List String) : List Char :=
  codeOf ([Piece.code ", "].intercalate (fieldPieces variableName group names))

lemma fieldsCode_singleton (variableName name : String) (group : Nat) :
    fieldsCode variableName group [name] = fieldCode variableName name group := by
  simp [fieldsCode, fieldCode, fieldPieces, List.intercalate]

lemma fieldsCode_cons (variableName name next : String) (group : Nat) (names : List String) :
    fieldsCode variableName group (name :: next :: names)
      = fieldCode variableName name group
        ++ ([',', ' '] ++ fieldsCode variableName (group + 1) (next :: names)) := by
  simp [fieldsCode, fieldCode, fieldPieces, List.intercalate, Piece.text]

/-- Fields up to the closing brace are read exactly if their keys can be read. -/
lemma readFields_fieldsCode (variableName : String) {names : List String} (hne : names ≠ [])
    (group : Nat) {steps : Nat} (hsteps : names.length ≤ steps) (rest : List Char) :
    readFields variableName steps (fieldsCode variableName group names ++ ([' ', '}'] ++ rest))
      = if ∀ name ∈ names, IsReadableKey name then some (names.zipIdx group, rest) else none := by
  induction names generalizing group steps with
  | nil => exact absurd rfl hne
  | cons name names ih =>
      obtain ⟨steps, rfl⟩ : ∃ fewer, steps = fewer + 1 := by
        refine ⟨steps - 1, ?_⟩
        rw [List.length_cons] at hsteps
        omega
      rw [List.length_cons] at hsteps
      cases names with
      | nil =>
          rw [fieldsCode_singleton, readFields, readField_fieldCode]
          by_cases hkey : IsReadableKey name
          · simp [hkey, after?]
          · simp [hkey]
      | cons next names =>
          rw [fieldsCode_cons, List.append_assoc, List.append_assoc, readFields,
            readField_fieldCode]
          by_cases hkey : IsReadableKey name
          · rw [if_pos hkey, Option.bind_eq_bind, Option.bind_some]
            dsimp only
            rw [after?_append]
            dsimp only
            rw [ih (by simp) (group + 1) (by omega)]
            by_cases hrest : ∀ name ∈ next :: names, IsReadableKey name
            · rw [if_pos hrest, if_pos (List.forall_mem_cons.mpr ⟨hkey, hrest⟩)]
              rfl
            · rw [if_neg hrest, if_neg (fun h => hrest (List.forall_mem_cons.mp h).2)]
              rfl
          · rw [if_neg hkey, if_neg (fun h => hkey (List.forall_mem_cons.mp h).1)]
            rfl

lemma length_le_fieldsCode (variableName : String) (group : Nat) (names : List String) :
    names.length ≤ (fieldsCode variableName group names).length := by
  induction names generalizing group with
  | nil => exact Nat.zero_le _
  | cons name names ih =>
      have hfield : 0 < (fieldCode variableName name group).length := by
        rw [fieldCode_eq, List.length_append, List.length_cons]
        omega
      cases names with
      | nil =>
          rw [fieldsCode_singleton]
          exact hfield
      | cons next names =>
          have := ih (group + 1)
          rw [fieldsCode_cons, List.length_append, List.length_append, List.length_cons]
          omega

/-- **The object of a match is read exactly if all keys can be read**, as the names with the groups
    from the first on. -/
lemma readObject_fieldsCode (variableName : String) {names : List String} (hne : names ≠ [])
    (rest : List Char) :
    readObject variableName (fieldsCode variableName 1 names ++ ([' ', '}'] ++ rest))
      = if ∀ name ∈ names, IsReadableKey name then some (names.zipIdx 1, rest) else none := by
  refine readFields_fieldsCode variableName hne 1 ?_ rest
  rw [List.length_append]
  exact Nat.le_add_right_of_le (length_le_fieldsCode variableName 1 names)

/-! ## Routes -/

lemma isStatic_iff {pattern : Pattern} : pattern.isStatic = true ↔ pattern.parameterNames = [] := by
  rw [Pattern.isStatic, Pattern.parameterNames, List.all_eq_true, List.filterMap_eq_nil_iff]
  simp only [Segment.isLiteral, Option.isNone_iff_eq_none]

/-- The code of a route without parameters compares with its path. -/
lemma codeOf_static {path : String} (h : (Pattern.parse path).parameterNames = []) (index : Nat)
    (boundAs : Option String) (content : List Piece) :
    codeOf (routePieces index path boundAs content)
      = "if (_path === ".toList ++ ((quoted path).toList ++ (") \x7b\n".toList
        ++ (codeOf (emptyBinding boundAs) ++ codeOf (returnOf content ++ [.code "\n\x7d"])))) := by
  rw [routePieces, if_pos (isStatic_iff.mpr h)]
  simp [Piece.text]

/-- The code of a route with parameters matches its regular expression. -/
lemma codeOf_matched {path : String} (h : (Pattern.parse path).parameterNames ≠ []) (index : Nat)
    (boundAs : Option String) (content : List Piece) :
    codeOf (routePieces index path boundAs content)
      = ("const " ++ ("_match" ++ toString index) ++ " = new RegExp(").toList
        ++ ((quoted (Pattern.parse path).regex).toList
        ++ ((").exec(_path);\nif (" ++ ("_match" ++ toString index) ++ ") \x7b\n").toList
        ++ (codeOf
            (matchBinding ("_match" ++ toString index) (Pattern.parse path).parameterNames boundAs)
          ++ codeOf (returnOf content ++ [.code "\n\x7d"])))) := by
  rw [routePieces, if_neg (mt isStatic_iff.mp h)]
  simp [Piece.text]

/-- **The code of a route tests what its pattern says.**  Without parameters it compares with a
    literal that is the path.  With parameters it matches an expression that falls into the segments
    of the path, names apart; and the object it binds has a field for each parameter, in order, with
    the group of the same number.  That object can be read exactly if each name that counts as one
    is a name of a script. -/
theorem route_code_tests_pattern (index : Nat) (path : String) (boundAs : Option String)
    (content : List Piece) :
    let code := codeOf (routePieces index path boundAs content)
    let pattern := Pattern.parse path
    let variableName := "_match" ++ toString index
    (pattern.parameterNames = [] →
      ∃ inside, literalBehind? "if (_path === " code = some (path, ") \x7b\n".toList ++ inside)
        ∧ ∀ name ∈ boundAs, ∃ rest, inside = ("const " ++ name ++ " = \x7b\x7d;\n").toList ++ rest)
    ∧ (pattern.parameterNames ≠ [] →
      ∃ source inside, literalBehind? ("const " ++ variableName ++ " = new RegExp(") code
          = some (source, (").exec(_path);\nif (" ++ variableName ++ ") \x7b\n").toList ++ inside)
        ∧ (readRegex source).map segmentsOfItems = some (pattern.segments.map Segment.unnamed)
        ∧ ∀ name ∈ boundAs,
          ∃ fields rest, inside = ("const " ++ name ++ " = \x7b ").toList ++ fields
          ∧ readObject variableName fields
            = if ∀ parameter ∈ pattern.parameterNames, IsReadableKey parameter
              then some (pattern.parameterNames.zipIdx 1, ";\n".toList ++ rest) else none) := by
  intro code pattern variableName
  let ending := codeOf (returnOf content ++ [.code "\n\x7d"])
  constructor
  · intro hstatic
    refine ⟨codeOf (emptyBinding boundAs) ++ ending, ?_, ?_⟩
    · rw [show code = _ from codeOf_static hstatic index boundAs content]
      exact literalBehind?_quoted _ _ _
    · intro name hname
      rw [Option.mem_def.mp hname]
      exact ⟨ending, by simp [emptyBinding, Piece.text]⟩
  · intro hparameters
    refine ⟨pattern.regex,
      codeOf (matchBinding variableName pattern.parameterNames boundAs) ++ ending, ?_, ?_, ?_⟩
    · rw [show code = _ from codeOf_matched hparameters index boundAs content]
      exact literalBehind?_quoted _ _ _
    · have hsegments : WellFormed pattern.segments := wellFormed_segments path.toList
      rw [read_regex, Option.map_some, segmentsOfItems_segments hsegments]
    · intro name hname
      rw [Option.mem_def.mp hname]
      refine ⟨fieldsCode variableName 1 pattern.parameterNames
        ++ ([' ', '\x7d'] ++ (";\n".toList ++ ending)),
        ending, ?_, ?_⟩
      · simp [matchBinding, fieldsCode, Piece.text]
      · exact readObject_fieldsCode variableName hparameters _

/-- A path with a text that looks like a group behind a quote and a backslash, and two parameters,
one of which needs a key in quotes. -/
def guardedPath : String := "/\"\\([^/]+)/:user/:x-y"

/-- The segments of the path come back, and both fields do. -/
theorem route_code_tests_guardedPath :
    ∃ source inside fields rest,
      literalBehind? "const _match3 = new RegExp("
        (codeOf (routePieces 3 guardedPath (some "p") []))
        = some (source, ").exec(_path);\nif (_match3) \x7b\n".toList ++ inside)
      ∧ (readRegex source).map segmentsOfItems
        = some [.literal "/\"\\([^/]+)/", .parameter "", .literal "/", .parameter ""]
      ∧ inside = "const p = \x7b ".toList ++ fields
      ∧ readObject "_match3" fields = some ([("user", 1), ("x-y", 2)], ";\n".toList ++ rest) := by
  have hsegments : (Pattern.parse guardedPath).segments
      = [.literal "/\"\\([^/]+)/", .parameter "user", .literal "/", .parameter "x-y"] := by
    decide +kernel
  have hnames : (Pattern.parse guardedPath).parameterNames = ["user", "x-y"] := by
    rw [Pattern.parameterNames, hsegments]
    rfl
  have hkeys : ∀ name ∈ ["user", "x-y"], IsReadableKey name := by decide +kernel
  obtain ⟨source, inside, hcode, hsource, hobject⟩ :=
    (route_code_tests_pattern 3 guardedPath (some "p") []).2 (by rw [hnames]; simp)
  obtain ⟨fields, rest, hinside, hfields⟩ := hobject "p" rfl
  rw [hnames, if_pos hkeys] at hfields
  rw [hsegments] at hsource
  exact ⟨source, inside, fields, rest, hcode, hsource, hinside, hfields⟩

/-- A number in a raised position counts as part of a name but not as part of one in a script: the
    object is refused, while it would be read with its key in quotes. -/
theorem route_object_refused :
    textOf (routePieces 0 "/area/:m²" (some "p") [])
      = "const _match0 = new RegExp(\"^/area/([^/]+)$\").exec(_path);\nif (_match0) \x7b\n"
        ++ "const p = \x7b m²: _match0[1] \x7d;\nreturn (<></>);\n\x7d"
    ∧ readObject "_match0" "m²: _match0[1] \x7d;\n".toList = none
    ∧ readObject "_match0" "\"m²\": _match0[1] \x7d;\n".toList
      = some ([("m²", 1)], ";\n".toList) := by
  refine ⟨?_, ?_, ?_⟩ <;> decide +kernel

end Componentry
