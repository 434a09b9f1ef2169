import Componentry.Script.Grammar.Declaration

/-!
# Imports and exports

The statements by which names pass between modules. What a module exports is put down as it is read;
whether a name is exported twice is a question for the whole module.
-/

namespace Componentry.Script

open Read

/-! ## Names across modules -/

/-- A name across modules: a word or a string. -/
structure ModuleName where
  text : String
  offset : Nat
  isString : Bool

/-- Reads a name across modules. -/
def moduleName : Read ModuleName := do
  let t ← token
  match t.kind with
  | .string value whole =>
    advance
    unless whole do report .exportedHalf t.start
    return ⟨value, t.start, true⟩
  | _ =>
    anyName
    return ⟨t.value, t.start, false⟩

/-- The address of a module. -/
def moduleAddress : Read Unit := do
  match ← kind with
  | .string _ _ => advance
  | _ => unexpected

/-- Reports the keys that are given a second time, at the place of the first. -/
def checkKeys (seen : List ModuleName) : List ModuleName → Read Unit
  | [] => return
  | key :: rest => do
    if let some earlier := seen.find? (fun k => k.text == key.text) then
      report (.repeatedKey key.text) earlier.offset
    checkKeys (key :: seen) rest

/-- A key and a string in what an importer asks of a module. -/
def importAttribute : Read ModuleName := do
  let t ← token
  match t.kind with
  | .string _ _ => advance
  | _ => anyName
  expect .colon
  moduleAddress
  let text := match t.kind with
    | .string value _ => value
    | _ => t.value
  return ⟨text, t.start, false⟩

/-- What an importer asks of a module, `with { … }`, if anything. -/
def importAttributes : Read Unit := do
  let t ← token
  if t.kind == .word "with" || (t.kind == .word "assert" && !t.onNewLine) then
    advanceName
    expect .openBrace
    let (keys, _) ← items .closeBrace importAttribute
    expect .closeBrace
    checkKeys [] keys

/-! ## Imports -/

/-- A name in the list of an import, with the name it is bound to, which is not a string. -/
def importedName : Read Unit := do
  if (← ahead (do advanceName; kind)) == .word "as" then
    let _ ← moduleName
    advance
  match ← kind with
  | .string _ _ => stop .missingName (← here)
  | _ =>
    let _ ← boundName

/-- The names in braces of an import. -/
def importedNames : Read Unit := do
  expect .openBrace
  let _ ← items .closeBrace importedName
  expect .closeBrace

/-- All of a module under one name, from the star on. -/
def importedWhole : Read Unit := do
  advance
  expectWord "as"
  let _ ← boundName

/-- Takes a word that says in which phase a module is imported. -/
def importPhase : Read Unit := do
  let next ← ahead (do advanceName; kind)
  match ← kind with
  | .word "source" => if next.isNameOrAwait then advance
  | .word "defer" => if next == .mark .star then advance
  | _ => return

/-- What is imported. The word `from` behind it may be left out. -/
def importClause : Read Unit := do
  match ← kind with
  | .mark .star => importedWhole
  | .mark .openBrace => importedNames
  | k =>
    if k.isNameOrAwait then
      let _ ← boundName
      if ← eat .comma then
        match ← kind with
        | .mark .star => importedWhole
        | .mark .openBrace => importedNames
        | _ => unexpected
  let _ ← eatWord "from"

/-- An import from its word on. -/
def importDeclaration : Read Unit := do
  advance
  importPhase
  match ← kind with
  | .string _ _ => pure ()
  | _ => importClause
  moduleAddress
  importAttributes
  endStatement

/-! ## Exports -/

/-- Puts down names that are exported. -/
def exportNames (names : List PlacedName) : Read Unit :=
  modify fun r =>
    { r with exports := r.exports ++ names.map fun name => ⟨name.text, name.offset, false, false⟩ }

/-- Puts down a default export that is declared at an offset. -/
def exportDefault (offset : Nat) : Read Unit :=
  modify fun r => { r with exports := r.exports ++ [⟨"default", offset, true, false⟩] }

/-- A name in the list of an export, and the name it goes by outside. -/
def exportedName : Read (ModuleName × ModuleName) := do
  let inner ← moduleName
  if ← eatWord "as" then return (inner, ← moduleName) else return (inner, inner)

/-- Checks that a name in the list of an export can be one of the module's own. -/
def checkOwnName (name : ModuleName) : Read Unit := do
  if name.isString then report .exportedString name.offset
  else if reservedWords.contains name.text || futureWords.contains name.text then
    report .exportedWord name.offset

/-- A list of names in braces and the module it comes from, if another one follows `from`. -/
def exportedNames : Read Unit := do
  expect .openBrace
  let (names, _) ← items .closeBrace exportedName
  expect .closeBrace
  let hasSource ← eatWord "from"
  let passedOn := hasSource && (← kind).isLiteral
  if passedOn then
    moduleAddress
    importAttributes
  else names.forM fun (inner, _) => checkOwnName inner
  endStatement
  modify fun r =>
    { r with
      exports := r.exports
        ++ names.map fun (_, outer) => ⟨outer.text, outer.offset, false, passedOn⟩ }

/-- Everything another module exports, from the star on. -/
def exportedWhole : Read Unit := do
  advance
  let name? ← if ← eatWord "as" then some <$> moduleName else pure none
  expectWord "from"
  moduleAddress
  importAttributes
  endStatement
  if let some name := name? then exportNames [⟨name.text, name.offset⟩]

/-- The default export, from its word on. -/
def defaultExport (g : Grammar) (decorated : List Nat) : Read Unit := do
  let start ← here
  advance
  match ← kind with
  | .word "class" =>
    let _ ← classRest g
  | .mark .atSign =>
    unless decorated.isEmpty do report .decoratorsTwice (← here)
    let _ ← decorators g
    let _ ← decoratedClass g
  | .word "function" =>
    strayDecorators decorated
    let _ ← functionDeclaration g false true
  | _ =>
    strayDecorators decorated
    if ← atAsyncFunction then
      advance
      let _ ← functionDeclaration g true true
    else
      let _ ← g.assignment
      endStatement
  exportDefault start

/-- A class that is exported behind decorators of its own. What stands in the place of the word
`class` is taken for it. -/
def decoratedExport (g : Grammar) (decorated : List Nat) : Read Unit := do
  unless decorated.isEmpty do report .decoratorsTwice (← here)
  let _ ← decorators g
  let all ← modifiers .elsewhere
  let name? ← classRest g
  allowOnly ["abstract", "declare"] all
  exportNames name?.toList

/-- An export from its word on. `decorated` has the offsets of decorators in front of it. -/
def exportDeclaration (g : Grammar) (decorated : List Nat) : Read Unit := do
  advance
  match ← kind with
  | .word "default" => defaultExport g decorated
  | .mark .star =>
    strayDecorators decorated
    exportedWhole
  | .mark .openBrace =>
    strayDecorators decorated
    exportedNames
  | .mark .atSign => decoratedExport g decorated
  | .word "class" =>
    let name? ← classRest g
    exportNames name?.toList
  | .word "var" | .word "let" | .word "const" =>
    strayDecorators decorated
    exportNames (← variableStatement g .list)
  | k =>
    strayDecorators decorated
    let isAsync ← atAsyncFunction
    if isAsync || k == .word "function" then
      if isAsync then advance
      let (name?, _) ← functionDeclaration g isAsync false
      exportNames name?.toList
    else unexpected

end Componentry.Script
