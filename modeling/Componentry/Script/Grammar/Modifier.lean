import Componentry.Script.Grammar.Basic

/-!
# Modifiers

Words such as `static` and `async` in front of a member, a parameter or a class. Such a word is a
modifier only if what follows can be modified; otherwise it is a name. The reader takes all words
that any dialect of the language has for this, and each place then says which of them it allows.
-/

namespace Componentry.Script

open Read

/-- The words that can be modifiers. -/
def modifierWords : List String :=
  ["abstract", "accessor", "async", "const", "declare", "default", "export", "in", "out",
    "override",
   "private", "protected", "public", "readonly", "static"]

/-- The modifiers that say who may use a member. -/
def accessWords : List String :=
  ["private", "protected", "public"]

/-- A modifier and its offset. -/
structure Modifier where
  word : String
  offset : Nat
deriving DecidableEq, Repr

/-- Whether a token can start the key of a member. -/
def startsKey : Token.Kind → Bool
  | .string _ _ | .number _ | .privateName | .mark .openBracket => true
  | k => k.isWordLike

/-- Whether a token can stand behind a modifier. -/
def followsModifier : Token.Kind → Bool
  | .mark .openBrace | .mark .star | .mark .ellipsis => true
  | k => startsKey k

/-- Whether the word `export` is a modifier in front of a token. -/
def followsExport (k : Token.Kind) : Bool :=
  k == .mark .atSign
    || (k != .mark .star && k != .mark .openBrace && k != .word "as" && followsModifier k)

/-- Whether the word `default` is a modifier in front of a token. -/
def followsDefault : Token.Kind → Bool
  | .word "class" | .word "function" | .word "interface" | .mark .atSign => true
  | _ => false

/-- Where modifiers stand: `const` can be one only in a class, and there `static` in front of a
brace is none. -/
inductive ModifierPlace where
  | classMember
  | elsewhere
deriving DecidableEq, Repr

/-- Takes a modifier if there is one. -/
def modifier? (place : ModifierPlace) (seen : List Modifier) : Read (Option Modifier) := do
  let t ← token
  match t.kind with
  | .word w =>
    unless modifierWords.contains w do return none
    if w == "const" && place == .elsewhere then return none
    let next ← ahead (do advanceName; token)
    if w == "static" then
      if seen.any (fun m => m.word == "static") then return none
      if place == .classMember && next.kind == .mark .openBrace then return none
    let follows := match w with
      | "static" => followsModifier next.kind
      | "export" => followsExport next.kind
      | "default" => followsDefault next.kind
      | _ => followsModifier next.kind && !next.onNewLine
    unless follows do return none
    advance
    return some ⟨w, t.start⟩
  | _ => return none

/-- The modifiers that a modifier may not stand behind. -/
def mustPrecede : String → List String
  | "private" => ["override", "static", "accessor", "readonly", "async"]
  | "protected" | "public" => ["override", "static", "accessor", "readonly", "async", "abstract"]
  | "static" => ["readonly", "async", "accessor", "override"]
  | "override" => ["readonly", "accessor", "async"]
  | "abstract" => ["override", "accessor"]
  | _ => []

/-- What is wrong with a modifier behind others: none may be repeated, only one may say who has
access, and some have to stand in front. -/
def modifierFault? (seen : List String) (word : String) : Option Fault.Cause :=
  if seen.contains word then some (.repeatedModifier word)
  else if accessWords.contains word && seen.any accessWords.contains then some .repeatedAccess
  else ((mustPrecede word).find? seen.contains).map (.lateModifier word)

/-- Takes all modifiers. -/
def modifiersFrom (place : ModifierPlace) : Nat → List Modifier → Read (List Modifier)
  | 0, seen => return seen
  | steps + 1, seen => do
    match ← modifier? place seen with
    | none => return seen
    | some m =>
      if let some cause := modifierFault? (seen.map Modifier.word) m.word then report cause m.offset
      modifiersFrom place steps (seen ++ [m])

/-- The modifiers at a place. -/
def modifiers (place : ModifierPlace) : Read (List Modifier) := do
  modifiersFrom place (← steps) []

/-- Whether a word is among the modifiers. -/
def hasModifier (word : String) (all : List Modifier) : Bool :=
  all.any fun m => m.word == word

/-- Reports the modifiers that are not allowed. -/
def allowOnly (words : List String) (all : List Modifier) : Read Unit :=
  all.forM fun m => unless words.contains m.word do report (.misplacedModifier m.word) m.offset

/-- The two forms of an accessor. -/
inductive AccessorForm where
  | getter
  | setter
deriving DecidableEq, Repr

/-- Takes `get` or `set` in front of a key. -/
def accessorForm? : Read (Option AccessorForm) := do
  let form ← match ← kind with
    | .word "get" => pure AccessorForm.getter
    | .word "set" => pure AccessorForm.setter
    | _ => return none
  let next ← ahead (do advanceName; kind)
  unless startsKey next do return none
  advance
  return some form

/-- Checks how many parameters an accessor has. -/
def checkAccessor (form : AccessorForm) (parameters : ParameterList) : Read Unit :=
  match form with
  | .getter => do
    if parameters.count > 0 || parameters.hasRest then report .getterParameters parameters.offset
  | .setter => do
    if parameters.hasRest then report .setterRest parameters.offset
    else if parameters.count != 1 then report .setterParameters parameters.offset

end Componentry.Script
