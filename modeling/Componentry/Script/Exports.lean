import Componentry.Script.Fault

/-!
# What a module exports

The names a module gives out, in the order it does so. No name may be given out twice. The default
export is counted apart: it can be declared as such, or be a name in a list that is called
`default`.
-/

namespace Componentry.Script

/-- A name that a module exports. -/
structure ExportedName where
  name : String
  offset : Nat
  /-- Whether it is declared by `export default`. -/
  declaredDefault : Bool
  /-- Whether it passes on what another module exports. -/
  passedOn : Bool
deriving DecidableEq, Repr

namespace ExportedName

/-- The first of the names that is followed by itself, where the one that repeats it comes earliest.
`seen` has the names already passed, the last one first. -/
def repeated? (seen : List ExportedName) : List ExportedName → Option ExportedName
  | [] => none
  | e :: rest =>
    match seen.find? (fun earlier => earlier.name == e.name) with
    | some earlier => some earlier
    | none => repeated? (e :: seen) rest

/-- The default exports: those of the module itself, then those it passes on. -/
def defaults (names : List ExportedName) : List ExportedName :=
  let all := names.filter fun e => e.declaredDefault || e.name == "default"
  all.filter (fun e => !e.passedOn) ++ all.filter (fun e => e.passedOn)

/-- The fault of a module that gives out a name, or a default, twice. -/
def fault? (names : List ExportedName) : Option Fault :=
  match repeated? [] (names.filter fun e => !e.declaredDefault) with
  | some e => some ⟨.repeatedExport e.name, e.offset⟩
  | none => match defaults names with
    | first :: _ :: _ => some ⟨.repeatedDefault, first.offset⟩
    | _ => none

end ExportedName

end Componentry.Script
