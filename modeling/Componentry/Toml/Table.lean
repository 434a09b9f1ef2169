/-!
# TOML: tables

Tables are built up line by line, and each line says where it goes. The format allows every table to
be defined in one place only, so a table remembers how it came about:

* `implied`: it was only needed on the way to another table, and may still be defined;
* `dotted`: keys with dots made it, and more such keys may add to it;
* `closed`: it was written out as a value, and nothing may add to it.

`Item.alter?` is the one way down into a table. It gives nothing if the way is blocked.
-/

namespace Componentry.Toml

/-- How a table came about. -/
structure Origin where
  implied : Bool := false
  dotted : Bool := false
  closed : Bool := false
deriving DecidableEq, Repr

/-- A value or a table. -/
inductive Item where
  | text (value : String)
  | boolean (value : Bool)
  | number (source : String)
  | date (source : String)
  | array (items : List Item)
  | table (origin : Origin) (entries : List (String × Item))
  /-- Tables that are added one by one. -/
  | tables (items : List (List (String × Item)))
deriving Repr, Inhabited

/-- Sets the entry with a key; a new one goes to the end. -/
def put (key : String) (item : Item) : List (String × Item) → List (String × Item)
  | [] => [(key, item)]
  | entry :: rest => if entry.1 = key then (key, item) :: rest else entry :: put key item rest

/-- Changes the table at the end of a path. Tables that are missing on the way are made. A way by
dots may not pass through tables that are defined elsewhere. -/
def alter? (dotted : Bool) (change : Origin → List (String × Item) → Option Item) :
    List String → Origin → List (String × Item) → Option Item
  | [], origin, entries => change origin entries
  | key :: rest, origin, entries => do
    let next ← match entries.lookup key with
      | none => alter? dotted change rest { implied := true, dotted } []
      | some (.table inner found) =>
        if inner.closed || (dotted && !inner.implied) then none
        else alter? dotted change rest inner found
      | some (.tables items) =>
        match dotted, items.getLast? with
        | false, some found =>
          match alter? dotted change rest {} found with
          | some (.table _ last) => some (.tables (items.dropLast ++ [last]))
          | _ => none
        | _, _ => none
      | some _ => none
    return .table origin (put key next entries)

/-- The parts of a key in front of the last one, and the last one. -/
def splitKey : List String → Option (List String × String)
  | [] => none
  | [name] => some ([], name)
  | part :: rest => (splitKey rest).map fun (parts, name) => (part :: parts, name)

/-- Adds a value under a key. -/
def addValue? (key : List String) (value : Item) (origin : Origin)
    (entries : List (String × Item)) :
    Option Item := do
  let (parts, name) ← splitKey key
  alter? true (fun inner found =>
    if inner.dotted == parts.isEmpty || (found.lookup name).isSome then none
    else some (.table inner (put name value found))) parts origin entries

/-- Defines a table. -/
def addTable? (key : List String) (entries : List (String × Item)) : Option Item := do
  let (parts, name) ← splitKey key
  alter? false (fun outer found =>
    match found.lookup name with
    | none => some (.table outer (put name (.table {} []) found))
    | some (.table inner more) =>
      if inner.implied && !inner.dotted && !inner.closed then
        some (.table outer (put name (.table {} more) found))
      else none
    | some _ => none) parts {} entries

/-- Adds a table to a list of tables. -/
def pushTable? (key : List String) (entries : List (String × Item)) : Option Item := do
  let (parts, name) ← splitKey key
  alter? false (fun outer found =>
    match found.lookup name with
    | none => some (.table outer (put name (.tables [[]]) found))
    | some (.tables items) => some (.table outer (put name (.tables (items ++ [[]])) found))
    | some _ => none) parts {} entries

/-- Adds a value under a key in the table that was defined last. -/
def addValueIn? (header key : List String) (value : Item) (entries : List (String × Item)) :
    Option Item :=
  alter? false (addValue? key value) header {} entries

end Componentry.Toml
