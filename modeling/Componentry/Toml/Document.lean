import Componentry.Toml.Lexical
import Componentry.Toml.Scalar
import Componentry.Toml.Table

/-!
# TOML: documents

`Toml.parse?` reads a whole document into the entries of its top-level table. A malformed document
has no value, and it does not matter how it is malformed.
-/

namespace Componentry.Toml

open Text

/-! ## Values -/

/-- Whether a character may stand in a number, a date or a word. -/
def isAtomChar (c : Char) : Bool := isKeyChar c || c == '+' || c == '.' || c == ':'

/-- The value that a number, a date or a word is. -/
def atom? (text : List Char) : Option Item :=
  if text == "true".toList then some (.boolean true)
  else if text == "false".toList then some (.boolean false)
  else if isInteger text || isDecimal text then some (.number (String.ofList text))
  else if isDate text then some (.date (String.ofList text))
  else none

/-- A number, a date or a word at the front of a text. A date may be divided from its time by a
blank. -/
def readAtom? (text : List Char) : Option (Item × List Char) :=
  let first := text.takeWhile isAtomChar
  let rest := text.dropWhile isAtomChar
  match rest with
  | ' ' :: c :: more =>
    if isDateOnly first && isAsciiDigit c then
      let second := (c :: more).takeWhile isAtomChar
      (atom? (first ++ ' ' :: second)).map (·, (c :: more).dropWhile isAtomChar)
    else (atom? first).map (·, rest)
  | _ => (atom? first).map (·, rest)

mutual

/-- A value at the front of a text. -/
def readValue? : Nat → List Char → Option (Item × List Char)
  | 0, _ => none
  | steps + 1, text =>
    match text with
    | '[' :: rest => do
      let (items, rest) ← readItems? steps rest
      return (.array items, rest)
    | '{' :: rest => readFields? steps [] rest
    | c :: _ =>
      if c = '"' || c = '\'' then
        (anyString? text).map fun (value, rest) => (.text (String.ofList value), rest)
      else readAtom? text
    | [] => none

/-- The items of a list and its end. -/
def readItems? : Nat → List Char → Option (List Item × List Char)
  | 0, _ => none
  | steps + 1, text => do
    match ← skipLines? (text.length + 1) text with
    | ']' :: rest => return ([], rest)
    | text =>
      let (item, rest) ← readValue? steps text
      match ← skipLines? (rest.length + 1) rest with
      | ',' :: rest => do
        let (items, rest) ← readItems? steps rest
        return (item :: items, rest)
      | ']' :: rest => return ([item], rest)
      | _ => none

/-- The fields of a table that is written as a value, added to those already read, and its end. -/
def readFields? : Nat → List (String × Item) → List Char → Option (Item × List Char)
  | 0, _, _ => none
  | steps + 1, entries, text => do
    match ← skipLines? (text.length + 1) text with
    | '}' :: rest => return (.table { closed := true } entries, rest)
    | text =>
      let (key, rest) ← key? (text.length + 1) text
      match rest with
      | '=' :: rest =>
        let (value, rest) ← readValue? steps (skipSpaces rest)
        match ← addValue? key value {} entries with
        | .table _ entries =>
          match ← skipLines? (rest.length + 1) rest with
          | ',' :: rest => readFields? steps entries rest
          | '}' :: rest => return (.table { closed := true } entries, rest)
          | _ => none
        | _ => none
      | _ => none

end

/-! ## Lines -/

/-- The key of a table and what is behind the brackets around it. -/
def readHeader? (closing : List Char) (text : List Char) : Option (List String × List Char) := do
  let (key, rest) ← key? (text.length + 1) text
  if closing.isPrefixOf rest then return (key, rest.drop closing.length) else none

/-- The entries of a table. -/
def entriesOf? : Item → Option (List (String × Item))
  | .table _ entries => some entries
  | _ => none

/-- Reads line by line, with the table that was defined last and the entries so far. -/
def readLines? : Nat → List String → List (String × Item) → List Char →
    Option (List (String × Item))
  | 0, _, _, _ => none
  | steps + 1, header, entries, text =>
    match skipSpaces text with
    | [] => some entries
    | '[' :: '[' :: rest => do
      let (key, rest) ← readHeader? [']', ']'] rest
      let entries ← (pushTable? key entries).bind entriesOf?
      readLines? steps key entries (← endLine? rest)
    | '[' :: rest => do
      let (key, rest) ← readHeader? [']'] rest
      let entries ← (addTable? key entries).bind entriesOf?
      readLines? steps key entries (← endLine? rest)
    | c :: rest =>
      if c = '#' || c = '\n' || c = '\r' then do
        readLines? steps header entries (← endLine? (c :: rest))
      else do
        let (key, rest) ← key? (rest.length + 2) (c :: rest)
        match rest with
        | '=' :: rest =>
          let (value, rest) ← readValue? (2 * rest.length + 2) (skipSpaces rest)
          let entries ← (addValueIn? header key value entries).bind entriesOf?
          readLines? steps header entries (← endLine? rest)
        | _ => none

/-- The entries of a document. A byte order mark in front is skipped. -/
def parse? (text : String) : Option (List (String × Item)) :=
  let chars := match text.toList with
    | c :: rest => if c.toNat = 0xFEFF then rest else c :: rest
    | [] => []
  readLines? (chars.length + 1) [] [] chars

end Componentry.Toml
