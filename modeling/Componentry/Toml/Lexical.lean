import Componentry.Text.Letter

/-!
# TOML: blanks, keys and strings

The lowest level of the format. Every function takes the text from where it stands, and returns what
it read together with the rest, or nothing if the text is malformed there.
-/

namespace Componentry.Toml

open Text

/-! ## Blanks -/

/-- Whether a character separates tokens within a line. -/
def isSpace (c : Char) : Bool := c == ' ' || c == '\t'

/-- Skips blanks within a line. -/
def skipSpaces (text : List Char) : List Char := text.dropWhile isSpace

/-- Whether a character may not occur in comments and strings. -/
def isControl (c : Char) : Bool := (c.toNat < 0x20 && c != '\t') || c.toNat == 0x7F

/-- What is behind a line end. -/
def afterNewline? : List Char → Option (List Char)
  | '\n' :: rest => some rest
  | '\r' :: '\n' :: rest => some rest
  | _ => none

/-- The end of the line, behind a comment if there is one. -/
def skipComment? : List Char → Option (List Char)
  | '#' :: rest =>
    let body := rest.takeWhile (· != '\n')
    let next := rest.dropWhile (· != '\n')
    let body := if !next.isEmpty && body.getLast? == some '\r' then body.dropLast else body
    if body.any isControl then none else some next
  | text => some text

/-- What is behind the end of a line on which nothing but a comment is left. -/
def endLine? (text : List Char) : Option (List Char) := do
  let text ← skipComment? (skipSpaces text)
  if text.isEmpty then some [] else afterNewline? text

/-- Skips blanks, comments and line ends. -/
def skipLines? : Nat → List Char → Option (List Char)
  | 0, _ => none
  | steps + 1, text =>
    match skipSpaces text with
    | '#' :: rest => do skipLines? steps (← skipComment? ('#' :: rest))
    | text =>
      match afterNewline? text with
      | some rest => skipLines? steps rest
      | none => some text

/-! ## Strings -/

/-- The value of a hexadecimal digit. -/
def hexValue? (c : Char) : Option Nat :=
  if isAsciiDigit c then some (c.toNat - 48)
  else if 'a' ≤ c && c ≤ 'f' then some (c.toNat - 87)
  else if 'A' ≤ c && c ≤ 'F' then some (c.toNat - 55)
  else none

/-- The character with a hexadecimal number. -/
def charOfHex? (digits : List Char) : Option Char := do
  let code ← digits.foldlM (fun n c => do return 16 * n + (← hexValue? c)) 0
  if code < 0xD800 || (0xE000 ≤ code && code < 0x110000) then some (Char.ofNat code) else none

/-- The character behind a backslash, for the escapes of one letter. -/
def shortEscape? : Char → Option Char
  | 'b' => some (Char.ofNat 8)
  | 't' => some '\t'
  | 'n' => some '\n'
  | 'f' => some (Char.ofNat 12)
  | 'r' => some '\r'
  | 'e' => some (Char.ofNat 27)
  | '"' => some '"'
  | '\\' => some '\\'
  | _ => none

/-- Puts a character in front of a text that was read. -/
def pushed (c : Char) (found : Option (List Char × List Char)) : Option (List Char × List Char) :=
  found.map fun (text, rest) => (c :: text, rest)

/-- The text up to a double quote. -/
def basicString? : List Char → Option (List Char × List Char)
  | [] => none
  | '"' :: rest => some ([], rest)
  | '\\' :: 'x' :: a :: b :: rest => do pushed (← charOfHex? [a, b]) (basicString? rest)
  | '\\' :: 'u' :: a :: b :: c :: d :: rest => do
    pushed (← charOfHex? [a, b, c, d]) (basicString? rest)
  | '\\' :: 'U' :: a :: b :: c :: d :: e :: f :: g :: h :: rest => do
    pushed (← charOfHex? [a, b, c, d, e, f, g, h]) (basicString? rest)
  | '\\' :: c :: rest => do pushed (← shortEscape? c) (basicString? rest)
  | c :: rest => if isControl c then none else pushed c (basicString? rest)

/-- The text up to a single quote. -/
def literalString? : List Char → Option (List Char × List Char)
  | [] => none
  | '\'' :: rest => some ([], rest)
  | c :: rest => if isControl c then none else pushed c (literalString? rest)

/-- Whether a line ends in a backslash here. -/
def endsLine (text : List Char) : Bool := (afterNewline? (skipSpaces text)).isSome

/-- The text up to three double quotes, over several lines. A backslash at the end of a line skips
the line end and all blanks behind it; `skipping` says that this is going on. Up to two quotes may
stand in front of the closing ones. -/
def basicBlock? (skipping : Bool) : List Char → Option (List Char × List Char)
  | [] => none
  | '"' :: '"' :: '"' :: '"' :: '"' :: rest => some (['"', '"'], rest)
  | '"' :: '"' :: '"' :: '"' :: rest => some (['"'], rest)
  | '"' :: '"' :: '"' :: rest => some ([], rest)
  | '\\' :: 'x' :: a :: b :: rest => do pushed (← charOfHex? [a, b]) (basicBlock? false rest)
  | '\\' :: 'u' :: a :: b :: c :: d :: rest => do
    pushed (← charOfHex? [a, b, c, d]) (basicBlock? false rest)
  | '\\' :: 'U' :: a :: b :: c :: d :: e :: f :: g :: h :: rest => do
    pushed (← charOfHex? [a, b, c, d, e, f, g, h]) (basicBlock? false rest)
  | '\\' :: c :: rest =>
    if endsLine (c :: rest) then basicBlock? true rest
    else do pushed (← shortEscape? c) (basicBlock? false rest)
  | '\r' :: '\n' :: rest =>
    if skipping then basicBlock? true rest else pushed '\n' (basicBlock? false rest)
  | c :: rest =>
    if c = '\n' || isSpace c then
      if skipping then basicBlock? true rest else pushed c (basicBlock? false rest)
    else if isControl c then none
    else pushed c (basicBlock? false rest)

/-- The text up to three single quotes, over several lines. -/
def literalBlock? : List Char → Option (List Char × List Char)
  | [] => none
  | '\'' :: '\'' :: '\'' :: '\'' :: '\'' :: rest => some (['\'', '\''], rest)
  | '\'' :: '\'' :: '\'' :: '\'' :: rest => some (['\''], rest)
  | '\'' :: '\'' :: '\'' :: rest => some ([], rest)
  | '\r' :: '\n' :: rest => pushed '\n' (literalBlock? rest)
  | c :: rest => if isControl c && c != '\n' then none else pushed c (literalBlock? rest)

/-- A block of lines without the line end that it may start with. -/
def blockStart (text : List Char) : List Char := (afterNewline? text).getD text

/-- A string of any kind. -/
def anyString? : List Char → Option (List Char × List Char)
  | '"' :: '"' :: '"' :: rest => basicBlock? false (blockStart rest)
  | '"' :: rest => basicString? rest
  | '\'' :: '\'' :: '\'' :: rest => literalBlock? (blockStart rest)
  | '\'' :: rest => literalString? rest
  | _ => none

/-! ## Keys -/

/-- Whether a character may stand in a key without quotes. -/
def isKeyChar (c : Char) : Bool := isAsciiLetter c || isAsciiDigit c || c == '_' || c == '-'

/-- One part of a key. -/
def keyPart? : List Char → Option (String × List Char)
  | '"' :: rest => (basicString? rest).map fun (text, rest) => (String.ofList text, rest)
  | '\'' :: rest => (literalString? rest).map fun (text, rest) => (String.ofList text, rest)
  | text =>
    let name := text.takeWhile isKeyChar
    if name.isEmpty then none else some (String.ofList name, text.dropWhile isKeyChar)

/-- A key: parts with dots between them. -/
def key? : Nat → List Char → Option (List String × List Char)
  | 0, _ => none
  | steps + 1, text => do
    let (part, rest) ← keyPart? (skipSpaces text)
    match skipSpaces rest with
    | '.' :: rest => do
      let (parts, rest) ← key? steps rest
      return (part :: parts, rest)
    | rest => return ([part], rest)

end Componentry.Toml
