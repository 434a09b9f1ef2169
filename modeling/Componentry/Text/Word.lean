import Componentry.Text.Letter

/-!
# Names and literals

What counts as a name, whether a script mentions one, and how a text is written as a literal. A
script mentions a name where the name stands alone: neither the character in front of it nor the one
behind it could belong to an identifier. Only ASCII identifiers are told apart this way.
-/

namespace Componentry.Text

/-! ## Names -/

/-- Whether a text can be the name of a component: a letter, `_` or `$`, followed by letters,
numbers, `_` or `$`. -/
def isName : List Char → Bool
  | [] => false
  | c :: rest =>
    (isAlphabetic c || c == '_' || c == '$')
      && rest.all (fun d => isAlphanumeric d || d == '_' || d == '$')

/-- Whether a text is an identifier of a script, or one of the words that are spelt like
identifiers. -/
def isScriptName : List Char → Bool
  | [] => false
  | c :: rest => isNameStart c && rest.all isNamePart

/-- Whether a character continues an ASCII identifier. -/
def isIdentifierChar (c : Char) : Bool :=
  isAsciiLetter c || isAsciiDigit c || c == '_' || c == '$'

/-- What is behind a given beginning of a text. -/
def after? : List Char → List Char → Option (List Char)
  | [], text => some text
  | c :: start, d :: text => if c = d then after? start text else none
  | _ :: _, [] => none

/-- Whether a text begins with a name that ends there. -/
def beginsWithName (name text : List Char) : Bool :=
  (after? name text).any fun rest => !rest.head?.any isIdentifierChar

/-- Whether a name stands alone somewhere in a text; `free` says whether it may stand at the very
front. -/
def mentionsFrom (free : Bool) (name : List Char) : List Char → Bool
  | [] => free && beginsWithName name []
  | c :: rest =>
    (free && beginsWithName name (c :: rest)) || mentionsFrom (!isIdentifierChar c) name rest

/-- Whether a script mentions a name. A name of any length is searched for as a whole identifier.
The plain search that takes its place for names too long for a compiled pattern, and finds them
inside of longer identifiers as well, is left out. -/
def mentions (script name : String) : Bool :=
  mentionsFrom true name.toList script.toList

/-! ## Literals

The double-quoted form of a text is at once a JSON string and a script string literal: the quote,
the backslash and the control characters below U+0020 are escaped, everything else stands for
itself.
-/

/-- A hexadecimal digit, in lower case. -/
def hexDigit (n : Nat) : Char :=
  if n < 10 then Char.ofNat (48 + n) else Char.ofNat (87 + n)

/-- A character as it stands between double quotes. -/
def escaped (c : Char) : List Char :=
  if c = '"' then ['\\', '"']
  else if c = '\\' then ['\\', '\\']
  else if c.toNat < 0x20 then
    match c.toNat with
    | 8 => ['\\', 'b']
    | 9 => ['\\', 't']
    | 10 => ['\\', 'n']
    | 12 => ['\\', 'f']
    | 13 => ['\\', 'r']
    | n => ['\\', 'u', '0', '0', hexDigit (n / 16), hexDigit (n % 16)]
  else [c]

/-- The double-quoted form of a text. -/
def quote (text : List Char) : List Char :=
  '"' :: text.flatMap escaped ++ ['"']

/-- `quote` on strings. -/
def quoted (text : String) : String :=
  String.ofList (quote text.toList)

end Componentry.Text
