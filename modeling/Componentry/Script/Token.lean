import Componentry.Text.Word

/-!
# Tokens of a script

Names, words, marks, literals and the pieces of templates and markup text. A token carries its byte
range and whether a line break stands before it, which decides where a statement may end without a
semicolon.
-/

namespace Componentry.Script

/-- The punctuation marks. -/
inductive Mark where
  | openBrace | closeBrace | openParen | closeParen | openBracket | closeBracket
  | semicolon | comma | tilde | colon | dot | ellipsis | atSign
  | question | optionalDot | coalesce | coalesceAssign
  | less | lessEqual | shiftLeft | shiftLeftAssign
  | greater | greaterEqual | shiftRight | shiftRightAssign | shiftRightZero | shiftRightZeroAssign
  | assign | equal | strictEqual | arrow | not | notEqual | strictNotEqual
  | plus | increment | plusAssign | minus | decrement | minusAssign
  | star | power | starAssign | powerAssign | slash | slashAssign | percent | percentAssign
  | bitAnd | logicalAnd | bitAndAssign | logicalAndAssign
  | bitOr | logicalOr | bitOrAssign | logicalOrAssign
  | bitXor | bitXorAssign
deriving DecidableEq, Repr

namespace Mark

/-- How a mark is written. -/
def spelling : Mark → String
  | openBrace => "\x7b" | closeBrace => "\x7d" | openParen => "(" | closeParen => ")"
  | openBracket => "[" | closeBracket => "]"
  | semicolon => ";" | comma => "," | tilde => "~" | colon => ":" | dot => "." | ellipsis => "..."
  | atSign => "@"
  | question => "?" | optionalDot => "?." | coalesce => "??" | coalesceAssign => "??="
  | less => "<" | lessEqual => "<=" | shiftLeft => "<<" | shiftLeftAssign => "<<="
  | greater => ">" | greaterEqual => ">=" | shiftRight => ">>" | shiftRightAssign => ">>="
  | shiftRightZero => ">>>" | shiftRightZeroAssign => ">>>="
  | assign => "=" | equal => "==" | strictEqual => "===" | arrow => "=>"
  | not => "!" | notEqual => "!=" | strictNotEqual => "!=="
  | plus => "+" | increment => "++" | plusAssign => "+="
  | minus => "-" | decrement => "--" | minusAssign => "-="
  | star => "*" | power => "**" | starAssign => "*=" | powerAssign => "**="
  | slash => "/" | slashAssign => "/=" | percent => "%" | percentAssign => "%="
  | bitAnd => "&" | logicalAnd => "&&" | bitAndAssign => "&=" | logicalAndAssign => "&&="
  | bitOr => "|" | logicalOr => "||" | bitOrAssign => "|=" | logicalOrAssign => "||="
  | bitXor => "^" | bitXorAssign => "^="

/-- The marks in the order they are tried at a place of the text: longer ones first. A mark that
starts with `>` is read as `>` alone, so that a tag can end in front of any text;
`extensionsOfGreater` lists what an operator position makes of it. -/
def inReadingOrder : List Mark :=
  [ellipsis, strictEqual, strictNotEqual, powerAssign, shiftLeftAssign, logicalAndAssign,
   logicalOrAssign, coalesceAssign,
   arrow, equal, notEqual, power, increment, decrement, shiftLeft, lessEqual, logicalAnd, logicalOr,
   coalesce, optionalDot, plusAssign, minusAssign, starAssign, slashAssign, percentAssign,
   bitAndAssign, bitOrAssign, bitXorAssign,
   openBrace, closeBrace, openParen, closeParen, openBracket, closeBracket, semicolon, comma, tilde,
   colon, dot, less, greater, assign, not, plus, minus, star, slash, percent, bitAnd, bitOr, bitXor,
   question, atSign]

/-- The marks that go on behind a `>`, longer ones first. -/
def extensionsOfGreater : List Mark :=
  [shiftRightZeroAssign, shiftRightZero, shiftRightAssign, shiftRight, greaterEqual]

/-- The first mark of a list that a text starts with. `?.` in front of a digit is a `?`. -/
def read? (marks : List Mark) (text : List Char) : Option Mark :=
  match marks.find? (fun mark => mark.spelling.toList.isPrefixOf text) with
  | some optionalDot =>
    if ((text.drop 2).headD ' ').isDigit then some question else some optionalDot
  | found => found

end Mark

/-- Words that are never names. -/
def reservedWords : List String :=
  ["await", "break", "case", "catch", "class", "const", "continue", "debugger", "default", "delete",
   "do", "else", "enum", "export", "extends", "finally", "for", "function", "if", "import", "in",
   "instanceof", "new", "return", "super", "switch", "this", "throw", "try", "typeof", "var",
   "void", "while", "with", "true", "false", "null"]

/-- Words that mean something in some places and are names in all others. -/
def contextualWords : List String :=
  ["async", "from", "get", "meta", "of", "set", "target", "accessor", "source", "defer",
   "abstract", "as", "asserts", "assert", "any", "boolean", "constructor", "declare", "infer",
   "intrinsic", "is", "keyof", "module", "namespace", "never", "out", "readonly", "require",
   "number", "object", "satisfies", "string", "symbol", "type", "undefined", "unique", "using",
   "unknown", "global", "bigint", "override",
   "implements", "interface", "let", "package", "private", "protected", "public", "static", "yield"]

/-- The contextual words that are reserved for later use, and so cannot name what a module
exports. -/
def futureWords : List String :=
  ["implements", "interface", "let", "package", "private", "protected", "public", "static", "yield"]

/-- How a number is written. -/
inductive NumberForm where
  | decimal | float | binary | octal | hex
deriving DecidableEq, Repr

/-- The part of a template that a token covers. -/
inductive TemplatePart where
  | whole | head | middle | tail
deriving DecidableEq, Repr

/-- What a token is. -/
inductive Token.Kind where
  /-- The end of the input. -/
  | ending
  /-- A piece of text that is no token; the scanner has reported why. -/
  | unreadable
  /-- The line `#!…` at the very start. -/
  | interpreterLine
  | name
  | word (spelling : String)
  | privateName
  | mark (mark : Mark)
  | number (form : NumberForm)
  /-- A string: its value, and whether no half of a surrogate pair stands alone in it. -/
  | string (value : String) (whole : Bool)
  /-- A piece of a template, and whether all its escapes are sound. -/
  | template (part : TemplatePart) (sound : Bool)
  | pattern
  /-- Text between tags. -/
  | text
deriving DecidableEq, Repr

namespace Token.Kind

/-- How a message names a token that was found. -/
def shown : Token.Kind → String
  | ending => "EOF"
  | unreadable => "Unknown"
  | interpreterLine => "#!"
  | name => "Identifier"
  | word spelling => spelling
  | privateName => "#identifier"
  | mark m => m.spelling
  | number .decimal => "decimal"
  | number .float => "float"
  | number .binary => "binary"
  | number .octal => "octal"
  | number .hex => "hex"
  | string _ _ => "string"
  | template .whole _ => "$\x7b\x7d"
  | template .head _ => "$\x7b"
  | template .middle _ => "$\x7bexpr\x7d"
  | template .tail _ => "\x7d"
  | pattern => "/regexp/"
  | text => "jsx"

/-- Whether a token can be a name: an identifier, or a word that is not reserved. -/
def isName : Token.Kind → Bool
  | name => true
  | word spelling => contextualWords.contains spelling
  | _ => false

/-- Whether a token is a name where `await` may be one too. -/
def isNameOrAwait (kind : Token.Kind) : Bool :=
  kind.isName || kind == word "await"

/-- Whether a token is an identifier or a word of any kind, as behind a dot. -/
def isWordLike : Token.Kind → Bool
  | name => true
  | word _ => true
  | _ => false

/-- Whether a token is a string, a number or a word for a value. -/
def isLiteral : Token.Kind → Bool
  | string _ _ => true
  | number _ => true
  | word spelling => spelling == "true" || spelling == "false" || spelling == "null"
  | _ => false

end Token.Kind

/-- A token with its byte range. -/
structure Token where
  kind : Token.Kind
  start : Nat
  stop : Nat
  /-- Whether a line break stands between the previous token and this one. -/
  onNewLine : Bool
  /-- The text of a name or word, escapes decoded. -/
  value : String
  /-- Whether a name or word was written with an escape. -/
  escaped : Bool
  /-- What is read as a name or word is spelt like an identifier. -/
  spelt : kind.isWordLike = true → Text.isScriptName value.toList = true
deriving DecidableEq, Repr

namespace Token

/-- A token that has no text of its own. -/
def plain (kind : Token.Kind) (start stop : Nat) (onNewLine : Bool)
    (h : kind.isWordLike = false) : Token :=
  ⟨kind, start, stop, onNewLine, "", false, fun hword => absurd hword (Bool.eq_false_iff.mp h)⟩

/-- The same token taken for something that is no name, up to a given end. -/
def retyped (token : Token) (kind : Token.Kind) (stop : Nat) (h : kind.isWordLike = false) :
    Token :=
  { token with kind, stop, spelt := fun hword => absurd hword (Bool.eq_false_iff.mp h) }

end Token

end Componentry.Script
