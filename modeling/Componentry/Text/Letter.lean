import Componentry.Text.Ranges

/-!
# Letters, digits and name characters

Predicates on single characters. `isAlphabetic` and `isAlphanumeric` decide what a component may be
called, `isWordChar` where a tag name ends in generated text, and `isNameStart` and `isNamePart`
what an identifier of a script looks like.
-/

namespace Componentry.Text

open Ranges

/-- Whether a character is an ASCII letter. -/
def isAsciiLetter (c : Char) : Bool :=
  ('a' ≤ c && c ≤ 'z') || ('A' ≤ c && c ≤ 'Z')

/-- Whether a character is an ASCII digit. -/
def isAsciiDigit (c : Char) : Bool :=
  '0' ≤ c && c ≤ '9'

/-- Whether a character is alphabetic: a letter, a letter number, or a mark that spells a vowel. -/
def isAlphabetic (c : Char) : Bool :=
  if c.toNat < 128 then isAsciiLetter c
  else covers letter c.toNat || covers alphabeticMark c.toNat

/-- Whether a character is alphabetic or a number of any kind. -/
def isAlphanumeric (c : Char) : Bool :=
  if c.toNat < 128 then isAsciiLetter c || isAsciiDigit c
  else isAlphabetic c || covers digit c.toNat || covers otherNumber c.toNat

/-- Whether a character belongs to a word when word boundaries are looked for: letters, marks,
decimal digits, connectors and the two joiners. -/
def isWordChar (c : Char) : Bool :=
  if c.toNat < 128 then isAsciiLetter c || isAsciiDigit c || c == '_'
  else isAlphabetic c || covers mark c.toNat || covers digit c.toNat || covers connector c.toNat
    || c.toNat == 0x200C || c.toNat == 0x200D

/-- Whether an identifier of a script may start with a character. -/
def isNameStart (c : Char) : Bool :=
  if c.toNat < 128 then isAsciiLetter c || c == '_' || c == '$'
  else (covers letter c.toNat && c.toNat != 0x2E2F) || covers recentLetter c.toNat
    || c.toNat == 0x1885 || c.toNat == 0x1886 || c.toNat == 0x2118 || c.toNat == 0x212E
    || c.toNat == 0x309B || c.toNat == 0x309C

/-- Whether an identifier of a script may go on with a character. -/
def isNamePart (c : Char) : Bool :=
  if c.toNat < 128 then isAsciiLetter c || isAsciiDigit c || c == '_' || c == '$'
  else isNameStart c || (covers mark c.toNat && !covers enclosingMark c.toNat)
    || covers recentMark c.toNat || covers digit c.toNat || covers connector c.toNat
    || c.toNat == 0xB7 || c.toNat == 0x387 || (0x1369 ≤ c.toNat && c.toNat ≤ 0x1371)
    || c.toNat == 0x19DA || c.toNat == 0x200C || c.toNat == 0x200D || c.toNat == 0x30FB
    || c.toNat == 0xFF65

end Componentry.Text
