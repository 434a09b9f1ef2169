/-!
# Blank characters and layout

The characters that count as white space in source texts, names and settings (Unicode property
White_Space), with trimming and splitting by them. U+FEFF and U+200B are not blank.

The functions work on lists of characters; `trimmed` is the one on strings that most callers want.
-/

namespace Componentry.Text

/-! ## Blanks -/

/-- Whether a character is white space. -/
def isBlank (c : Char) : Bool :=
  (9 ≤ c.toNat && c.toNat ≤ 13) || c.toNat == 0x20 || c.toNat == 0x85 || c.toNat == 0xA0
    || c.toNat == 0x1680 || (0x2000 ≤ c.toNat && c.toNat ≤ 0x200A) || c.toNat == 0x2028
    || c.toNat == 0x2029 || c.toNat == 0x202F || c.toNat == 0x205F || c.toNat == 0x3000

/-- Drops the blank characters at the front. -/
def trimStart (text : List Char) : List Char :=
  text.dropWhile isBlank

/-- Drops the trailing characters that satisfy `p`. -/
def dropEndWhile (p : Char → Bool) (text : List Char) : List Char :=
  (text.reverse.dropWhile p).reverse

/-- Drops the blank characters at the end. -/
def trimEnd (text : List Char) : List Char :=
  dropEndWhile isBlank text

/-- Drops the blank characters at both ends. -/
def trim (text : List Char) : List Char :=
  trimEnd (trimStart text)

/-- `trim` on strings. -/
def trimmed (text : String) : String :=
  String.ofList (trim text.toList)

/-- Whether a text has no character but blank ones. -/
def allBlank (text : String) : Bool :=
  text.toList.all isBlank

/-- Puts one more character in front of a word list: the first component is the word under
construction, the second the finished words behind it. -/
def pushWord (c : Char) (acc : List Char × List (List Char)) : List Char × List (List Char) :=
  if isBlank c then ([], if acc.1.isEmpty then acc.2 else acc.1 :: acc.2)
  else (c :: acc.1, acc.2)

/-- The maximal runs of characters that are not blank, in order. -/
def words (text : List Char) : List (List Char) :=
  let acc := text.foldr pushWord ([], [])
  if acc.1.isEmpty then acc.2 else acc.1 :: acc.2

/-- Splits a text at a separator; the pieces between separators are kept even when empty. -/
def splitAt (separator : Char) : List Char → List (List Char)
  | [] => [[]]
  | c :: rest =>
    if c = separator then [] :: splitAt separator rest
    else match splitAt separator rest with
      | [] => [[c]]
      | piece :: pieces => (c :: piece) :: pieces

/-! ## Text between tags

Text between tags is laid out for the reader of the source: it is broken into lines and indented.
`clean` takes the layout out. Lines are trimmed where they were broken, blank lines are dropped, and
the rest is joined by single spaces; text that is only layout disappears.
-/

/-- Trims a line where it was broken off: at its start unless it is the first, at its end unless it
is the last. -/
def trimLine (isFirst isLast : Bool) (line : List Char) : List Char :=
  let line := if isFirst then line else trimStart line
  if isLast then line else trimEnd line

/-- Trims the lines of a text where they were broken. -/
def trimLines (isFirst : Bool) : List (List Char) → List (List Char)
  | [] => []
  | [line] => [trimLine isFirst true line]
  | line :: rest => trimLine isFirst false line :: trimLines false rest

/-- The lines of a text, without the carriage returns that end them. -/
def lines (raw : List Char) : List (List Char) :=
  (splitAt '\n' raw).map (dropEndWhile (· == '\r'))

/-- The lines of a text that are left without its layout. -/
def contentLines (raw : List Char) : List (List Char) :=
  (trimLines true (lines raw)).filter (fun line => !line.isEmpty)

/-- A text without its layout; none if there is nothing else. -/
def clean (raw : String) : Option String :=
  let text := [' '].intercalate (contentLines raw.toList)
  if text.all isBlank then none else some (String.ofList text)

end Componentry.Text
