import Componentry.Text.Word

/-!
# The insides of literals

How the text between two quotes, behind a backslash or in a pattern is read. Each function takes the
characters from a place on and gives back what it read with the rest.

An escape can name half of a surrogate pair. A string keeps such a half as U+FFFD with the four
digits of the half behind it; in a string that has one, U+FFFD itself is written the same way, so
that no two strings are confused.
-/

namespace Componentry.Script

/-- The value of a hexadecimal digit. -/
def hexValue? (c : Char) : Option Nat :=
  if '0' ≤ c && c ≤ '9' then some (c.toNat - 48)
  else if 'a' ≤ c && c ≤ 'f' then some (c.toNat - 87)
  else if 'A' ≤ c && c ≤ 'F' then some (c.toNat - 55)
  else none

/-- Whether a character is a hexadecimal digit. -/
def isHexDigit (c : Char) : Bool :=
  (hexValue? c).isSome

/-- Whether a character is an octal digit. -/
def isOctalDigit (c : Char) : Bool :=
  '0' ≤ c && c ≤ '7'

/-- The number that a row of hexadecimal digits stands for. -/
def hexNumber (digits : List Char) : Nat :=
  digits.foldl (fun n c => n * 16 + (hexValue? c).getD 0) 0

/-- Whether a character ends a line. -/
def isLineEnd (c : Char) : Bool :=
  c == '\n' || c == '\r' || c.toNat == 0x2028 || c.toNat == 0x2029

/-- A unit of a string's value: a character, or half of a surrogate pair. -/
inductive StringUnit where
  | char (c : Char)
  | half (code : Nat)
deriving DecidableEq, Repr

/-- The unit with a given code. -/
def StringUnit.ofCode (code : Nat) : StringUnit :=
  if 0xD800 ≤ code ∧ code ≤ 0xDFFF then .half code else .char (Char.ofNat code)

/-- Four hexadecimal digits, in lower case. -/
def fourHexDigits (n : Nat) : List Char :=
  let digit (d : Nat) : Char := if d < 10 then Char.ofNat (48 + d) else Char.ofNat (87 + d)
  [digit (n / 4096 % 16), digit (n / 256 % 16), digit (n / 16 % 16), digit (n % 16)]

/-- A unit in the value of a string that has halves of pairs. -/
def StringUnit.marked : StringUnit → List Char
  | .char c => if c.toNat = 0xFFFD then c :: fourHexDigits 0xFFFD else [c]
  | .half code => Char.ofNat 0xFFFD :: fourHexDigits code

/-- Whether a unit is a character. -/
def StringUnit.isChar : StringUnit → Bool
  | .char _ => true
  | .half _ => false

/-- The value of a string made of units. -/
def stringOfUnits (units : List StringUnit) : List Char :=
  if units.all StringUnit.isChar then
    units.flatMap fun unit => match unit with | .char c => [c] | .half _ => []
  else units.flatMap StringUnit.marked

/-- Reads exactly `count` hexadecimal digits. -/
def hexDigits? (count : Nat) (text : List Char) : Option (Nat × List Char) :=
  let digits := text.take count
  if digits.length = count ∧ digits.all isHexDigit then some (hexNumber digits, text.drop count)
  else none

/-- Reads a code point in braces, from behind the opening brace. -/
def bracedCode? (text : List Char) : Option (Nat × List Char) :=
  let digits := text.takeWhile isHexDigit
  match text.dropWhile isHexDigit with
  | '}' :: rest =>
    if digits.isEmpty || 0x10FFFF < hexNumber digits then none else some (hexNumber digits, rest)
  | _ => none

/-- Reads a Unicode escape from behind `\u`, without joining pairs. -/
def codeEscape? (text : List Char) : Option (Nat × List Char) :=
  match text with
  | '{' :: rest => bracedCode? rest
  | _ => hexDigits? 4 text

/-- The second half of a pair, if an escape with four digits names one right here. -/
def secondHalf? (text : List Char) : Option (Nat × List Char) :=
  match text with
  | '\\' :: 'u' :: behind => (hexDigits? 4 behind).filter fun (low, _) =>
    0xDC00 ≤ low && low ≤ 0xDFFF
  | _ => none

/-- Reads a Unicode escape from behind `\u`. Two escapes of four digits that name the halves of a
pair are one character. -/
def pairedEscape? (text : List Char) : Option (Nat × List Char) :=
  match text with
  | '{' :: rest => bracedCode? rest
  | _ => (hexDigits? 4 text).map fun (high, rest) =>
    match secondHalf? rest with
    | some (low, behind) =>
      if 0xD800 ≤ high ∧ high ≤ 0xDBFF then
        (0x10000 + (high - 0xD800) * 0x400 + (low - 0xDC00), behind)
      else (high, rest)
    | none => (high, rest)

/-- What an escape stands for, the text behind it, and whether it is well formed. -/
structure Escape where
  units : List StringUnit
  rest : List Char
  sound : Bool

/-- Reads up to `count` octal digits more, onto the number read so far. -/
def octalTail : Nat → Nat → List Char → Nat × List Char
  | count + 1, n, c :: rest =>
    if isOctalDigit c then octalTail count (n * 8 + (c.toNat - 48)) rest else (n, c :: rest)
  | _, n, text => (n, text)

/-- Reads an escape from behind its backslash. Templates have no octal escapes. -/
def escape (inTemplate : Bool) (text : List Char) : Escape :=
  let plain (c : Char) (rest : List Char) : Escape := ⟨[.char c], rest, true⟩
  let broken (rest : List Char) : Escape := ⟨[], rest, false⟩
  match text with
  | [] => broken []
  | '\r' :: '\n' :: rest => ⟨[], rest, true⟩
  | 'b' :: rest => plain '\x08' rest
  | 'f' :: rest => plain '\x0c' rest
  | 'n' :: rest => plain '\n' rest
  | 'r' :: rest => plain '\r' rest
  | 't' :: rest => plain '\t' rest
  | 'v' :: rest => plain '\x0b' rest
  | 'x' :: rest => match hexDigits? 2 rest with
    | some (code, rest') => plain (Char.ofNat code) rest'
    | none => broken rest
  | 'u' :: rest => match pairedEscape? rest with
    | some (code, rest') => ⟨[StringUnit.ofCode code], rest', true⟩
    | none => broken rest
  | c :: rest =>
    if isLineEnd c then ⟨[], rest, true⟩
    else if c = '0' && !(rest.headD ' ').isDigit then plain (Char.ofNat 0) rest
    else if c.isDigit && inTemplate then broken rest
    else if isOctalDigit c then
      let (code, rest') := octalTail (if c ≤ '3' then 2 else 1) (c.toNat - 48) rest
      plain (Char.ofNat code) rest'
    else plain c rest

/-- What stands between the quotes of a string. -/
structure StringBody where
  units : List StringUnit
  rest : List Char
  /-- For each escape that is not well formed, the text from its backslash on. -/
  broken : List (List Char)
  /-- Whether the closing quote was found. -/
  closed : Bool

/-- Reads a string from behind its opening quote. A line break ends it unfinished. The first
argument bounds the number of steps; the length of the text is enough. -/
def stringBody (quote : Char) : Nat → List Char → StringBody
  | 0, text => ⟨[], text, [], false⟩
  | _ + 1, [] => ⟨[], [], [], false⟩
  | steps + 1, c :: rest =>
    if c = quote then ⟨[], rest, [], true⟩
    else if c = '\\' then
      let e := escape false rest
      let body := stringBody quote steps e.rest
      { body with
        units := e.units ++ body.units
        broken := if e.sound then body.broken else (c :: rest) :: body.broken }
    else if c = '\n' ∨ c = '\r' then ⟨[], rest, [], false⟩
    else
      let body := stringBody quote steps rest
      { body with units := .char c :: body.units }

/-- How a piece of a template ends. -/
inductive TemplateEnd where
  | closed | substitution | unfinished
deriving DecidableEq, Repr

/-- Reads a piece of a template up to its closing backquote or the start of a substitution. Gives
the end, the rest, and whether all escapes are well formed. The first argument bounds the number of
steps. -/
def templateBody : Nat → List Char → TemplateEnd × List Char × Bool
  | 0, text => (.unfinished, text, true)
  | _ + 1, [] => (.unfinished, [], true)
  | _ + 1, '\x60' :: rest => (.closed, rest, true)
  | _ + 1, '$' :: '{' :: rest => (.substitution, rest, true)
  | steps + 1, '\\' :: rest =>
    let e := escape true rest
    let (ending, rest', sound) := templateBody steps e.rest
    (ending, rest', e.sound && sound)
  | steps + 1, _ :: rest => templateBody steps rest

/-- Reads a regular expression up to its closing slash, which does not count inside a class or
behind a backslash. Gives the rest and whether the slash was found on the same line. -/
def patternBody (inClass afterBackslash : Bool) : List Char → List Char × Bool
  | [] => ([], false)
  | c :: rest =>
    if isLineEnd c then (rest, false)
    else if afterBackslash then patternBody inClass false rest
    else if c = '\\' then patternBody inClass true rest
    else if c = '[' then patternBody true false rest
    else if c = ']' then patternBody false false rest
    else if c = '/' && !inClass then (rest, true)
    else patternBody inClass false rest

/-- The flags of a regular expression. -/
def patternFlags : List Char :=
  ['g', 'i', 'm', 's', 'u', 'y', 'd', 'v']

/-- What is wrong with an escape in a name: it is malformed, or names a character that does not
fit. -/
inductive NameFault where
  | malformed
  | misfit (c : Char)
deriving DecidableEq, Repr

/-- The text of a name, decoded. -/
structure NameText where
  value : List Char
  rest : List Char
  escaped : Bool
  /-- The first fault, and the text from the place where it is told on. -/
  fault : Option (NameFault × List Char)

/-- Reads the characters of a name; `fits` says which one may come next. A broken escape ends the
name. The first argument bounds the number of steps. -/
def nameText : Nat → (Char → Bool) → List Char → NameText
  | steps + 1, fits, '\\' :: rest =>
    let malformed (behind : List Char) : NameText := ⟨[], behind, true, some (.malformed, rest)⟩
    match rest with
    | 'u' :: behind => match codeEscape? behind with
      | some (code, rest') =>
        let c := Char.ofNat code
        if c.toNat ≠ code then malformed rest'
        else if fits c then
          let tail := nameText steps Text.isNamePart rest'
          { tail with value := c :: tail.value, escaped := true }
        else ⟨[], rest', true, some (.misfit c, rest')⟩
      | none => malformed behind
    | _ => malformed rest
  | steps + 1, fits, c :: rest =>
    if fits c then
      let tail := nameText steps Text.isNamePart rest
      { tail with value := c :: tail.value }
    else ⟨[], c :: rest, false, none⟩
  | _, _, text => ⟨[], text, false, none⟩

/-- The characters of a name fit where they stand: the first one as asked for, the others as parts
of a name. -/
theorem nameText_fits {steps : Nat} {fits : Char → Bool} {text : List Char} {c : Char}
    {rest : List Char} (h : (nameText steps fits text).value = c :: rest) :
    fits c = true ∧ rest.all Text.isNamePart = true := by
  -- what follows the first character is read as parts of a name
  have hall : ∀ {tail : List Char}, (∀ {d : Char} {more : List Char}, tail = d :: more →
      Text.isNamePart d = true ∧ more.all Text.isNamePart = true) →
      tail.all Text.isNamePart = true := by
    intro tail htail
    cases tail with
    | nil => rfl
    | cons d more =>
      have hd := htail rfl
      rw [List.all_cons, hd.1, hd.2]
      rfl
  fun_induction nameText steps fits text generalizing c rest with
  | case2 =>
    rename_i hd tail ih
    injection h with hc hrest
    exact ⟨hc ▸ hd, hrest ▸ hall ih⟩
  | case6 =>
    rename_i hd tail ih
    injection h with hc hrest
    exact ⟨hc ▸ hd, hrest ▸ hall ih⟩
  | _ => contradiction

/-- A name that has characters is spelt like an identifier. -/
theorem isScriptName_nameText {steps : Nat} {text : List Char}
    (h : (nameText steps Text.isNameStart text).value ≠ []) :
    Text.isScriptName (nameText steps Text.isNameStart text).value = true := by
  cases hvalue : (nameText steps Text.isNameStart text).value with
  | nil => exact absurd hvalue h
  | cons c rest =>
    have hfits := nameText_fits hvalue
    rw [Text.isScriptName, hfits.1, hfits.2]
    rfl

end Componentry.Script
