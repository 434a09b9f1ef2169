import Componentry.Script.Fault
import Componentry.Script.Literal
import Componentry.Script.Token
import Componentry.Text.Position

/-!
# Scanning

From characters to tokens. What a text means depends on where it stands: a slash starts a pattern
where an expression may start, a quote inside a tag takes everything up to the next quote, and
between tags there is only text. So the scanner gives one token at a time, and the reader says which
way to look:

* `scan`: the next token of the script itself, behind blanks and comments;
* `scanContent`: the next token between tags, where nothing is skipped;
* `extendGreater`, `extendPattern`, `extendTemplate`, `extendTagName`: go on with the token just
  read.

A scan never fails. A text that is no token gives an `unreadable` one and the fault that says why.
-/

namespace Componentry.Script

open Text

/-- A place in the text: what follows, and the byte offset. -/
structure Cursor where
  rest : List Char
  offset : Nat
deriving DecidableEq, Repr

namespace Cursor

/-- The place a given number of characters further on. -/
def drop (cursor : Cursor) (count : Nat) : Cursor :=
  ⟨cursor.rest.drop count, cursor.offset + size (cursor.rest.take count)⟩

/-- The place where a given ending of the remaining text starts. -/
def moveTo (cursor : Cursor) (rest : List Char) : Cursor :=
  cursor.drop (cursor.rest.length - rest.length)

/-- The place behind the characters that satisfy `p`. -/
def skipWhile (cursor : Cursor) (p : Char → Bool) : Cursor :=
  cursor.moveTo (cursor.rest.dropWhile p)

/-- The end of the text. -/
def finish (cursor : Cursor) : Cursor :=
  ⟨[], cursor.offset + size cursor.rest⟩

/-- The next character. -/
def peek? (cursor : Cursor) : Option Char :=
  cursor.rest.head?

/-- Whether the next character satisfies `p`. -/
def nextIs (cursor : Cursor) (p : Char → Bool) : Bool :=
  cursor.peek?.any p

end Cursor

/-- A token, the place behind it, and the faults found on the way. -/
structure Scanned where
  token : Token
  cursor : Cursor
  faults : List Fault

/-! ## Blanks and comments -/

/-- Whether a character is skipped between tokens and does not end a line. This is wider than the
blank characters of texts: U+FEFF and U+200B are skipped too. -/
def isGapChar (c : Char) : Bool :=
  c == ' ' || c == '\t' || c.toNat == 0x0B || c.toNat == 0x0C || c.toNat == 0x85 || c.toNat == 0xA0
    || c.toNat == 0x1680 || (0x2000 ≤ c.toNat && c.toNat ≤ 0x200B) || c.toNat == 0x202F
    || c.toNat == 0x205F || c.toNat == 0x3000 || c.toNat == 0xFEFF

/-- Where in the gap between two tokens a character stands. -/
inductive GapPart where
  | between
  | lineComment
  /-- On the star that opens a comment; the offset is that of the comment. -/
  | blockStart (opened : Nat)
  /-- In a comment; the flag says whether a star comes right before. -/
  | blockComment (opened : Nat) (afterStar : Bool)

/-- The offset of the comment that is open at a place. -/
def GapPart.opened? : GapPart → Option Nat
  | between => none
  | lineComment => none
  | blockStart opened => some opened
  | blockComment opened _ => some opened

/-- The gap between two tokens: where it ends, whether it has a line break, and the offset of a
comment that is never closed. -/
structure Gap where
  cursor : Cursor
  lineBreak : Bool
  unclosed : Option Nat

/-- Skips blanks and comments. -/
def gap (part : GapPart) (lineBreak : Bool) (offset : Nat) : List Char → Gap
  | [] => ⟨⟨[], offset⟩, lineBreak, part.opened?⟩
  | c :: rest =>
    let next := offset + c.utf8Size
    match part with
    | .lineComment =>
      if isLineEnd c then gap .between true next rest else gap .lineComment lineBreak next rest
    | .blockStart opened => gap (.blockComment opened false) lineBreak next rest
    | .blockComment opened afterStar =>
      if afterStar && c == '/' then gap .between lineBreak next rest
      else gap (.blockComment opened (c == '*')) (lineBreak || isLineEnd c) next rest
    | .between =>
      if isLineEnd c then gap .between true next rest
      else if isGapChar c then gap .between lineBreak next rest
      else if c = '/' && rest.head? == some '/' then gap .lineComment lineBreak next rest
      else if c = '/' && rest.head? == some '*' then gap (.blockStart offset) lineBreak next rest
      else ⟨⟨c :: rest, offset⟩, lineBreak, none⟩

/-- The gap that starts at a place. -/
def Cursor.gap (cursor : Cursor) : Gap :=
  Script.gap .between false cursor.offset cursor.rest

/-- Whether a text has another one inside it. -/
def hasInfix (part : List Char) : List Char → Bool
  | [] => part.isEmpty
  | c :: rest => part.isPrefixOf (c :: rest) || hasInfix part rest

/-- The text of a comment, from behind its opening, up to where it ends. -/
def commentText (isBlock : Bool) : List Char → List Char
  | [] => []
  | c :: rest =>
    if isBlock && c == '*' && rest.head? == some '/' then []
    else if !isBlock && isLineEnd c then []
    else c :: commentText isBlock rest

/-- The comment in front of the first token of a text, with its offset, if there is one. -/
def leadingComment? (source : List Char) : Option (Nat × List Char) :=
  let cursor := (⟨source, 0⟩ : Cursor)
  let line := if source.take 2 == ['#', '!'] then cursor.skipWhile (fun c => !isLineEnd c)
    else cursor
  let first := line.skipWhile (fun c => isLineEnd c || isGapChar c)
  match first.rest with
  | '/' :: '/' :: text => some (first.offset, commentText false text)
  | '/' :: '*' :: text => some (first.offset, commentText true text)
  | _ => none

/-! ## Numbers -/

/-- A number that is being read: its form so far, the place behind it, its faults, and whether it is
still a number at all. -/
structure NumberScan where
  form : NumberForm
  cursor : Cursor
  faults : List Fault
  readable : Bool

/-- The fault of a number that stops at a place where a digit has to follow. -/
def missingDigit (cursor : Cursor) : Fault :=
  match cursor.peek? with
  | some c => ⟨.invalidCharacter c, cursor.offset⟩
  | none => ⟨.unexpectedEnd, cursor.offset⟩

/-- Goes over digits and single underscores between them. Gives the place behind and the fault of an
underscore without a digit. The first argument bounds the number of steps. -/
def digitsFrom (isDigit : Char → Bool) : Nat → Cursor → Cursor × List Fault
  | 0, cursor => (cursor, [])
  | steps + 1, cursor =>
    if cursor.nextIs (· == '_') then
      if (cursor.drop 1).nextIs isDigit then digitsFrom isDigit steps (cursor.drop 2)
      else (cursor.drop 1, [missingDigit (cursor.drop 1)])
    else if cursor.nextIs isDigit then digitsFrom isDigit steps (cursor.drop 1)
    else (cursor, [])

/-- `digitsFrom` with steps enough for the rest of the text. -/
def digits (isDigit : Char → Bool) (cursor : Cursor) : Cursor × List Fault :=
  digitsFrom isDigit (cursor.rest.length + 1) cursor

/-- Goes over an exponent, from behind its letter. -/
def exponent (scan : NumberScan) : NumberScan :=
  let cursor := if scan.cursor.nextIs (fun c => c == '+' || c == '-') then scan.cursor.drop 1
    else scan.cursor
  if cursor.nextIs Char.isDigit then
    let (cursor, faults) := digits Char.isDigit cursor
    { scan with form := .float, cursor, faults := scan.faults ++ faults }
  else { scan with form := .float, cursor, faults := scan.faults ++ [missingDigit cursor] }

/-- Goes over an exponent if there is one. -/
def optionalExponent (scan : NumberScan) : NumberScan :=
  if scan.cursor.nextIs (fun c => c == 'e' || c == 'E') then
    exponent { scan with cursor := scan.cursor.drop 1 }
  else scan

/-- Goes over the digits behind a decimal point, if any, and an exponent. -/
def fraction (scan : NumberScan) : NumberScan :=
  let (cursor, faults) := if scan.cursor.nextIs Char.isDigit then digits Char.isDigit scan.cursor
    else (scan.cursor, [])
  let scan := optionalExponent { scan with cursor, faults := scan.faults ++ faults }
  { scan with form := .float }

/-- A number must not run into a name or another number. -/
def endOfNumber (scan : NumberScan) : NumberScan :=
  if scan.readable && scan.cursor.nextIs (fun c => c.isDigit || isNameStart c) then
    { scan with
      cursor := (scan.cursor.drop 1).skipWhile isNameStart
      faults := scan.faults ++ [⟨.numberTail, scan.cursor.offset⟩]
      readable := false }
  else scan

/-- Goes over the digits of a number in base 2, 8 or 16, from behind its letter. -/
def radixNumber (form : NumberForm) (isDigit : Char → Bool) (cursor : Cursor) : NumberScan :=
  if cursor.nextIs isDigit then
    let (cursor, faults) := digits isDigit cursor
    if faults.isEmpty then
      ⟨form, if cursor.nextIs (· == 'n') then cursor.drop 1 else cursor, [], true⟩
    else ⟨form, cursor, faults, false⟩
  else ⟨form, cursor, [missingDigit cursor], false⟩

/-- Goes over a number that starts with a zero, from behind it. An exponent that follows the zero,
or digits that are not octal, may run into a name. -/
def zeroNumber (cursor : Cursor) : NumberScan :=
  let next (p : Char → Bool) : Bool := cursor.nextIs p
  if next (fun c => c == 'b' || c == 'B') then
    endOfNumber (radixNumber .binary (fun c => c == '0' || c == '1') (cursor.drop 1))
  else if next (fun c => c == 'o' || c == 'O') then
    endOfNumber (radixNumber .octal isOctalDigit (cursor.drop 1))
  else if next (fun c => c == 'x' || c == 'X') then
    endOfNumber (radixNumber .hex isHexDigit (cursor.drop 1))
  else if next (fun c => c == 'e' || c == 'E') then exponent ⟨.float, cursor.drop 1, [], true⟩
  else if next (· == '.') then endOfNumber (fraction ⟨.float, cursor.drop 1, [], true⟩)
  else if next (· == 'n') then endOfNumber ⟨.decimal, cursor.drop 1, [], true⟩
  else if next Char.isDigit then
    let behind := cursor.skipWhile Char.isDigit
    let taken := cursor.rest.takeWhile Char.isDigit
    if taken.all isOctalDigit then endOfNumber ⟨.octal, behind, [], true⟩
    else if behind.nextIs (· == '.') then endOfNumber (fraction ⟨.float, behind.drop 1, [], true⟩)
    else if behind.nextIs (· == 'e') then exponent ⟨.float, behind.drop 1, [], true⟩
    else endOfNumber ⟨.decimal, behind, [], true⟩
  else endOfNumber ⟨.decimal, cursor, [], true⟩

/-- Goes over a number from its first character, a digit or a point in front of a digit. -/
def number (cursor : Cursor) : NumberScan :=
  if cursor.nextIs (· == '.') then endOfNumber (fraction ⟨.float, cursor.drop 1, [], true⟩)
  else if cursor.nextIs (· == '0') then zeroNumber (cursor.drop 1)
  else
    let (behind, faults) := digits Char.isDigit cursor
    if behind.nextIs (· == '.') then endOfNumber (fraction ⟨.float, behind.drop 1, faults, true⟩)
    else if behind.nextIs (· == 'n') then endOfNumber ⟨.decimal, behind.drop 1, faults, true⟩
    else endOfNumber (optionalExponent ⟨.decimal, behind, faults, true⟩)

/-! ## Tokens -/

/-- Whether the scanner stands behind the `=` of an attribute, where a quoted text has no escapes
and may run over lines. -/
inductive Quoting where
  | script
  | attribute
deriving DecidableEq, Repr

/-- What the text of a name is read as. -/
def NameText.kind (text : NameText) : Token.Kind :=
  let value := String.ofList text.value
  if text.fault.isSome || text.value.isEmpty then .unreadable
  else if reservedWords.contains value || contextualWords.contains value then .word value
  else .name

/-- What is read as a name or word has characters. -/
theorem NameText.value_ne_nil {text : NameText} (h : text.kind.isWordLike = true) :
    text.value ≠ [] := by
  intro hnil
  rw [kind, hnil, List.isEmpty_nil, Bool.or_true, if_pos rfl] at h
  exact Bool.false_ne_true h

/-- Scans a name or word. -/
def scanName (gap : Gap) : Scanned :=
  let cursor := gap.cursor
  let text := nameText (cursor.rest.length + 1) isNameStart cursor.rest
  let behind := cursor.moveTo text.rest
  { token :=
      { kind := text.kind
        start := cursor.offset
        stop := behind.offset
        onNewLine := gap.lineBreak
        value := String.ofList text.value
        escaped := text.escaped
        spelt := fun h => by
          rw [String.toList_ofList]
          exact isScriptName_nameText (NameText.value_ne_nil h) }
    cursor := behind
    faults := match text.fault with
      | none => []
      | some (.malformed, told) => [⟨.invalidNameEscape, (cursor.moveTo told).offset⟩]
      | some (.misfit c, told) => [⟨.invalidCharacter c, (cursor.moveTo told).offset⟩] }

/-- Scans a name with `#` in front. -/
def scanPrivateName (gap : Gap) : Scanned :=
  let cursor := gap.cursor.drop 1
  if cursor.nextIs (fun c => isNameStart c || c == '\\') then
    let scanned := scanName { gap with cursor }
    let kind := match scanned.token.kind with
      | .unreadable => .unreadable
      | _ => .privateName
    let token := scanned.token.retyped kind scanned.token.stop (by dsimp only [kind]; split <;> rfl)
    { scanned with token := { token with start := gap.cursor.offset } }
  else
    let behind := cursor.drop 1
    { token := .plain .unreadable gap.cursor.offset behind.offset gap.lineBreak rfl
      cursor := behind
      faults := [missingDigit cursor] }

/-- Scans a string. -/
def scanString (quoting : Quoting) (quote : Char) (gap : Gap) : Scanned :=
  let cursor := gap.cursor
  let inside := cursor.rest.drop 1
  let start := cursor.offset
  match quoting with
  | .attribute =>
    match inside.dropWhile (· != quote) with
    | _ :: rest =>
      let behind := cursor.moveTo rest
      { token := .plain (.string (String.ofList (inside.takeWhile (· != quote))) true) start
          behind.offset gap.lineBreak rfl
        cursor := behind
        faults := [] }
    | [] =>
      let behind := cursor.finish
      { token := .plain .unreadable start behind.offset gap.lineBreak rfl
        cursor := behind
        faults := [⟨.unterminatedString, start⟩] }
  | .script =>
    let body := stringBody quote (inside.length + 1) inside
    let behind := cursor.moveTo body.rest
    let value := String.ofList (stringOfUnits body.units)
    let kind := if body.closed then .string value (body.units.all StringUnit.isChar)
      else .unreadable
    { token := .plain kind start behind.offset gap.lineBreak (by dsimp only [kind]; split <;> rfl)
      cursor := behind
      faults := body.broken.map (fun text => ⟨.invalidEscape, (cursor.moveTo text).offset⟩)
        ++ (if body.closed then [] else [⟨.unterminatedString, start⟩]) }

/-- Scans a piece of a template that starts at a place and whose first character is already
known. -/
def scanTemplate (atEnd atSubstitution : TemplatePart) (start : Nat) (onNewLine : Bool)
    (inside : Cursor) : Scanned :=
  match templateBody (inside.rest.length + 1) inside.rest with
  | (ending, rest, sound) =>
    let behind := inside.moveTo rest
    let kind := match ending with
      | .closed => .template atEnd sound
      | .substitution => .template atSubstitution sound
      | .unfinished => .unreadable
    { token := .plain kind start behind.offset onNewLine (by dsimp only [kind]; split <;> rfl)
      cursor := behind
      faults := if ending = .unfinished then [⟨.unterminatedString, start⟩] else [] }

/-- Scans a number. -/
def scanNumber (gap : Gap) : Scanned :=
  let scan := number gap.cursor
  { token := .plain (if scan.readable then .number scan.form else .unreadable) gap.cursor.offset
      scan.cursor.offset gap.lineBreak (by split <;> rfl)
    cursor := scan.cursor
    faults := scan.faults }

/-- Scans a mark, or a character that no token starts with. -/
def scanMark (gap : Gap) : Scanned :=
  let cursor := gap.cursor
  match Mark.read? Mark.inReadingOrder cursor.rest with
  | some mark =>
    let behind := cursor.drop mark.spelling.length
    ⟨.plain (.mark mark) cursor.offset behind.offset gap.lineBreak rfl, behind, []⟩
  | none =>
    let behind := cursor.drop 1
    ⟨.plain .unreadable cursor.offset behind.offset gap.lineBreak rfl, behind,
      [missingDigit cursor]⟩

/-- Scans the token behind a gap. -/
def scanBehind (quoting : Quoting) (gap : Gap) : Scanned :=
  let cursor := gap.cursor
  match gap.unclosed with
  | some opened =>
    ⟨.plain .ending opened cursor.offset gap.lineBreak rfl, cursor,
      [⟨.unterminatedComment, opened⟩]⟩
  | none =>
    match cursor.rest with
    | [] => ⟨.plain .ending cursor.offset cursor.offset gap.lineBreak rfl, cursor, []⟩
    | c :: rest =>
      if isNameStart c || c = '\\' then scanName gap
      else if c.isDigit || (c = '.' && (rest.headD ' ').isDigit) then scanNumber gap
      else if c = '"' || c = '\'' then scanString quoting c gap
      else if c.toNat = 0x60 then
        scanTemplate .whole .head cursor.offset gap.lineBreak (cursor.drop 1)
      else if c = '#' then
        if cursor.offset = 0 && rest.head? = some '!' then
          let behind := cursor.skipWhile (fun d => !isLineEnd d)
          ⟨.plain .interpreterLine 0 behind.offset gap.lineBreak rfl, behind, []⟩
        else scanPrivateName gap
      else scanMark gap

/-- Scans the next token of a script. -/
def scan (quoting : Quoting) (cursor : Cursor) : Scanned :=
  scanBehind quoting cursor.gap

/-- Whether a character ends text between tags. -/
def endsContentText (c : Char) : Bool :=
  c == '<' || c == '{' || c == '>' || c == '}'

/-- Scans the next token between tags: a tag or an expression that starts there, or the text up to
one. Text that is still open at the end of the input, or that runs into `>` or `}`, is
unreadable. -/
def scanContent (cursor : Cursor) : Scanned :=
  let start := cursor.offset
  match cursor.rest with
  | [] => ⟨.plain .ending start start false rfl, cursor, []⟩
  | '<' :: _ => ⟨.plain (.mark .less) start (start + 1) false rfl, cursor.drop 1, []⟩
  | '{' :: _ => ⟨.plain (.mark .openBrace) start (start + 1) false rfl, cursor.drop 1, []⟩
  | _ =>
    let behind := cursor.skipWhile (fun c => !endsContentText c)
    match behind.rest with
    | [] => ⟨.plain .unreadable start behind.offset false rfl, behind, []⟩
    | c :: _ =>
      if c = '<' || c = '{' then ⟨.plain .text start behind.offset false rfl, behind, []⟩
      else ⟨.plain .unreadable start behind.offset false rfl, behind,
        [⟨.strayTextMark c, behind.offset⟩]⟩

/-! ## Going on with a token -/

/-- Takes the rest of an operator that starts with `>`. -/
def extendGreater (token : Token) (cursor : Cursor) : Token × Cursor :=
  match Mark.read? Mark.extensionsOfGreater ('>' :: cursor.rest) with
  | some mark =>
    let behind := cursor.drop (mark.spelling.length - 1)
    (token.retyped (.mark mark) behind.offset rfl, behind)
  | none => (token, cursor)

/-- The faults of the flags of a pattern, with the place of each. -/
def flagFaults (offset : Nat) (seen : List Char) : List Char → List Fault
  | [] => []
  | c :: rest =>
    if !patternFlags.contains c then
      ⟨.patternFlag c, offset⟩ :: flagFaults (offset + 1) seen rest
    else if seen.contains c then
      ⟨.repeatedPatternFlag c, offset⟩ :: flagFaults (offset + 1) seen rest
    else flagFaults (offset + 1) (c :: seen) rest

/-- Takes the rest of a pattern whose opening slash was read as a mark. The flag says whether the
pattern is closed. -/
def extendPattern (token : Token) (cursor : Cursor) : Scanned × Bool :=
  match patternBody false false cursor.rest with
  | (rest, false) =>
    let behind := cursor.moveTo rest
    ({ token := token.retyped .pattern behind.offset rfl
       cursor := behind
       faults := [⟨.unterminatedPattern, token.start⟩] }, false)
  | (rest, true) =>
    let flagsAt := cursor.moveTo rest
    let isFlagChar (c : Char) : Bool := isAsciiLetter c || isAsciiDigit c || c == '_' || c == '$'
    let behind := flagsAt.skipWhile isFlagChar
    let flags := flagsAt.rest.takeWhile isFlagChar
    ({ token := token.retyped .pattern behind.offset rfl
       cursor := behind
       faults := flagFaults flagsAt.offset [] flags
         ++ (if flags.contains 'u' && flags.contains 'v'
           then [⟨.conflictingPatternFlags, token.start⟩]
             else []) }, true)

/-- Takes the piece of a template that follows the `}` of a substitution. -/
def extendTemplate (token : Token) (cursor : Cursor) : Scanned :=
  scanTemplate .tail .middle token.start token.onNewLine cursor

/-- Takes the part of a tag or attribute name from its first hyphen on. -/
def extendTagName (token : Token) (cursor : Cursor) : Token × Cursor :=
  if h : cursor.nextIs (· == '-') = true ∧ token.kind.isWordLike = true then
    let behind := cursor.skipWhile (fun c => isNamePart c || c == '-')
    ({ token with kind := .name, stop := behind.offset, spelt := fun _ => token.spelt h.2 }, behind)
  else (token, cursor)

end Componentry.Script
