import Componentry.Text.Blank
import Componentry.Text.Letter

/-!
# TOML: numbers and dates

Numbers and dates are only recognised: nothing asks for their value. A number counts if it can be
stored, that is, if an integer fits into 128 bits and a decimal does not exceed the range of double
precision.
-/

namespace Componentry.Toml

open Text

/-! ## Digits -/

/-- Digits with single underscores between them. -/
def areDigits (isDigit : Char → Bool) (text : List Char) : Bool :=
  (splitAt '_' text).all fun group => !group.isEmpty && group.all isDigit

/-- Decimal digits without a leading zero. -/
def areWholeDigits (text : List Char) : Bool :=
  areDigits isAsciiDigit text && (text == ['0'] || text.head? != some '0')

/-- Whether a character is a hexadecimal digit. -/
def isHexDigit (c : Char) : Bool :=
  isAsciiDigit c || ('a' ≤ c && c ≤ 'f') || ('A' ≤ c && c ≤ 'F')

/-- The value of a digit, in any base. -/
def digitValue (c : Char) : Nat :=
  if isAsciiDigit c then c.toNat - 48 else if 'a' ≤ c then c.toNat - 87 else c.toNat - 55

/-- The number that digits stand for in a base. -/
def numeral (base : Nat) (text : List Char) : Nat :=
  (text.filter (· != '_')).foldl (fun n c => base * n + digitValue c) 0

/-- A sign and what is behind it. -/
def splitSign : List Char → Bool × List Char
  | '+' :: rest => (false, rest)
  | '-' :: rest => (true, rest)
  | text => (false, text)

/-! ## Integers -/

/-- The number of values that 128 bits have. -/
def wordLimit : Nat := Nat.pow 2 128

/-- Whether a text is an integer that can be stored. -/
def isInteger : List Char → Bool
  | '0' :: 'x' :: digits => areDigits isHexDigit digits && numeral 16 digits < wordLimit
  | '0' :: 'o' :: digits =>
    areDigits (fun c => '0' ≤ c && c ≤ '7') digits && numeral 8 digits < wordLimit
  | '0' :: 'b' :: digits =>
    areDigits (fun c => c == '0' || c == '1') digits && numeral 2 digits < wordLimit
  | text =>
    let (negative, digits) := splitSign text
    areWholeDigits digits
      && (if negative then 2 * numeral 10 digits ≤ wordLimit else numeral 10 digits < wordLimit)

/-! ## Decimals -/

/-- Whether a character belongs to a group of digits. -/
def isDigitOrGap (c : Char) : Bool := isAsciiDigit c || c == '_'

/-- Whether a mantissa times a power of ten is in the range of double precision: below the midpoint
between the greatest finite number and the next one that would be there. -/
def inRange (mantissa : Nat) (exponent : Int) : Bool :=
  let limit := Nat.pow 2 1024 - Nat.pow 2 970
  let size : Int := (toString mantissa).length + exponent
  if mantissa = 0 || size < 308 then true
  else if size > 310 then false
  else if exponent ≥ 0 then mantissa * Nat.pow 10 exponent.toNat < limit
  else mantissa < limit * Nat.pow 10 (-exponent).toNat

/-- The exponent at the end of a decimal; zero if there is none. -/
def exponent? : List Char → Option Int
  | [] => some 0
  | c :: rest =>
    let (negative, digits) := splitSign rest
    if (c == 'e' || c == 'E') && areDigits isAsciiDigit digits then
      some (if negative then -(numeral 10 digits : Int) else numeral 10 digits)
    else none

/-- Whether a text is a decimal: with a fraction, an exponent or both, or one of the special
values. -/
def isDecimal (text : List Char) : Bool :=
  let body := (splitSign text).2
  if body == ['i', 'n', 'f'] || body == ['n', 'a', 'n'] then true
  else
    let whole := body.takeWhile isDigitOrGap
    let rest := body.dropWhile isDigitOrGap
    let isPoint := rest.head? == some '.'
    let fraction := if isPoint then rest.tail.takeWhile isDigitOrGap else []
    let tail := if isPoint then rest.tail.dropWhile isDigitOrGap else rest
    areWholeDigits whole && !rest.isEmpty && (!isPoint || areDigits isAsciiDigit fraction)
      && match exponent? tail with
        | none => false
        | some exponent =>
          let places := (fraction.filter (· != '_')).length
          inRange (numeral 10 (whole ++ fraction)) (exponent - places)

/-! ## Dates -/

/-- The number that two digits stand for. -/
def twoDigits? (a b : Char) : Option Nat :=
  if isAsciiDigit a && isAsciiDigit b then some (10 * digitValue a + digitValue b) else none

/-- The number of days of a month. -/
def daysOf (year month : Nat) : Nat :=
  if month = 2 then
    if year % 4 = 0 && (year % 100 != 0 || year % 400 = 0) then 29 else 28
  else if [4, 6, 9, 11].contains month then 30
  else 31

/-- What is behind a date, if the text starts with one. -/
def afterDate? : List Char → Option (List Char)
  | a :: b :: c :: d :: '-' :: e :: f :: '-' :: g :: h :: rest => do
    let year := 100 * (← twoDigits? a b) + (← twoDigits? c d)
    let month ← twoDigits? e f
    let day ← twoDigits? g h
    if 1 ≤ month && month ≤ 12 && 1 ≤ day && day ≤ daysOf year month then some rest else none
  | _ => none

/-- What is behind hours and minutes. -/
def afterClock? : List Char → Option (List Char)
  | a :: b :: ':' :: c :: d :: rest => do
    if (← twoDigits? a b) ≤ 23 && (← twoDigits? c d) ≤ 59 then some rest else none
  | _ => none

/-- What is behind seconds and their fraction, which may be missing. -/
def afterSeconds? : List Char → Option (List Char)
  | ':' :: a :: b :: rest => do
    if (← twoDigits? a b) ≤ 60 then
      match rest with
      | '.' :: c :: more => if isAsciiDigit c then some (more.dropWhile isAsciiDigit) else none
      | '.' :: [] => none
      | rest => some rest
    else none
  | ':' :: _ => none
  | text => some text

/-- What is behind a time of day. -/
def afterTime? (text : List Char) : Option (List Char) :=
  (afterClock? text).bind afterSeconds?

/-- Whether a text is an offset from universal time. -/
def isOffset : List Char → Bool
  | [c] => c == 'Z' || c == 'z'
  | c :: rest => (c == '+' || c == '-') && afterClock? rest == some []
  | [] => false

/-- Whether a text is a time of day, with an offset or without. -/
def isTimeWithOffset (text : List Char) : Bool :=
  match afterTime? text with
  | none => false
  | some rest => rest.isEmpty || isOffset rest

/-- Whether a text is a date, a time, or both. -/
def isDate (text : List Char) : Bool :=
  match afterDate? text with
  | some [] => true
  | some (c :: rest) => (c == 'T' || c == 't' || c == ' ') && isTimeWithOffset rest
  | none => afterTime? text == some []

/-- Whether a text is a date alone. -/
def isDateOnly (text : List Char) : Bool := afterDate? text == some []

end Componentry.Toml
