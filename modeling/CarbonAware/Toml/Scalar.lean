import CarbonAware.Numeral.Read
import CarbonAware.Toml.Value

/-!
# Numbers, truth values and times in TOML

`scalar?` reads a value that is written without quotes and brackets.  Digits may be grouped by single underscores, an
integer may be written in base sixteen, eight or two, and a number has no leading zeros.
-/

namespace CarbonAware.Toml

/-- The digits of a text in which single underscores may stand between digits. -/
def digits? (isDigit : Char → Bool) : List Char → Option (List Char)
  | [] => none
  | [c] => if isDigit c then some [c] else none
  | c :: '_' :: rest => if isDigit c then (digits? isDigit rest).map (c :: ·) else none
  | c :: rest => if isDigit c then (digits? isDigit rest).map (c :: ·) else none

/-- Digits without a leading zero, other than zero itself. -/
def wholeDigits? (text : List Char) : Option (List Char) :=
  match digits? Char.isDigit text with
  | some ('0' :: _ :: _) => none
  | digits => digits

/-- The value of a digit up to fifteen. -/
def digitValue (c : Char) : Nat :=
  if c.isDigit then c.toNat - '0'.toNat else c.toLower.toNat - 'a'.toNat + 10

/-- The integer written in a base, if it is not too large to be read. -/
def inBase? (base : Nat) (text : List Char) : Option Value := do
  let isDigit (c : Char) : Bool := (c.isDigit || c.isAlpha) && digitValue c < base
  let digits ← digits? isDigit text
  let n := digits.foldl (fun n c => n * base + digitValue c) 0
  if n < Nat.pow 2 128 then return .integer n else none

/-- The integer of decimal digits, if it is not too large to be read. -/
def decimalInteger? (negative : Bool) (digits : List Char) : Option Value :=
  let n := Numeral.digitsValue digits
  if negative then (if n ≤ Nat.pow 2 127 then some (.integer (-n)) else none)
  else if n < Nat.pow 2 128 then some (.integer n) else none

/-- The number of decimal digits with a fraction or an exponent, if it is not too large to be read. -/
def decimalFloat? (negative : Bool) (text : List Char) : Option Value := do
  let x ← Numeral.unsignedDecimal? text
  if x.isInf then none else return .float (if negative then -x else x)

/-- The exponent of a number, from its letter on. -/
def exponentText? : List Char → Option (List Char)
  | letter :: rest =>
    if letter = 'e' ∨ letter = 'E' then
      let (negative, digits) := Numeral.splitSign rest
      (digits? Char.isDigit digits).map fun digits => 'e' :: (if negative then '-' :: digits else digits)
    else none
  | [] => some []

/-- An unsigned decimal number. -/
def unsignedNumber? (negative : Bool) (text : List Char) : Option Value := do
  let isPart (c : Char) : Bool := c.isDigit || c == '_'
  let whole ← wholeDigits? (text.takeWhile isPart)
  match text.dropWhile isPart with
  | [] => decimalInteger? negative whole
  | '.' :: rest =>
    let places ← digits? Char.isDigit (rest.takeWhile isPart)
    let exponent ← exponentText? (rest.dropWhile isPart)
    decimalFloat? negative (whole ++ '.' :: places ++ exponent)
  | rest =>
    let exponent ← exponentText? rest
    decimalFloat? negative (whole ++ exponent)

/-- A number with an optional sign; integers in another base have none. -/
def number? (text : List Char) : Option Value :=
  match text with
  | '0' :: 'x' :: digits => inBase? 16 digits
  | '0' :: 'o' :: digits => inBase? 8 digits
  | '0' :: 'b' :: digits => inBase? 2 digits
  | _ =>
    let (negative, rest) := Numeral.splitSign text
    match String.ofList rest with
    | "inf" => some (.float (if negative then -(1.0 / 0.0) else 1.0 / 0.0))
    | "nan" => some (.float (0.0 / 0.0))
    | _ => unsignedNumber? negative rest

/-- The number that two digits write, within bounds. -/
def twoDigits? (lo hi : Nat) (a b : Char) : Option Nat :=
  if a.isDigit ∧ b.isDigit then
    let n := 10 * digitValue a + digitValue b
    if lo ≤ n ∧ n ≤ hi then some n else none
  else none

/-- The days of a month. -/
def daysOf (year month : Nat) : Nat :=
  if month = 2 then (if year % 4 = 0 ∧ (year % 100 ≠ 0 ∨ year % 400 = 0) then 29 else 28)
  else if month = 4 ∨ month = 6 ∨ month = 9 ∨ month = 11 then 30
  else 31

/-- What follows the date at the start of a text. -/
def afterDate? : List Char → Option (List Char)
  | a :: b :: c :: d :: '-' :: e :: f :: '-' :: g :: h :: rest => do
    let century ← twoDigits? 0 99 a b
    let year ← twoDigits? 0 99 c d
    let month ← twoDigits? 1 12 e f
    let _ ← twoDigits? 1 (daysOf (100 * century + year) month) g h
    return rest
  | _ => none

/-- What follows the seconds and their fraction, which may both be left out, at the start of a text. -/
def afterSeconds? : List Char → Option (List Char)
  | ':' :: a :: b :: rest => do
    let _ ← twoDigits? 0 60 a b
    match rest with
    | '.' :: rest => if (rest.head?.map Char.isDigit).getD false then return rest.dropWhile Char.isDigit else none
    | _ => return rest
  | ':' :: _ => none
  | rest => some rest

/-- What follows the time of day at the start of a text. -/
def afterClock? : List Char → Option (List Char)
  | a :: b :: ':' :: c :: d :: rest => do
    let _ ← twoDigits? 0 23 a b
    let _ ← twoDigits? 0 59 c d
    afterSeconds? rest
  | _ => none

/-- Whether the text is nothing or an offset from universal time. -/
def isOffset : List Char → Bool
  | [] => true
  | [c] => c == 'Z' || c == 'z'
  | [sign, a, b, ':', c, d] =>
    (sign == '+' || sign == '-') && (twoDigits? 0 23 a b).isSome && (twoDigits? 0 59 c d).isSome
  | _ => false

/-- Whether the text is a date, a time of day, or a date and a time. -/
def isTime (text : List Char) : Bool :=
  match afterDate? text with
  | none => afterClock? text = some []
  | some [] => true
  | some (divider :: rest) =>
    (divider == 'T' || divider == 't' || divider == ' ') && ((afterClock? rest).map isOffset).getD false

/-- A value without quotes and brackets. -/
def scalar? (text : List Char) : Option Value :=
  match String.ofList text with
  | "true" => some (.boolean true)
  | "false" => some (.boolean false)
  | _ => (number? text).or (if isTime text then some .time else none)

end CarbonAware.Toml
