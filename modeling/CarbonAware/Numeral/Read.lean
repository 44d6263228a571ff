import CarbonAware.Numeral.Rounding

/-!
# Reading numbers

`float` reads a decimal number, an infinity or `NaN` and rounds it correctly; `integer?` reads an integer within
bounds.  Both take the whole text: blanks and separators are no part of a number.
-/

namespace CarbonAware.Numeral

/-- Why a text is no floating-point number. -/
inductive FloatError where
  | empty
  | invalid
deriving DecidableEq, Repr

def FloatError.message : FloatError → String
  | .empty => "cannot parse float from empty string"
  | .invalid => "invalid float literal"

/-- Why a text is no integer of the wanted range. -/
inductive IntegerError where
  | empty
  | invalidDigit
  | tooLarge
  | tooSmall
deriving DecidableEq, Repr

def IntegerError.message : IntegerError → String
  | .empty => "cannot parse integer from empty string"
  | .invalidDigit => "invalid digit found in string"
  | .tooLarge => "number too large to fit in target type"
  | .tooSmall => "number too small to fit in target type"

/-- The sign at the start of a text, `true` for a minus, and the rest. -/
def splitSign : List Char → Bool × List Char
  | '-' :: rest => (true, rest)
  | '+' :: rest => (false, rest)
  | text => (false, text)

/-- The decimal digits at the start of a text, and the rest. -/
def splitDigits (text : List Char) : List Char × List Char := text.span Char.isDigit

/-- The value of a text of decimal digits. -/
def digitsValue (digits : List Char) : Nat := Nat.ofDigitChars 10 digits 0

/-- The exponent after the digits: none, or a letter `e`, a sign and at least one digit. -/
def exponent? : List Char → Option Int
  | [] => some 0
  | letter :: rest =>
    if letter = 'e' ∨ letter = 'E' then
      let (negative, digits) := splitSign rest
      if digits.isEmpty ∨ ¬digits.all Char.isDigit then none
      else some (if negative then -(digitsValue digits : Int) else digitsValue digits)
    else none

/-- The number `mantissa * 10 ^ exponent`, rounded to the nearest floating-point number. -/
def ofDecimal (mantissa : Nat) (exponent : Int) : Float :=
  Float.ofScientific mantissa (exponent < 0) exponent.natAbs

/-- An unsigned decimal number: digits with an optional point among them, and an optional exponent. -/
def unsignedDecimal? (text : List Char) : Option Float :=
  let (whole, rest) := splitDigits text
  let (places, rest) := match rest with
    | '.' :: rest => splitDigits rest
    | _ => ([], rest)
  if whole.isEmpty ∧ places.isEmpty then none
  else (exponent? rest).map fun exponent =>
    ofDecimal (digitsValue (whole ++ places)) (exponent - places.length)

/-- An unsigned number: a decimal, or a word for infinity or `NaN` in letters of any case. -/
def unsigned? (text : List Char) : Option Float :=
  match String.ofList (text.map Char.toLower) with
  | "inf" | "infinity" => some (1.0 / 0.0)
  | "nan" => some (0.0 / 0.0)
  | _ => unsignedDecimal? text

/-- Reads a floating-point number. -/
def float (text : String) : Except FloatError Float :=
  if text.isEmpty then .error .empty
  else
    let (negative, rest) := splitSign text.toList
    match unsigned? rest with
    | some x => .ok (if negative then -x else x)
    | none => .error .invalid

/-- Appends the digits to `value` one by one, and fails at the first that is no digit or leaves the bounds. -/
def accumulate (negative : Bool) (lo hi : Int) (value : Int) : List Char → Except IntegerError Int
  | [] => .ok value
  | c :: rest =>
    if c.isDigit then
      let digit : Int := (c.toNat : Int) - 48
      let next := if negative then 10 * value - digit else 10 * value + digit
      if hi < next then .error .tooLarge
      else if next < lo then .error .tooSmall
      else accumulate negative lo hi next rest
    else .error .invalidDigit

/-- Reads an integer from `lo` to `hi`; a minus sign is allowed only if `lo` is negative. -/
def boundedInteger (lo hi : Int) (text : String) : Except IntegerError Int :=
  match text.toList with
  | [] => .error .empty
  | ['+'] | ['-'] => .error .invalidDigit
  | '+' :: digits => accumulate false lo hi 0 digits
  | '-' :: digits => if lo < 0 then accumulate true lo hi 0 digits else .error .invalidDigit
  | digits => accumulate false lo hi 0 digits

end CarbonAware.Numeral
