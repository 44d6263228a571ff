import CarbonAware.Numeral.Rounding
import CarbonAware.Numeral.Shortest

/-!
# Writing numbers

`natural` and `integer` write decimal digits.  `plain` writes a floating-point number with the fewest digits that
read back, never with an exponent; `fixed` writes it with a given number of places, rounding the exact value.
-/

namespace CarbonAware.Numeral

open Float.Model.UnpackedFloat (Sign)

/-- The decimal digits of a natural number. -/
def natural (n : Nat) : List Char := Nat.toDigits 10 n

/-- The decimal digits of an integer, after a minus sign if it is negative. -/
def integer : Int → List Char
  | .ofNat n => natural n
  | .negSucc n => '-' :: natural (n + 1)

/-- The minus sign of negative numbers. -/
def signText : Sign → List Char
  | .negative => ['-']
  | .positive => []

/-- The digits of `n` with a point before the last `places` of them, and at least one digit before the point. -/
def pointed (n places : Nat) : List Char :=
  if places = 0 then natural n
  else
    let digits := natural n
    let padded := List.replicate (places + 1 - digits.length) '0' ++ digits
    let whole := padded.length - places
    padded.take whole ++ '.' :: padded.drop whole

/-- A decimal without exponent. -/
def Decimal.positional (d : Decimal) : List Char :=
  if 0 ≤ d.exponent then natural d.digits ++ List.replicate d.exponent.toNat '0'
  else pointed d.digits (-d.exponent).toNat

/-- `mantissa * 2 ^ exponent` rounded to `places` decimal places, as a multiple of the last place. -/
def scaledToPlaces (places mantissa : Nat) (exponent : Int) : Nat :=
  roundDiv (mantissa * Nat.pow 10 places * Nat.pow 2 exponent.toNat) (Nat.pow 2 (-exponent).toNat)

/-- The shortest text that reads back as `x`, without exponent. -/
def plainText (x : Float) : List Char :=
  match x.toModel.unpack with
  | .notANumber => "NaN".toList
  | .infinity sign => signText sign ++ "inf".toList
  | .zero sign => signText sign ++ ['0']
  | .finite sign mantissa exponent _ => signText sign ++ (shortest mantissa exponent).positional

/-- The text of `x` with `places` decimal places, the exact value rounded with a half to the even neighbour. -/
def fixedText (places : Nat) (x : Float) : List Char :=
  match x.toModel.unpack with
  | .notANumber => "NaN".toList
  | .infinity sign => signText sign ++ "inf".toList
  | .zero sign => signText sign ++ pointed 0 places
  | .finite sign mantissa exponent _ =>
    signText sign ++ pointed (scaledToPlaces places mantissa exponent) places

/-- `plainText` as a string. -/
def plain (x : Float) : String := String.ofList (plainText x)

/-- `fixedText` as a string. -/
def fixed (places : Nat) (x : Float) : String := String.ofList (fixedText places x)

end CarbonAware.Numeral
