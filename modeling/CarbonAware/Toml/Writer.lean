import CarbonAware.Numeral.Print

/-!
# Writing TOML

A settings file has entries at the top and sections of entries below them.  Integers are written in decimal digits,
other numbers always with a point, and the items of an array of several one a line.
-/

namespace CarbonAware.Toml

/-- A value that a settings file holds. -/
inductive Setting where
  | integer (n : Int)
  | float (x : Float)
  | integers (items : List Nat)
deriving DecidableEq

/-- The settings of one section by their names. -/
abbrev Settings := List (String × Setting)

/-- A settings file: the entries at the top and the sections by their names. -/
structure SettingsFile where
  top : Settings
  sections : List (String × Settings)
deriving DecidableEq

/-- A floating-point number, with a point if it is finite. -/
def floatText (x : Float) : List Char :=
  if x.isNaN then "nan".toList
  else
    let text := Numeral.plainText x
    if x.isInf || text.contains '.' then text else text ++ ".0".toList

/-- An array, one item a line if there is more than one. -/
def arrayText : List Nat → List Char
  | [] => "[]".toList
  | [n] => '[' :: Numeral.natural n ++ [']']
  | items => "[\n".toList ++ items.flatMap (fun n => "    ".toList ++ Numeral.natural n ++ ",\n".toList) ++ [']']

namespace Setting

def text : Setting → List Char
  | integer n => Numeral.integer n
  | float x => floatText x
  | integers items => arrayText items

end Setting

/-- The line of a setting. -/
def settingLine (entry : String × Setting) : List Char :=
  entry.1.toList ++ " = ".toList ++ entry.2.text ++ ['\n']

/-- A section with its header, after an empty line. -/
def sectionText (s : String × Settings) : List Char :=
  "\n[".toList ++ s.1.toList ++ "]\n".toList ++ s.2.flatMap settingLine

namespace SettingsFile

def text (file : SettingsFile) : String :=
  String.ofList (file.top.flatMap settingLine ++ file.sections.flatMap sectionText)

end SettingsFile

end CarbonAware.Toml
