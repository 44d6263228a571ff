/-!
# TOML values

The values of a TOML document, and how its tables grow line by line: a header opens a table (`Entries.openTable`) or
adds one to an array of tables (`Entries.openElement`), and a line with a key sets a value in the open table
(`Entries.define`).  Each of them fails where TOML forbids it: no key is set twice, and no table is defined twice.
-/

namespace CarbonAware.Toml

/-- How a table came to be, which decides how it may grow. -/
inductive Origin where
  /-- Written in braces: complete. -/
  | braces
  /-- By a header of its own. -/
  | header
  /-- On the way to the table of a header. -/
  | headerPath
  /-- On the way to the key of a line. -/
  | keyPath
deriving DecidableEq, Repr

/-- A value of a document. -/
inductive Value where
  | text (content : String)
  | integer (n : Int)
  | float (x : Float)
  | boolean (b : Bool)
  /-- A date, a time of day or both. -/
  | time
  | array (items : List Value)
  | table (origin : Origin) (entries : List (String × Value))
  /-- An array of tables with headers, the last of them first. -/
  | tables (last : List (String × Value)) (others : List (List (String × Value)))

/-- The keys of a table and their values. -/
abbrev Entries := List (String × Value)

namespace Entries

/-- Sets the value of a key to what `change` makes of it. -/
def update (key : String) (change : Option Value → Option Value) : Entries → Option Entries
  | [] => (change none).map fun value => [(key, value)]
  | (name, value) :: rest =>
    if name = key then (change (some value)).map fun value => (name, value) :: rest
    else (update key change rest).map ((name, value) :: ·)

/--
Changes the table that a path leads to.  Tables on the way are created with the origin `missing`, and an existing one
may be passed only if `passes` allows its origin; an array of tables stands for its last element.
-/
def alter (missing : Origin) (passes : Origin → Bool) (change : Origin → Entries → Option Entries) :
    Origin → List String → Entries → Option Entries
  | origin, [], entries => change origin entries
  | _, key :: path, entries => entries.update key fun
    | none => (alter missing passes change missing path []).map (.table missing)
    | some (.table origin inner) =>
      if passes origin then (alter missing passes change origin path inner).map (.table origin) else none
    | some (.tables last others) => (alter missing passes change .header path last).map (.tables · others)
    | some _ => none

/-- Sets a key that is not there yet. -/
def insertNew (key : String) (value : Value) (entries : Entries) : Option Entries :=
  entries.update key fun
    | none => some value
    | some _ => none

/-- Splits a path at its last key. -/
def splitLast : List String → Option (List String × String)
  | [] => none
  | key :: path => match splitLast path with
    | none => some ([], key)
    | some (path, last) => some (key :: path, last)

/-- Sets the value at the path below a table; tables on the way are open only to lines like this one. -/
def assign (path : List String) (value : Value) (entries : Entries) : Option Entries := do
  let (above, key) ← splitLast path
  let set (origin : Origin) (entries : Entries) : Option Entries :=
    if above ≠ [] ∧ origin ≠ .keyPath then none else insertNew key value entries
  alter .keyPath (fun origin => origin = .keyPath ∨ origin = .headerPath) set .header above entries

/-- Changes the table at the path that the last header gave. -/
def within (path : List String) (change : Entries → Option Entries) (entries : Entries) : Option Entries :=
  alter .headerPath (fun origin => origin ≠ .braces) (fun _ => change) .header path entries

/-- The line of a key in the table that the last header opened. -/
def define (header path : List String) (value : Value) (entries : Entries) : Option Entries :=
  entries.within header (assign path value)

/-- The header of a table, which must be new or have been on the way to another one only. -/
def openTable (path : List String) (entries : Entries) : Option Entries := do
  let (above, key) ← splitLast path
  entries.within above fun entries => entries.update key fun
    | none => some (.table .header [])
    | some (.table .headerPath inner) => some (.table .header inner)
    | some _ => none

/-- The header of an element of an array of tables. -/
def openElement (path : List String) (entries : Entries) : Option Entries := do
  let (above, key) ← splitLast path
  entries.within above fun entries => entries.update key fun
    | none => some (.tables [] [])
    | some (.tables last others) => some (.tables [] (last :: others))
    | some _ => none

end Entries

end CarbonAware.Toml
