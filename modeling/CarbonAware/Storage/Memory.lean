import CarbonAware.Storage

/-!
# Files in memory

A file system that is a value: `Disk` lists its files and folders by the names on their path.  `Disk.find` follows a
path as written, name by name, so that it fails at the first name that leads nowhere, and `Disk` in a state monad is a
`Storage`.
-/

namespace CarbonAware

/-- What a path leads to. -/
inductive DiskEntry where
  | folder
  | file (content : List UInt8)
deriving DecidableEq, Repr

/--
Files and folders by the names on their path, the newest first.  A path starts in the working folder, which is always
there, as are the folders above it (with the names `..`) and the root (with the name `/`).
-/
structure Disk where
  entries : List (List String × DiskEntry)

namespace Disk

def empty : Disk := ⟨[]⟩

/-- The place of the folder on top of all others. -/
def root : List String := ["/"]

/-- Whether a place is the working folder or one above it. -/
def isAbove (place : List String) : Bool := place.all (· = "..")

/-- What is at a place. -/
def at? (d : Disk) (place : List String) : Option DiskEntry :=
  if place = root ∨ isAbove place then some .folder else d.entries.lookup place

/-- Puts a file or folder at a place. -/
def put (d : Disk) (place : List String) (entry : DiskEntry) : Disk := ⟨(place, entry) :: d.entries⟩

/-- The bytes of the longest name. -/
def longestName : Nat := 255

/-- The bytes of the longest path. -/
def longestPath : Nat := 4095

/-- The names on a path.  No path is empty, longer than it may be, or has a null character. -/
def names (path : String) : Except FileError (List String) :=
  if path.contains '\x00' then .error .malformedPath
  else if path = "" then .error .notFound
  else if longestPath < path.utf8ByteSize then .error .nameTooLong
  else .ok ((path.splitOn "/").filter (· ≠ ""))

/-- The place that a name in the folder at `place` stands for. -/
def inside (place : List String) (name : String) : Except FileError (List String) :=
  if name = "." then .ok place
  else if name = ".." then
    .ok (if place = root then root else if isAbove place then place ++ [".."] else place.dropLast)
  else if longestName < name.utf8ByteSize then .error .nameTooLong
  else .ok (place ++ [name])

/-- The place that a path starts from. -/
def origin (path : String) : List String := if path.startsWith "/" then root else []

/-- Goes through folders by their names from the folder at `place` on, and gives the place of the last one. -/
def enter (d : Disk) (place : List String) : List String → Except FileError (List String)
  | [] => .ok place
  | name :: rest => do
    let next ← inside place name
    match d.at? next with
    | some .folder => d.enter next rest
    | some (.file _) => throw .notAFolder
    | none => throw .notFound

/-- The place of a path; only a folder may be written with a slash at the end. -/
def find (d : Disk) (path : String) : Except FileError (List String) := do
  let names ← names path
  let place ← inside (← d.enter (origin path) names.dropLast) (names.getLastD ".")
  match d.at? place with
  | some (.file _) => if path.endsWith "/" then throw .notAFolder else return place
  | _ => return place

/-- Opens a file or folder. -/
def read (d : Disk) (path : String) : Except FileError (Except FileError (List UInt8)) := do
  match d.at? (← d.find path) with
  | none => throw .notFound
  | some .folder => return .error .isAFolder
  | some (.file content) => return .ok content

def isFolder (d : Disk) (path : String) : Bool :=
  match d.find path with
  | .ok place => d.at? place = some .folder
  | .error _ => false

/-- Creates a folder in one that is there, with a name of its own. -/
def makeFolder (d : Disk) (path : String) : Except FileError Disk := do
  let names ← names path
  let name := names.getLastD "."
  let place ← inside (← d.enter (origin path) names.dropLast) name
  if name = "." ∨ name = ".." ∨ (d.at? place).isSome then throw .alreadyExists
  return d.put place .folder

/-- Writes a file into a folder that is there. -/
def write (d : Disk) (path content : String) : Except FileError Disk := do
  let place ← d.find path
  match d.at? place with
  | some .folder => throw .isAFolder
  | _ => return d.put place (.file content.toUTF8.toList)

/-- Adds a file and the folders above it, by the names on its path. -/
def withFile (d : Disk) (path content : String) : Disk :=
  let place := (path.splitOn "/").filter (· ≠ "")
  let folders := (List.range (place.length - 1)).map fun count => place.take (count + 1)
  (folders.foldl (fun d folder => d.put folder .folder) d).put place (.file content.toUTF8.toList)

/-- The files in the working folder, by their paths, of which another disk has nothing. -/
def filesBeside (d before : Disk) : List (String × List UInt8) :=
  d.entries.filterMap fun (place, entry) => match entry, before.at? place with
    | .file content, none =>
      if place.head? = some ".." ∨ place.head? = some "/" then none else some ("/".intercalate place, content)
    | _, _ => none

/-- Takes on the new state of a disk, if there is one. -/
def update (change : Disk → Except FileError Disk) : StateM Disk (Except FileError Unit) := do
  match change (← get) with
  | .error cause => return .error cause
  | .ok d =>
    set d
    return .ok ()

instance : Storage (StateM Disk) where
  read path := return (← get).read path
  isFolder path := return (← get).isFolder path
  makeFolder path := update (·.makeFolder path)
  write path content := update (·.write path content)

end Disk

end CarbonAware
