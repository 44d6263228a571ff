/-!
# Files

What the program needs of a file system: to open and read files, to create folders and to write files.  The program
is written over any `Storage`, so that it runs on the disk and on a list of files in memory alike.  A storage creates
one folder at a time, in a folder that is there; `Storage.createFolder` also creates those above it.
-/

namespace CarbonAware

/-- Why the file system refused. -/
inductive FileError where
  | notFound
  | permissionDenied
  | alreadyExists
  | notAFolder
  | isAFolder
  | nameTooLong
  /-- There is a null character in the path. -/
  | malformedPath
  | other (reason : String)
deriving DecidableEq, Repr

def FileError.message : FileError → String
  | .notFound => "No such file or directory (os error 2)"
  | .permissionDenied => "Permission denied (os error 13)"
  | .alreadyExists => "File exists (os error 17)"
  | .notAFolder => "Not a directory (os error 20)"
  | .isAFolder => "Is a directory (os error 21)"
  | .nameTooLong => "File name too long (os error 36)"
  | .malformedPath => "file name contained an unexpected NUL byte"
  | .other reason => reason

/-- A file system in the monad `m`.  A folder can be opened like a file, but not read. -/
class Storage (m : Type → Type) where
  /-- Opens a file; the content is an error of its own if the file cannot be read. -/
  read : String → m (Except FileError (Except FileError (List UInt8)))
  /-- Whether a path leads to a folder. -/
  isFolder : String → m Bool
  /-- Creates a folder in one that is there. -/
  makeFolder : String → m (Except FileError Unit)
  /-- Writes a file, in place of one that is there. -/
  write : String → String → m (Except FileError Unit)

namespace Storage

/-- The paths of the folders above a path, the nearest first, without names that stay in the same folder. -/
def foldersAbove (path : String) : List String :=
  let names := (path.splitOn "/").filter fun name => name ≠ "" ∧ name ≠ "."
  let root := if path.startsWith "/" then "/" else ""
  (List.range (names.length - 1)).reverse.map fun count => root ++ "/".intercalate (names.take (count + 1))

variable {m : Type → Type} [Monad m] [Storage m]

/-- Creates a folder in one that is there, unless it is there itself. -/
def makeMissing (path : String) : m (Except FileError Unit) := do
  match ← makeFolder path with
  | .error .alreadyExists => return if ← isFolder path then .ok () else .error .alreadyExists
  | result => return result

/-- Creates the first of the folders; the others are those above it, which are created if it cannot be without. -/
def createAlong : List String → m (Except FileError Unit)
  | [] => return .ok ()
  | path :: above => do
    match ← makeMissing path with
    | .error .notFound => match ← createAlong above with
      | .error cause => return .error cause
      | .ok () => makeMissing path
    | result => return result

/-- Creates a folder and those above it, as far as they are missing.  The empty path is the current folder. -/
def createFolder (path : String) : m (Except FileError Unit) :=
  createAlong (if path = "" then [] else path :: foldersAbove path)

end Storage

end CarbonAware
