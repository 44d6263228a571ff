import CarbonAware.Program

/-!
# The executable

Runs the program on the disk and the environment of the process, prints what it says and ends with its status.
-/

namespace CarbonAware

/-- The error of the file system that a failed operation reports. -/
def fileErrorOf : IO.Error → FileError
  | .noFileOrDirectory .. => .notFound
  | .permissionDenied .. => .permissionDenied
  | .alreadyExists .. => .alreadyExists
  | .inappropriateType _ code _ => if code = 21 then .isAFolder else .notAFolder
  | .invalidArgument _ 36 _ => .nameTooLong
  | e => .other e.toString

/-- Runs an operation on the disk. -/
def onDisk {α : Type} (operation : IO α) : IO (Except FileError α) := do
  match ← operation.toBaseIO with
  | .ok result => return .ok result
  | .error e => return .error (fileErrorOf e)

instance : Storage IO where
  read path := do
    match ← onDisk (IO.FS.Handle.mk path .read) with
    | .error e => return .error e
    | .ok handle => return .ok ((← onDisk handle.readBinToEnd).map ByteArray.toList)
  isFolder path := do
    match ← onDisk (IO.FS.createDir s!"{path}/.") with
    | .error .alreadyExists => return true
    | _ => return false
  makeFolder path := onDisk (IO.FS.createDir path)
  write path content := onDisk (IO.FS.writeFile path content)

/-- The variable files that are looked for: in the current folder and in those above it. -/
def variableFiles (depth : Nat) : List String :=
  (List.range depth).map fun up => Report.repeated up "../" ++ ".env"

end CarbonAware

def main (words : List String) : IO UInt32 := do
  let depth := (← IO.currentDir).components.length
  let ending ← CarbonAware.Program.run (fun name => IO.getEnv name) (CarbonAware.variableFiles depth) words
  IO.print ending.output
  IO.eprint ending.errors
  return ending.status.toUInt32
