import Std.Time.Zoned
import JavaStub.CommandLine.Run

/-!
# The program

File operations of the machine, and the program that runs a command line on them.
-/

namespace JavaStub

/-- The failure that an error of the machine stands for. -/
def fileErrorOf : IO.Error → FileError
  | .noFileOrDirectory _ _ _ => .notFound
  | .alreadyExists _ _ _ => .alreadyExists
  | .inappropriateType _ 20 _ => .notADirectory
  | .inappropriateType _ 21 _ => .isADirectory
  | .inappropriateType _ number text => .other number.toNat text
  | .resourceBusy _ _ => .busy
  | .permissionDenied _ number text => .other number.toNat text
  | .otherError number text => .other number.toNat text
  | error => .other 5 (toString error)

/-- The outcome of an action on files. -/
def attempt {α : Type} (action : IO α) : IO (Except FileError α) := do
  match ← action.toBaseIO with
  | .ok value => return .ok value
  | .error error => return .error (fileErrorOf error)

/-- A staged file of the machine, and the handle that it is written by. -/
structure StagedFile where
  path : String
  handle : IO.FS.Handle

/-- A name for a staged file that is not likely to be taken. -/
def stagedName : IO String := do
  let bytes ← IO.getRandomBytes 8
  let number := bytes.toList.foldl (fun n b => 256 * n + b.toNat) 0
  return ".tmp" ++ toString number

/-- A new file in a directory, under a name that no file there has. If the name is taken, others
are tried as often as is said. -/
def createIn (directory : Path) : Nat → IO StagedFile
  | 0 => throw (.alreadyExists none 17 "File exists")
  | tries + 1 => do
    let path := (directory.child (← stagedName)).text
    try
      return ⟨path, ← IO.FS.Handle.mk path .writeNew⟩
    catch
      | .alreadyExists _ _ _ => createIn directory tries
      | error => throw error

-- no call of the library waits for the device, so a file that is flushed counts as stored
instance : FileAccess IO StagedFile where
  read p := if p.isEmpty then return .error .notFound else attempt (IO.FS.readBinFile p.text)
  create directory := attempt (createIn directory 65536)
  append staged bytes := attempt (staged.handle.write bytes)
  flush staged := attempt staged.handle.flush
  sync _ := return .ok ()
  commit staged p :=
    if p.isEmpty then return .error .notFound else attempt (IO.FS.rename staged.path p.text)
  discard staged := do
    let _ ← attempt (IO.FS.removeFile staged.path)

/-- The variables of the environment that a configuration is read from. -/
def environment : IO (List (String × String)) := do
  let names := ["JSTUB_ANCHOR_DIR", "JSTUB_SCRIPT_NAME", "JSTUB_YEAR", "JSTUB_ONLY_IF_CHANGED"]
  names.filterMapM fun name => do return (← IO.getEnv name).map fun text => (name, text)

end JavaStub

/-- Runs the program on the arguments of its command line. -/
def main (arguments : List String) : IO UInt32 := do
  let found ← JavaStub.environment
  let now ← Std.Time.PlainDateTime.now
  let surroundings : JavaStub.CommandLine.Surroundings :=
    { lookup := fun name => found.lookup name
      executable := (← JavaStub.attempt IO.appPath).map fun path => path.toString
      year := now.year.toInt }
  let outcome : JavaStub.CommandLine.Outcome ← JavaStub.CommandLine.run surroundings arguments
  IO.print outcome.output
  IO.eprint outcome.errors
  return outcome.code.toUInt32
