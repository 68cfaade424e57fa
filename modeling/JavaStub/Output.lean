import JavaStub.Files.Access

/-!
# Atomic output

A file is replaced as a whole: its new bytes are staged in the directory of the file, and the
staged file is moved over it when all of them are stored. Whoever reads the file sees all of
the old bytes or all of the new ones, and whatever fails once there is a staged file, the
staged file is removed.
-/

namespace JavaStub

variable {m : Type → Type} {σ : Type} [Monad m] [FileAccess m σ]

/-- Does a file hold these bytes already? -/
def holds (p : Path) (bytes : ByteArray) : m Bool := do
  match ← FileAccess.read p with
  | .ok existing => return existing.data == bytes.data
  | .error _ => return false

/-- Fills a staged file and moves it to a path. The first step that fails is the last one. -/
def fill (staged : σ) (p : Path) (bytes : ByteArray) : ExceptT FileError m Unit := do
  ExceptT.mk (FileAccess.append staged bytes)
  ExceptT.mk (FileAccess.flush staged)
  ExceptT.mk (FileAccess.sync staged)
  ExceptT.mk (FileAccess.commit staged p)

/-- Replaces a file by way of a staged one. -/
def replace (p : Path) (bytes : ByteArray) : m (Except FileError Unit) := do
  match ← FileAccess.create p.directory with
  | .error e => return .error e
  | .ok staged =>
    match ← (fill staged p bytes).run with
    | .ok () => return .ok ()
    | .error e =>
      FileAccess.discard staged
      return .error e

/-- Writes a text to a file; the value tells whether anything was written. With
`onlyIfChanged` nothing is when the file has these bytes. -/
def writeAtomically (p : Path) (text : String) (onlyIfChanged : Bool) :
    m (Except FileError Bool) := do
  let unchanged ← if onlyIfChanged then holds p text.toUTF8 else pure false
  if unchanged then return .ok false
  else return (← replace p text.toUTF8).map fun _ => true

end JavaStub
