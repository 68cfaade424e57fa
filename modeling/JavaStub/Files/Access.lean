import JavaStub.Files.Tree

/-!
# Access to files

The operations on files that a run needs: reading a file, and making a staged file. A staged
file is created in a directory and takes up bytes, which are flushed and stored; then it is
moved to its path, or it is discarded. Every operation but the last one can fail.

The operations are given for a file tree that is passed along as a state (`StateM FileTree`);
the program itself has them for the files of the machine.
-/

namespace JavaStub

/-- A monad with the file operations of a run; `σ` are handles of staged files. -/
class FileAccess (m : Type → Type) (σ : outParam Type) where
  /-- The bytes of a file. -/
  read : Path → m (Except FileError ByteArray)
  /-- A new file in a directory, under a name of its own. It holds nothing yet. -/
  create : Path → m (Except FileError σ)
  /-- Adds bytes to a staged file. -/
  append : σ → ByteArray → m (Except FileError Unit)
  /-- Hands the bytes of a staged file over to the system. -/
  flush : σ → m (Except FileError Unit)
  /-- Waits until the system has stored a staged file. -/
  sync : σ → m (Except FileError Unit)
  /-- Moves a staged file to a path. -/
  commit : σ → Path → m (Except FileError Unit)
  /-- Removes a staged file. -/
  discard : σ → m Unit

namespace FileTree

variable {α : Type}

/-- The outcome of a step on a file tree, and the tree after it. -/
def after (t : FileTree) (action : StateM FileTree α) : α × FileTree := action t

/-- The outcome of an operation as a step of the state. An operation that fails is not done. -/
def act (operation : FileTree → Except FileError (α × FileTree)) :
    StateM FileTree (Except FileError α) :=
  fun t =>
    match operation t with
    | .ok (value, after) => (.ok value, after)
    | .error e => (.error e, t)

-- a tree has what was written at once, so there is nothing to flush and to wait for
instance : FileAccess (StateM FileTree) Place where
  read p := fun t => (t.read p, t)
  create directory := act fun t => t.create directory
  append staged bytes := act fun t => (t.append staged bytes).map fun after => ((), after)
  flush _ := pure (.ok ())
  sync _ := pure (.ok ())
  commit staged p := act fun t => (t.commit staged p).map fun after => ((), after)
  discard staged := fun t => ((), t.erase staged)

end FileTree

end JavaStub
