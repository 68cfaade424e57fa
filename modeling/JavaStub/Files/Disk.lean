import JavaStub.Files.Access

/-!
# Disks

On a disk every operation can go wrong, for want of room or permission or because the device
fails. A disk is a file tree and the faults that the operations to come will meet, of which a
run knows nothing. An operation that meets a fault fails with its error, and it is not done;
but of the bytes that were to be added to a staged file some may be there by then. So what a
run leaves on a disk is up to the run itself: nothing is undone for it. Only the removal of a
staged file is sure.
-/

namespace JavaStub

/-- What an operation meets when it goes wrong. -/
structure Fault where
  error : FileError
  /-- The number of bytes that are added to a staged file before. -/
  written : Nat

/-- A file tree, and what the operations on it will meet. -/
structure Disk where
  tree : FileTree
  /-- The fault that each operation meets, the next one first. Behind the end of the list
  nothing goes wrong. -/
  faults : List (Option Fault)

namespace Disk

variable {α : Type}

/-- The outcome of a step on a disk, and the disk after it. -/
def after (d : Disk) (action : StateM Disk α) : α × Disk := action d

/-- An operation on the tree of a disk, or what is done of it before it meets a fault. -/
def act (operation : StateM FileTree (Except FileError α)) (partly : Fault → StateM FileTree Unit) :
    StateM Disk (Except FileError α) :=
  fun d =>
    match d.faults with
    | some fault :: later => (.error fault.error, ⟨(d.tree.after (partly fault)).2, later⟩)
    | none :: later => ((d.tree.after operation).1, ⟨(d.tree.after operation).2, later⟩)
    | [] => ((d.tree.after operation).1, ⟨(d.tree.after operation).2, []⟩)

/-- An operation that is done as a whole or not at all. -/
def whole (operation : StateM FileTree (Except FileError α)) : StateM Disk (Except FileError α) :=
  act operation fun _ => pure ()

instance : FileAccess (StateM Disk) Place where
  read p := whole (FileAccess.read p)
  create directory := whole (FileAccess.create directory)
  append staged bytes := act (FileAccess.append staged bytes) fun fault => do
    let _ ← FileAccess.append staged (bytes.extract 0 fault.written)
  flush staged := whole (FileAccess.flush staged)
  sync staged := whole (FileAccess.sync staged)
  commit staged p := whole (FileAccess.commit staged p)
  discard staged := fun d => ((), { d with tree := (d.tree.after (FileAccess.discard staged)).2 })

end Disk

end JavaStub
