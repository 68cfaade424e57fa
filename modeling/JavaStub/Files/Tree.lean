import JavaStub.Files.Error
import JavaStub.Files.Path

/-!
# File trees

A tree of files and directories below a root, as a list of places with what they hold. A
path is followed name by name (`FileTree.resolve`): every name but the last has to lead to
a directory, `.` stays in it and `..` goes back towards the root. The operations are those
of a file system; each gives the tree after it or the reason why it failed.

Main facts:

1. `get?_set`: after writing a place, it holds what was written, and every other place
   holds what it held.
2. `get?_erase`: after erasing a place, it holds nothing, and every other place holds what
   it held.
-/

namespace JavaStub

/-- What a place in a tree holds. -/
inductive Entry where
  | directory
  | file (bytes : ByteArray)

/-- Is the entry a directory? -/
def Entry.isDirectory : Entry → Bool
  | .directory => true
  | .file _ => false

/-- A place in a tree: the names from the root to it. -/
abbrev Place := List String

/-- Files and directories below a root. -/
structure FileTree where
  entries : List (Place × Entry)

namespace FileTree

/-- The tree of an empty directory. -/
def empty : FileTree := ⟨[]⟩

/-- What a place holds; the root is a directory. -/
def get? (t : FileTree) : Place → Option Entry
  | [] => some .directory
  | name :: names => t.entries.lookup (name :: names)

/-- The tree without what a place holds. -/
def erase (place : Place) (t : FileTree) : FileTree :=
  ⟨t.entries.filter fun entry => entry.1 ≠ place⟩

/-- The tree with a place that holds an entry. -/
def set (place : Place) (entry : Entry) (t : FileTree) : FileTree :=
  ⟨(place, entry) :: (t.erase place).entries⟩

theorem lookup_filter_ne (entries : List (Place × Entry)) (place other : Place) :
    (entries.filter fun entry => entry.1 ≠ place).lookup other =
      if other = place then none else entries.lookup other := by
  induction entries with
  | nil => simp
  | cons entry entries ih =>
    obtain ⟨here, what⟩ := entry
    by_cases hp : here = place
    · subst hp
      by_cases ho : other = here
      · subst ho
        simpa using ih
      · have away : (other == here) = false := by simpa using ho
        simpa [List.lookup_cons, ho, away] using ih
    · by_cases ho : other = here
      · subst ho
        simp [hp]
      · have away : (other == here) = false := by simpa using ho
        simpa [List.lookup_cons, hp, away] using ih

theorem get?_erase {t : FileTree} {place other : Place} (h : other ≠ []) :
    (t.erase place).get? other = if other = place then none else t.get? other := by
  obtain ⟨name, names, rfl⟩ := List.exists_cons_of_ne_nil h
  exact lookup_filter_ne t.entries place (name :: names)

theorem get?_set {t : FileTree} {place other : Place} {entry : Entry} (h : other ≠ []) :
    (t.set place entry).get? other = if other = place then some entry else t.get? other := by
  obtain ⟨name, names, rfl⟩ := List.exists_cons_of_ne_nil h
  by_cases ho : name :: names = place
  · subst ho
    simp [set, get?]
  · have away : (name :: names == place) = false := by simpa using ho
    have rest := lookup_filter_ne t.entries place (name :: names)
    rw [if_neg ho] at rest
    simp only [set, get?, List.lookup_cons, away, ho, if_false]
    exact rest

/-! ## Following paths -/

/-- The place that a name leads to from a place. -/
def step (t : FileTree) (place : Place) (name : String) : Except FileError Place :=
  match t.get? place with
  | none => .error .notFound
  | some (.file _) => .error .notADirectory
  | some .directory =>
    if name = "." then .ok place
    else if name = ".." then .ok place.dropLast
    else if (t.get? (place ++ [name])).isSome then .ok (place ++ [name])
    else .error .notFound

/-- The place that names lead to from the root. -/
def follow (t : FileTree) (names : List String) : Except FileError Place :=
  names.foldlM t.step []

/-- The place of a directory that names lead to. -/
def enter (t : FileTree) (names : List String) : Except FileError Place :=
  t.follow (names ++ ["."])

/-- The place that a path leads to. -/
def resolve (t : FileTree) (p : Path) : Except FileError Place :=
  if p.isEmpty then .error .notFound
  else if p.slash then t.enter p.names
  else t.follow p.names

/-- The directory that a path leads into and the last name of the path, which may be new. -/
def target (t : FileTree) (p : Path) : Except FileError (Place × Option String) :=
  if p.isEmpty then .error .notFound
  else (t.enter p.names.dropLast).map fun place =>
    (place, p.names.getLast?.filter fun name => name ≠ "." && name ≠ "..")

/-! ## Operations -/

/-- The bytes of a file. -/
def read (t : FileTree) (p : Path) : Except FileError ByteArray := do
  match t.get? (← t.resolve p) with
  | some (.file bytes) => .ok bytes
  | some .directory => .error .isADirectory
  | none => .error .notFound

/-- The tree with a file written in place, whether it existed or not. -/
def write (t : FileTree) (p : Path) (bytes : ByteArray) : Except FileError FileTree := do
  let (place, name) ← t.target p
  match name with
  | none => .error .isADirectory
  | some name =>
    if p.slash || (t.get? (place ++ [name])).any Entry.isDirectory then .error .isADirectory
    else .ok (t.set (place ++ [name]) (.file bytes))

/-- The tree with a new directory. -/
def createDirectory (t : FileTree) (p : Path) : Except FileError FileTree := do
  let (place, name) ← t.target p
  match name with
  | none => .error .alreadyExists
  | some name =>
    if (t.get? (place ++ [name])).isSome then .error .alreadyExists
    else .ok (t.set (place ++ [name]) .directory)

/-- A name that no place in the tree ends in: it is longer than all names in the tree
together. -/
def freshName (t : FileTree) : String :=
  let letters := t.entries.flatMap fun entry => entry.1.flatMap String.toList
  String.ofList (['.', 't', 'm', 'p'] ++ letters.map fun _ => 'x')

/-- The tree with a new file in a directory, which holds nothing yet, and its place. -/
def create (t : FileTree) (directory : Path) : Except FileError (Place × FileTree) := do
  let place ← t.enter directory.names
  let staged := place ++ [t.freshName]
  return (staged, t.set staged (.file .empty))

/-- The tree with more bytes at the end of the file at a place. -/
def append (t : FileTree) (staged : Place) (bytes : ByteArray) : Except FileError FileTree :=
  match t.get? staged with
  | some (.file held) => .ok (t.set staged (.file (held ++ bytes)))
  | some .directory => .error .isADirectory
  | none => .error .notFound

/-- The tree with a file moved from its place to a path, in place of a file that is there. -/
def commit (t : FileTree) (staged : Place) (p : Path) : Except FileError FileTree := do
  let (place, name) ← t.target p
  match name with
  | none => .error .busy
  | some name =>
    if p.slash then .error .notADirectory
    else
      match t.get? (place ++ [name]), t.get? staged with
      | some .directory, _ => .error .isADirectory
      | _, some entry => .ok ((t.erase staged).set (place ++ [name]) entry)
      | _, none => .error .notFound

/-- The texts of all places, a slash after each directory. -/
def list (t : FileTree) : List String :=
  t.entries.map fun entry =>
    "/".intercalate entry.1 ++ if entry.2.isDirectory then "/" else ""

end FileTree

end JavaStub
