/-!
# Paths

A path is a list of names that slashes separate. Repeated slashes count once; a slash at the
end asks for a directory. The directory of a path is where a file of that path would stand:
names `.` in the path are dropped, and then the last name.
-/

namespace JavaStub

/-- A path to a file or directory. -/
structure Path where
  /-- Does the path start at the root? -/
  absolute : Bool
  /-- The names on the way, `.` and `..` among them. -/
  names : List String
  /-- Does a slash follow the last name? -/
  slash : Bool
  deriving DecidableEq, Repr

namespace Path

/-- The path that a text writes. -/
def ofText (text : String) : Path where
  absolute := text.toList.head? = some '/'
  names := ((text.toList.splitOn '/').filter fun name => !name.isEmpty).map String.ofList
  slash := text.toList.getLast? = some '/'

/-- A text for a path; the path without names is the directory itself. -/
def text (p : Path) : String :=
  let names := if p.names.isEmpty && !p.absolute then ["."] else p.names
  (if p.absolute then "/" else "") ++ "/".intercalate names ++
    (if p.slash && !p.names.isEmpty then "/" else "")

/-- Is this the empty text? -/
def isEmpty (p : Path) : Bool := p.names.isEmpty && !p.absolute

/-- The directory that a file of this path stands in. -/
def directory (p : Path) : Path where
  absolute := p.absolute
  names := (p.names.filter fun name => name ≠ ".").dropLast
  slash := false

/-- The path of a name in a directory. -/
def child (p : Path) (name : String) : Path := ⟨p.absolute, p.names ++ [name], false⟩

end Path

end JavaStub
