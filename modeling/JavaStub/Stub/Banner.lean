/-!
# The banner of a stub file

The head of a stub file names the program that wrote it and the year. The program is named
by its path, cut at the first component that equals an anchor.
-/

namespace JavaStub

/-- What the head of a stub file names. -/
structure Banner where
  script : String
  year : Int
  deriving DecidableEq, Repr

/-- The path from the first component that equals the anchor on, or all of it if there is
no such component. -/
def scriptName (path anchor : String) : String :=
  let components := path.toList.splitOn '/'
  let suffix :=
    match components.dropWhile (· != anchor.toList) with
    | [] => components
    | found => found
  String.ofList (['/'].intercalate suffix)

end JavaStub
