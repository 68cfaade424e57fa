/-!
# Failures of file operations

The ways in which an operation on files can fail, with the texts that the operating system
has for them.
-/

namespace JavaStub

/-- Why an operation on files failed. -/
inductive FileError where
  | notFound
  | notADirectory
  | isADirectory
  | alreadyExists
  | busy
  /-- The bytes of a file are no UTF-8. -/
  | notText
  /-- Any other failure, by the number and text of the operating system. -/
  | other (number : Nat) (text : String)
  deriving DecidableEq, Repr

/-- The text of a failure. -/
def FileError.message : FileError → String
  | .notFound => "No such file or directory (os error 2)"
  | .notADirectory => "Not a directory (os error 20)"
  | .isADirectory => "Is a directory (os error 21)"
  | .alreadyExists => "File exists (os error 17)"
  | .busy => "Device or resource busy (os error 16)"
  | .notText => "stream did not contain valid UTF-8"
  | .other number text => text ++ " (os error " ++ toString number ++ ")"

end JavaStub
