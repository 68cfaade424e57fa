import JavaStub.CommandLine.Request
import JavaStub.Generation

/-!
# Runs of the command line

A run carries out what the arguments ask for, and ends with an exit code and texts for the
output and error streams. The text of an error says what was attempted and lists the causes
of the failure.
-/

namespace JavaStub.CommandLine

/-- How a run ends. -/
structure Outcome where
  /-- The exit code. -/
  code : Nat
  /-- The text for the output stream. -/
  output : String
  /-- The text for the error stream. -/
  errors : String
  deriving DecidableEq, Repr

/-- What a run finds around it. -/
structure Surroundings where
  /-- The variables of the environment. -/
  lookup : String → Option String
  /-- The path of the program, or why it cannot be told. -/
  executable : Except FileError String
  /-- The current year. -/
  year : Int

/-- The texts of a failure, each the cause of the one before it. -/
def causes : Failure → List String
  | .file error => [(Failure.file error).message, error.message]
  | failure => [failure.message]

/-- A text with spaces in front of every line but the first. -/
def indented (width : Nat) (text : String) : String :=
  String.ofList (text.toList.flatMap fun c =>
    if c = '\n' then c :: List.replicate width ' ' else [c])

/-- The list of causes in an error text, numbered if there are several. -/
def causeLines : List String → List String
  | [cause] => ["    " ++ indented 4 cause]
  | causes => causes.zipIdx.map fun entry =>
    "    " ++ toString entry.2 ++ ": " ++ indented 7 entry.1

/-- The text of an error: what was attempted, and why it failed. -/
def errorText (attempt : String) (failure : Failure) : String :=
  "\n".intercalate (("Error: " ++ attempt) :: "" :: "Caused by:" :: causeLines (causes failure))
    ++ "\n"

/-- How to use the program. -/
def usage : String :=
  "Usage: javastub --input <FILE> --output <FILE> [--verbose]\n\n" ++
  "Generates a stripped down version of a Java factory file\n\n" ++
  "      --input <FILE>   Input java file path\n" ++
  "      --output <FILE>  Output java file path\n" ++
  "  -v, --verbose        Verbose output\n" ++
  "  -h, --help           Print help\n" ++
  "  -V, --version        Print version\n"

variable {m : Type → Type} {σ : Type} [Monad m] [FileAccess m σ]

/-- Makes the stub of one file into another, as the variables of the environment ask. -/
def makeStub (s : Surroundings) (input output : String) : m Outcome := do
  match Configuration.ofLookup s.lookup with
  | .error e =>
    return ⟨1, "", errorText "invalid JSTUB_* configuration" (.configuration e)⟩
  | .ok c =>
    let banner := c.bannerOf s.executable s.year
    match ← generateFile (.ofText input) (.ofText output) c.onlyIfChanged banner with
    | .error failure => return ⟨1, "", errorText ("failed to strip " ++ input) failure⟩
    | .ok () => return ⟨0, "", ""⟩

/-- Carries out what arguments ask for. -/
def run (s : Surroundings) (arguments : List String) : m Outcome :=
  match Request.ofArguments arguments with
  | .help => return ⟨0, usage, ""⟩
  | .version => return ⟨0, "javastub\n", ""⟩
  | .refused => return ⟨2, "", usage⟩
  | .generate input output _ => makeStub s input output

end JavaStub.CommandLine
