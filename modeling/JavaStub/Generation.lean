import JavaStub.CompilationUnit
import JavaStub.Configuration
import JavaStub.Output
import JavaStub.Stub.Basic

/-!
# Generating stubs

A source becomes the text of its stub (`generate`), and a source file becomes a stub file
(`generateFile`). The output is only touched when the whole text is there.
-/

namespace JavaStub

/-- Why a run failed. -/
inductive Failure where
  | source (error : ParseError)
  | stub (error : StubError)
  | configuration (error : ConfigurationError)
  | file (error : FileError)

/-- The text of a failure. -/
def Failure.message : Failure → String
  | .source error =>
    match error with
    | .unrecognized _ _ => "Lexical error: " ++ error.message
    | _ =>
      "Parse error at line " ++ toString error.location.line ++ ", column " ++
        toString error.location.column ++ ": " ++ error.detail
  | .stub error => error.message
  | .configuration error => "Configuration error: " ++ error.message
  | .file error => "IO error: " ++ error.message

/-- The text of the stub of a source. That there is no banner only matters once the source has
been read. -/
def generateUnder (banner : Except FileError Banner) (source : String) : Except Failure String := do
  let unit ← (CompilationUnit.ofSource source).mapError .source
  let banner ← banner.mapError .file
  (unit.strip banner).mapError .stub

/-- The text of the stub of a source, under a banner. -/
def generate (source : String) (banner : Banner) : Except Failure String :=
  generateUnder (.ok banner) source

theorem generate_eq (source : String) (banner : Banner) :
    generate source banner = ((CompilationUnit.ofSource source).mapError .source >>= fun unit =>
      (unit.strip banner).mapError .stub) := rfl

variable {m : Type → Type} {σ : Type} [Monad m] [FileAccess m σ]

/-- The stub of the source that the bytes of a file are. -/
def generateFromBytes (bytes : ByteArray) (banner : Except FileError Banner) :
    Except Failure String :=
  match String.fromUTF8? bytes with
  | some source => generateUnder banner source
  | none => .error (.file .notText)

/-- Writes the stub of one file to another. -/
def generateFile (input output : Path) (onlyIfChanged : Bool) (banner : Except FileError Banner) :
    m (Except Failure Unit) := do
  match ← FileAccess.read input with
  | .error e => return .error (.file e)
  | .ok bytes =>
    match generateFromBytes bytes banner with
    | .error e => return .error e
    | .ok text =>
      match ← writeAtomically output text onlyIfChanged with
      | .error e => return .error (.file e)
      | .ok _ => return .ok ()

end JavaStub
