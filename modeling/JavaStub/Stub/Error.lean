import JavaStub.JavaType.Display
import JavaStub.Declaration

/-!
# Why a unit has no stub

A stub is made of a unit with one top-level class, and only of what it can repeat
faithfully. `StubError.message` is the text of each refusal.
-/

namespace JavaStub

/-- The forms of import that a stub cannot repeat. -/
inductive ImportForm where
  | static
  | wildcard
  deriving DecidableEq, Repr

/-- The form as messages write it. -/
def ImportForm.text : ImportForm → String
  | .static => "static"
  | .wildcard => "wildcard"

/-- Why a unit has no stub. -/
inductive StubError where
  /-- The unit has some number of types other than one. -/
  | typeCount (count : Nat)
  /-- The only type of the unit is no class. -/
  | notAClass (kind : HeaderKind) (name : String)
  | genericClass (typeParameters : List String) (name : String)
  | missingPackage
  | unsupportedImport (form : ImportForm) (path : String)
  | genericMethod (typeParameters : List String) (name : String)
  /-- A public signature mentions a type that a stub cannot repeat. -/
  | unsupportedType (type : JavaType)
  deriving DecidableEq

/-- The line on which a type starts. -/
def JavaType.line (t : JavaType) : Nat := t.span.start.line

/-- The text of a refusal. -/
def StubError.message : StubError → String
  | .typeCount count =>
    "Can only process Java files with one top-level class (found " ++ toString count ++
      " type declarations)"
  | .notAClass kind name =>
    "Top-level " ++ kind.keyword ++ " '" ++ name ++ "' is not a class; only classes can be stripped"
  | .genericClass typeParameters name =>
    "Unsupported feature: type parameters <" ++ ", ".intercalate typeParameters ++
      "> on class '" ++ name ++ "'"
  | .missingPackage => "Missing package declaration"
  | .unsupportedImport form path => "Unsupported " ++ form.text ++ " import '" ++ path ++ "'"
  | .genericMethod typeParameters name =>
    "Unsupported feature: type parameters <" ++ ", ".intercalate typeParameters ++
      "> on public method '" ++ name ++ "'"
  | .unsupportedType type =>
    "Unsupported type node " ++ type.shape ++ " '" ++ type.display ++ "' at line " ++
      toString type.line

end JavaStub
