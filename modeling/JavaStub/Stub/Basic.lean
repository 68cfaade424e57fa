import JavaStub.Stub.ImportIndex
import JavaStub.Stub.MethodStub
import JavaStub.Stub.StubFile

/-!
# Stubs of compilation units

The stub of a unit keeps its package, its one class, the public methods of the class and
the imports that they need. Every check is made before any text is put together, so a unit
has a whole stub or none.
-/

namespace JavaStub

namespace CompilationUnit

/-- The one class of a unit with a single top-level type. -/
def singleClass (u : CompilationUnit) : Except StubError ClassDeclaration :=
  match u.types with
  | [.ofClass c] => .ok c
  | [.ofHeader h] => .error (.notAClass h.kind h.name)
  | types => .error (.typeCount types.length)

/-- The name of the package of a unit. -/
def packageName (u : CompilationUnit) : Except StubError String :=
  match u.package with
  | some p => .ok p.name
  | none => .error .missingPackage

/-- The parts of the stub of a unit. -/
def stubFile (u : CompilationUnit) (banner : Banner) : Except StubError StubFile := do
  let c ← u.singleClass
  if !c.typeParameters.isEmpty then throw (.genericClass c.typeParameters c.name)
  let package ← u.packageName
  let index ← ImportIndex.ofImports u.imports
  let needed ← c.neededNames
  let stubs ← c.methodStubs
  return ⟨package, Modifier.listText c.modifiers, c.name, index.lines needed, stubs, banner⟩

/-- The text of the stub of a unit. -/
def strip (u : CompilationUnit) (banner : Banner) : Except StubError String :=
  (u.stubFile banner).map StubFile.render

end CompilationUnit

end JavaStub
