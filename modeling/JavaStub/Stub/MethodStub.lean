import JavaStub.JavaType.Names
import JavaStub.JavaType.Render
import JavaStub.Stub.Ascending

/-!
# Method stubs

A method stub repeats the signature of a public method and returns a placeholder. Generic
public methods are refused before anything else is looked at.
-/

namespace JavaStub

/-- The placeholder returned where a type with this text is asked for. There is none for
`void`, and `char` has the placeholder of references. -/
def placeholder (type : String) : String :=
  if ["byte", "short", "int", "long", "float", "double"].contains type then "0"
  else if type = "boolean" then "false"
  else if type = "void" then ""
  else "null"

/-- A parameter as a stub writes it. -/
def Parameter.render (p : Parameter) : Except StubError String :=
  p.type.render.map fun text => text ++ (if p.varargs then "... " else " ") ++ p.name

namespace Method

/-- The line of a method stub, from the texts of its parameters and result. -/
def line (m : Method) (parameters : List String) (result : String) : String :=
  Modifier.listText m.modifiers ++ " " ++ result ++ " " ++ m.name ++ " (" ++
    ", ".intercalate parameters ++ ") \x7b return " ++ placeholder result ++ "; \x7d"

/-- The stub of a method. -/
def stub (m : Method) : Except StubError String := do
  let parameters ← m.parameters.mapM Parameter.render
  let result ← renderResult m.result
  return m.line parameters result

/-- The names in the parameter types of a method and in the type of its result. -/
def typeNames (m : Method) : Except StubError (List String) := do
  let parameters ← m.parameters.mapM fun p => p.type.names
  let result ← namesOfResult m.result
  return parameters.flatten ++ result

/-- A method, unless it has type parameters of its own. -/
def plain (m : Method) : Except StubError Method :=
  if m.typeParameters.isEmpty then .ok m
  else .error (.genericMethod m.typeParameters m.name)

end Method

namespace ClassDeclaration

/-- The public methods of a class, none of which may be generic. -/
def publicMethods (c : ClassDeclaration) : Except StubError (List Method) :=
  (c.methods.filter Method.isPublic).mapM Method.plain

/-- The names that the public signatures of a class refer to, in ascending order. -/
def neededNames (c : ClassDeclaration) : Except StubError (List String) := do
  let methods ← c.publicMethods
  let names ← methods.mapM Method.typeNames
  return ascending names.flatten

/-- The stubs of the public methods of a class, in its order. -/
def methodStubs (c : ClassDeclaration) : Except StubError (List String) := do
  let methods ← c.publicMethods
  methods.mapM Method.stub

end ClassDeclaration

end JavaStub
