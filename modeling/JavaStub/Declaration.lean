import JavaStub.JavaType.Equality

/-!
# Declarations

What is kept of a source: its package, its imports and the headers of its top-level types;
of a class also its methods. Bodies, fields, constructors and nested types are not kept.
-/

namespace JavaStub

/-- A modifier of a declaration. -/
inductive Modifier where
  | publicAccess | protectedAccess | privateAccess
  | abstract | static | final | native | synchronized | transient | volatile | strictfp
  | default
  deriving DecidableEq, Repr

namespace Modifier

/-- The keyword of a modifier. -/
def keyword : Modifier → String
  | .publicAccess => "public"
  | .protectedAccess => "protected"
  | .privateAccess => "private"
  | .abstract => "abstract"
  | .static => "static"
  | .final => "final"
  | .native => "native"
  | .synchronized => "synchronized"
  | .transient => "transient"
  | .volatile => "volatile"
  | .strictfp => "strictfp"
  | .default => "default"

/-- Modifiers in a row, with single spaces between them. -/
def listText (modifiers : List Modifier) : String :=
  " ".intercalate (modifiers.map keyword)

end Modifier

/-- A parameter of a method. -/
structure Parameter where
  type : JavaType
  name : String
  /-- Does it stand for any number of arguments? -/
  varargs : Bool
  span : Span
  deriving DecidableEq

/-- The signature of a method. -/
structure Method where
  modifiers : List Modifier
  /-- The names of its own type parameters. -/
  typeParameters : List String
  /-- The type of its result, `none` for `void`. -/
  result : Option JavaType
  name : String
  parameters : List Parameter
  span : Span
  deriving DecidableEq

/-- Has the method the modifier `public`? -/
def Method.isPublic (m : Method) : Bool := m.modifiers.contains .publicAccess

/-- A class with its methods. -/
structure ClassDeclaration where
  modifiers : List Modifier
  name : String
  typeParameters : List String
  methods : List Method
  span : Span
  deriving DecidableEq

/-- A kind of type declaration of which only the header is kept. -/
inductive HeaderKind where
  | interface | enum | record | annotationType
  deriving DecidableEq, Repr

/-- The keyword of a kind of declaration. -/
def HeaderKind.keyword : HeaderKind → String
  | .interface => "interface"
  | .enum => "enum"
  | .record => "record"
  | .annotationType => "@interface"

/-- The header of a type that is no class. -/
structure Header where
  kind : HeaderKind
  modifiers : List Modifier
  name : String
  span : Span
  deriving DecidableEq

/-- A top-level type. -/
inductive TypeDeclaration where
  | ofClass (declaration : ClassDeclaration)
  | ofHeader (header : Header)
  deriving DecidableEq

/-- The package that a source belongs to. -/
structure Package where
  name : String
  span : Span
  deriving DecidableEq

/-- An import. The name of a wildcard import is without its final `.*`. -/
structure Import where
  name : String
  isStatic : Bool
  isWildcard : Bool
  span : Span
  deriving DecidableEq

/-- The part of a dotted name after its last dot. -/
def simpleName (name : String) : String :=
  String.ofList (name.toList.reverse.takeWhile (· ≠ '.')).reverse

/-- The name that an import binds. -/
def Import.simpleName (i : Import) : String := JavaStub.simpleName i.name

/-- A source without the parts that no signature needs. -/
structure CompilationUnit where
  package : Option Package
  imports : List Import
  types : List TypeDeclaration
  span : Span
  deriving DecidableEq

end JavaStub
