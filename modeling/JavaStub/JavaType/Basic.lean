import JavaStub.Location

/-!
# Types in signatures

The types that a method signature can mention, as they are written: class and interface
types with their arguments, primitive types, wildcards, and types qualified by a dot. Array
dimensions are counted on the type that they follow.

Main facts:

1. `addDimensions_zero` and `addDimensions_add`: dimensions written in several places add up.
2. `span_addDimensions`: dimensions after a name leave the place of the type alone.
-/

namespace JavaStub

/-- The side on which a wildcard is bounded. -/
inductive BoundKind where
  | upper
  | lower
  deriving DecidableEq, Repr

/-- The keyword that introduces a bound. -/
def BoundKind.keyword : BoundKind → String
  | .upper => "extends"
  | .lower => "super"

mutual

/-- A type as it is written in a signature. -/
inductive JavaType where
  /-- A class or interface by its name: `List<String>`. -/
  | reference (type : ReferenceType)
  /-- A type that stands as an argument of another. -/
  | argument (inner : JavaType) (span : Span)
  /-- A primitive type: `int[]`. -/
  | basic (name : String) (dims : Nat) (span : Span)
  /-- The argument `?`. -/
  | wildcard (span : Span)
  /-- The argument `? extends T` or `? super T`. -/
  | boundedWildcard (kind : BoundKind) (bound : JavaType) (span : Span)
  /-- Names joined by dots, the outermost first: `Map.Entry<K, V>`. -/
  | nested (segments : List ReferenceType) (dims : Nat) (span : Span)

/-- A name with type arguments and array dimensions. -/
inductive ReferenceType where
  | mk (name : String) (arguments : List JavaType) (dims : Nat) (span : Span)

end

namespace ReferenceType

def name : ReferenceType → String
  | .mk name _ _ _ => name

def arguments : ReferenceType → List JavaType
  | .mk _ arguments _ _ => arguments

def dims : ReferenceType → Nat
  | .mk _ _ dims _ => dims

def span : ReferenceType → Span
  | .mk _ _ _ span => span

end ReferenceType

namespace JavaType

/-- The place of a type in its source. -/
def span : JavaType → Span
  | .reference type => type.span
  | .argument _ span | .basic _ _ span | .wildcard span | .boundedWildcard _ _ span
  | .nested _ _ span => span

/-- What a type is, in the words of error messages. -/
def shape : JavaType → String
  | .reference _ => "reference type"
  | .argument _ _ => "type argument"
  | .basic _ _ _ => "basic type"
  | .wildcard _ | .boundedWildcard _ _ _ => "wildcard type argument"
  | .nested _ _ _ => "nested type reference"

/-- The type with the array dimensions that follow a declared name: `String args[]`. A
wildcard has no dimensions. -/
def addDimensions (extra : Nat) : JavaType → JavaType
  | .reference (.mk name arguments dims span) => .reference (.mk name arguments (dims + extra) span)
  | .argument inner span => .argument (inner.addDimensions extra) span
  | .basic name dims span => .basic name (dims + extra) span
  | .wildcard span => .wildcard span
  | .boundedWildcard kind bound span => .boundedWildcard kind bound span
  | .nested segments dims span => .nested segments (dims + extra) span

@[simp] theorem addDimensions_zero : ∀ t : JavaType, t.addDimensions 0 = t
  | .reference (.mk _ _ _ _) => rfl
  | .argument inner span => by simp [addDimensions, addDimensions_zero inner]
  | .basic _ _ _ => rfl
  | .wildcard _ => rfl
  | .boundedWildcard _ _ _ => rfl
  | .nested _ _ _ => rfl

theorem addDimensions_add (m n : Nat) :
    ∀ t : JavaType, (t.addDimensions m).addDimensions n = t.addDimensions (m + n)
  | .reference (.mk _ _ _ _) => by simp [addDimensions, Nat.add_assoc]
  | .argument inner span => by simp [addDimensions, addDimensions_add m n inner]
  | .basic _ _ _ => by simp [addDimensions, Nat.add_assoc]
  | .wildcard _ => rfl
  | .boundedWildcard _ _ _ => rfl
  | .nested _ _ _ => by simp [addDimensions, Nat.add_assoc]

@[simp] theorem span_addDimensions (extra : Nat) (t : JavaType) :
    (t.addDimensions extra).span = t.span := by
  cases t with
  | reference type => cases type; rfl
  | argument inner span => rfl
  | basic name dims span => rfl
  | wildcard span => rfl
  | boundedWildcard kind bound span => rfl
  | nested segments dims span => rfl

end JavaType

end JavaStub
