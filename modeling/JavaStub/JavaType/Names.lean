import JavaStub.Stub.Error

/-!
# The names in a type

The simple names that a type refers to: its own, then those of its arguments from left to
right, each with its own arguments. Wildcards and types qualified by a dot are refused.
-/

namespace JavaStub

mutual

/-- The names in a type, repetitions kept. -/
def JavaType.names : JavaType → Except StubError (List String)
  | .reference type => type.names
  | .argument inner _ => inner.names
  | .basic name _ _ => .ok [name]
  | .wildcard span => .error (.unsupportedType (.wildcard span))
  | .boundedWildcard kind bound span =>
    .error (.unsupportedType (.boundedWildcard kind bound span))
  | .nested segments dims span => .error (.unsupportedType (.nested segments dims span))

/-- The names in a reference type. -/
def ReferenceType.names : ReferenceType → Except StubError (List String)
  | .mk name arguments _ _ => (namesOfArguments arguments).map (name :: ·)

/-- The names in a list of type arguments. -/
def namesOfArguments : List JavaType → Except StubError (List String)
  | [] => .ok []
  | t :: ts =>
    match t.names with
    | .error e => .error e
    | .ok names => (namesOfArguments ts).map (names ++ ·)

end

/-- The names in the type of a result; `void` has none. -/
def namesOfResult : Option JavaType → Except StubError (List String)
  | none => .ok []
  | some type => type.names

end JavaStub
