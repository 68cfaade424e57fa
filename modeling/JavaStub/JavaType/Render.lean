import JavaStub.Stub.Error

/-!
# Types in a stub

The text of a type in a stub. Arguments are separated by a bare comma. Wildcards and types
qualified by a dot are refused.
-/

namespace JavaStub

mutual

/-- The text of a type in a stub. -/
def JavaType.render : JavaType → Except StubError String
  | .reference type => type.render
  | .argument inner _ => inner.render
  | .basic name dims _ => .ok (name ++ brackets dims)
  | .wildcard span => .error (.unsupportedType (.wildcard span))
  | .boundedWildcard kind bound span =>
    .error (.unsupportedType (.boundedWildcard kind bound span))
  | .nested segments dims span => .error (.unsupportedType (.nested segments dims span))

/-- The text of a reference type in a stub. -/
def ReferenceType.render : ReferenceType → Except StubError String
  | .mk name arguments dims _ =>
    (renderArguments arguments).map fun texts => name ++ angled "," texts ++ brackets dims

/-- The texts of type arguments in a stub. -/
def renderArguments : List JavaType → Except StubError (List String)
  | [] => .ok []
  | t :: ts =>
    match t.render with
    | .error e => .error e
    | .ok text => (renderArguments ts).map (text :: ·)

end

/-- The text of the type of a result in a stub. -/
def renderResult : Option JavaType → Except StubError String
  | none => .ok "void"
  | some type => type.render

end JavaStub
