import JavaStub.Cursor.Signatures

/-!
# Reading class bodies

The members of a class: semicolons, initializers, nested types, constructors, fields and
methods. All are passed, and the methods are kept.
-/

namespace JavaStub.Cursor

/-- What a keyword of a type declaration introduces. -/
inductive Introduced where
  | ofClass
  | ofHeader (kind : HeaderKind)
  deriving DecidableEq, Repr

/-- The keyword of a type declaration, if one stands here. `record` is one when a name
follows it. -/
def typeKeyword (c : Cursor) : Option (Past c Introduced) :=
  match c.first? with
  | none => none
  | some ⟨t, c₁, h₁⟩ =>
    match t.kind with
    | .kwClass => some ⟨.ofClass, c₁, h₁⟩
    | .kwInterface => some ⟨.ofHeader .interface, c₁, h₁⟩
    | .kwEnum => some ⟨.ofHeader .enum, c₁, h₁⟩
    | .atSign =>
      match c₁.accept .kwInterface with
      | some ⟨_, c₂, h₂⟩ => some (Past.after ⟨.ofHeader .annotationType, c₂, h₂⟩ h₁)
      | none => none
    | .identifier =>
      if t.lexeme = "record" && c₁.kind? = some .identifier then
        some ⟨.ofHeader .record, c₁, h₁⟩
      else none
    | _ => none

/-- The name of a type whose header and body are passed. -/
def passedType (c : Cursor) : Except ParseError (Past c String) := do
  let ⟨name, c₁, h₁⟩ ← c.identifier
  let ⟨_, c₂, h₂⟩ ← c₁.headerTail.map (·.after h₁)
  let ⟨_, c₃, h₃⟩ ← (c₂.group .lbrace .rbrace).map (·.after h₂)
  return ⟨name, c₃, h₃⟩

/-- Does a constructor start here, after its modifiers and type parameters? -/
def atConstructor (c : Cursor) : Bool :=
  c.kind? = some .identifier && c.secondKind? = some .lparen

/-- Passes a constructor after its modifiers and type parameters. -/
def constructor (c : Cursor) : Except ParseError (Past c Unit) := do
  let ⟨_, c₁, h₁⟩ ← c.identifier
  let ⟨_, c₂, h₂⟩ ← (c₁.group .lparen .rparen).map (·.after h₁)
  c₂.memberTail.map (·.after h₂)

/-- The type of a result, `none` for `void`. -/
def resultType (c : Cursor) : Except ParseError (Past c (Option JavaType)) := do
  match c.accept .kwVoid with
  | some ⟨_, c₁, h₁⟩ => return ⟨none, c₁, h₁⟩
  | none => c.completeType.map (·.map some)

/-- The type of a result with the dimensions that follow the parameters. -/
def withDimensions (result : Option JavaType) (dims : Nat) (last : Location) :
    Except ParseError (Option JavaType) :=
  match result with
  | some type => .ok (some (type.addDimensions dims))
  | none => if dims = 0 then .ok none else .error (.voidDimensions last)

/-- The rest of a method after its opening bracket: its parameters, the type of its result
with dimensions written after them, and its body, which is passed. -/
def methodTail (result : Option JavaType) (c : Cursor) :
    Except ParseError (Past c (List Parameter × Option JavaType)) := do
  let ⟨parameters, c₁, h₁⟩ ← c.parameters
  let ⟨dims, c₂, h₂⟩ ← c₁.dimensions.map (·.after h₁)
  let result ← withDimensions result dims c₂.last
  let ⟨_, c₃, h₃⟩ ← c₂.memberTail.map (·.after h₂)
  return ⟨(parameters, result), c₃, h₃⟩

/-- A field or method after its modifiers and type parameters; a method is kept. -/
def fieldOrMethod (start : Location) (modifiers : List Modifier) (typeParameters : List String)
    (c : Cursor) : Except ParseError (Past c (Option Method)) := do
  let ⟨result, c₁, h₁⟩ ← c.resultType
  let ⟨name, c₂, h₂⟩ ← c₁.identifier.map (·.after h₁)
  match c₂.accept .lparen with
  | none =>
    let ⟨_, c₃, h₃⟩ ← c₂.fieldTail.map (·.after h₂)
    return ⟨none, c₃, h₃⟩
  | some ⟨_, c₃, h₃⟩ =>
    let ⟨(parameters, result), c₄, h₄⟩ ←
      (c₃.methodTail result).map fun r => (r.after h₃).after h₂
    return ⟨some ⟨modifiers, typeParameters, result, name, parameters, c₄.spanFrom start⟩, c₄, h₄⟩

/-- A member after its modifiers, if it is no initializer and no type; a method is kept. -/
def plainMember (start : Location) (modifiers : List Modifier) (c : Cursor) :
    Except ParseError (Past c (Option Method)) := do
  let ⟨typeParameters, c₁, h₁⟩ ← c.typeParameters
  if c₁.atConstructor then c₁.constructor.map fun r => (r.map fun _ => none).upon h₁
  else (c₁.fieldOrMethod start modifiers typeParameters).map (·.upon h₁)

/-- A member that is no lone semicolon; a method is kept. -/
def member (c : Cursor) : Except ParseError (Past c (Option Method)) := do
  let ⟨modifiers, c₁, h₁⟩ ← c.modifiers
  if c₁.kind? = some .lbrace then
    (c₁.group .lbrace .rbrace).map fun r => (r.map fun _ => none).upon h₁
  else
    match c₁.typeKeyword with
    | some ⟨_, c₂, h₂⟩ => c₂.passedType.map fun r => ((r.map fun _ => none).after h₂).upon h₁
    | none => (c₁.plainMember c.location modifiers).map (·.upon h₁)

/-- A member or semicolon, unless the class ends here; a method is kept. -/
def memberOrSemicolon? (c : Cursor) : Except ParseError (Option (Past c (Option Method))) :=
  match c.first? with
  | none => .ok none
  | some ⟨t, c₁, h₁⟩ =>
    if t.kind = .rbrace then .ok none
    else if t.kind = .semicolon then .ok (some ⟨none, c₁, h₁⟩)
    else c.member.map some

/-- The methods among the members of a class, through the brace that closes its body. -/
def members (c : Cursor) : Except ParseError (Past c (List Method)) := do
  let ⟨found, c₁, h₁⟩ ← many memberOrSemicolon? c
  let ⟨_, c₂, h₂⟩ ← (c₁.expect .rbrace .classEnd).map (·.upon h₁)
  return ⟨found.filterMap id, c₂, h₂⟩

end JavaStub.Cursor
