import JavaStub.Cursor.Types
import JavaStub.Declaration

/-!
# Reading signatures

Modifiers, type parameters and the parameters of a method. Annotations may stand before and
between modifiers, before a type parameter, and before and after the type of a parameter;
none of them is kept, nor are the bounds of type parameters.
-/

namespace JavaStub.Cursor

/-- The modifier that a kind of token stands for. -/
def modifierOf? : Token.Kind → Option Modifier
  | .kwPublic => some .publicAccess
  | .kwProtected => some .protectedAccess
  | .kwPrivate => some .privateAccess
  | .kwAbstract => some .abstract
  | .kwStatic => some .static
  | .kwFinal => some .final
  | .kwNative => some .native
  | .kwSynchronized => some .synchronized
  | .kwTransient => some .transient
  | .kwVolatile => some .volatile
  | .kwStrictfp => some .strictfp
  | .kwDefault => some .default
  | _ => none

/-- A modifier, or an annotation, which has no value; if one of them stands here. -/
def modifierOrAnnotation? (c : Cursor) : Except ParseError (Option (Past c (Option Modifier))) := do
  match ← c.annotation? with
  | some passed => return some (passed.map fun _ => none)
  | none =>
    match c.first? with
    | none => return none
    | some ⟨t, c₁, h₁⟩ =>
      match modifierOf? t.kind with
      | none => return none
      | some modifier => return some ⟨some modifier, c₁, h₁⟩

/-- Modifiers and annotations in any order; the modifiers are kept. -/
def modifiers (c : Cursor) : Except ParseError (Onward c (List Modifier)) := do
  let ⟨found, c₁, h₁⟩ ← many modifierOrAnnotation? c
  return ⟨found.filterMap id, c₁, h₁⟩

/-! ## Type parameters -/

/-- A bound of a type parameter, of which only the closing angles owed after it are kept. -/
def bound (c : Cursor) : Except ParseError (Past c (Unit × Nat)) := do
  let ⟨(_, owed), c₁, h₁⟩ ← c.openType
  return ⟨((), owed), c₁, h₁⟩

/-- The closing angles owed after the bounds of a type parameter, if it has any. -/
def bounds (c : Cursor) : Except ParseError (Onward c Nat) := do
  match c.accept .kwExtends with
  | none => return .stay c 0
  | some ⟨_, c₁, h₁⟩ =>
    let ⟨(_, owed), c₂, h₂⟩ ← (separated .amp bound c₁).map (·.after h₁)
    return Past.onward ⟨owed, c₂, h₂⟩

/-- A type parameter, and the closing angles owed after it. -/
def typeParameter (c : Cursor) : Except ParseError (Past c (String × Nat)) := do
  let ⟨_, c₁, h₁⟩ ← c.annotations
  let ⟨name, c₂, h₂⟩ ← c₁.identifier.map (·.upon h₁)
  let ⟨owed, c₃, h₃⟩ ← c₂.bounds.map (·.after h₂)
  return ⟨(name, owed), c₃, h₃⟩

/-- The names of the type parameters between angles, if an angle opens here. -/
def typeParameters (c : Cursor) : Except ParseError (Onward c (List String)) := do
  match c.accept .lt with
  | none => return .stay c []
  | some ⟨_, c₁, h₁⟩ =>
    let ⟨(names, owed), c₂, h₂⟩ ← (separated .comma typeParameter c₁).map (·.after h₁)
    let ⟨owed, c₃, h₃⟩ ← (c₂.closeAngle owed).map (·.after h₂)
    let closed ← balanced ⟨(names, owed), c₃, h₃⟩
    return closed.onward

/-! ## Parameters -/

/-- A parameter: its type, an ellipsis for a variable number of arguments, its name, and
dimensions after the name. -/
def parameter (c : Cursor) : Except ParseError (Past c Parameter) := do
  let ⟨_, c₁, h₁⟩ ← c.modifiers
  let ⟨type, c₂, h₂⟩ ← c₁.completeType.map (·.upon h₁)
  let ⟨_, c₃, h₃⟩ ← c₂.annotations.map (·.after h₂)
  let ⟨varargs, c₄, h₄⟩ := (c₃.optional .ellipsis).after h₃
  let ⟨name, c₅, h₅⟩ ← c₄.identifier.map (·.after h₄)
  let ⟨dims, c₆, h₆⟩ ← c₅.dimensions.map (·.after h₅)
  return ⟨⟨type.addDimensions dims, name, varargs, c₆.spanFrom c.location⟩, c₆, h₆⟩

/-- A parameter as an item of a list; no closing angle is owed after it. -/
def parameterItem (c : Cursor) : Except ParseError (Past c (Parameter × Nat)) := do
  let ⟨parameter, c₁, h₁⟩ ← c.parameter
  return ⟨(parameter, 0), c₁, h₁⟩

/-- The rest of the parameters of a method after the opening bracket, through the closing
one. -/
def parameters (c : Cursor) : Except ParseError (Past c (List Parameter)) := do
  match c.accept .rparen with
  | some ⟨_, c₁, h₁⟩ => return ⟨[], c₁, h₁⟩
  | none =>
    let ⟨(parameters, _), c₁, h₁⟩ ← separated .comma parameterItem c
    let ⟨_, c₂, h₂⟩ ← (c₁.expect .rparen .parameterEnd).map (·.after h₁)
    return ⟨parameters, c₂, h₂⟩

end JavaStub.Cursor
