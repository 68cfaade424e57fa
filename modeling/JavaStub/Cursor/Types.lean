import JavaStub.Cursor.Groups
import JavaStub.JavaType.Basic

/-!
# Reading types

A type is a primitive keyword or names joined by dots, each with its type arguments, and
array dimensions after the last. The lexemes `>>` and `>>>` close more than one list of
arguments. So every step that can end in one also hands back how many closing angles are
still owed: those that the last lexeme wrote beyond the list it closed. While any is owed
nothing more belongs to the type, and the lists around it are closed first.
-/

namespace JavaStub.Cursor

/-- One array dimension, an empty pair of brackets, if one starts here. -/
def dimension? (c : Cursor) : Except ParseError (Option (Past c Unit)) := do
  match c.accept .lbracket with
  | none => return none
  | some ⟨_, c₁, h₁⟩ =>
    let ⟨_, c₂, h₂⟩ ← (c₁.expect .rbracket .dimensionEnd).map (·.after h₁)
    return some ⟨(), c₂, h₂⟩

/-- The number of array dimensions. -/
def dimensions (c : Cursor) : Except ParseError (Onward c Nat) := do
  let ⟨dims, c₁, h₁⟩ ← many dimension? c
  return ⟨dims.length, c₁, h₁⟩

/-- The number of array dimensions, unless closing angles are owed. -/
def dimensionsUnlessOwed (owed : Nat) (c : Cursor) : Except ParseError (Onward c Nat) :=
  if owed = 0 then c.dimensions else .ok (.stay c 0)

/-- How many lists of type arguments a lexeme closes. -/
def angleCount : Token.Kind → Nat
  | .gt => 1
  | .rshift => 2
  | .urshift => 3
  | _ => 0

theorem angleCount_of_isPrimitive {k : Token.Kind} (h : k.isPrimitive = true) :
    angleCount k = 0 := by
  cases k <;> first | rfl | cases h

/-- Does the next token close a list of type arguments? -/
def atClosingAngle (c : Cursor) : Bool :=
  match c.kind? with
  | some kind => angleCount kind != 0
  | none => false

/-- Closes a list of type arguments, by an angle that is owed or by the next token. The
value is the number of angles that are owed then. -/
def closeAngle (owed : Nat) (c : Cursor) : Except ParseError (Onward c Nat) :=
  if owed = 0 then
    match c.next? fun t => angleCount t.kind != 0 with
    | some ⟨t, c₁, h₁⟩ => .ok (Past.onward ⟨angleCount t.kind - 1, c₁, h₁⟩)
    | none => .error (c.unexpected .closingAngle)
  else .ok (.stay c (owed - 1))

/-- A type by its names: a plain one, or a nested one if there are several. -/
def typeOfSegments (first : ReferenceType) (more : List ReferenceType) (dims : Nat)
    (span : Span) : JavaType :=
  match more with
  | [] => .reference (.mk first.name first.arguments dims span)
  | _ => .nested (first :: more) dims span

mutual

/-- A type, and the closing angles owed after it. -/
def openType (c : Cursor) : Except ParseError (Past c (JavaType × Nat)) := do
  let ⟨_, c₁, h₁⟩ ← c.annotations
  match c₁.next? fun t => t.kind.isPrimitive with
  | some ⟨t, c₂, h₂⟩ =>
    let ⟨dims, c₃, h₃⟩ ← c₂.dimensions.map fun r => (r.after h₂).upon h₁
    return ⟨(.basic t.lexeme dims (c₃.spanFrom c.location), 0), c₃, h₃⟩
  | none =>
    let ⟨(first, owed), c₂, h₂⟩ ← c₁.segment.map (·.upon h₁)
    let ⟨(more, owed), c₃, h₃⟩ ← (c₂.segmentTail owed).map (·.after h₂)
    let ⟨dims, c₄, h₄⟩ ← (c₃.dimensionsUnlessOwed owed).map (·.after h₃)
    return ⟨(typeOfSegments first more dims (c₄.spanFrom c.location), owed), c₄, h₄⟩
termination_by 6 * c.rest.length + 2

/-- A name with its type arguments, and the closing angles owed after it. -/
def segment (c : Cursor) : Except ParseError (Past c (ReferenceType × Nat)) := do
  let ⟨name, c₁, h₁⟩ ← c.identifier
  match c₁.accept .lt with
  | none => return ⟨(.mk name [] 0 (c₁.spanFrom c.location), 0), c₁, h₁⟩
  | some ⟨_, c₂, h₂⟩ =>
    let ⟨(arguments, owed), c₃, h₃⟩ ← c₂.typeArguments.map fun r => (r.after h₂).after h₁
    return ⟨(.mk name arguments 0 (c₃.spanFrom c.location), owed), c₃, h₃⟩
termination_by 6 * c.rest.length + 1

/-- The names that dots join to one after which `owed` closing angles are owed, and the
angles owed after them. -/
def segmentTail (owed : Nat) (c : Cursor) :
    Except ParseError (Onward c (List ReferenceType × Nat)) := do
  if owed = 0 then
    match c.joiningDot with
    | none => return .stay c ([], 0)
    | some ⟨_, c₁, h₁⟩ =>
      let ⟨(first, owed), c₂, h₂⟩ ← c₁.segment
      let ⟨(more, owed), c₃, h₃⟩ ← (c₂.segmentTail owed).map fun r => (r.after h₂).after h₁
      return Past.onward ⟨(first :: more, owed), c₃, h₃⟩
  else return .stay c ([], owed)
termination_by 6 * c.rest.length

/-- The rest of a list of type arguments after its opening angle, and the closing angles
owed after the list. -/
def typeArguments (c : Cursor) : Except ParseError (Onward c (List JavaType × Nat)) := do
  if c.atClosingAngle then
    let ⟨owed, c₁, h₁⟩ ← c.closeAngle 0
    return ⟨([], owed), c₁, h₁⟩
  else
    let ⟨(arguments, owed), c₁, h₁⟩ ← c.argumentList
    let ⟨owed, c₂, h₂⟩ ← (c₁.closeAngle owed).map (·.after h₁)
    return Past.onward ⟨(arguments, owed), c₂, h₂⟩
termination_by 6 * c.rest.length + 5

/-- Type arguments with commas between them, and the closing angles owed after them. -/
def argumentList (c : Cursor) : Except ParseError (Past c (List JavaType × Nat)) := do
  let ⟨(first, owed), c₁, h₁⟩ ← c.typeArgument
  if owed = 0 then
    match c₁.accept .comma with
    | none => return ⟨([first], 0), c₁, h₁⟩
    | some ⟨_, c₂, h₂⟩ =>
      let ⟨(more, owed), c₃, h₃⟩ ← c₂.argumentList.map fun r => (r.after h₂).after h₁
      return ⟨(first :: more, owed), c₃, h₃⟩
  else return ⟨([first], owed), c₁, h₁⟩
termination_by 6 * c.rest.length + 4

/-- A type argument, and the closing angles owed after it. -/
def typeArgument (c : Cursor) : Except ParseError (Past c (JavaType × Nat)) := do
  let ⟨_, c₁, h₁⟩ ← c.annotations
  match c₁.accept .question with
  | none =>
    let ⟨(inner, owed), c₂, h₂⟩ ← c₁.openType.map (·.upon h₁)
    return ⟨(.argument inner (c₂.spanFrom c.location), owed), c₂, h₂⟩
  | some ⟨_, c₂, h₂⟩ =>
    match c₂.accept .kwExtends with
    | some ⟨_, c₃, h₃⟩ =>
      let ⟨(bound, owed), c₄, h₄⟩ ←
        c₃.openType.map fun r => ((r.after h₃).after h₂).upon h₁
      return ⟨(.boundedWildcard .upper bound (c₄.spanFrom c.location), owed), c₄, h₄⟩
    | none =>
      match c₂.accept .kwSuper with
      | some ⟨_, c₃, h₃⟩ =>
        let ⟨(bound, owed), c₄, h₄⟩ ←
          c₃.openType.map fun r => ((r.after h₃).after h₂).upon h₁
        return ⟨(.boundedWildcard .lower bound (c₄.spanFrom c.location), owed), c₄, h₄⟩
      | none => return Past.upon ⟨(.wildcard (c₂.spanFrom c.location), 0), c₂, h₂⟩ h₁
termination_by 6 * c.rest.length + 3

end

/-- A value after which no closing angle may be owed. -/
def balanced {α : Type} {c : Cursor} (r : Past c (α × Nat)) : Except ParseError (Past c α) :=
  if r.value.2 = 0 then .ok (r.map (·.1))
  else .error (.unbalancedAngle r.next.last)

/-- A type on its own, all angles in it closed. -/
def completeType (c : Cursor) : Except ParseError (Past c JavaType) := do
  balanced (← c.openType)

end JavaStub.Cursor
