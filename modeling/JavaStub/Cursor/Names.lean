import JavaStub.Cursor.Loops

/-!
# Names

Identifiers, and names qualified by dots. A dot belongs to a name only when an identifier
follows it.
-/

namespace JavaStub.Cursor

/-- An identifier. -/
def identifier (c : Cursor) : Except ParseError (Past c String) := do
  let ⟨t, c₁, h₁⟩ ← c.expect .identifier .identifier
  return ⟨t.lexeme, c₁, h₁⟩

/-- The dot that joins a name to the identifier after it. -/
def joiningDot (c : Cursor) : Option (Past c Token) :=
  if c.secondKind? = some .identifier then c.accept .dot else none

/-- An identifier that a dot joins to a name, if there is one. -/
def joinedName (c : Cursor) : Except ParseError (Option (Past c String)) := do
  match c.joiningDot with
  | none => return none
  | some ⟨_, c₁, h₁⟩ => return some (← c₁.identifier.map (·.after h₁))

/-- A name, perhaps qualified. -/
def qualifiedName (c : Cursor) : Except ParseError (Past c String) := do
  let ⟨first, c₁, h₁⟩ ← c.identifier
  let ⟨more, c₂, h₂⟩ ← (many joinedName c₁).map (·.after h₁)
  return ⟨".".intercalate (first :: more), c₂, h₂⟩

end JavaStub.Cursor
