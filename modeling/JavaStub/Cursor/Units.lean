import JavaStub.Cursor.Members

/-!
# Reading compilation units

A compilation unit is a package declaration, imports and type declarations, with stray
semicolons between them. Annotations before the keyword `package` belong to the package;
whether they do is seen by looking past them (`packageAhead`).
-/

namespace JavaStub.Cursor

/-! ## Package and imports -/

/-- The tokens after a run of identifiers and dots. -/
def afterNameRun (ts : List Token) : List Token :=
  ts.dropWhile fun t => t.kind = .identifier || t.kind = .dot

theorem afterNameRun_length_le (ts : List Token) : (afterNameRun ts).length ≤ ts.length :=
  (List.dropWhile_suffix _).length_le

/-- Is the keyword `package` next, after annotations however they are written? -/
def packageAhead : List Token → Bool
  | [] => false
  | t :: ts =>
    if t.kind = .atSign && ts.head?.map (·.kind) != some .kwInterface then
      match _ : afterNameRun ts with
      | [] => false
      | u :: us =>
        if u.kind = .lparen then
          match _ : closeGroups .lparen .rparen 1 u.location us with
          | .ok d => packageAhead d.rest
          | .error _ => false
        else packageAhead (u :: us)
    else t.kind = .kwPackage
termination_by ts => ts.length
decreasing_by
  · rename_i run _ closed
    have := closeGroups_le closed
    have := afterNameRun_length_le ts
    simp only [run, List.length_cons] at *
    omega
  · rename_i run _
    have := afterNameRun_length_le ts
    simp only [run, List.length_cons] at *
    omega

/-- A package declaration. -/
def package (c : Cursor) : Except ParseError (Past c Package) := do
  let ⟨_, c₁, h₁⟩ ← c.expect .kwPackage .packageKeyword
  let ⟨name, c₂, h₂⟩ ← c₁.qualifiedName.map (·.after h₁)
  let ⟨_, c₃, h₃⟩ ← (c₂.expect .semicolon .packageEnd).map (·.after h₂)
  return ⟨⟨name, c₃.spanFrom c.location⟩, c₃, h₃⟩

/-- The package declaration at the head of a unit, if there is one. -/
def package? (c : Cursor) : Except ParseError (Onward c (Option Package)) := do
  if packageAhead c.rest then
    let ⟨_, c₁, h₁⟩ ← c.annotations
    let found ← c₁.package.map (·.upon h₁)
    return (found.map some).onward
  else return .stay c none

/-- The star after the dot of a wildcard import; the value tells whether there is one. -/
def importStar (c : Cursor) : Except ParseError (Onward c Bool) := do
  match c.accept .dot with
  | none => return .stay c false
  | some ⟨_, c₁, h₁⟩ =>
    let ⟨_, c₂, h₂⟩ ← (c₁.expect .star .importWildcard).map (·.after h₁)
    return Past.onward ⟨true, c₂, h₂⟩

/-- An import after its keyword, which stands at `start`. -/
def importTail (start : Location) (c : Cursor) : Except ParseError (Past c Import) := do
  let ⟨isStatic, c₁, h₁⟩ := c.optional .kwStatic
  let ⟨name, c₂, h₂⟩ ← c₁.qualifiedName.map (·.upon h₁)
  let ⟨isWildcard, c₃, h₃⟩ ← c₂.importStar.map (·.after h₂)
  let ⟨_, c₄, h₄⟩ ← (c₃.expect .semicolon .importEnd).map (·.after h₃)
  return ⟨⟨name, isStatic, isWildcard, c₄.spanFrom start⟩, c₄, h₄⟩

/-- An import or semicolon, if one stands here; an import is kept. -/
def importOrSemicolon? (c : Cursor) : Except ParseError (Option (Past c (Option Import))) := do
  match c.first? with
  | none => return none
  | some ⟨t, c₁, h₁⟩ =>
    if t.kind = .semicolon then return some ⟨none, c₁, h₁⟩
    else if t.kind = .kwImport then
      let found ← (c₁.importTail t.location).map (·.after h₁)
      return some (found.map some)
    else return none

/-- Imports and stray semicolons; the imports are kept. -/
def imports (c : Cursor) : Except ParseError (Onward c (List Import)) := do
  let ⟨found, c₁, h₁⟩ ← many importOrSemicolon? c
  return ⟨found.filterMap id, c₁, h₁⟩

/-! ## Types -/

/-- A class after its keyword; its modifiers start at `start`. -/
def classTail (start : Location) (modifiers : List Modifier) (c : Cursor) :
    Except ParseError (Past c ClassDeclaration) := do
  let ⟨name, c₁, h₁⟩ ← c.identifier
  let ⟨typeParameters, c₂, h₂⟩ ← c₁.typeParameters.map (·.after h₁)
  let ⟨_, c₃, h₃⟩ ← c₂.headerTail.map (·.after h₂)
  let ⟨_, c₄, h₄⟩ ← (c₃.expect .lbrace .body).map (·.after h₃)
  let ⟨methods, c₅, h₅⟩ ← c₄.members.map (·.after h₄)
  return ⟨⟨modifiers, name, typeParameters, methods, c₅.spanFrom start⟩, c₅, h₅⟩

/-- A type that is no class after its keyword; its modifiers start at `start`. -/
def headerOfType (kind : HeaderKind) (start : Location) (modifiers : List Modifier)
    (c : Cursor) : Except ParseError (Past c Header) := do
  let ⟨name, c₁, h₁⟩ ← c.passedType
  return ⟨⟨kind, modifiers, name, c₁.spanFrom start⟩, c₁, h₁⟩

/-- A type declaration. -/
def typeDeclaration (c : Cursor) : Except ParseError (Past c TypeDeclaration) := do
  let ⟨modifiers, c₁, h₁⟩ ← c.modifiers
  match c₁.typeKeyword with
  | none => .error (c₁.unexpected .typeDeclaration)
  | some ⟨.ofClass, c₂, h₂⟩ =>
    (c₂.classTail c.location modifiers).map fun r => ((r.map .ofClass).after h₂).upon h₁
  | some ⟨.ofHeader kind, c₂, h₂⟩ =>
    (c₂.headerOfType kind c.location modifiers).map fun r =>
      ((r.map .ofHeader).after h₂).upon h₁

/-- A type declaration or semicolon, unless the tokens end here; a declaration is kept. -/
def typeOrSemicolon? (c : Cursor) :
    Except ParseError (Option (Past c (Option TypeDeclaration))) := do
  match c.first? with
  | none => return none
  | some ⟨t, c₁, h₁⟩ =>
    if t.kind = .semicolon then return some ⟨none, c₁, h₁⟩
    else
      let found ← c.typeDeclaration
      return some (found.map some)

/-- Type declarations and stray semicolons through the end of the tokens; the declarations
are kept. -/
def typeDeclarations (c : Cursor) : Except ParseError (Onward c (List TypeDeclaration)) := do
  let ⟨found, c₁, h₁⟩ ← many typeOrSemicolon? c
  return ⟨found.filterMap id, c₁, h₁⟩

/-- A compilation unit, with no token left after it. -/
def compilationUnit (c : Cursor) : Except ParseError CompilationUnit := do
  let ⟨package, c₁, _⟩ ← c.package?
  let ⟨imports, c₂, _⟩ ← c₁.imports
  let ⟨types, c₃, _⟩ ← c₂.typeDeclarations
  return ⟨package, imports, types, c₃.spanFrom c.location⟩

end JavaStub.Cursor
