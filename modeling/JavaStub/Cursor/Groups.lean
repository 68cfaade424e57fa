import JavaStub.Cursor.Names

/-!
# Passing what is not kept

Bodies, arguments of annotations and initializers are passed as groups: a group goes from
its opening delimiter to the closing one that matches it, and delimiters of other kinds
inside it do not count. Between groups, headers are passed up to their body, members through
their body or semicolon, and fields through their semicolon.

Main facts:

1. `closeGroups_le`: closing groups leaves no more tokens than there were.
-/

namespace JavaStub.Cursor

open Token (Kind)

/-- Passes the tokens through the one that closes the last of `depth` open groups. -/
def closeGroups (opening closing : Kind) :
    (depth : Nat) → (last : Location) → List Token → Except ParseError Cursor
  | 0, last, ts => .ok ⟨last, ts⟩
  | _ + 1, last, [] => .error (.unexpectedEnd (.delimiter closing) last)
  | depth + 1, _, t :: ts =>
    if t.kind = opening then closeGroups opening closing (depth + 2) t.location ts
    else if t.kind = closing then closeGroups opening closing depth t.location ts
    else closeGroups opening closing (depth + 1) t.location ts

theorem closeGroups_le {opening closing : Kind} {depth : Nat} {last : Location}
    {ts : List Token} {d : Cursor} (h : closeGroups opening closing depth last ts = .ok d) :
    d.rest.length ≤ ts.length := by
  fun_induction closeGroups opening closing depth last ts with
  | case1 last ts =>
    obtain rfl := Except.ok.inj h
    exact Nat.le_refl _
  | case2 => cases h
  | case3 last depth t ts _ ih => exact Nat.le_succ_of_le (ih h)
  | case4 last depth t ts _ _ ih => exact Nat.le_succ_of_le (ih h)
  | case5 last depth t ts _ _ ih => exact Nat.le_succ_of_le (ih h)

/-- Passes the rest of a group whose opening delimiter was read. -/
def restOfGroup (opening closing : Kind) (c : Cursor) : Except ParseError (Onward c Unit) :=
  match h : closeGroups opening closing 1 c.last c.rest with
  | .ok d => .ok ⟨(), d, closeGroups_le h⟩
  | .error e => .error e

/-- Passes a group, its delimiters included. -/
def group (opening closing : Kind) (c : Cursor) : Except ParseError (Past c Unit) := do
  let ⟨_, c₁, h₁⟩ ← c.expect opening (.delimiter opening)
  (c₁.restOfGroup opening closing).map (·.after h₁)

/-! ## Annotations -/

/-- Is this the start of an annotation? The declaration of an annotation type is none. -/
def atAnnotation (c : Cursor) : Bool :=
  c.kind? = some .atSign && c.secondKind? != some .kwInterface

/-- Passes the arguments of an annotation, if it has any. -/
def annotationArguments (c : Cursor) : Except ParseError (Onward c Unit) :=
  if c.kind? = some .lparen then (c.group .lparen .rparen).map Past.onward
  else .ok (.stay c ())

/-- Passes one annotation, if one starts here. -/
def annotation? (c : Cursor) : Except ParseError (Option (Past c Unit)) := do
  if c.atAnnotation then
    let ⟨_, c₁, h₁⟩ ← c.expect .atSign (.delimiter .atSign)
    let ⟨_, c₂, h₂⟩ ← c₁.qualifiedName.map (·.after h₁)
    let passed ← c₂.annotationArguments.map (·.after h₂)
    return some passed
  else return none

/-- Passes annotations with their arguments. -/
def annotations (c : Cursor) : Except ParseError (Onward c Unit) := do
  let ⟨_, c₁, h₁⟩ ← many annotation? c
  return ⟨(), c₁, h₁⟩

/-! ## Headers, members and fields -/

/-- Passes one token or group of a header before its body. -/
def headerPart? (c : Cursor) : Except ParseError (Option (Past c Unit)) :=
  match c.first? with
  | none => .ok none
  | some ⟨t, c₁, h₁⟩ =>
    if t.kind = .lbrace then .ok none
    else if t.kind = .lparen then (c.group .lparen .rparen).map some
    else .ok (some ⟨(), c₁, h₁⟩)

/-- Passes the rest of a header up to the brace that opens the body. -/
def headerTail (c : Cursor) : Except ParseError (Onward c Unit) := do
  let ⟨_, c₁, h₁⟩ ← many headerPart? c
  if c₁.kind? = some .lbrace then return ⟨(), c₁, h₁⟩
  else .error (c₁.unexpected .body)

/-- Passes one token of a member between its parameters and its body. -/
def memberPart? (c : Cursor) : Except ParseError (Option (Past c Unit)) :=
  match c.first? with
  | none => .ok none
  | some ⟨t, c₁, h₁⟩ =>
    if t.kind = .lbrace then .ok none
    else if t.kind = .semicolon then .ok none
    else .ok (some ⟨(), c₁, h₁⟩)

/-- Passes the rest of a method or constructor after its parameters, through its body or
its semicolon. -/
def memberTail (c : Cursor) : Except ParseError (Past c Unit) := do
  let ⟨_, c₁, h₁⟩ ← many memberPart? c
  if c₁.kind? = some .lbrace then (c₁.group .lbrace .rbrace).map (·.upon h₁)
  else
    let ⟨_, c₂, h₂⟩ ← (c₁.expect .semicolon .memberBody).map (·.upon h₁)
    return ⟨(), c₂, h₂⟩

/-- Passes one token or group of a field before its semicolon. -/
def fieldPart? (c : Cursor) : Except ParseError (Option (Past c Unit)) :=
  match c.first? with
  | none => .ok none
  | some ⟨t, c₁, h₁⟩ =>
    if t.kind = .semicolon then .ok none
    else if t.kind = .lbrace then (c.group .lbrace .rbrace).map some
    else if t.kind = .lparen then (c.group .lparen .rparen).map some
    else .ok (some ⟨(), c₁, h₁⟩)

/-- Passes the rest of a field after its name, through its semicolon. -/
def fieldTail (c : Cursor) : Except ParseError (Past c Unit) := do
  let ⟨_, c₁, h₁⟩ ← many fieldPart? c
  let ⟨_, c₂, h₂⟩ ← (c₁.expect .semicolon .fieldEnd).map (·.upon h₁)
  return ⟨(), c₂, h₂⟩

end JavaStub.Cursor
