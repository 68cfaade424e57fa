import JavaStub.Cursor.Basic

/-!
# Loops over tokens

Two ways to read a list. `many` repeats a step until the step declines. `separated` reads
items with separators between them; an item may hand back a number of closing angles that
are owed after it, and nothing follows an item after which any is.
-/

namespace JavaStub.Cursor

variable {α : Type}

/-- The values of a step that is repeated until it declines. -/
def many (step : (c : Cursor) → Except ParseError (Option (Past c α))) (c : Cursor) :
    Except ParseError (Onward c (List α)) := do
  match ← step c with
  | none => return .stay c []
  | some ⟨first, c₁, h₁⟩ =>
    let ⟨more, c₂, h₂⟩ ← (many step c₁).map (·.after h₁)
    return Past.onward ⟨first :: more, c₂, h₂⟩
termination_by c.rest.length

/-- One or more items with separators between them, and the closing angles owed after the
last item. -/
def separated (separator : Token.Kind) (item : (c : Cursor) → Except ParseError (Past c (α × Nat)))
    (c : Cursor) : Except ParseError (Past c (List α × Nat)) := do
  let ⟨(first, owed), c₁, h₁⟩ ← item c
  if owed = 0 then
    match c₁.accept separator with
    | none => return ⟨([first], 0), c₁, h₁⟩
    | some ⟨_, c₂, h₂⟩ =>
      let ⟨(more, owed), c₃, h₃⟩ ← (separated separator item c₂).map fun r => (r.after h₂).after h₁
      return ⟨(first :: more, owed), c₃, h₃⟩
  else return ⟨([first], owed), c₁, h₁⟩
termination_by c.rest.length

/-- A loop whose step declines at once reads nothing. -/
theorem many_of_declined {step : (c : Cursor) → Except ParseError (Option (Past c α))}
    {c : Cursor} (h : step c = .ok none) : many step c = .ok (.stay c []) := by
  rw [many, h]
  rfl

/-- A loop whose step fails at once fails with it. -/
theorem many_of_error {step : (c : Cursor) → Except ParseError (Option (Past c α))}
    {c : Cursor} {e : ParseError} (h : step c = .error e) : many step c = .error e := by
  rw [many, h]
  rfl

/-- A loop reads its first value by a step and the others by the loop after it. -/
theorem many_of_some {step : (c : Cursor) → Except ParseError (Option (Past c α))}
    {c : Cursor} {r : Past c α} (h : step c = .ok (some r)) :
    many step c =
      (many step r.next).map fun more =>
        Past.onward ⟨r.value :: more.value, more.next, (more.after r.lt).lt⟩ := by
  rw [many, h]
  cases hm : many step r.next with
  | error e => simp [bind, Except.bind, Except.map, hm]
  | ok more => simp [bind, Except.bind, Except.map, hm]; rfl

end JavaStub.Cursor
