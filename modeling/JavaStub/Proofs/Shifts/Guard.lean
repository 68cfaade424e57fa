import JavaStub.Cursor.Signatures

/-!
# Guarded readers

How many closing angles are owed is a state that the reading of types hands on from stage to stage.
The guarded readers do what the readers do, but hand this state on at every stage and test it there:
where tokens are looked for no angle may be owed, and behind a closing angle at most two may be.
They halt where a test fails. As each guarded reader comes to what the reader itself comes to,
refusals included, no state in which a test would fail is ever reached.

Main facts:

1. `Guards.bind`: stages that are guarded make guarded readers.
2. `guards_openType`: the mutual readers of types, by recursion on the tokens that are left.
3. `guards_completeType` and `guards_typeParameters`: the two readers that end with all angles
   closed.
-/

namespace JavaStub

/-- Why a guarded reader stops. -/
inductive Halt where
  /-- The tokens are refused. -/
  | refused (e : ParseError)
  /-- Tokens are looked for while closing angles are owed. -/
  | takesWhileOwing
  /-- More than two closing angles are owed. -/
  | owesTooMany

namespace Guarded

variable {α ρ τ : Type}

/-- A stage that looks for tokens, from a state in which `owed` closing angles are owed. -/
def taking (owed : Nat) (x : Except ParseError α) : Except Halt α :=
  if owed = 0 then x.mapError .refused else .error .takesWhileOwing

/-- A stage that ends in a state in which `owed` closing angles are owed. -/
def owing (owed : Nat) (a : α) : Except Halt α :=
  if owed ≤ 2 then .ok a else .error .owesTooMany

/-!
## The guarded readers

Each has the stages of the reader of the same name, from a state in which `owed` closing angles are
owed.
-/

def closeAngle (owed : Nat) (c : Cursor) : Except Halt (Onward c Nat) := do
  if owed = 0 then
    match ← taking owed (.ok (c.next? fun t => Cursor.angleCount t.kind != 0)) with
    | some ⟨t, c₁, h₁⟩ =>
      owing (Cursor.angleCount t.kind - 1) (Past.onward ⟨Cursor.angleCount t.kind - 1, c₁, h₁⟩)
    | none => .error (.refused (c.unexpected .closingAngle))
  else owing (owed - 1) (.stay c (owed - 1))

def dimensionsUnlessOwed (owed : Nat) (c : Cursor) : Except Halt (Onward c Nat) :=
  if owed = 0 then taking owed c.dimensions else .ok (.stay c 0)

mutual

def openType (owed : Nat) (c : Cursor) : Except Halt (Past c (JavaType × Nat)) := do
  let ⟨_, c₁, h₁⟩ ← taking owed c.annotations
  match ← taking owed (.ok (c₁.next? fun t => t.kind.isPrimitive)) with
  | some ⟨t, c₂, h₂⟩ =>
    let ⟨dims, c₃, h₃⟩ ← (taking owed c₂.dimensions).map fun r => (r.after h₂).upon h₁
    return ⟨(.basic t.lexeme dims (c₃.spanFrom c.location), owed), c₃, h₃⟩
  | none =>
    let ⟨(first, owed), c₂, h₂⟩ ← (segment owed c₁).map (·.upon h₁)
    let ⟨(more, owed), c₃, h₃⟩ ← (segmentTail owed c₂).map (·.after h₂)
    let ⟨dims, c₄, h₄⟩ ← (dimensionsUnlessOwed owed c₃).map (·.after h₃)
    return ⟨(Cursor.typeOfSegments first more dims (c₄.spanFrom c.location), owed), c₄, h₄⟩
termination_by 6 * c.rest.length + 2

def segment (owed : Nat) (c : Cursor) : Except Halt (Past c (ReferenceType × Nat)) := do
  let ⟨name, c₁, h₁⟩ ← taking owed c.identifier
  match ← taking owed (.ok (c₁.accept .lt)) with
  | none => return ⟨(.mk name [] 0 (c₁.spanFrom c.location), owed), c₁, h₁⟩
  | some ⟨_, c₂, h₂⟩ =>
    let ⟨(arguments, owed), c₃, h₃⟩ ← (typeArguments owed c₂).map fun r => (r.after h₂).after h₁
    return ⟨(.mk name arguments 0 (c₃.spanFrom c.location), owed), c₃, h₃⟩
termination_by 6 * c.rest.length + 1

def segmentTail (owed : Nat) (c : Cursor) :
    Except Halt (Onward c (List ReferenceType × Nat)) := do
  if owed = 0 then
    match ← taking owed (.ok c.joiningDot) with
    | none => return .stay c ([], owed)
    | some ⟨_, c₁, h₁⟩ =>
      let ⟨(first, owed), c₂, h₂⟩ ← segment owed c₁
      let ⟨(more, owed), c₃, h₃⟩ ← (segmentTail owed c₂).map fun r => (r.after h₂).after h₁
      return Past.onward ⟨(first :: more, owed), c₃, h₃⟩
  else return .stay c ([], owed)
termination_by 6 * c.rest.length

def typeArguments (owed : Nat) (c : Cursor) : Except Halt (Onward c (List JavaType × Nat)) := do
  if c.atClosingAngle then
    let ⟨owed, c₁, h₁⟩ ← closeAngle owed c
    return ⟨([], owed), c₁, h₁⟩
  else
    let ⟨(arguments, owed), c₁, h₁⟩ ← argumentList owed c
    let ⟨owed, c₂, h₂⟩ ← (closeAngle owed c₁).map (·.after h₁)
    return Past.onward ⟨(arguments, owed), c₂, h₂⟩
termination_by 6 * c.rest.length + 5

def argumentList (owed : Nat) (c : Cursor) : Except Halt (Past c (List JavaType × Nat)) := do
  let ⟨(first, owed), c₁, h₁⟩ ← typeArgument owed c
  if owed = 0 then
    match ← taking owed (.ok (c₁.accept .comma)) with
    | none => return ⟨([first], owed), c₁, h₁⟩
    | some ⟨_, c₂, h₂⟩ =>
      let ⟨(more, owed), c₃, h₃⟩ ← (argumentList owed c₂).map fun r => (r.after h₂).after h₁
      return ⟨(first :: more, owed), c₃, h₃⟩
  else return ⟨([first], owed), c₁, h₁⟩
termination_by 6 * c.rest.length + 4

def typeArgument (owed : Nat) (c : Cursor) : Except Halt (Past c (JavaType × Nat)) := do
  let ⟨_, c₁, h₁⟩ ← taking owed c.annotations
  match ← taking owed (.ok (c₁.accept .question)) with
  | none =>
    let ⟨(inner, owed), c₂, h₂⟩ ← (openType owed c₁).map (·.upon h₁)
    return ⟨(.argument inner (c₂.spanFrom c.location), owed), c₂, h₂⟩
  | some ⟨_, c₂, h₂⟩ =>
    match ← taking owed (.ok (c₂.accept .kwExtends)) with
    | some ⟨_, c₃, h₃⟩ =>
      let ⟨(bound, owed), c₄, h₄⟩ ←
        (openType owed c₃).map fun r => ((r.after h₃).after h₂).upon h₁
      return ⟨(.boundedWildcard .upper bound (c₄.spanFrom c.location), owed), c₄, h₄⟩
    | none =>
      match ← taking owed (.ok (c₂.accept .kwSuper)) with
      | some ⟨_, c₃, h₃⟩ =>
        let ⟨(bound, owed), c₄, h₄⟩ ←
          (openType owed c₃).map fun r => ((r.after h₃).after h₂).upon h₁
        return ⟨(.boundedWildcard .lower bound (c₄.spanFrom c.location), owed), c₄, h₄⟩
      | none => return Past.upon ⟨(.wildcard (c₂.spanFrom c.location), owed), c₂, h₂⟩ h₁
termination_by 6 * c.rest.length + 3

end

def completeType (owed : Nat) (c : Cursor) : Except Halt (Past c JavaType) := do
  let read ← openType owed c
  (Cursor.balanced read).mapError .refused

def separated (separator : Token.Kind)
    (item : (owed : Nat) → (c : Cursor) → Except Halt (Past c (α × Nat))) (owed : Nat)
    (c : Cursor) : Except Halt (Past c (List α × Nat)) := do
  let ⟨(first, owed), c₁, h₁⟩ ← item owed c
  if owed = 0 then
    match ← taking owed (.ok (c₁.accept separator)) with
    | none => return ⟨([first], owed), c₁, h₁⟩
    | some ⟨_, c₂, h₂⟩ =>
      let ⟨(more, owed), c₃, h₃⟩ ←
        (separated separator item owed c₂).map fun r => (r.after h₂).after h₁
      return ⟨(first :: more, owed), c₃, h₃⟩
  else return ⟨([first], owed), c₁, h₁⟩
termination_by c.rest.length

def bound (owed : Nat) (c : Cursor) : Except Halt (Past c (Unit × Nat)) := do
  let ⟨(_, owed), c₁, h₁⟩ ← openType owed c
  return ⟨((), owed), c₁, h₁⟩

def bounds (owed : Nat) (c : Cursor) : Except Halt (Onward c Nat) := do
  match ← taking owed (.ok (c.accept .kwExtends)) with
  | none => return .stay c owed
  | some ⟨_, c₁, h₁⟩ =>
    let ⟨(_, owed), c₂, h₂⟩ ← (separated .amp bound owed c₁).map (·.after h₁)
    return Past.onward ⟨owed, c₂, h₂⟩

def typeParameter (owed : Nat) (c : Cursor) : Except Halt (Past c (String × Nat)) := do
  let ⟨_, c₁, h₁⟩ ← taking owed c.annotations
  let ⟨name, c₂, h₂⟩ ← (taking owed c₁.identifier).map (·.upon h₁)
  let ⟨owed, c₃, h₃⟩ ← (bounds owed c₂).map (·.after h₂)
  return ⟨(name, owed), c₃, h₃⟩

def typeParameters (owed : Nat) (c : Cursor) : Except Halt (Onward c (List String)) := do
  match ← taking owed (.ok (c.accept .lt)) with
  | none => return .stay c []
  | some ⟨_, c₁, h₁⟩ =>
    let ⟨(names, owed), c₂, h₂⟩ ← (separated .comma typeParameter owed c₁).map (·.after h₁)
    let ⟨owed, c₃, h₃⟩ ← (closeAngle owed c₂).map (·.after h₂)
    let closed ← (Cursor.balanced ⟨(names, owed), c₃, h₃⟩).mapError .refused
    return closed.onward

/-! ## No test fails -/

variable {β σ : Type} {c : Cursor}

/-- The guarded reader `y` is the reader `x`, and at most two closing angles are owed behind it. -/
structure Guards (owes : ρ → Nat) (y : Except Halt ρ) (x : Except ParseError ρ) : Prop where
  same : y = x.mapError .refused
  few : ∀ r, x = .ok r → owes r ≤ 2

section Stages

variable {owes : ρ → Nat} {owes' : τ → Nat} {x : Except ParseError ρ} {y : Except Halt ρ}

theorem Guards.bind {f : ρ → Except ParseError τ} {g : ρ → Except Halt τ} (h : Guards owes y x)
    (next : ∀ r, owes r ≤ 2 → Guards owes' (g r) (f r)) : Guards owes' (y >>= g) (x >>= f) := by
  obtain ⟨rfl, few⟩ := h
  cases x with
  | error e => exact ⟨rfl, nofun⟩
  | ok r => exact next r (few r rfl)

/-- A stage whose value is moved back to an earlier cursor. -/
theorem Guards.bindMap {φ : ρ → σ} {f : σ → Except ParseError τ} {g : σ → Except Halt τ}
    (h : Guards owes y x) (next : ∀ r, owes r ≤ 2 → Guards owes' (g (φ r)) (f (φ r))) :
    Guards owes' (y.map φ >>= g) (x.map φ >>= f) := by
  obtain ⟨rfl, few⟩ := h
  cases x with
  | error e => exact ⟨rfl, nofun⟩
  | ok r => exact next r (few r rfl)

theorem guards_ok {r : ρ} (h : owes r ≤ 2) : Guards owes (.ok r) (.ok r) := by
  refine ⟨rfl, fun _ read => ?_⟩
  cases read
  exact h

/-- A reader of tokens that starts where no angle is owed passes the test. -/
theorem guards_taking (x : Except ParseError ρ) : Guards (fun _ => 0) (taking 0 x) x :=
  ⟨rfl, fun _ _ => Nat.zero_le 2⟩

@[simp] theorem taking_ok_bind {α : Type} (a : α) (g : α → Except Halt τ) :
    (taking 0 (.ok a) >>= g) = g a := rfl

end Stages

theorem angleCount_le (k : Token.Kind) : Cursor.angleCount k ≤ 3 := by
  cases k <;> decide

theorem guards_closeAngle {owed : Nat} (few : owed ≤ 2) (c : Cursor) :
    Guards (·.value) (closeAngle owed c) (c.closeAngle owed) := by
  unfold closeAngle Cursor.closeAngle
  by_cases none : owed = 0
  · rw [none, if_pos rfl, if_pos rfl, taking_ok_bind]
    cases c.next? fun t => Cursor.angleCount t.kind != 0 with
    | none => exact ⟨rfl, nofun⟩
    | some r =>
      have := angleCount_le r.value.kind
      have left : Cursor.angleCount r.value.kind - 1 ≤ 2 := by omega
      show Guards _ (owing (Cursor.angleCount r.value.kind - 1) _) _
      rw [owing, if_pos left]
      exact guards_ok left
  · have left : owed - 1 ≤ 2 := by omega
    rw [if_neg none, if_neg none, owing, if_pos left]
    exact guards_ok left

theorem guards_dimensionsUnlessOwed (owed : Nat) (c : Cursor) :
    Guards (fun _ => 0) (dimensionsUnlessOwed owed c) (c.dimensionsUnlessOwed owed) := by
  unfold dimensionsUnlessOwed Cursor.dimensionsUnlessOwed
  by_cases none : owed = 0
  · rw [none, if_pos rfl, if_pos rfl]
    exact guards_taking _
  · rw [if_neg none, if_neg none]
    exact guards_ok (Nat.zero_le 2)

mutual

theorem guards_openType (c : Cursor) : Guards (·.value.2) (openType 0 c) c.openType := by
  rw [openType, Cursor.openType]
  refine (guards_taking _).bind fun ⟨_, c₁, h₁⟩ _ => ?_
  dsimp only
  rw [taking_ok_bind]
  rcases c₁.next? (fun t => t.kind.isPrimitive) with _ | ⟨t, c₂, h₂⟩
  · refine (guards_segment c₁).bindMap fun ⟨⟨first, owed⟩, c₂, h₂⟩ few => ?_
    refine (guards_segmentTail few c₂).bindMap fun ⟨⟨more, owed⟩, c₃, h₃⟩ few => ?_
    refine (guards_dimensionsUnlessOwed owed c₃).bindMap fun ⟨dims, c₄, h₄⟩ _ => ?_
    exact guards_ok few
  · refine (guards_taking _).bindMap fun ⟨dims, c₃, h₃⟩ _ => ?_
    exact guards_ok (Nat.zero_le 2)
termination_by 6 * c.rest.length + 2

theorem guards_segment (c : Cursor) : Guards (·.value.2) (segment 0 c) c.segment := by
  rw [segment, Cursor.segment]
  refine (guards_taking _).bind fun ⟨name, c₁, h₁⟩ _ => ?_
  dsimp only
  rw [taking_ok_bind]
  rcases c₁.accept .lt with _ | ⟨t, c₂, h₂⟩
  · exact guards_ok (Nat.zero_le 2)
  · refine (guards_typeArguments c₂).bindMap fun ⟨⟨arguments, owed⟩, c₃, h₃⟩ few => ?_
    exact guards_ok few
termination_by 6 * c.rest.length + 1

theorem guards_segmentTail {owed : Nat} (few : owed ≤ 2) (c : Cursor) :
    Guards (·.value.2) (segmentTail owed c) (c.segmentTail owed) := by
  rw [segmentTail, Cursor.segmentTail]
  by_cases none : owed = 0
  · rw [none, if_pos rfl, if_pos rfl, taking_ok_bind]
    rcases c.joiningDot with _ | ⟨t, c₁, h₁⟩
    · exact guards_ok (Nat.zero_le 2)
    · refine (guards_segment c₁).bind fun ⟨⟨first, owed⟩, c₂, h₂⟩ few => ?_
      refine (guards_segmentTail few c₂).bindMap fun ⟨⟨more, owed⟩, c₃, h₃⟩ few => ?_
      exact guards_ok few
  · rw [if_neg none, if_neg none]
    exact guards_ok few
termination_by 6 * c.rest.length

theorem guards_typeArguments (c : Cursor) :
    Guards (·.value.2) (typeArguments 0 c) c.typeArguments := by
  rw [typeArguments, Cursor.typeArguments]
  split
  · refine (guards_closeAngle (Nat.zero_le 2) c).bind fun ⟨owed, c₁, h₁⟩ few => ?_
    exact guards_ok few
  · refine (guards_argumentList c).bind fun ⟨⟨arguments, owed⟩, c₁, h₁⟩ few => ?_
    refine (guards_closeAngle few c₁).bindMap fun ⟨owed, c₂, h₂⟩ few => ?_
    exact guards_ok few
termination_by 6 * c.rest.length + 5

theorem guards_argumentList (c : Cursor) :
    Guards (·.value.2) (argumentList 0 c) c.argumentList := by
  rw [argumentList, Cursor.argumentList]
  refine (guards_typeArgument c).bind fun ⟨⟨first, owed⟩, c₁, h₁⟩ few => ?_
  by_cases none : owed = 0
  · subst none
    dsimp only
    rw [if_pos rfl, if_pos rfl, taking_ok_bind]
    rcases c₁.accept .comma with _ | ⟨t, c₂, h₂⟩
    · exact guards_ok (Nat.zero_le 2)
    · refine (guards_argumentList c₂).bindMap fun ⟨⟨more, owed⟩, c₃, h₃⟩ few => ?_
      exact guards_ok few
  · dsimp only
    rw [if_neg none, if_neg none]
    exact guards_ok few
termination_by 6 * c.rest.length + 4

theorem guards_typeArgument (c : Cursor) :
    Guards (·.value.2) (typeArgument 0 c) c.typeArgument := by
  rw [typeArgument, Cursor.typeArgument]
  refine (guards_taking _).bind fun ⟨_, c₁, h₁⟩ _ => ?_
  dsimp only
  rw [taking_ok_bind]
  rcases c₁.accept .question with _ | ⟨t, c₂, h₂⟩
  · refine (guards_openType c₁).bindMap fun ⟨⟨inner, owed⟩, c₂, h₂⟩ few => ?_
    exact guards_ok few
  · dsimp only
    rw [taking_ok_bind]
    rcases c₂.accept .kwExtends with _ | ⟨t, c₃, h₃⟩
    · dsimp only
      rw [taking_ok_bind]
      rcases c₂.accept .kwSuper with _ | ⟨t, c₃, h₃⟩
      · exact guards_ok (Nat.zero_le 2)
      · refine (guards_openType c₃).bindMap fun ⟨⟨inner, owed⟩, c₄, h₄⟩ few => ?_
        exact guards_ok few
    · refine (guards_openType c₃).bindMap fun ⟨⟨inner, owed⟩, c₄, h₄⟩ few => ?_
      exact guards_ok few
termination_by 6 * c.rest.length + 3

end

theorem guards_separated {separator : Token.Kind}
    {item : (c : Cursor) → Except ParseError (Past c (α × Nat))}
    {item' : (owed : Nat) → (c : Cursor) → Except Halt (Past c (α × Nat))}
    (h : ∀ c, Guards (·.value.2) (item' 0 c) (item c)) (c : Cursor) :
    Guards (·.value.2) (separated separator item' 0 c) (Cursor.separated separator item c) := by
  rw [separated, Cursor.separated]
  refine (h c).bind fun ⟨⟨first, owed⟩, c₁, h₁⟩ few => ?_
  by_cases none : owed = 0
  · subst none
    dsimp only
    rw [if_pos rfl, if_pos rfl, taking_ok_bind]
    rcases c₁.accept separator with _ | ⟨t, c₂, h₂⟩
    · exact guards_ok (Nat.zero_le 2)
    · refine (guards_separated h c₂).bindMap fun ⟨⟨more, owed⟩, c₃, h₃⟩ few => ?_
      exact guards_ok few
  · dsimp only
    rw [if_neg none, if_neg none]
    exact guards_ok few
termination_by c.rest.length

theorem guards_bound (c : Cursor) : Guards (·.value.2) (bound 0 c) c.bound :=
  (guards_openType c).bind fun _ few => guards_ok few

theorem guards_bounds (c : Cursor) : Guards (·.value) (bounds 0 c) c.bounds := by
  unfold bounds Cursor.bounds
  rw [taking_ok_bind]
  rcases c.accept .kwExtends with _ | ⟨t, c₁, h₁⟩
  · exact guards_ok (Nat.zero_le 2)
  · exact (guards_separated guards_bound c₁).bindMap fun _ few => guards_ok few

theorem guards_typeParameter (c : Cursor) :
    Guards (·.value.2) (typeParameter 0 c) c.typeParameter := by
  unfold typeParameter Cursor.typeParameter
  refine (guards_taking _).bind fun ⟨_, c₁, h₁⟩ _ => ?_
  refine (guards_taking _).bindMap fun ⟨name, c₂, h₂⟩ _ => ?_
  exact (guards_bounds c₂).bindMap fun _ few => guards_ok few

/-- Behind a reader that ends with all angles closed none is owed. -/
theorem guards_balanced (r : Past c (α × Nat)) :
    Guards (fun _ => 0) ((Cursor.balanced r).mapError .refused) (Cursor.balanced r) :=
  ⟨rfl, fun _ _ => Nat.zero_le 2⟩

theorem guards_completeType (c : Cursor) :
    Guards (fun _ => 0) (completeType 0 c) c.completeType :=
  (guards_openType c).bind fun r _ => guards_balanced r

theorem guards_typeParameters (c : Cursor) :
    Guards (fun _ => 0) (typeParameters 0 c) c.typeParameters := by
  unfold typeParameters Cursor.typeParameters
  rw [taking_ok_bind]
  rcases c.accept .lt with _ | ⟨t, c₁, h₁⟩
  · exact guards_ok (Nat.zero_le 2)
  · refine (guards_separated guards_typeParameter c₁).bindMap fun ⟨⟨names, owed⟩, c₂, h₂⟩ few => ?_
    refine (guards_closeAngle few c₂).bindMap fun ⟨owed, c₃, h₃⟩ few => ?_
    exact (guards_balanced _).bind fun _ _ => guards_ok (Nat.zero_le 2)

end Guarded

end JavaStub
