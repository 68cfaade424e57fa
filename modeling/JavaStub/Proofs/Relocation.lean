import JavaStub.Declaration
import JavaStub.ParseError
import JavaStub.Cursor.Members
import JavaStub.Stub.Error

/-!
# Relocation

The places that tokens come from are kept in spans and errors. A relocation sends every place
to another one and leaves everything else alone: `relocate σ x` is `x` with every place `l` in
it moved to `σ l`. When all places are sent to one (`unplaced`), two values that become equal
are equal up to their spans.

Main facts:

1. `relocate_fixed`: values without places in them stay as they are.
2. `relocate_bind` and `relocate_mapM`: relocation goes through pipelines.
-/

namespace JavaStub

/-- Values in which places can be moved. -/
class Relocatable (α : Type) where
  /-- The value with every place moved. -/
  relocate (σ : Location → Location) (a : α) : α

export Relocatable (relocate)

/-- Values that hold no place. -/
class Fixed (α : Type) [Relocatable α] : Prop where
  eq_self (σ : Location → Location) (a : α) : relocate σ a = a

@[simp] theorem relocate_fixed {α : Type} [Relocatable α] [Fixed α] (σ : Location → Location)
    (a : α) : relocate σ a = a := Fixed.eq_self σ a

/-- The relocation that forgets every place. -/
def unplaced : Location → Location := fun _ => .start

variable {α β : Type} [Relocatable α] [Relocatable β] {σ : Location → Location}

/-! ## Values without places -/

instance : Relocatable Unit := ⟨fun _ a => a⟩
instance : Relocatable Bool := ⟨fun _ a => a⟩
instance : Relocatable Nat := ⟨fun _ a => a⟩
instance : Relocatable String := ⟨fun _ a => a⟩
instance : Relocatable Modifier := ⟨fun _ a => a⟩
instance : Relocatable Token.Kind := ⟨fun _ a => a⟩
instance : Relocatable Cursor.Introduced := ⟨fun _ a => a⟩

instance : Fixed Unit := ⟨fun _ _ => rfl⟩
instance : Fixed Bool := ⟨fun _ _ => rfl⟩
instance : Fixed Nat := ⟨fun _ _ => rfl⟩
instance : Fixed String := ⟨fun _ _ => rfl⟩
instance : Fixed Modifier := ⟨fun _ _ => rfl⟩
instance : Fixed Token.Kind := ⟨fun _ _ => rfl⟩
instance : Fixed Cursor.Introduced := ⟨fun _ _ => rfl⟩

/-! ## Containers -/

instance : Relocatable (List α) := ⟨fun σ as => as.map (relocate σ)⟩
instance : Relocatable (Option α) := ⟨fun σ a => a.map (relocate σ)⟩
instance : Relocatable (α × β) := ⟨fun σ p => (relocate σ p.1, relocate σ p.2)⟩

instance : Relocatable (Except α β) where
  relocate σ
    | .ok b => .ok (relocate σ b)
    | .error a => .error (relocate σ a)

@[simp] theorem relocate_nil : relocate σ ([] : List α) = [] := rfl

@[simp] theorem relocate_cons (a : α) (as : List α) :
    relocate σ (a :: as) = relocate σ a :: relocate σ as := rfl

theorem relocate_list (as : List α) : relocate σ as = as.map (relocate σ) := rfl

@[simp] theorem length_relocate (as : List α) : (relocate σ as).length = as.length :=
  List.length_map _

@[simp] theorem relocate_none : relocate σ (none : Option α) = none := rfl

@[simp] theorem relocate_some (a : α) : relocate σ (some a) = some (relocate σ a) := rfl

@[simp] theorem relocate_pair (a : α) (b : β) :
    relocate σ (a, b) = (relocate σ a, relocate σ b) := rfl

@[simp] theorem relocate_ok (b : β) :
    relocate σ (.ok b : Except α β) = .ok (relocate σ b) := rfl

@[simp] theorem relocate_error (a : α) :
    relocate σ (.error a : Except α β) = .error (relocate σ a) := rfl

/-- What is relocated to a value is a value itself. -/
theorem exists_of_relocate_ok {x : Except α β} {b : β} (h : relocate σ x = .ok b) :
    ∃ a, x = .ok a ∧ relocate σ a = b := by
  cases x with
  | error e => cases h
  | ok a => exact ⟨a, rfl, Except.ok.inj h⟩

instance [Fixed α] : Fixed (List α) :=
  ⟨fun σ as => by rw [relocate_list, funext (relocate_fixed σ), List.map_id']⟩

instance [Fixed α] : Fixed (Option α) := ⟨fun σ a => by cases a <;> simp⟩

/-- Values without places that are equal up to places are equal. -/
theorem eq_ok_of_relocate_eq {γ : Type} [Relocatable γ] [Fixed α] {x y : Except γ α} {a : α}
    (same : relocate σ x = relocate σ y) (h : y = .ok a) : x = .ok a := by
  rw [h, relocate_ok, relocate_fixed σ a] at same
  obtain ⟨_, again, rfl⟩ := exists_of_relocate_ok same
  rw [again, relocate_fixed]

instance [Fixed α] [Fixed β] : Fixed (α × β) := ⟨fun σ ⟨a, b⟩ => by simp⟩

/-! ## Pipelines -/

theorem relocate_bind {γ : Type} [Relocatable γ] {x : Except γ α} {f g : α → Except γ β}
    (h : ∀ a, relocate σ (f a) = g (relocate σ a)) :
    relocate σ (x >>= f) = (relocate σ x >>= g) := by
  cases x with
  | error e => rfl
  | ok a => exact h a

/-- A stage whose value holds no place. -/
theorem relocate_stage {γ : Type} [Relocatable γ] [Fixed α] {x : Except γ α}
    {f g : α → Except γ β} (h : ∀ a, relocate σ (f a) = g a) :
    relocate σ (x >>= f) = (relocate σ x >>= g) :=
  relocate_bind fun a => by rw [h, relocate_fixed]

theorem relocate_result {γ : Type} [Relocatable γ] [Fixed β] (b : β) :
    relocate σ (pure b : Except γ β) = pure b := congrArg Except.ok (relocate_fixed σ b)

theorem relocate_map {γ : Type} [Relocatable γ] {x : Except γ α} {f g : α → β}
    (h : ∀ a, relocate σ (f a) = g (relocate σ a)) :
    relocate σ (x.map f) = (relocate σ x).map g := by
  cases x with
  | error e => rfl
  | ok a => exact congrArg Except.ok (h a)

theorem relocate_mapM {γ : Type} [Relocatable γ] {f g : α → Except γ β}
    (h : ∀ a, relocate σ (f a) = g (relocate σ a)) (as : List α) :
    relocate σ (as.mapM f) = (relocate σ as).mapM g := by
  induction as with
  | nil => rfl
  | cons a as ih =>
    rw [List.mapM_cons, relocate_cons, List.mapM_cons, ← h, ← ih]
    exact relocate_bind fun b => relocate_bind fun bs => rfl

/-! ## Tokens -/

instance : Relocatable Location := ⟨fun σ l => σ l⟩
instance : Relocatable Span := ⟨fun σ s => ⟨σ s.start, σ s.stop⟩⟩
instance : Relocatable Token := ⟨fun σ t => ⟨t.kind, t.lexeme, σ t.location⟩⟩
instance : Relocatable Cursor := ⟨fun σ c => ⟨σ c.last, relocate σ c.rest⟩⟩

@[simp] theorem relocate_location (l : Location) : relocate σ l = σ l := rfl

@[simp] theorem relocate_span (a b : Location) :
    relocate σ (⟨a, b⟩ : Span) = ⟨σ a, σ b⟩ := rfl

@[simp] theorem kind_relocate (t : Token) : (relocate σ t).kind = t.kind := rfl

@[simp] theorem lexeme_relocate (t : Token) : (relocate σ t).lexeme = t.lexeme := rfl

@[simp] theorem location_relocate (t : Token) : (relocate σ t).location = σ t.location := rfl

@[simp] theorem relocate_cursor (l : Location) (ts : List Token) :
    relocate σ (⟨l, ts⟩ : Cursor) = ⟨σ l, relocate σ ts⟩ := rfl

/-! ## Types -/

mutual

/-- A type with every place moved. -/
def JavaType.relocated (σ : Location → Location) : JavaType → JavaType
  | .reference type => .reference (type.relocated σ)
  | .argument inner span => .argument (inner.relocated σ) (relocate σ span)
  | .basic name dims span => .basic name dims (relocate σ span)
  | .wildcard span => .wildcard (relocate σ span)
  | .boundedWildcard kind bound span =>
    .boundedWildcard kind (bound.relocated σ) (relocate σ span)
  | .nested segments dims span => .nested (relocatedSegments σ segments) dims (relocate σ span)

/-- A name with its arguments, every place moved. -/
def ReferenceType.relocated (σ : Location → Location) : ReferenceType → ReferenceType
  | .mk name arguments dims span =>
    .mk name (relocatedArguments σ arguments) dims (relocate σ span)

/-- Type arguments with every place moved. -/
def relocatedArguments (σ : Location → Location) : List JavaType → List JavaType
  | [] => []
  | t :: ts => t.relocated σ :: relocatedArguments σ ts

/-- The names that dots join, every place moved. -/
def relocatedSegments (σ : Location → Location) : List ReferenceType → List ReferenceType
  | [] => []
  | r :: rs => r.relocated σ :: relocatedSegments σ rs

end

instance : Relocatable JavaType := ⟨JavaType.relocated⟩
instance : Relocatable ReferenceType := ⟨ReferenceType.relocated⟩

theorem relocatedArguments_eq (ts : List JavaType) : relocatedArguments σ ts = relocate σ ts := by
  induction ts with
  | nil => rfl
  | cons t ts ih => rw [relocatedArguments, ih]; rfl

theorem relocatedSegments_eq (rs : List ReferenceType) :
    relocatedSegments σ rs = relocate σ rs := by
  induction rs with
  | nil => rfl
  | cons r rs ih => rw [relocatedSegments, ih]; rfl

@[simp] theorem relocate_reference (type : ReferenceType) :
    relocate σ (.reference type : JavaType) = .reference (relocate σ type) := by
  show JavaType.relocated σ _ = _
  rw [JavaType.relocated]; rfl

@[simp] theorem relocate_argument (inner : JavaType) (span : Span) :
    relocate σ (.argument inner span : JavaType) = .argument (relocate σ inner) (relocate σ span) := by
  show JavaType.relocated σ _ = _
  rw [JavaType.relocated]; rfl

@[simp] theorem relocate_basic (name : String) (dims : Nat) (span : Span) :
    relocate σ (.basic name dims span : JavaType) = .basic name dims (relocate σ span) := by
  show JavaType.relocated σ _ = _
  rw [JavaType.relocated]

@[simp] theorem relocate_wildcard (span : Span) :
    relocate σ (.wildcard span : JavaType) = .wildcard (relocate σ span) := by
  show JavaType.relocated σ _ = _
  rw [JavaType.relocated]

@[simp] theorem relocate_boundedWildcard (kind : BoundKind) (bound : JavaType) (span : Span) :
    relocate σ (.boundedWildcard kind bound span : JavaType) =
      .boundedWildcard kind (relocate σ bound) (relocate σ span) := by
  show JavaType.relocated σ _ = _
  rw [JavaType.relocated]; rfl

@[simp] theorem relocate_nested (segments : List ReferenceType) (dims : Nat) (span : Span) :
    relocate σ (.nested segments dims span : JavaType) =
      .nested (relocate σ segments) dims (relocate σ span) := by
  show JavaType.relocated σ _ = _
  rw [JavaType.relocated, relocatedSegments_eq]

@[simp] theorem relocate_mk (name : String) (arguments : List JavaType) (dims : Nat)
    (span : Span) :
    relocate σ (.mk name arguments dims span : ReferenceType) =
      .mk name (relocate σ arguments) dims (relocate σ span) := by
  show ReferenceType.relocated σ _ = _
  rw [ReferenceType.relocated, relocatedArguments_eq]

/-- Dimensions that are added later are counted at any place. -/
theorem relocate_addDimensions (n : Nat) (t : JavaType) :
    relocate σ (t.addDimensions n) = (relocate σ t).addDimensions n := by
  cases t with
  | reference type =>
    cases type
    simp [JavaType.addDimensions]
  | argument inner span => simp [JavaType.addDimensions, relocate_addDimensions n inner]
  | basic name dims span => simp [JavaType.addDimensions]
  | wildcard span => simp [JavaType.addDimensions]
  | boundedWildcard kind bound span => simp [JavaType.addDimensions]
  | nested segments dims span => simp [JavaType.addDimensions]

/-! ## Declarations and errors -/

instance : Relocatable Parameter :=
  ⟨fun σ p => ⟨relocate σ p.type, p.name, p.varargs, relocate σ p.span⟩⟩

instance : Relocatable Method :=
  ⟨fun σ m => ⟨m.modifiers, m.typeParameters, relocate σ m.result, m.name,
    relocate σ m.parameters, relocate σ m.span⟩⟩

instance : Relocatable ClassDeclaration :=
  ⟨fun σ c => ⟨c.modifiers, c.name, c.typeParameters, relocate σ c.methods, relocate σ c.span⟩⟩

instance : Relocatable Header :=
  ⟨fun σ h => ⟨h.kind, h.modifiers, h.name, relocate σ h.span⟩⟩

instance : Relocatable TypeDeclaration where
  relocate σ
    | .ofClass c => .ofClass (relocate σ c)
    | .ofHeader h => .ofHeader (relocate σ h)

instance : Relocatable Package := ⟨fun σ p => ⟨p.name, relocate σ p.span⟩⟩

instance : Relocatable Import :=
  ⟨fun σ i => ⟨i.name, i.isStatic, i.isWildcard, relocate σ i.span⟩⟩

instance : Relocatable CompilationUnit :=
  ⟨fun σ u => ⟨relocate σ u.package, relocate σ u.imports, relocate σ u.types,
    relocate σ u.span⟩⟩

instance : Relocatable ParseError where
  relocate σ
    | .unexpectedToken expected found l => .unexpectedToken expected found (σ l)
    | .unexpectedEnd expected l => .unexpectedEnd expected (σ l)
    | .voidDimensions l => .voidDimensions (σ l)
    | .unbalancedAngle l => .unbalancedAngle (σ l)
    | .unrecognized text l => .unrecognized text (σ l)

instance : Relocatable StubError where
  relocate σ
    | .unsupportedType t => .unsupportedType (relocate σ t)
    | e => e

end JavaStub
