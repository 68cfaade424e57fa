import JavaStub.Proofs.Reading.Declarations
import JavaStub.Proofs.Relocation

/-!
# Readings of relocated tokens

No reading looks at a place to decide anything: on relocated tokens it reads the relocated
value and stops at the relocated cursor, or fails with the relocated error.

Main facts:

1. `Moves.bind`: stages that move with their tokens make a reading that does.
2. `moves_openType`: the mutual readers of types, by recursion on the tokens that are left.
3. `moves_unit`: the reading of compilation units.
-/

namespace JavaStub.Reading

open Cursor

variable {α β : Type} [Relocatable α] [Relocatable β] {σ : Location → Location} {c : Cursor}

/-- On relocated tokens `y` reads what `x` reads at `c`, relocated. -/
def Moves (σ : Location → Location) (c : Cursor) (x y : Reading α) : Prop :=
  y.run (relocate σ c) = relocate σ (x.run c)

theorem moves_pure (a : α) : Moves σ c (pure a) (pure (relocate σ a)) := rfl

theorem moves_value {a b : α} (h : b = relocate σ a) : Moves σ c (pure a) (pure b) := by
  rw [h]
  exact moves_pure a

theorem Moves.bind {x y : Reading α} {f g : α → Reading β} (hx : Moves σ c x y)
    (h : ∀ a d, x.run c = .ok (a, d) → Moves σ d (f a) (g (relocate σ a))) :
    Moves σ c (x >>= f) (y >>= g) := by
  unfold Moves at hx ⊢
  rw [run_bind, run_bind, hx]
  cases hc : x.run c with
  | error e => rfl
  | ok p => exact h p.1 p.2 hc

theorem moves_look {f g : Cursor → α} (h : g (relocate σ c) = relocate σ (f c)) :
    Moves σ c (look f) (look g) := by
  unfold Moves
  rw [run_look, run_look, h]
  rfl

theorem moves_fail {f g : Cursor → ParseError} (h : g (relocate σ c) = relocate σ (f c)) :
    Moves σ c (fail f : Reading α) (fail g) := congrArg Except.error h

/-! ## What a cursor tells -/

@[simp] theorem head?_relocate (c : Cursor) :
    (relocate σ c).rest.head? = relocate σ c.rest.head? := by
  obtain ⟨l, _ | ⟨t, ts⟩⟩ := c <;> rfl

@[simp] theorem kind?_relocate (c : Cursor) : (relocate σ c).kind? = c.kind? := by
  obtain ⟨l, _ | ⟨t, ts⟩⟩ := c <;> rfl

@[simp] theorem secondKind?_relocate (c : Cursor) :
    (relocate σ c).secondKind? = c.secondKind? := by
  obtain ⟨l, _ | ⟨t, _ | ⟨u, ts⟩⟩⟩ := c <;> rfl

@[simp] theorem location_relocate_cursor (c : Cursor) :
    (relocate σ c).location = σ c.location := by
  obtain ⟨l, _ | ⟨t, ts⟩⟩ := c <;> rfl

@[simp] theorem unexpected_relocate (c : Cursor) (expected : Expectation) :
    (relocate σ c).unexpected expected = relocate σ (c.unexpected expected) := by
  obtain ⟨l, _ | ⟨t, ts⟩⟩ := c <;> rfl

@[simp] theorem atAnnotation_relocate (c : Cursor) :
    atAnnotation (relocate σ c) = c.atAnnotation := by
  unfold atAnnotation
  rw [kind?_relocate, secondKind?_relocate]

@[simp] theorem atPair_relocate {first second : Token.Kind} (c : Cursor) :
    atPair first second (relocate σ c) = atPair first second c := by
  unfold atPair
  rw [kind?_relocate, secondKind?_relocate]

@[simp] theorem atConstructor_relocate (c : Cursor) :
    (relocate σ c).atConstructor = c.atConstructor := atPair_relocate c

@[simp] theorem atClosingAngle_relocate (c : Cursor) :
    (relocate σ c).atClosingAngle = c.atClosingAngle := by
  unfold atClosingAngle
  rw [kind?_relocate]

theorem moves_head : Moves σ c (look (·.rest.head?)) (look (·.rest.head?)) :=
  moves_look (head?_relocate c)

theorem moves_kind : Moves σ c (look kind?) (look kind?) := moves_look (by simp)

theorem moves_location : Moves σ c (look location) (look location) := moves_look (by simp)

theorem moves_span (l : Location) : Moves σ c (look (spanFrom l)) (look (spanFrom (σ l))) :=
  moves_look rfl

theorem moves_unexpected (expected : Expectation) :
    Moves σ c (fail (unexpected · expected) : Reading α) (fail (unexpected · expected)) :=
  moves_fail (by simp)

/-! ## Single tokens -/

theorem moves_next {p : Token → Bool} (h : ∀ t, p (relocate σ t) = p t) :
    Moves σ c (option (next? p)) (option (next? p)) := by
  obtain ⟨l, _ | ⟨t, ts⟩⟩ := c
  · rfl
  · unfold Moves
    rw [relocate_cursor, relocate_cons, run_next_cons, run_next_cons, h]
    split <;> rfl

theorem moves_accept (kind : Token.Kind) :
    Moves σ c (option (accept kind)) (option (accept kind)) := moves_next fun _ => rfl

theorem moves_first : Moves σ c (option first?) (option first?) := moves_next fun _ => rfl

theorem moves_expect (kind : Token.Kind) (expected : Expectation) :
    Moves σ c (past (expect kind expected)) (past (expect kind expected)) := by
  rw [past_expect]
  refine (moves_accept kind).bind fun t _ _ => ?_
  cases t with
  | none => exact moves_unexpected expected
  | some t => exact moves_pure t

theorem moves_optional (kind : Token.Kind) :
    Moves σ c (sure (Cursor.optional kind)) (sure (Cursor.optional kind)) := by
  rw [sure_optional]
  refine (moves_accept kind).bind fun t _ _ => ?_
  cases t <;> exact moves_pure (Option.isSome _)

/-! ## Loops -/

theorem moves_many {f : (c : Cursor) → Except ParseError (Option (Past c α))}
    (h : ∀ c, Moves σ c (step f) (step f)) (c : Cursor) :
    Moves σ c (onward (many f)) (onward (many f)) := by
  rw [onward_many]
  refine (h c).bind fun a d hd => ?_
  cases a with
  | none => exact moves_pure []
  | some first =>
    have := step_lt hd
    exact (moves_many h d).bind fun more _ _ => moves_pure (first :: more)
termination_by c.rest.length

theorem moves_separated {separator : Token.Kind}
    {item : (c : Cursor) → Except ParseError (Past c (α × Nat))}
    (h : ∀ c, Moves σ c (past item) (past item)) (c : Cursor) :
    Moves σ c (past (separated separator item)) (past (separated separator item)) := by
  rw [past_separated]
  refine (h c).bind fun ⟨first, owed⟩ d hd => ?_
  have := past_lt hd
  by_cases ho : owed = 0
  · subst ho
    refine (moves_accept separator).bind fun t e he => ?_
    cases t with
    | none => exact moves_pure ([first], 0)
    | some t =>
      have := option_lt he
      exact (moves_separated h e).bind fun more _ _ => moves_pure (first :: more.1, more.2)
  · show Moves σ d (if owed = 0 then _ else _) (if owed = 0 then _ else _)
    rw [if_neg ho, if_neg ho]
    exact moves_pure ([first], owed)
termination_by c.rest.length

/-! ## Names and groups -/

theorem moves_identifier : Moves σ c (past identifier) (past identifier) := by
  rw [past_identifier]
  exact (moves_expect _ _).bind fun t _ _ => moves_pure t.lexeme

theorem moves_joiningDot : Moves σ c (option joiningDot) (option joiningDot) := by
  unfold Moves
  rw [run_option, run_option]
  unfold joiningDot
  rw [secondKind?_relocate]
  split
  · exact moves_accept .dot
  · rfl

theorem moves_joinedName (c : Cursor) : Moves σ c (step joinedName) (step joinedName) := by
  rw [step_joinedName]
  refine moves_joiningDot.bind fun t d _ => ?_
  cases t with
  | none => exact moves_pure none
  | some t => exact moves_identifier.bind fun name _ _ => moves_pure (some name)

theorem moves_qualifiedName : Moves σ c (past qualifiedName) (past qualifiedName) := by
  rw [past_qualifiedName]
  refine moves_identifier.bind fun first d _ => ?_
  exact (moves_many moves_joinedName d).bind fun more _ _ => moves_value (by simp)

theorem closeGroups_relocate (opening closing : Token.Kind) (depth : Nat) (l : Location)
    (ts : List Token) :
    closeGroups opening closing depth (σ l) (relocate σ ts) =
      relocate σ (closeGroups opening closing depth l ts) := by
  fun_induction closeGroups opening closing depth l ts with
  | case1 l ts => simp only [closeGroups]; rfl
  | case2 l depth => rfl
  | case3 l depth t ts h ih =>
    rw [relocate_cons, closeGroups, kind_relocate, if_pos h]
    exact ih
  | case4 l depth t ts h₁ h₂ ih =>
    rw [relocate_cons, closeGroups, kind_relocate, if_neg h₁, if_pos h₂]
    exact ih
  | case5 l depth t ts h₁ h₂ ih =>
    rw [relocate_cons, closeGroups, kind_relocate, if_neg h₁, if_neg h₂]
    exact ih

theorem moves_group (opening closing : Token.Kind) :
    Moves σ c (past (group opening closing)) (past (group opening closing)) := by
  rw [past_group]
  refine (moves_expect _ _).bind fun _ d _ => ?_
  unfold Moves
  rw [run_restOfGroup, run_restOfGroup]
  have same := closeGroups_relocate (σ := σ) opening closing 1 d.last d.rest
  refine (congrArg (Except.map fun d => ((), d)) same).trans ?_
  cases closeGroups opening closing 1 d.last d.rest <;> rfl

theorem moves_annotationArguments :
    Moves σ c (onward annotationArguments) (onward annotationArguments) := by
  rw [onward_annotationArguments]
  refine moves_kind.bind fun kind d _ => ?_
  rw [relocate_fixed]
  split
  · exact moves_group _ _
  · exact moves_pure ()

theorem moves_annotation? (c : Cursor) : Moves σ c (step annotation?) (step annotation?) := by
  rw [step_annotation?]
  refine (moves_look (atAnnotation_relocate c)).bind fun starts d _ => ?_
  cases starts with
  | false => exact moves_pure none
  | true =>
    refine (moves_expect _ _).bind fun _ _ _ => moves_qualifiedName.bind fun _ _ _ => ?_
    exact moves_annotationArguments.bind fun _ _ _ => moves_pure (some ())

theorem moves_annotations : Moves σ c (onward annotations) (onward annotations) := by
  rw [onward_annotations]
  exact (moves_many moves_annotation? c).bind fun _ _ _ => moves_pure ()

/-- A step that is decided by the next token moves when it does for every token. -/
theorem moves_byHead {x : Token → Reading (Option α)}
    (h : ∀ t d, Moves σ d (x t) (x (relocate σ t))) :
    Moves σ c (do
      match ← look (·.rest.head?) with
      | none => return none
      | some t => x t) (do
      match ← look (·.rest.head?) with
      | none => return none
      | some t => x t) := by
  refine moves_head.bind fun t d _ => ?_
  cases t with
  | none => exact moves_pure none
  | some t => exact h t d

theorem moves_pass : Moves σ c pass pass :=
  moves_first.bind fun _ _ _ => moves_pure (some ())

theorem moves_groupPart (opening closing : Token.Kind) :
    Moves σ c (do let _ ← past (group opening closing); return some ())
      (do let _ ← past (group opening closing); return some ()) :=
  (moves_group opening closing).bind fun _ _ _ => moves_pure (some ())

theorem moves_headerPart? (c : Cursor) : Moves σ c (step headerPart?) (step headerPart?) := by
  rw [step_headerPart?]
  refine moves_byHead fun t d => ?_
  rw [kind_relocate]
  split
  · exact moves_pure none
  · split
    · exact moves_groupPart _ _
    · exact moves_pass

theorem moves_headerTail : Moves σ c (onward headerTail) (onward headerTail) := by
  rw [onward_headerTail]
  refine (moves_many moves_headerPart? c).bind fun _ _ _ => moves_kind.bind fun kind d _ => ?_
  rw [relocate_fixed]
  split
  · exact moves_pure ()
  · exact moves_unexpected _

theorem moves_memberPart? (c : Cursor) : Moves σ c (step memberPart?) (step memberPart?) := by
  rw [step_memberPart?]
  refine moves_byHead fun t d => ?_
  rw [kind_relocate]
  split
  · exact moves_pure none
  · split
    · exact moves_pure none
    · exact moves_pass

theorem moves_memberTail : Moves σ c (past memberTail) (past memberTail) := by
  rw [past_memberTail]
  refine (moves_many moves_memberPart? c).bind fun _ _ _ => moves_kind.bind fun kind d _ => ?_
  rw [relocate_fixed]
  split
  · exact moves_group _ _
  · exact (moves_expect _ _).bind fun _ _ _ => moves_pure ()

theorem moves_fieldPart? (c : Cursor) : Moves σ c (step fieldPart?) (step fieldPart?) := by
  rw [step_fieldPart?]
  refine moves_byHead fun t d => ?_
  rw [kind_relocate]
  split
  · exact moves_pure none
  · split
    · exact moves_groupPart _ _
    · split
      · exact moves_groupPart _ _
      · exact moves_pass

theorem moves_fieldTail : Moves σ c (past fieldTail) (past fieldTail) := by
  rw [past_fieldTail]
  refine (moves_many moves_fieldPart? c).bind fun _ _ _ => ?_
  exact (moves_expect _ _).bind fun _ _ _ => moves_pure ()

/-! ## Types -/

theorem moves_dimension? (c : Cursor) : Moves σ c (step dimension?) (step dimension?) := by
  rw [step_dimension?]
  refine (moves_accept _).bind fun t d _ => ?_
  cases t with
  | none => exact moves_pure none
  | some t => exact (moves_expect _ _).bind fun _ _ _ => moves_pure (some ())

theorem moves_dimensions : Moves σ c (onward dimensions) (onward dimensions) := by
  rw [onward_dimensions]
  refine (moves_many moves_dimension? c).bind fun dims _ _ => ?_
  rw [relocate_fixed]
  exact moves_pure dims.length

theorem moves_dimensionsUnlessOwed (owed : Nat) :
    Moves σ c (onward (dimensionsUnlessOwed owed)) (onward (dimensionsUnlessOwed owed)) := by
  rw [onward_dimensionsUnlessOwed]
  split
  · exact moves_dimensions
  · exact moves_pure (α := Nat) 0

theorem moves_closeAngle (owed : Nat) :
    Moves σ c (onward (closeAngle owed)) (onward (closeAngle owed)) := by
  rw [onward_closeAngle]
  split
  · refine (moves_next fun _ => rfl).bind fun t d _ => ?_
    cases t with
    | none => exact moves_unexpected _
    | some t => exact moves_pure (angleCount t.kind - 1)
  · exact moves_pure (owed - 1)

theorem relocate_typeOfSegments (first : ReferenceType) (more : List ReferenceType) (dims : Nat)
    (span : Span) :
    relocate σ (typeOfSegments first more dims span) =
      typeOfSegments (relocate σ first) (relocate σ more) dims (relocate σ span) := by
  obtain ⟨name, arguments, _, _⟩ := first
  cases more <;> simp [typeOfSegments, ReferenceType.name, ReferenceType.arguments]

mutual

theorem moves_openType (c : Cursor) : Moves σ c (past openType) (past openType) := by
  rw [past_openType]
  refine moves_location.bind fun start _ h₀ => moves_annotations.bind fun _ c₁ h₁ => ?_
  cases h₀
  have := onward_le h₁
  refine (moves_next fun _ => rfl).bind fun t c₂ h₂ => ?_
  cases t with
  | some t =>
    refine moves_dimensions.bind fun dims _ _ => (moves_span c.location).bind fun span _ _ => ?_
    exact moves_pure (JavaType.basic t.lexeme dims span, 0)
  | none =>
    cases option_none h₂
    refine (moves_segment c₁).bind fun ⟨first, owed⟩ c₃ h₃ => ?_
    have := past_lt h₃
    refine (moves_segmentTail owed c₃).bind fun ⟨more, owed⟩ c₄ h₄ => ?_
    refine (moves_dimensionsUnlessOwed owed).bind fun dims _ _ => ?_
    refine (moves_span c.location).bind fun span _ _ => ?_
    show Moves σ _ (pure (typeOfSegments first more dims span, owed))
      (pure (typeOfSegments (relocate σ first) (relocate σ more) dims (relocate σ span), owed))
    rw [← relocate_typeOfSegments]
    exact moves_pure (typeOfSegments first more dims span, owed)
termination_by 6 * c.rest.length + 2

theorem moves_segment (c : Cursor) : Moves σ c (past segment) (past segment) := by
  rw [past_segment]
  refine moves_location.bind fun start _ h₀ => moves_identifier.bind fun name c₁ h₁ => ?_
  cases h₀
  have := past_lt h₁
  refine (moves_accept _).bind fun t c₂ h₂ => ?_
  cases t with
  | none =>
    refine (moves_span c.location).bind fun span _ _ => ?_
    exact moves_pure (ReferenceType.mk name [] 0 span, 0)
  | some t =>
    have := option_lt h₂
    refine (moves_typeArguments c₂).bind fun ⟨arguments, owed⟩ _ _ => ?_
    refine (moves_span c.location).bind fun span _ _ => ?_
    exact moves_value (by simp)
termination_by 6 * c.rest.length + 1

theorem moves_segmentTail (owed : Nat) (c : Cursor) :
    Moves σ c (onward (segmentTail owed)) (onward (segmentTail owed)) := by
  rw [onward_segmentTail]
  split
  · refine moves_joiningDot.bind fun t c₁ h₁ => ?_
    cases t with
    | none => exact moves_pure ([], 0)
    | some t =>
      have := option_lt h₁
      refine (moves_segment c₁).bind fun ⟨first, owed⟩ c₂ h₂ => ?_
      have := past_lt h₂
      refine (moves_segmentTail owed c₂).bind fun ⟨more, owed⟩ _ _ => ?_
      exact moves_pure (first :: more, owed)
  · exact moves_pure ([], owed)
termination_by 6 * c.rest.length

theorem moves_typeArguments (c : Cursor) :
    Moves σ c (onward typeArguments) (onward typeArguments) := by
  rw [onward_typeArguments]
  refine (moves_look (atClosingAngle_relocate c)).bind fun closes _ h₀ => ?_
  cases h₀
  split
  · rw [if_pos (by assumption)]
    exact (moves_closeAngle 0).bind fun owed _ _ => moves_pure ([], owed)
  · rw [if_neg (by assumption)]
    refine (moves_argumentList c).bind fun ⟨arguments, owed⟩ _ _ => ?_
    exact (moves_closeAngle owed).bind fun owed _ _ => moves_pure (arguments, owed)
termination_by 6 * c.rest.length + 5

theorem moves_argumentList (c : Cursor) :
    Moves σ c (past argumentList) (past argumentList) := by
  rw [past_argumentList]
  refine (moves_typeArgument c).bind fun ⟨first, owed⟩ c₁ h₁ => ?_
  have := past_lt h₁
  by_cases h : owed = 0
  · subst h
    refine (moves_accept _).bind fun t c₂ h₂ => ?_
    cases t with
    | none => exact moves_pure ([first], 0)
    | some t =>
      have := option_lt h₂
      refine (moves_argumentList c₂).bind fun ⟨more, owed⟩ _ _ => ?_
      exact moves_pure (first :: more, owed)
  · show Moves σ c₁ (if owed = 0 then _ else _) (if owed = 0 then _ else _)
    rw [if_neg h, if_neg h]
    exact moves_pure ([first], owed)
termination_by 6 * c.rest.length + 4

theorem moves_typeArgument (c : Cursor) :
    Moves σ c (past typeArgument) (past typeArgument) := by
  rw [past_typeArgument]
  refine moves_location.bind fun start _ h₀ => moves_annotations.bind fun _ c₁ h₁ => ?_
  cases h₀
  have := onward_le h₁
  refine (moves_accept _).bind fun t c₂ h₂ => ?_
  cases t with
  | none =>
    cases option_none h₂
    refine (moves_openType c₁).bind fun ⟨inner, owed⟩ _ _ => ?_
    refine (moves_span c.location).bind fun span _ _ => ?_
    exact moves_value (by simp)
  | some t =>
    have := option_lt h₂
    refine (moves_accept _).bind fun t c₃ h₃ => ?_
    cases t with
    | some t =>
      have := option_lt h₃
      refine (moves_openType c₃).bind fun ⟨bound, owed⟩ _ _ => ?_
      refine (moves_span c.location).bind fun span _ _ => ?_
      exact moves_pure (JavaType.boundedWildcard .upper bound span, owed)
    | none =>
      cases option_none h₃
      refine (moves_accept _).bind fun t c₄ h₄ => ?_
      cases t with
      | some t =>
        have := option_lt h₄
        refine (moves_openType c₄).bind fun ⟨bound, owed⟩ _ _ => ?_
        refine (moves_span c.location).bind fun span _ _ => ?_
        exact moves_pure (JavaType.boundedWildcard .lower bound span, owed)
      | none =>
        refine (moves_span c.location).bind fun span _ _ => ?_
        exact moves_pure (JavaType.wildcard span, 0)
termination_by 6 * c.rest.length + 3

end

theorem moves_completeType : Moves σ c (past completeType) (past completeType) := by
  rw [past_completeType]
  refine (moves_openType c).bind fun ⟨type, owed⟩ d _ => ?_
  show Moves σ d (if owed = 0 then _ else _) (if owed = 0 then _ else _)
  split
  · exact moves_pure type
  · exact moves_fail rfl

/-! ## Signatures -/

theorem moves_modifierOrAnnotation? (c : Cursor) :
    Moves σ c (step modifierOrAnnotation?) (step modifierOrAnnotation?) := by
  rw [step_modifierOrAnnotation?]
  refine (moves_annotation? c).bind fun passed d _ => ?_
  cases passed with
  | some _ => exact moves_pure (some none)
  | none =>
    refine moves_byHead fun t e => ?_
    rw [kind_relocate]
    split
    · exact moves_pure none
    · next modifier _ => exact moves_first.bind fun _ _ _ => moves_pure (some (some modifier))

theorem moves_modifiers : Moves σ c (onward modifiers) (onward modifiers) := by
  rw [onward_modifiers]
  refine (moves_many moves_modifierOrAnnotation? c).bind fun found _ _ => ?_
  exact moves_value (by rw [relocate_fixed, relocate_fixed])

theorem moves_bound (c : Cursor) : Moves σ c (past bound) (past bound) := by
  rw [past_bound]
  exact (moves_openType c).bind fun type _ _ => moves_pure ((), type.2)

theorem moves_bounds : Moves σ c (onward bounds) (onward bounds) := by
  rw [onward_bounds]
  refine (moves_accept _).bind fun t d _ => ?_
  cases t with
  | none => exact moves_pure (α := Nat) 0
  | some t => exact (moves_separated moves_bound d).bind fun read _ _ => moves_pure read.2

theorem moves_typeParameter (c : Cursor) :
    Moves σ c (past typeParameter) (past typeParameter) := by
  rw [past_typeParameter]
  refine moves_annotations.bind fun _ _ _ => moves_identifier.bind fun name _ _ => ?_
  exact moves_bounds.bind fun owed _ _ => moves_pure (name, owed)

theorem moves_typeParameters : Moves σ c (onward typeParameters) (onward typeParameters) := by
  rw [onward_typeParameters]
  refine (moves_accept _).bind fun t d _ => ?_
  cases t with
  | none => exact moves_pure []
  | some t =>
    refine (moves_separated moves_typeParameter d).bind fun ⟨names, owed⟩ _ _ => ?_
    refine (moves_closeAngle owed).bind fun owed e _ => ?_
    show Moves σ e (if owed = 0 then _ else _) (if owed = 0 then _ else _)
    split
    · exact moves_pure names
    · exact moves_fail rfl

theorem moves_parameter : Moves σ c (past parameter) (past parameter) := by
  rw [past_parameter]
  refine moves_location.bind fun l _ _ => moves_modifiers.bind fun _ _ _ => ?_
  refine moves_completeType.bind fun type _ _ => moves_annotations.bind fun _ _ _ => ?_
  refine (moves_optional _).bind fun varargs _ _ => moves_identifier.bind fun name _ _ => ?_
  refine moves_dimensions.bind fun dims _ _ => (moves_span l).bind fun span _ _ => ?_
  refine moves_value ?_
  show (⟨(relocate σ type).addDimensions dims, name, varargs, relocate σ span⟩ : Parameter) =
    ⟨relocate σ (type.addDimensions dims), name, varargs, relocate σ span⟩
  rw [relocate_addDimensions]

theorem moves_parameterItem (c : Cursor) :
    Moves σ c (past parameterItem) (past parameterItem) := by
  rw [past_parameterItem]
  exact moves_parameter.bind fun parameter _ _ => moves_pure (parameter, 0)

theorem moves_parameters : Moves σ c (past parameters) (past parameters) := by
  rw [past_parameters]
  refine (moves_accept _).bind fun t d _ => ?_
  cases t with
  | some t => exact moves_pure []
  | none =>
    refine (moves_separated moves_parameterItem d).bind fun read _ _ => ?_
    exact (moves_expect _ _).bind fun _ _ _ => moves_pure read.1

/-! ## Members -/

theorem moves_keyword (introduced : Introduced) :
    Moves σ c (keyword introduced) (keyword introduced) :=
  moves_first.bind fun _ _ _ => moves_pure (some introduced)

theorem moves_typeKeyword : Moves σ c (option typeKeyword) (option typeKeyword) := by
  rw [option_typeKeyword]
  refine moves_byHead fun t d => ?_
  rw [kind_relocate]
  split
  · exact moves_keyword _
  · exact moves_keyword _
  · exact moves_keyword _
  · refine (moves_look (atPair_relocate d)).bind fun starts e _ => ?_
    rw [relocate_fixed]
    split
    · exact moves_first.bind fun _ _ _ => moves_keyword _
    · exact moves_pure none
  · refine (moves_look (atPair_relocate d)).bind fun starts e _ => ?_
    rw [lexeme_relocate, relocate_fixed]
    split
    · exact moves_keyword _
    · exact moves_pure none
  · exact moves_pure none

theorem moves_passedType : Moves σ c (past passedType) (past passedType) := by
  rw [past_passedType]
  refine moves_identifier.bind fun name _ _ => moves_headerTail.bind fun _ _ _ => ?_
  exact (moves_group _ _).bind fun _ _ _ => moves_pure name

theorem moves_constructor : Moves σ c (past constructor) (past constructor) := by
  rw [past_constructor]
  refine moves_identifier.bind fun _ _ _ => (moves_group _ _).bind fun _ _ _ => ?_
  exact moves_memberTail

theorem moves_resultType : Moves σ c (past resultType) (past resultType) := by
  rw [past_resultType]
  refine (moves_accept _).bind fun t d _ => ?_
  cases t with
  | some t => exact moves_pure none
  | none => exact moves_completeType.bind fun type _ _ => moves_pure (some type)

theorem moves_dimensioned (result : Option JavaType) (dims : Nat) :
    Moves σ c (dimensioned result dims) (dimensioned (relocate σ result) dims) := by
  unfold Moves dimensioned withDimensions
  cases result with
  | none =>
    by_cases h : dims = 0
    · subst h; rfl
    · simp [h, Except.map]; rfl
  | some type =>
    show Except.ok _ = Except.ok _
    simp [relocate_addDimensions]

theorem moves_methodTail (result : Option JavaType) :
    Moves σ c (past (methodTail result)) (past (methodTail (relocate σ result))) := by
  rw [past_methodTail, past_methodTail]
  refine moves_parameters.bind fun parameters _ _ => moves_dimensions.bind fun dims _ _ => ?_
  refine (moves_dimensioned result dims).bind fun result _ _ => ?_
  exact moves_memberTail.bind fun _ _ _ => moves_pure (parameters, result)

theorem moves_fieldOrMethod (l : Location) (modifiers : List Modifier)
    (typeParameters : List String) :
    Moves σ c (past (fieldOrMethod l modifiers typeParameters))
      (past (fieldOrMethod (σ l) modifiers typeParameters)) := by
  rw [past_fieldOrMethod, past_fieldOrMethod]
  refine moves_resultType.bind fun result _ _ => moves_identifier.bind fun name _ _ => ?_
  refine (moves_accept _).bind fun t d _ => ?_
  cases t with
  | none => exact moves_fieldTail.bind fun _ _ _ => moves_pure none
  | some t =>
    refine (moves_methodTail result).bind fun tail _ _ => (moves_span l).bind fun span _ _ => ?_
    exact moves_pure (some (Method.mk modifiers typeParameters tail.2 name tail.1 span))

theorem moves_plainMember (l : Location) (modifiers : List Modifier) :
    Moves σ c (past (plainMember l modifiers)) (past (plainMember (σ l) modifiers)) := by
  rw [past_plainMember, past_plainMember]
  refine moves_typeParameters.bind fun typeParameters d _ => ?_
  refine (moves_look (atConstructor_relocate d)).bind fun starts e _ => ?_
  rw [relocate_fixed, relocate_fixed]
  split
  · exact moves_constructor.bind fun _ _ _ => moves_pure none
  · exact moves_fieldOrMethod l modifiers typeParameters

theorem moves_member : Moves σ c (past member) (past member) := by
  rw [past_member]
  refine moves_location.bind fun l _ _ => moves_modifiers.bind fun modifiers d _ => ?_
  rw [relocate_fixed σ modifiers, relocate_location]
  refine moves_kind.bind fun kind e _ => ?_
  rw [relocate_fixed]
  split
  · exact (moves_group _ _).bind fun _ _ _ => moves_pure none
  · refine moves_typeKeyword.bind fun introduced e _ => ?_
    cases introduced with
    | some introduced => exact moves_passedType.bind fun _ _ _ => moves_pure none
    | none => exact moves_plainMember l modifiers

theorem moves_memberOrSemicolon? (c : Cursor) :
    Moves σ c (step memberOrSemicolon?) (step memberOrSemicolon?) := by
  rw [step_memberOrSemicolon?]
  refine moves_byHead fun t d => ?_
  rw [kind_relocate]
  split
  · exact moves_pure none
  · split
    · exact moves_first.bind fun _ _ _ => moves_pure (some none)
    · exact moves_member.bind fun found _ _ => moves_pure (some found)

/-- Dropping what was not kept does not depend on places. -/
theorem relocate_kept (found : List (Option α)) :
    relocate σ (found.filterMap id) = (relocate σ found).filterMap id := by
  induction found with
  | nil => rfl
  | cons a found ih =>
    cases a with
    | none => exact ih
    | some a => exact congrArg (relocate σ a :: ·) ih

theorem moves_members : Moves σ c (past members) (past members) := by
  rw [past_members]
  refine (moves_many moves_memberOrSemicolon? c).bind fun found _ _ => ?_
  exact (moves_expect _ _).bind fun _ _ _ => moves_value (relocate_kept found).symm

/-! ## Units -/

theorem moves_package : Moves σ c (past package) (past package) := by
  rw [past_package]
  refine moves_location.bind fun l _ _ => (moves_expect _ _).bind fun _ _ _ => ?_
  refine moves_qualifiedName.bind fun name _ _ => (moves_expect _ _).bind fun _ _ _ => ?_
  exact (moves_span l).bind fun span _ _ => moves_pure (Package.mk name span)

theorem afterNameRun_relocate (ts : List Token) :
    afterNameRun (relocate σ ts) = relocate σ (afterNameRun ts) := by
  unfold afterNameRun
  rw [relocate_list, relocate_list, List.dropWhile_map]
  rfl

theorem afterArguments_relocate (ts : List Token) :
    afterArguments (relocate σ ts) = relocate σ (afterArguments ts) := by
  cases ts with
  | nil => rfl
  | cons u us =>
    rw [relocate_cons]
    unfold afterArguments
    simp only [kind_relocate, location_relocate, closeGroups_relocate]
    split
    · cases closeGroups .lparen .rparen 1 u.location us <;> rfl
    · rfl

theorem packageAhead_relocate (ts : List Token) :
    packageAhead (relocate σ ts) = packageAhead ts := by
  cases ts with
  | nil => rfl
  | cons t ts =>
    have same : atAnnotation ⟨σ .start, relocate σ t :: relocate σ ts⟩ = _ :=
      atAnnotation_relocate ⟨.start, t :: ts⟩
    -- the look-ahead asks for kinds only, and a relocation keeps these
    cases h : atAnnotation ⟨.start, t :: ts⟩ with
    | false =>
      rw [h] at same
      rw [relocate_cons, packageAhead_of_not h, packageAhead_of_not same, kind_relocate]
    | true =>
      rw [h] at same
      rw [relocate_cons, packageAhead_of_sign h, packageAhead_of_sign same,
        afterNameRun_relocate, afterArguments_relocate]
      cases hr : afterArguments (afterNameRun ts) with
      | none => rfl
      | some rest =>
        have := afterArguments_le hr
        have := afterNameRun_length_le ts
        exact packageAhead_relocate rest
termination_by ts.length
decreasing_by
  simp only [List.length_cons]
  omega

theorem moves_package? : Moves σ c (onward package?) (onward package?) := by
  rw [onward_package?]
  refine (moves_look (packageAhead_relocate c.rest)).bind fun ahead d _ => ?_
  rw [relocate_fixed]
  split
  · refine moves_annotations.bind fun _ _ _ => moves_package.bind fun found _ _ => ?_
    exact moves_pure (some found)
  · exact moves_pure none

theorem moves_importStar : Moves σ c (onward importStar) (onward importStar) := by
  rw [onward_importStar]
  refine (moves_accept _).bind fun t d _ => ?_
  cases t with
  | none => exact moves_pure false
  | some t => exact (moves_expect _ _).bind fun _ _ _ => moves_pure true

theorem moves_importTail (l : Location) :
    Moves σ c (past (importTail l)) (past (importTail (σ l))) := by
  rw [past_importTail, past_importTail]
  refine (moves_optional _).bind fun isStatic _ _ => moves_qualifiedName.bind fun name _ _ => ?_
  refine moves_importStar.bind fun isWildcard _ _ => (moves_expect _ _).bind fun _ _ _ => ?_
  exact (moves_span l).bind fun span _ _ => moves_pure (Import.mk name isStatic isWildcard span)

theorem moves_importOrSemicolon? (c : Cursor) :
    Moves σ c (step importOrSemicolon?) (step importOrSemicolon?) := by
  rw [step_importOrSemicolon?]
  refine moves_byHead fun t d => ?_
  rw [kind_relocate]
  split
  · exact moves_first.bind fun _ _ _ => moves_pure (some none)
  · split
    · refine moves_first.bind fun _ _ _ => (moves_importTail t.location).bind fun found _ _ => ?_
      exact moves_pure (some (some found))
    · exact moves_pure none

theorem moves_imports : Moves σ c (onward imports) (onward imports) := by
  rw [onward_imports]
  refine (moves_many moves_importOrSemicolon? c).bind fun found _ _ => ?_
  exact moves_value (relocate_kept found).symm

theorem moves_classTail (l : Location) (modifiers : List Modifier) :
    Moves σ c (past (classTail l modifiers)) (past (classTail (σ l) modifiers)) := by
  rw [past_classTail, past_classTail]
  refine moves_identifier.bind fun name _ _ => moves_typeParameters.bind fun names _ _ => ?_
  refine moves_headerTail.bind fun _ _ _ => (moves_expect _ _).bind fun _ _ _ => ?_
  refine moves_members.bind fun methods _ _ => (moves_span l).bind fun span _ _ => ?_
  rw [relocate_fixed, relocate_fixed]
  exact moves_pure (ClassDeclaration.mk modifiers name names methods span)

theorem moves_headerOfType (kind : HeaderKind) (l : Location) (modifiers : List Modifier) :
    Moves σ c (past (headerOfType kind l modifiers))
      (past (headerOfType kind (σ l) modifiers)) := by
  rw [past_headerOfType, past_headerOfType]
  refine moves_passedType.bind fun name _ _ => (moves_span l).bind fun span _ _ => ?_
  exact moves_pure (Header.mk kind modifiers name span)

theorem moves_typeDeclaration : Moves σ c (past typeDeclaration) (past typeDeclaration) := by
  rw [past_typeDeclaration]
  refine moves_location.bind fun l _ _ => moves_modifiers.bind fun modifiers d _ => ?_
  rw [relocate_fixed σ modifiers, relocate_location]
  refine moves_typeKeyword.bind fun introduced e _ => ?_
  rcases introduced with _ | _ | kind
  · exact moves_unexpected _
  · exact (moves_classTail l modifiers).bind fun declaration _ _ =>
      moves_pure (TypeDeclaration.ofClass declaration)
  · exact (moves_headerOfType kind l modifiers).bind fun header _ _ =>
      moves_pure (TypeDeclaration.ofHeader header)

theorem moves_typeOrSemicolon? (c : Cursor) :
    Moves σ c (step typeOrSemicolon?) (step typeOrSemicolon?) := by
  rw [step_typeOrSemicolon?]
  refine moves_byHead fun t d => ?_
  rw [kind_relocate]
  split
  · exact moves_first.bind fun _ _ _ => moves_pure (some none)
  · exact moves_typeDeclaration.bind fun found _ _ => moves_pure (some (some found))

theorem moves_typeDeclarations :
    Moves σ c (onward typeDeclarations) (onward typeDeclarations) := by
  rw [onward_typeDeclarations]
  refine (moves_many moves_typeOrSemicolon? c).bind fun found _ _ => ?_
  exact moves_value (relocate_kept found).symm

theorem moves_unit : Moves σ c unit unit := by
  unfold unit
  refine moves_location.bind fun l _ _ => moves_package?.bind fun package _ _ => ?_
  refine moves_imports.bind fun imports _ _ => moves_typeDeclarations.bind fun types _ _ => ?_
  exact (moves_span l).bind fun span _ _ =>
    moves_pure (CompilationUnit.mk package imports types span)

end JavaStub.Reading
