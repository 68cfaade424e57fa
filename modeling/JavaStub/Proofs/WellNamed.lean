import JavaStub.CompilationUnit
import JavaStub.Proofs.Lexing.Words
import JavaStub.Proofs.Reading.Locality

/-!
# The names in a unit

The names in a unit that is read from a source are lexemes of the source. So they are cut off as
they are wherever they are written again.

A reading `Yields` values with a property if it does so wherever the tokens that are left are
lexemes. The property is carried through the stages of a reading, and stages whose value counts for
nothing are passed by their locality, as they leave a suffix of the tokens.

Main facts:

1. `yields_openType`: the names in a type, by recursion on the tokens that are left.
2. `yields_member`: the names in a method.
3. `wellNamed_of_ofSource`: the names in a unit.
-/

namespace JavaStub

open Token (Kind IsWord)

/-- Is the text a single identifier? -/
def IsName (n : String) : Prop := IsWord .identifier n.toList

/-- Is the text the keyword of a primitive type? -/
def IsPrimitiveName (n : String) : Prop :=
  ∃ k : Kind, k.isPrimitive = true ∧ IsWord k n.toList

/-- Is the text a name, perhaps qualified? -/
def IsQualifiedName (n : String) : Prop :=
  ∃ first more, n = ".".intercalate (first :: more) ∧ IsName first ∧ ∀ m ∈ more, IsName m

mutual

/-- The names in a type are names. -/
inductive JavaType.WellNamed : JavaType → Prop
  | reference {n : String} {ts : List JavaType} {dims : Nat} {span : Span} (name : IsName n)
      (arguments : ∀ t ∈ ts, t.WellNamedArgument) : JavaType.WellNamed (.reference (.mk n ts dims span))
  | basic {n : String} {dims : Nat} {span : Span} (name : IsPrimitiveName n) :
      JavaType.WellNamed (.basic n dims span)
  | nested {first second : ReferenceType} {more : List ReferenceType} {dims : Nat} {span : Span}
      (segments : ∀ r ∈ first :: second :: more, r.WellNamed) :
      JavaType.WellNamed (.nested (first :: second :: more) dims span)

/-- The names in a name with type arguments are names, and it has no dimensions. -/
inductive ReferenceType.WellNamed : ReferenceType → Prop
  | mk {n : String} {ts : List JavaType} {span : Span} (name : IsName n)
      (arguments : ∀ t ∈ ts, t.WellNamedArgument) : ReferenceType.WellNamed (.mk n ts 0 span)

/-- The names in a type argument are names. -/
inductive JavaType.WellNamedArgument : JavaType → Prop
  | argument {t : JavaType} {span : Span} (type : t.WellNamed) :
      JavaType.WellNamedArgument (.argument t span)
  | wildcard {span : Span} : JavaType.WellNamedArgument (.wildcard span)
  | bounded {kind : BoundKind} {t : JavaType} {span : Span} (bound : t.WellNamed) :
      JavaType.WellNamedArgument (.boundedWildcard kind t span)

end

theorem JavaType.WellNamed.addDimensions {t : JavaType} (h : t.WellNamed) (n : Nat) :
    (t.addDimensions n).WellNamed := by
  cases h with
  | reference name arguments => exact .reference name arguments
  | basic name => exact .basic name
  | nested segments => exact .nested segments

/-- The names in a parameter are names. -/
structure Parameter.WellNamed (p : Parameter) : Prop where
  type : p.type.WellNamed
  name : IsName p.name

/-- The names in a method are names. -/
structure Method.WellNamed (m : Method) : Prop where
  result : ∀ t ∈ m.result, t.WellNamed
  name : IsName m.name
  parameters : ∀ p ∈ m.parameters, p.WellNamed

/-- The names in a class are names. -/
structure ClassDeclaration.WellNamed (c : ClassDeclaration) : Prop where
  name : IsName c.name
  methods : ∀ m ∈ c.methods, m.WellNamed

/-- The names in a type declaration are names. Of a header nothing is said. -/
def TypeDeclaration.WellNamed : TypeDeclaration → Prop
  | .ofClass c => c.WellNamed
  | .ofHeader _ => True

/-- The names in a unit are names. -/
structure CompilationUnit.WellNamed (u : CompilationUnit) : Prop where
  package : ∀ p ∈ u.package, IsQualifiedName p.name
  imports : ∀ i ∈ u.imports, IsQualifiedName i.name
  types : ∀ d ∈ u.types, d.WellNamed

namespace Reading

open Cursor

variable {α β : Type} {c : Cursor} {P : α → Prop} {Q : β → Prop}

/-- Is the token a lexeme of its kind? Nothing is said of text blocks. -/
def Lexed (t : Token) : Prop := t.kind ≠ .textBlock → Token.IsLexeme t.kind t.lexeme.toList

/-- The values that are read at `c` have the property, if the tokens that are left are lexemes; and
those that are left afterwards are, too. -/
def Yields (c : Cursor) (P : α → Prop) (x : Reading α) : Prop :=
  ∀ v d, x.run c = .ok (v, d) → (∀ t ∈ c.rest, Lexed t) → P v ∧ ∀ t ∈ d.rest, Lexed t

theorem yields_pure {a : α} (h : P a) : Yields c P (pure a) := by
  intro v d hv lexed
  cases hv
  exact ⟨h, lexed⟩

theorem yields_none : Yields c (fun found => ∀ a ∈ found, P a) (pure none) :=
  yields_pure fun _ h => nomatch h

theorem yields_some {a : α} (h : P a) : Yields c (fun found => ∀ a ∈ found, P a) (pure (some a)) :=
  yields_pure fun _ hb => Option.some.inj hb ▸ h

theorem yields_look (f : Cursor → α) : Yields c (fun _ => True) (look f) := by
  intro v d hv lexed
  cases hv
  exact ⟨trivial, lexed⟩

theorem yields_fail (f : Cursor → ParseError) : Yields c P (fail f : Reading α) := by
  intro v d hv
  cases hv

theorem Yields.bind {x : Reading α} {f : α → Reading β} (hx : Yields c P x)
    (h : ∀ a d, x.run c = .ok (a, d) → P a → Yields d Q (f a)) : Yields c Q (x >>= f) := by
  intro v e hv lexed
  rw [run_bind] at hv
  obtain ⟨⟨a, d⟩, ha, hv⟩ := bind_eq_ok_iff.mp hv
  obtain ⟨good, left⟩ := hx a d ha lexed
  exact h a d ha good v e hv left

/-- A stage whose value counts for nothing. -/
theorem Local.skip {x : Reading α} {f : α → Reading β} (hx : Local c x)
    (h : ∀ a d, x.run c = .ok (a, d) → Yields d Q (f a)) : Yields c Q (x >>= f) := by
  refine Yields.bind (P := fun _ => True) ?_ fun a d ha _ => h a d ha
  intro a d ha lexed
  exact ⟨trivial, fun t ht => lexed t ((hx.suffix ha).mem ht)⟩

/-! ## Tokens and loops -/

/-- A token that is read is a lexeme. -/
theorem yields_next (p : Token → Bool) :
    Yields c (fun found => ∀ t ∈ found, p t = true ∧ Lexed t) (option (next? p)) := by
  intro found d hd lexed
  cases found with
  | none =>
    cases option_none hd
    refine ⟨fun t ht => ?_, lexed⟩
    cases ht
  | some t =>
    obtain ⟨met, split, _⟩ := of_run_next hd
    rw [split] at lexed
    refine ⟨fun u hu => ?_, fun u hu => lexed u (List.mem_cons_of_mem t hu)⟩
    cases hu
    exact ⟨met, lexed t List.mem_cons_self⟩

theorem yields_many {f : (c : Cursor) → Except ParseError (Option (Past c α))}
    (h : ∀ c, Yields c (fun found => ∀ a ∈ found, P a) (step f)) (c : Cursor) :
    Yields c (fun as => ∀ a ∈ as, P a) (onward (many f)) := by
  rw [onward_many]
  refine (h c).bind fun found d hd good => ?_
  cases found with
  | none => exact yields_pure fun a ha => nomatch ha
  | some first =>
    have := step_lt hd
    refine (yields_many h d).bind fun more _ _ goods => yields_pure ?_
    exact List.forall_mem_cons.mpr ⟨good first rfl, goods⟩
termination_by c.rest.length

theorem yields_separated {separator : Kind}
    {item : (c : Cursor) → Except ParseError (Past c (α × Nat))}
    (h : ∀ c, Yields c (fun r => P r.1) (past item)) (c : Cursor) :
    Yields c (fun r => ∀ a ∈ r.1, P a) (past (separated separator item)) := by
  rw [past_separated]
  refine (h c).bind fun ⟨first, owed⟩ d hd good => ?_
  have := past_lt hd
  have one : ∀ a ∈ [first], P a := List.forall_mem_singleton.mpr good
  by_cases ho : owed = 0
  · subst ho
    refine (local_accept separator).skip fun t e he => ?_
    cases t with
    | none => exact yields_pure one
    | some t =>
      have := option_lt he
      refine (yields_separated h e).bind fun more _ _ goods => yields_pure ?_
      exact List.forall_mem_cons.mpr ⟨good, goods⟩
  · show Yields d _ (if owed = 0 then _ else _)
    rw [if_neg ho]
    exact yields_pure one
termination_by c.rest.length

/-- A step that is decided by the next token. -/
theorem yields_byHead {x : Token → Reading (Option α)}
    (h : ∀ t d, Yields d (fun found => ∀ a ∈ found, P a) (x t)) :
    Yields c (fun found => ∀ a ∈ found, P a) (do
      match ← look (·.rest.head?) with
      | none => return none
      | some t => x t) := by
  refine local_head.skip fun t d _ => ?_
  cases t with
  | none => exact yields_none
  | some t => exact h t d

/-! ## Names -/

theorem yields_identifier : Yields c IsName (past identifier) := by
  rw [past_identifier, past_expect]
  refine Yields.bind (P := fun t => t.kind = .identifier ∧ Lexed t) ?_ fun t _ _ h =>
    yields_pure ?_
  · refine (yields_next _).bind fun found _ _ h => ?_
    cases found with
    | none => exact yields_fail _
    | some t =>
      obtain ⟨kind, lexed⟩ := h t rfl
      exact yields_pure ⟨of_decide_eq_true kind, lexed⟩
  · obtain ⟨kind, lexed⟩ := h
    have lexeme := lexed (by rw [kind]; decide)
    rw [kind] at lexeme
    exact Token.isWord_of_identifier lexeme

theorem yields_joinedName (c : Cursor) :
    Yields c (fun found => ∀ n ∈ found, IsName n) (step joinedName) := by
  rw [step_joinedName]
  refine local_joiningDot.skip fun t _ _ => ?_
  cases t with
  | none => exact yields_none
  | some t => exact yields_identifier.bind fun name _ _ good => yields_some good

theorem yields_qualifiedName : Yields c IsQualifiedName (past qualifiedName) := by
  rw [past_qualifiedName]
  refine yields_identifier.bind fun first d _ good => ?_
  refine (yields_many yields_joinedName d).bind fun more _ _ goods => yields_pure ?_
  exact ⟨first, more, rfl, good, goods⟩

/-! ## Types -/

theorem wellNamed_typeOfSegments {first : ReferenceType} {more : List ReferenceType}
    (h : first.WellNamed) (hs : ∀ r ∈ more, r.WellNamed) (dims : Nat) (span : Span) :
    (typeOfSegments first more dims span).WellNamed := by
  cases more with
  | nil =>
    cases h with
    | mk name arguments => exact .reference name arguments
  | cons r rs => exact .nested (List.forall_mem_cons.mpr ⟨h, hs⟩)

mutual

theorem yields_openType (c : Cursor) : Yields c (·.1.WellNamed) (past openType) := by
  rw [past_openType]
  refine local_location.skip fun _ _ h₀ => local_annotations.skip fun _ c₁ h₁ => ?_
  cases h₀
  have := onward_le h₁
  refine (yields_next _).bind fun found c₂ h₂ good => ?_
  cases found with
  -- a primitive type is named by its keyword, which is a word by the rules of the lexer
  | some t =>
    refine local_dimensions.skip fun dims _ _ => (local_span _).skip fun span _ _ => ?_
    obtain ⟨primitive, lexed⟩ := good t rfl
    have other : t.kind ≠ .textBlock := fun h => by rw [h] at primitive; cases primitive
    exact yields_pure (.basic ⟨t.kind, primitive, Token.isWord_of_primitive primitive (lexed other)⟩)
  | none =>
    cases option_none h₂
    refine (yields_segment c₁).bind fun first c₃ h₃ good => ?_
    have := past_lt h₃
    refine (yields_segmentTail first.2 c₃).bind fun more c₄ _ goods => ?_
    refine (local_dimensionsUnlessOwed more.2).skip fun dims _ _ => ?_
    refine (local_span _).skip fun span _ _ => yields_pure ?_
    exact wellNamed_typeOfSegments good goods dims span
termination_by 6 * c.rest.length + 2

theorem yields_segment (c : Cursor) : Yields c (·.1.WellNamed) (past segment) := by
  rw [past_segment]
  refine local_location.skip fun _ _ h₀ => yields_identifier.bind fun name c₁ h₁ good => ?_
  cases h₀
  have := past_lt h₁
  refine (local_accept _).skip fun t c₂ h₂ => ?_
  cases t with
  | none =>
    refine (local_span _).skip fun span _ _ => yields_pure (.mk good fun t ht => ?_)
    exact absurd ht List.not_mem_nil
  | some t =>
    have := option_lt h₂
    refine (yields_typeArguments c₂).bind fun arguments _ _ goods => ?_
    exact (local_span _).skip fun span _ _ => yields_pure (.mk good goods)
termination_by 6 * c.rest.length + 1

theorem yields_segmentTail (owed : Nat) (c : Cursor) :
    Yields c (fun r => ∀ s ∈ r.1, s.WellNamed) (onward (segmentTail owed)) := by
  rw [onward_segmentTail]
  by_cases h : owed = 0
  · subst h
    refine local_joiningDot.skip fun t c₁ h₁ => ?_
    cases t with
    | none => exact yields_pure fun s hs => absurd hs List.not_mem_nil
    | some t =>
      have := option_lt h₁
      refine (yields_segment c₁).bind fun first c₂ h₂ good => ?_
      have := past_lt h₂
      refine (yields_segmentTail first.2 c₂).bind fun more _ _ goods => yields_pure ?_
      exact List.forall_mem_cons.mpr ⟨good, goods⟩
  · rw [if_neg h]
    exact yields_pure fun s hs => absurd hs List.not_mem_nil
termination_by 6 * c.rest.length

theorem yields_typeArguments (c : Cursor) :
    Yields c (fun r => ∀ t ∈ r.1, t.WellNamedArgument) (onward typeArguments) := by
  rw [onward_typeArguments]
  refine local_atClosingAngle.skip fun closes _ h₀ => ?_
  cases h₀
  split
  · refine (local_closeAngle 0).skip fun owed _ _ => yields_pure fun t ht => ?_
    exact absurd ht List.not_mem_nil
  · refine (yields_argumentList c).bind fun arguments _ _ goods => ?_
    exact (local_closeAngle arguments.2).skip fun owed _ _ => yields_pure goods
termination_by 6 * c.rest.length + 5

theorem yields_argumentList (c : Cursor) :
    Yields c (fun r => ∀ t ∈ r.1, t.WellNamedArgument) (past argumentList) := by
  rw [past_argumentList]
  refine (yields_typeArgument c).bind fun ⟨first, owed⟩ c₁ h₁ good => ?_
  have := past_lt h₁
  have one : ∀ t ∈ [first], t.WellNamedArgument := List.forall_mem_singleton.mpr good
  by_cases h : owed = 0
  · subst h
    refine (local_accept _).skip fun t c₂ h₂ => ?_
    cases t with
    | none => exact yields_pure one
    | some t =>
      have := option_lt h₂
      refine (yields_argumentList c₂).bind fun more _ _ goods => yields_pure ?_
      exact List.forall_mem_cons.mpr ⟨good, goods⟩
  · show Yields c₁ _ (if owed = 0 then _ else _)
    rw [if_neg h]
    exact yields_pure one
termination_by 6 * c.rest.length + 4

theorem yields_typeArgument (c : Cursor) :
    Yields c (·.1.WellNamedArgument) (past typeArgument) := by
  rw [past_typeArgument]
  refine local_location.skip fun _ _ h₀ => local_annotations.skip fun _ c₁ h₁ => ?_
  cases h₀
  have := onward_le h₁
  refine (local_accept _).skip fun t c₂ h₂ => ?_
  cases t with
  | none =>
    cases option_none h₂
    refine (yields_openType c₁).bind fun inner _ _ good => ?_
    exact (local_span _).skip fun span _ _ => yields_pure (.argument good)
  | some t =>
    have := option_lt h₂
    refine (local_accept _).skip fun t c₃ h₃ => ?_
    cases t with
    | some t =>
      have := option_lt h₃
      refine (yields_openType c₃).bind fun bound _ _ good => ?_
      exact (local_span _).skip fun span _ _ => yields_pure (.bounded good)
    | none =>
      cases option_none h₃
      refine (local_accept _).skip fun t c₄ h₄ => ?_
      cases t with
      | some t =>
        have := option_lt h₄
        refine (yields_openType c₄).bind fun bound _ _ good => ?_
        exact (local_span _).skip fun span _ _ => yields_pure (.bounded good)
      | none => exact (local_span _).skip fun span _ _ => yields_pure .wildcard
termination_by 6 * c.rest.length + 3

end

theorem yields_completeType : Yields c JavaType.WellNamed (past completeType) := by
  rw [past_completeType]
  refine (yields_openType c).bind fun type _ _ good => ?_
  split
  · exact yields_pure good
  · exact yields_fail _

/-! ## Methods -/

theorem yields_parameter : Yields c Parameter.WellNamed (past parameter) := by
  rw [past_parameter]
  refine local_location.skip fun l _ _ => local_modifiers.skip fun _ _ _ => ?_
  refine yields_completeType.bind fun type _ _ good => local_annotations.skip fun _ _ _ => ?_
  refine (local_optional _).skip fun varargs _ _ => yields_identifier.bind fun name _ _ named => ?_
  refine local_dimensions.skip fun dims _ _ => (local_span l).skip fun span _ _ => ?_
  exact yields_pure ⟨good.addDimensions dims, named⟩

theorem yields_parameterItem (c : Cursor) :
    Yields c (·.1.WellNamed) (past parameterItem) := by
  rw [past_parameterItem]
  exact yields_parameter.bind fun parameter _ _ good => yields_pure good

theorem yields_parameters : Yields c (∀ p ∈ ·, p.WellNamed) (past parameters) := by
  rw [past_parameters]
  refine (local_accept _).skip fun t d _ => ?_
  cases t with
  | some t => exact yields_pure fun p hp => absurd hp List.not_mem_nil
  | none =>
    refine (yields_separated yields_parameterItem d).bind fun read _ _ goods => ?_
    exact (local_expect _ _).skip fun _ _ _ => yields_pure goods

theorem yields_resultType : Yields c (∀ t ∈ ·, t.WellNamed) (past resultType) := by
  rw [past_resultType]
  refine (local_accept _).skip fun t d _ => ?_
  cases t with
  | some t => exact yields_none
  | none => exact yields_completeType.bind fun type _ _ good => yields_some good

theorem yields_dimensioned {result : Option JavaType} (h : ∀ t ∈ result, t.WellNamed) (dims : Nat) :
    Yields c (∀ t ∈ ·, t.WellNamed) (dimensioned result dims) := by
  intro v d hv lexed
  rw [run_dimensioned] at hv
  unfold withDimensions at hv
  split at hv
  · next type =>
    cases hv
    exact yields_some ((h type rfl).addDimensions dims) _ _ rfl lexed
  · split at hv
    · cases hv
      exact yields_none _ _ rfl lexed
    · cases hv

theorem yields_methodTail {result : Option JavaType} (h : ∀ t ∈ result, t.WellNamed) :
    Yields c (fun r => (∀ p ∈ r.1, p.WellNamed) ∧ ∀ t ∈ r.2, t.WellNamed)
      (past (methodTail result)) := by
  rw [past_methodTail]
  refine yields_parameters.bind fun parameters _ _ goods => local_dimensions.skip fun dims _ _ => ?_
  refine (yields_dimensioned h dims).bind fun result _ _ good => ?_
  exact local_memberTail.skip fun _ _ _ => yields_pure ⟨goods, good⟩

theorem yields_fieldOrMethod (l : Location) (ms : List Modifier) (ns : List String) :
    Yields c (∀ m ∈ ·, m.WellNamed) (past (fieldOrMethod l ms ns)) := by
  rw [past_fieldOrMethod]
  refine yields_resultType.bind fun result _ _ good => yields_identifier.bind fun name d _ named => ?_
  refine (local_accept _).skip fun t d _ => ?_
  cases t with
  | none => exact local_fieldTail.skip fun _ _ _ => yields_none
  | some t =>
    refine (yields_methodTail good).bind fun tail _ _ goods => (local_span l).skip fun span _ _ => ?_
    exact yields_some ⟨goods.2, named, goods.1⟩

theorem yields_plainMember (l : Location) (ms : List Modifier) :
    Yields c (∀ m ∈ ·, m.WellNamed) (past (plainMember l ms)) := by
  rw [past_plainMember]
  refine local_typeParameters.skip fun ns _ _ => local_atConstructor.skip fun starts _ _ => ?_
  split
  · exact local_constructor.skip fun _ _ _ => yields_none
  · exact yields_fieldOrMethod l ms ns

theorem yields_member : Yields c (∀ m ∈ ·, m.WellNamed) (past member) := by
  rw [past_member]
  refine local_location.skip fun l _ _ => local_modifiers.skip fun ms _ _ => ?_
  refine local_kind.skip fun kind _ _ => ?_
  split
  · exact (local_group _ _).skip fun _ _ _ => yields_none
  · refine local_typeKeyword.skip fun introduced _ _ => ?_
    cases introduced with
    | some _ => exact local_passedType.skip fun _ _ _ => yields_none
    | none => exact yields_plainMember l ms

theorem yields_memberOrSemicolon? (c : Cursor) :
    Yields c (fun found => ∀ m? ∈ found, ∀ m ∈ m?, m.WellNamed) (step memberOrSemicolon?) := by
  rw [step_memberOrSemicolon?]
  refine yields_byHead fun t d => ?_
  split
  · exact yields_none
  · split
    · exact local_first.skip fun _ _ _ => yields_some fun m hm => nomatch hm
    · exact yields_member.bind fun found _ _ good => yields_some good

/-- What is kept of a list has the property if all of the list has it. -/
theorem forall_mem_kept {as : List (Option α)} (h : ∀ a? ∈ as, ∀ a ∈ a?, P a) :
    ∀ a ∈ as.filterMap id, P a := by
  intro a ha
  obtain ⟨a?, hmem, same⟩ := List.mem_filterMap.mp ha
  exact h a? hmem a same

theorem yields_members : Yields c (∀ m ∈ ·, m.WellNamed) (past members) := by
  rw [past_members]
  refine (yields_many yields_memberOrSemicolon? c).bind fun found _ _ goods => ?_
  exact (local_expect _ _).skip fun _ _ _ => yields_pure (forall_mem_kept goods)

/-! ## Units -/

theorem yields_package : Yields c (IsQualifiedName ·.name) (past package) := by
  rw [past_package]
  refine local_location.skip fun l _ _ => (local_expect _ _).skip fun _ _ _ => ?_
  refine yields_qualifiedName.bind fun name _ _ good => (local_expect _ _).skip fun _ _ _ => ?_
  exact (local_span l).skip fun span _ _ => yields_pure good

theorem yields_package? :
    Yields c (fun found => ∀ p ∈ found, IsQualifiedName p.name) (onward package?) := by
  rw [onward_package?]
  refine (yields_look _).bind fun ahead _ _ _ => ?_
  split
  · refine local_annotations.skip fun _ _ _ => ?_
    exact yields_package.bind fun found _ _ good => yields_some good
  · exact yields_none

theorem yields_importTail (l : Location) :
    Yields c (IsQualifiedName ·.name) (past (importTail l)) := by
  rw [past_importTail]
  refine (local_optional _).skip fun isStatic _ _ => yields_qualifiedName.bind fun name _ _ good => ?_
  refine local_importStar.skip fun isWildcard _ _ => (local_expect _ _).skip fun _ _ _ => ?_
  exact (local_span l).skip fun span _ _ => yields_pure good

theorem yields_importOrSemicolon? (c : Cursor) :
    Yields c (fun found => ∀ i? ∈ found, ∀ i ∈ i?, IsQualifiedName i.name)
      (step importOrSemicolon?) := by
  rw [step_importOrSemicolon?]
  refine yields_byHead fun t d => ?_
  split
  · exact local_first.skip fun _ _ _ => yields_some fun i hi => nomatch hi
  · split
    · refine local_first.skip fun _ _ _ => (yields_importTail t.location).bind fun i _ _ good => ?_
      exact yields_some fun j hj => Option.some.inj hj ▸ good
    · exact yields_none

theorem yields_imports : Yields c (∀ i ∈ ·, IsQualifiedName i.name) (onward imports) := by
  rw [onward_imports]
  refine (yields_many yields_importOrSemicolon? c).bind fun found _ _ goods => ?_
  exact yields_pure (forall_mem_kept goods)

theorem yields_classTail (l : Location) (ms : List Modifier) :
    Yields c ClassDeclaration.WellNamed (past (classTail l ms)) := by
  rw [past_classTail]
  refine yields_identifier.bind fun name _ _ named => local_typeParameters.skip fun names _ _ => ?_
  refine local_headerTail.skip fun _ _ _ => (local_expect _ _).skip fun _ _ _ => ?_
  refine yields_members.bind fun methods _ _ goods => (local_span l).skip fun span _ _ => ?_
  exact yields_pure ⟨named, goods⟩

theorem yields_typeDeclaration : Yields c TypeDeclaration.WellNamed (past typeDeclaration) := by
  rw [past_typeDeclaration]
  refine local_location.skip fun l _ _ => local_modifiers.skip fun ms d _ => ?_
  refine local_typeKeyword.skip fun introduced e _ => ?_
  rcases introduced with _ | _ | kind
  · exact yields_fail _
  · exact (yields_classTail l ms).bind fun declaration _ _ good => yields_pure good
  · exact (local_headerOfType kind l ms).skip fun header _ _ => yields_pure trivial

theorem yields_typeOrSemicolon? (c : Cursor) :
    Yields c (fun found => ∀ d? ∈ found, ∀ d ∈ d?, d.WellNamed) (step typeOrSemicolon?) := by
  rw [step_typeOrSemicolon?]
  refine yields_byHead fun t d => ?_
  split
  · exact local_first.skip fun _ _ _ => yields_some fun i hi => nomatch hi
  · refine yields_typeDeclaration.bind fun found _ _ good => ?_
    exact yields_some fun d hd => Option.some.inj hd ▸ good

theorem yields_typeDeclarations : Yields c (∀ d ∈ ·, d.WellNamed) (onward typeDeclarations) := by
  rw [onward_typeDeclarations]
  refine (yields_many yields_typeOrSemicolon? c).bind fun found _ _ goods => ?_
  exact yields_pure (forall_mem_kept goods)

theorem yields_unit : Yields c CompilationUnit.WellNamed unit := by
  unfold unit
  refine local_location.skip fun l _ _ => yields_package?.bind fun package _ _ packaged => ?_
  refine yields_imports.bind fun imports _ _ imported => ?_
  refine yields_typeDeclarations.bind fun types _ _ declared => (local_span l).skip fun span _ _ => ?_
  exact yields_pure ⟨packaged, imported, declared⟩

end Reading

/-- The names in a unit that is read from a source are names. -/
theorem CompilationUnit.wellNamed_of_ofSource {source : String} {u : CompilationUnit}
    (h : ofSource source = .ok u) : u.WellNamed := by
  obtain ⟨ts, cuts, read⟩ := bind_eq_ok_iff.mp h
  unfold ofTokens at read
  rw [← Reading.map_run_unit] at read
  cases result : Reading.unit.run (Cursor.start ts) with
  | error e => rw [result] at read; cases read
  | ok r =>
    rw [result] at read
    cases read
    exact (Reading.yields_unit r.1 r.2 result (isLexeme_of_significant cuts)).1

end JavaStub
