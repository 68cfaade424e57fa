import JavaStub.Proofs.Grammar.Types
import JavaStub.Proofs.Layout
import JavaStub.Proofs.Lexing.Tiling
import JavaStub.Proofs.Spans.Laid

/-!
# Nested spans

A unit that is read from tokens has the spans of what it is made of, each from the place where its
reader started to the last token that it took. So the spans of a unit are nested: those of the parts
of something are within its own, and one of them ends at a token before the next one starts.

A reader that keeps spans lays their trees over the tokens that it takes. This goes by the stages of
the readers, and for types by recursion on the tokens that are left. A name on its own is read with
a span and has that of its type instead, annotations before it included, so what was laid for it is
opened and closed again.

Main facts:

1. `lays_openType`: the spans of a type.
2. `lays_member`: the spans of a method.
3. `lays_unit`: the spans of a unit.
4. `nested_of_ofSource`: the spans of a unit that is read from a source are nested.
-/

namespace JavaStub

namespace Reading

open Cursor SpanTree

variable {c c₀ d : Cursor}

/-! ## Types -/

/-- A type has the span of all that was read for it, whatever its names are. -/
theorem laid_typeOfSegments {first : ReferenceType} {more : List ReferenceType}
    (laid : Laid c ((first :: more).map ReferenceType.spanTree) d)
    (lt : d.rest.length < c.rest.length) (dims : Nat) :
    Laid c [(typeOfSegments first more dims (d.spanFrom c.location)).spanTree] d := by
  cases more with
  | nil =>
    obtain ⟨name, arguments, _, span⟩ := first
    rw [List.map_singleton, ReferenceType.spanTree] at laid
    exact laid.inside.close lt
  | cons second more =>
    rw [← spanTreesOfSegments_eq_map] at laid
    exact laid.close lt

mutual

theorem lays_openType (c : Cursor) : Lays c c (fun r => [r.1.spanTree]) (past openType) := by
  rw [past_openType]
  refine lays_look ?_
  refine Lays.skip goes_annotations (.refl c) fun _ c₁ h₁ _ laid => ?_
  refine Lays.skip (goes_next _) laid fun t c₂ h₂ _ laid => ?_
  cases t with
  | some t =>
    have := option_lt h₂
    refine Lays.skip goes_dimensions laid fun dims c₃ _ _ laid => lays_look (lays_pure ?_)
    exact laid.close (by omega)
  | none =>
    cases option_none h₂
    refine (lays_segment c₁).bind laid fun first c₂ h₂ _ laid => ?_
    have := past_lt h₂
    refine (lays_segmentTail first.2 c₂).bind laid fun more c₃ _ _ laid => ?_
    refine Lays.skip (goes_dimensionsUnlessOwed _) laid fun dims c₄ _ _ laid => ?_
    exact lays_look (lays_pure (laid_typeOfSegments laid (by omega) dims))
termination_by 6 * c.rest.length + 2

theorem lays_segment (c : Cursor) : Lays c c (fun r => [r.1.spanTree]) (past segment) := by
  rw [past_segment]
  refine lays_look ?_
  refine Lays.skip goes_identifier (.refl c) fun name c₁ h₁ _ laid => ?_
  have := past_lt h₁
  refine Lays.skip (goes_accept _) laid fun t c₂ h₂ _ laid => ?_
  cases t with
  | none => exact lays_look (lays_pure (laid.close (by omega)))
  | some t =>
    refine (lays_typeArguments c₂).bind laid fun arguments c₃ _ _ laid => ?_
    rw [List.nil_append, ← spanTreesOfArguments_eq_map] at laid
    exact lays_look (lays_pure (laid.close (by omega)))
termination_by 6 * c.rest.length + 1

theorem lays_segmentTail (owed : Nat) (c : Cursor) :
    Lays c c (fun r => r.1.map ReferenceType.spanTree) (onward (segmentTail owed)) := by
  rw [onward_segmentTail]
  by_cases h : owed = 0
  · subst h
    refine Lays.skip goes_joiningDot (.refl c) fun t c₁ h₁ _ laid => ?_
    cases t with
    | none => exact lays_pure laid
    | some t =>
      have := option_lt h₁
      refine (lays_segment c₁).bind laid fun first c₂ h₂ _ laid => ?_
      have := past_lt h₂
      exact (lays_segmentTail first.2 c₂).bind laid fun more _ _ _ laid => lays_pure laid
  · rw [if_neg h]
    exact lays_pure (.refl c)
termination_by 6 * c.rest.length

theorem lays_typeArguments (c : Cursor) :
    Lays c c (fun r => r.1.map JavaType.spanTree) (onward typeArguments) := by
  rw [onward_typeArguments]
  refine lays_look ?_
  split
  · exact Lays.skip (goes_closeAngle 0) (.refl c) fun owed _ _ _ laid => lays_pure laid
  · refine (lays_argumentList c).bind (.refl c) fun arguments _ _ _ laid => ?_
    exact Lays.skip (goes_closeAngle _) laid fun owed _ _ _ laid => lays_pure laid
termination_by 6 * c.rest.length + 5

theorem lays_argumentList (c : Cursor) :
    Lays c c (fun r => r.1.map JavaType.spanTree) (past argumentList) := by
  rw [past_argumentList]
  refine (lays_typeArgument c).bind (.refl c) fun ⟨first, owed⟩ c₁ h₁ _ laid => ?_
  have := past_lt h₁
  by_cases h : owed = 0
  · subst h
    refine Lays.skip (goes_accept _) laid fun t c₂ h₂ _ laid => ?_
    cases t with
    | none => exact lays_pure laid
    | some t =>
      have := option_lt h₂
      exact (lays_argumentList c₂).bind laid fun more _ _ _ laid => lays_pure laid
  · show Lays c c₁ _ (if owed = 0 then _ else _)
    rw [if_neg h]
    exact lays_pure laid
termination_by 6 * c.rest.length + 4

theorem lays_typeArgument (c : Cursor) :
    Lays c c (fun r => [r.1.spanTree]) (past typeArgument) := by
  rw [past_typeArgument]
  refine lays_look ?_
  refine Lays.skip goes_annotations (.refl c) fun _ c₁ _ _ laid => ?_
  refine Lays.skip (goes_accept _) laid fun t c₂ h₂ _ laid => ?_
  cases t with
  | none =>
    cases option_none h₂
    refine (lays_openType c₁).bind laid fun inner c₂ h₂ _ laid => ?_
    have := past_lt h₂
    exact lays_look (lays_pure (laid.close (by omega)))
  | some t =>
    have := option_lt h₂
    refine Lays.skip (goes_accept _) laid fun t c₃ h₃ _ laid => ?_
    cases t with
    | some t =>
      have := option_lt h₃
      refine (lays_openType c₃).bind laid fun bound c₄ _ _ laid => ?_
      exact lays_look (lays_pure (laid.close (by omega)))
    | none =>
      refine Lays.skip (goes_accept _) laid fun t c₄ h₄ _ laid => ?_
      cases t with
      | some t =>
        have := option_lt h₄
        refine (lays_openType c₄).bind laid fun bound c₅ _ _ laid => ?_
        exact lays_look (lays_pure (laid.close (by omega)))
      | none => exact lays_look (lays_pure (laid.close (by omega)))
termination_by 6 * c.rest.length + 3

end

theorem lays_completeType : Lays c c (fun t => [t.spanTree]) (past completeType) := by
  rw [past_completeType]
  refine (lays_openType c).bind (.refl c) fun type d _ _ laid => ?_
  split
  · exact lays_pure laid
  · exact lays_fail _

/-! ## Type parameters, whose bounds are not kept -/

theorem goes_bound (c : Cursor) : Goes c (past bound) := by
  rw [past_bound]
  exact (lays_openType c).forget.bind fun type _ _ => goes_pure _

theorem goes_bounds : Goes c (onward bounds) := by
  rw [onward_bounds]
  refine (goes_accept _).bind fun t d _ => ?_
  cases t with
  | none => exact goes_pure 0
  | some t => exact (goes_separated goes_bound d).bind fun read _ _ => goes_pure _

theorem goes_typeParameter (c : Cursor) : Goes c (past typeParameter) := by
  rw [past_typeParameter]
  exact goes_annotations.bind fun _ _ _ => goes_identifier.bind fun name _ _ =>
    goes_bounds.bind fun owed _ _ => goes_pure _

theorem goes_typeParameters : Goes c (onward typeParameters) := by
  rw [onward_typeParameters]
  refine (goes_accept _).bind fun t d _ => ?_
  cases t with
  | none => exact goes_pure []
  | some t =>
    refine (goes_separated goes_typeParameter d).bind fun names _ _ => ?_
    refine (goes_closeAngle _).bind fun owed _ _ => ?_
    split
    · exact goes_pure _
    · exact goes_fail _

/-! ## Methods -/

theorem lays_parameter : Lays c c (fun p => [p.spanTree]) (past parameter) := by
  rw [past_parameter]
  refine lays_look ?_
  refine Lays.skip goes_modifiers (.refl c) fun _ c₁ _ _ laid => ?_
  refine lays_completeType.bind laid fun type c₂ h₂ _ laid => ?_
  have := past_lt h₂
  refine Lays.skip goes_annotations laid fun _ c₃ _ _ laid => ?_
  refine Lays.skip (goes_optional _) laid fun varargs c₄ _ _ laid => ?_
  refine Lays.skip goes_identifier laid fun name c₅ _ _ laid => ?_
  refine Lays.skip goes_dimensions laid fun dims c₆ _ _ laid => lays_look (lays_pure ?_)
  rw [List.nil_append, ← JavaType.spanTree_addDimensions dims] at laid
  exact laid.close (by omega)

theorem lays_parameterItem (c : Cursor) :
    Lays c c (fun r => [r.1.spanTree]) (past parameterItem) := by
  rw [past_parameterItem]
  exact lays_parameter.bind (.refl c) fun parameter _ _ _ laid => lays_pure laid

theorem lays_parameters : Lays c c (·.map Parameter.spanTree) (past parameters) := by
  rw [past_parameters]
  refine Lays.skip (goes_accept _) (.refl c) fun t d _ _ laid => ?_
  cases t with
  | some t => exact lays_pure laid
  | none =>
    refine (lays_separated (fun p => [p.spanTree]) lays_parameterItem d).bind laid
      fun read e _ _ laid => ?_
    refine Lays.skip (goes_expect _ _) laid fun _ _ _ _ laid => lays_pure ?_
    rw [List.map_eq_flatMap]
    exact laid

theorem lays_resultType : Lays c c (·.toList.map JavaType.spanTree) (past resultType) := by
  rw [past_resultType]
  refine Lays.skip (goes_accept _) (.refl c) fun t d _ _ laid => ?_
  cases t with
  | some t => exact lays_pure laid
  | none => exact lays_completeType.bind laid fun type _ _ _ laid => lays_pure laid

/-- The dimensions that follow the parameters leave the spans of a result alone. -/
theorem spanTrees_of_run_dimensioned {result type : Option JavaType} {dims : Nat}
    (h : (dimensioned result dims).run c = .ok (type, d)) :
    type.toList.map JavaType.spanTree = result.toList.map JavaType.spanTree := by
  rw [run_dimensioned] at h
  unfold withDimensions at h
  cases result with
  | some t =>
    cases h
    simp
  | none =>
    dsimp only at h
    split at h <;> cases h
    rfl

theorem goes_dimensioned (result : Option JavaType) (dims : Nat) :
    Goes c (dimensioned result dims) := by
  intro type d h
  cases eq_of_run_dimensioned h
  exact .refl c

/-- Behind the spans of the result come those of the parameters. -/
theorem lays_methodTail {result : Option JavaType}
    (laid : Laid c₀ (result.toList.map JavaType.spanTree) c) :
    Lays c₀ c (fun r => r.2.toList.map JavaType.spanTree ++ r.1.map Parameter.spanTree)
      (past (methodTail result)) := by
  rw [past_methodTail]
  refine lays_parameters.bind laid fun parameters c₁ _ _ laid => ?_
  refine Lays.skip goes_dimensions laid fun dims c₂ _ _ laid => ?_
  refine Lays.skip (goes_dimensioned result dims) laid fun type c₃ h₃ _ laid => ?_
  rw [← spanTrees_of_run_dimensioned h₃] at laid
  exact Lays.skip goes_memberTail laid fun _ _ _ _ laid => lays_pure laid

/-- A method has the span of all that was read since its modifiers. -/
theorem lays_fieldOrMethod (laid : Laid c₀ [] c) (ms : List Modifier) (ns : List String) :
    Lays c₀ c (·.toList.map Method.spanTree) (past (fieldOrMethod c₀.location ms ns)) := by
  have := laid.le
  rw [past_fieldOrMethod]
  refine lays_resultType.bind laid fun result c₁ _ _ laid => ?_
  refine Lays.skip goes_identifier laid fun name c₂ h₂ _ laid => ?_
  have := past_lt h₂
  refine Lays.skip (goes_accept _) laid fun t c₃ _ _ laid => ?_
  cases t with
  | none => exact Lays.skip goes_fieldTail laid fun _ _ _ _ laid => lays_pure laid.forget
  | some t =>
    refine Lays.andThen (lays_methodTail laid) fun tail c₄ h₄ laid => lays_look (lays_pure ?_)
    have := past_lt h₄
    exact laid.close (by omega)

theorem lays_plainMember (laid : Laid c₀ [] c) (ms : List Modifier) :
    Lays c₀ c (·.toList.map Method.spanTree) (past (plainMember c₀.location ms)) := by
  rw [past_plainMember]
  refine Lays.skip goes_typeParameters laid fun ns c₁ _ _ laid => lays_look ?_
  split
  · exact Lays.skip goes_constructor laid fun _ _ _ _ laid => lays_pure laid
  · exact lays_fieldOrMethod laid ms ns

theorem lays_member : Lays c c (·.toList.map Method.spanTree) (past member) := by
  rw [past_member]
  refine lays_look ?_
  refine Lays.skip goes_modifiers (.refl c) fun ms c₁ _ _ laid => lays_look ?_
  split
  · exact Lays.skip (goes_group _ _) laid fun _ _ _ _ laid => lays_pure laid
  · refine Lays.skip goes_typeKeyword laid fun introduced c₂ _ _ laid => ?_
    cases introduced with
    | some _ => exact Lays.skip goes_passedType laid fun _ _ _ _ laid => lays_pure laid
    | none => exact lays_plainMember laid ms

theorem lays_memberOrSemicolon? (c : Cursor) :
    Lays c c (ifAny (·.toList.map Method.spanTree)) (step memberOrSemicolon?) := by
  rw [step_memberOrSemicolon?]
  refine lays_byHead rfl fun t ts _ => ?_
  split_ifs
  · exact lays_pure (.refl c)
  · exact Lays.skip goes_first (.refl c) fun _ _ _ _ laid => lays_pure laid
  · exact lays_member.bind (.refl c) fun member _ _ _ laid => lays_pure laid

/-- The trees of what is kept of a list. -/
theorem map_kept {α : Type} (f : α → SpanTree) (as : List (Option α)) :
    (as.filterMap id).map f = as.flatMap (·.toList.map f) := by
  induction as with
  | nil => rfl
  | cons a as ih =>
    cases a with
    | none => exact ih
    | some a => exact congrArg (f a :: ·) ih

theorem lays_members : Lays c c (·.map Method.spanTree) (past members) := by
  rw [past_members]
  refine (lays_many lays_memberOrSemicolon? c).bind (.refl c) fun kept d _ _ laid => ?_
  refine Lays.skip (goes_expect _ _) laid fun _ _ _ _ laid => lays_pure ?_
  rw [map_kept]
  exact laid

/-! ## Units -/

theorem lays_package : Lays c c (fun p => [p.spanTree]) (past package) := by
  rw [past_package]
  refine lays_look ?_
  refine Lays.skip (goes_expect _ _) (.refl c) fun _ c₁ h₁ _ laid => ?_
  have := past_lt h₁
  refine Lays.skip goes_qualifiedName laid fun name c₂ _ _ laid => ?_
  refine Lays.skip (goes_expect _ _) laid fun _ c₃ _ _ laid => ?_
  exact lays_look (lays_pure (laid.close (by omega)))

theorem lays_package? : Lays c c (·.toList.map Package.spanTree) (onward package?) := by
  rw [onward_package?]
  refine lays_look ?_
  split
  · refine Lays.skip goes_annotations (.refl c) fun _ c₁ _ _ laid => ?_
    exact lays_package.bind laid fun package _ _ _ laid => lays_pure laid
  · exact lays_pure (.refl c)

/-- An import has the span of all that was read since its keyword. -/
theorem lays_importTail (laid : Laid c₀ [] c) :
    Lays c₀ c (fun i => [i.spanTree]) (past (importTail c₀.location)) := by
  have := laid.le
  rw [past_importTail]
  refine Lays.skip (goes_optional _) laid fun isStatic c₁ _ _ laid => ?_
  refine Lays.skip goes_qualifiedName laid fun name c₂ h₂ _ laid => ?_
  have := past_lt h₂
  refine Lays.skip goes_importStar laid fun isWildcard c₃ _ _ laid => ?_
  refine Lays.skip (goes_expect _ _) laid fun _ c₄ _ _ laid => ?_
  exact lays_look (lays_pure (laid.close (by omega)))

theorem lays_importOrSemicolon? (c : Cursor) :
    Lays c c (ifAny (·.toList.map Import.spanTree)) (step importOrSemicolon?) := by
  rw [step_importOrSemicolon?]
  refine lays_byHead rfl fun t ts here => ?_
  have place : t.location = c.location := by
    unfold Cursor.location
    rw [here]
  rw [place]
  split_ifs
  · exact Lays.skip goes_first (.refl c) fun _ _ _ _ laid => lays_pure laid
  · refine Lays.skip goes_first (.refl c) fun _ c₁ _ _ laid => ?_
    exact Lays.andThen (lays_importTail laid) fun i _ _ laid => lays_pure laid
  · exact lays_pure (.refl c)

theorem lays_imports : Lays c c (·.map Import.spanTree) (onward imports) := by
  rw [onward_imports]
  refine (lays_many lays_importOrSemicolon? c).bind (.refl c) fun kept d _ _ laid => lays_pure ?_
  rw [map_kept]
  exact laid

/-- A class has the span of all that was read since its modifiers. -/
theorem lays_classTail (laid : Laid c₀ [] c) (ms : List Modifier) :
    Lays c₀ c (fun d => [d.spanTree]) (past (classTail c₀.location ms)) := by
  have := laid.le
  rw [past_classTail]
  refine Lays.skip goes_identifier laid fun name c₁ h₁ _ laid => ?_
  have := past_lt h₁
  refine Lays.skip goes_typeParameters laid fun names c₂ _ _ laid => ?_
  refine Lays.skip goes_headerTail laid fun _ c₃ _ _ laid => ?_
  refine Lays.skip (goes_expect _ _) laid fun _ c₄ _ _ laid => ?_
  refine lays_members.bind laid fun methods c₅ _ _ laid => ?_
  exact lays_look (lays_pure (laid.close (by omega)))

/-- A header has the span of all that was read since its modifiers. -/
theorem lays_headerOfType (laid : Laid c₀ [] c) (kind : HeaderKind) (ms : List Modifier) :
    Lays c₀ c (fun h => [h.spanTree]) (past (headerOfType kind c₀.location ms)) := by
  have := laid.le
  rw [past_headerOfType]
  refine Lays.skip goes_passedType laid fun name c₁ h₁ _ laid => ?_
  have := past_lt h₁
  exact lays_look (lays_pure (laid.close (by omega)))

theorem lays_typeDeclaration : Lays c c (fun d => [d.spanTree]) (past typeDeclaration) := by
  rw [past_typeDeclaration]
  refine lays_look ?_
  refine Lays.skip goes_modifiers (.refl c) fun ms c₁ _ _ laid => ?_
  refine Lays.skip goes_typeKeyword laid fun introduced c₂ _ _ laid => ?_
  rcases introduced with _ | _ | kind
  · exact lays_fail _
  · exact Lays.andThen (lays_classTail laid ms) fun declaration _ _ laid => lays_pure laid
  · exact Lays.andThen (lays_headerOfType laid kind ms) fun header _ _ laid => lays_pure laid

theorem lays_typeOrSemicolon? (c : Cursor) :
    Lays c c (ifAny (·.toList.map TypeDeclaration.spanTree)) (step typeOrSemicolon?) := by
  rw [step_typeOrSemicolon?]
  refine lays_byHead rfl fun t ts _ => ?_
  split_ifs
  · exact Lays.skip goes_first (.refl c) fun _ _ _ _ laid => lays_pure laid
  · exact lays_typeDeclaration.bind (.refl c) fun declaration _ _ _ laid => lays_pure laid

theorem lays_typeDeclarations :
    Lays c c (·.map TypeDeclaration.spanTree) (onward typeDeclarations) := by
  rw [onward_typeDeclarations]
  refine (lays_many lays_typeOrSemicolon? c).bind (.refl c) fun kept d _ _ laid => lays_pure ?_
  rw [map_kept]
  exact laid

/-- Type declarations go on to the end of the tokens. -/
theorem rest_of_run_typeDeclarations {types : List TypeDeclaration}
    (h : (onward typeDeclarations).run c = .ok (types, d)) : d.rest = [] := by
  rw [onward_typeDeclarations] at h
  obtain ⟨kept, e, many, same⟩ := run_bind_eq_ok_iff.mp h
  cases same
  have stop := (rounds_of_many many).2
  rw [step_typeOrSemicolon?] at stop
  obtain ⟨head, e, look, stop⟩ := run_bind_eq_ok_iff.mp stop
  cases look
  cases rest : d.rest with
  | nil => rfl
  | cons t ts =>
    dsimp only at stop
    rw [rest, List.head?_cons] at stop
    dsimp only at stop
    split_ifs at stop
    · obtain ⟨_, _, _, stop⟩ := run_bind_eq_ok_iff.mp stop
      cases stop
    · obtain ⟨_, _, _, stop⟩ := run_bind_eq_ok_iff.mp stop
      cases stop

theorem lays_unit (nonempty : c.rest ≠ []) : Lays c c (fun u => [u.spanTree]) unit := by
  unfold unit
  refine lays_look ?_
  refine lays_package?.bind (.refl c) fun package c₁ _ _ laid => ?_
  refine lays_imports.bind laid fun imports c₂ _ _ laid => ?_
  refine lays_typeDeclarations.bind laid fun types c₃ h₃ _ laid => lays_look (lays_pure ?_)
  refine laid.close ?_
  rw [rest_of_run_typeDeclarations h₃]
  exact List.length_pos_iff.mpr nonempty

end Reading

/-! ## The spans of a unit -/

namespace Source

/-- The tokens are at the places of some of the pieces, in their order. -/
theorem sublist_of_significant {ps : List Piece} {ts : List Token} (h : significant ps = .ok ts) :
    (ts.map (·.location)).Sublist (ps.map (·.location)) := by
  induction ps generalizing ts with
  | nil =>
    cases h
    exact .slnil
  | cons p ps ih =>
    rw [significant] at h
    split at h
    · cases h
    · split_ifs at h
      · exact .cons _ (ih h)
      · obtain ⟨us, hu, rfl⟩ := map_eq_ok_iff.mp h
        exact .cons_cons _ (ih hu)

/-- Tokens of a source start one behind the other. -/
theorem ascending_of_tokens {source : String} {ts : List Token} (h : tokens source = .ok ts) :
    SpanTree.Ascending ts := by
  have pieces : ((scan .start source.toList).map (·.location)).Pairwise fun l l' =>
      l.offset < l'.offset :=
    List.pairwise_map.mpr (pairwise_scan (fun l _ h => l.offset_lt_past h) .start source.toList)
  have places := List.Pairwise.sublist (sublist_of_significant h) pieces
  rw [List.pairwise_map] at places
  exact places

end Source

namespace CompilationUnit

theorem nested_of_ofTokens {ts : List Token} {u : CompilationUnit} (h : ofTokens ts = .ok u)
    (ascending : SpanTree.Ascending ts) : u.spanTree.Nested ts := by
  cases ts with
  | nil =>
    rw [ofTokens_nil] at h
    cases h
    exact .node (.inr ⟨rfl, rfl⟩) (.inr ⟨rfl, rfl⟩) (Nat.le_refl _) (fun _ hp => nomatch hp) .nil
      fun _ hp => nomatch hp
  | cons t ts =>
    unfold ofTokens at h
    rw [← Reading.map_run_unit] at h
    obtain ⟨⟨u', d⟩, read, same⟩ := map_eq_ok_iff.mp h
    cases same
    obtain ⟨m, split, _, row⟩ := Reading.lays_unit (List.cons_ne_nil t ts) _ _ read
    obtain ⟨mid, covers, part⟩ := row.exists_covers List.mem_cons_self
    have whole : m.Sublist (t :: ts) := by
      rw [show t :: ts = m ++ d.rest from split]
      exact List.sublist_append_left m d.rest
    exact covers.nested ascending _ (part.trans whole)

/-- The spans in a unit that is read from a source go from token to token of the source, those of
parts are within those of what they are parts of, and one part ends before the next one starts. -/
theorem nested_of_ofSource {source : String} {u : CompilationUnit} (h : ofSource source = .ok u) :
    ∃ ts, Source.tokens source = .ok ts ∧ u.spanTree.Nested ts := by
  obtain ⟨ts, cuts, read⟩ := bind_eq_ok_iff.mp h
  exact ⟨ts, cuts, nested_of_ofTokens read (Source.ascending_of_tokens cuts)⟩

/-- A class whose method has types within types, two of them closed by one token. -/
def nestedResult : String := "class A\x7bp.B<?,C<D>>f(int a);\x7d"

/-- The type `p.B<?,C<D>>` in `nestedResult`. -/
def nestedResultType : JavaType :=
  .nested [.mk "p" [] 0 (.inLine 8 8),
    .mk "B" [.wildcard (.inLine 12 12),
      .argument (.reference (.mk "C"
        [.argument (.reference (.mk "D" [] 0 (.inLine 16 16))) (.inLine 16 16)] 0 (.inLine 14 17)))
          (.inLine 14 17)] 0 (.inLine 10 17)] 0 (.inLine 8 17)

/-- The unit that `nestedResult` is read as. -/
def nestedResultUnit : CompilationUnit :=
  ⟨none, [], [.ofClass ⟨[], "A", [],
    [⟨[], [], some nestedResultType, "f", [⟨.basic "int" 0 (.inLine 21 21), "a", false,
      .inLine 21 25⟩], .inLine 8 27⟩], .inLine 0 28⟩], .inLine 0 28⟩

theorem ofSource_nestedResult : ofSource nestedResult = .ok nestedResultUnit := by decide +kernel

theorem nested_nestedResultUnit :
    ofSource nestedResult = .ok nestedResultUnit ∧
      ∃ ts, Source.tokens nestedResult = .ok ts ∧ nestedResultUnit.spanTree.Nested ts :=
  ⟨ofSource_nestedResult, nested_of_ofSource ofSource_nestedResult⟩

end CompilationUnit

end JavaStub
