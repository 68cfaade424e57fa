import JavaStub.Proofs.Groups
import JavaStub.Proofs.Reading.Locality

/-!
# Where brace groups are passed

Bodies of methods, constructors and types, initializers, and blocks in the initializers of
fields are passed as brace groups. For every reader that comes to one, a relation says at which
cursors it does (`MemberTailPasses` to `TypeDeclarationPasses`), stage by stage as it reads.
What such a group encloses can be swapped for anything balanced: the reader reads the same
value and stops at the same tokens.

Main facts:

1. `Swaps.group`: the group itself.
2. `Swaps.before` and `Swaps.behind`: a stage with a group in it, and local stages around it.
3. `swaps_typeDeclaration`: every group that the reading of a type declaration passes.
-/

namespace JavaStub

open Token (Kind)

/-- A brace group that stands at the cursor `g` in a list of tokens. -/
structure BraceGroup (ts : List Token) (g : Cursor) where
  /-- The tokens before the group. -/
  before : List Token
  opening : Token
  /-- What the group encloses. -/
  inner : List Token
  closing : Token
  /-- The tokens behind the group. -/
  behind : List Token
  opens : opening.kind = .lbrace
  closes : closing.kind = .rbrace
  balanced : Balanced .lbrace .rbrace (inner.map Token.kind)
  here : g.rest = opening :: (inner ++ closing :: behind)
  whole : ts = before ++ g.rest

/-- The tokens with something else in the group, and something else behind it. -/
def BraceGroup.tokens {ts : List Token} {g : Cursor} (b : BraceGroup ts g)
    (inner behind : List Token) : List Token :=
  b.before ++ b.opening :: (inner ++ b.closing :: behind)

namespace Reading

open Cursor

variable {α β : Type} {c d g : Cursor}

/-- No reading before a brace group can tell what the group encloses. -/
theorem alike_tokens {ts : List Token} (b : BraceGroup ts g) (inner behind : List Token) :
    Alike ts (b.tokens inner behind) := by
  obtain ⟨before, opening, _, closing, _, opens, _, _, here, rfl⟩ := b
  exact Alike.append (.inr ⟨opening, _, _, opens, here, rfl⟩) before

/-- What the brace group at `g` encloses can be swapped in what `x` reads at `c`, and so can the
tokens behind it for others that start alike. -/
def Swaps (c g : Cursor) (x : Reading α) : Prop :=
  ∀ v e, x.run c = .ok (v, e) → ∃ b : BraceGroup c.rest g, ∃ more, b.behind = more ++ e.rest ∧
    ∀ inner, Balanced .lbrace .rbrace (inner.map Token.kind) → ∀ r, Alike e.rest r →
      x.run ⟨c.last, b.tokens inner (more ++ r)⟩ = .ok (v, ⟨e.last, r⟩)

theorem Swaps.group : Swaps g g (past (group .lbrace .rbrace)) := by
  intro v e h
  obtain ⟨first, inner, last, split, hfirst, hlast, place, enclosed⟩ := of_run_group (by decide) h
  refine ⟨⟨[], first, inner, last, e.rest, hfirst, hlast, enclosed, split, rfl⟩, [], rfl, ?_⟩
  intro inner' enclosed' r _
  rw [place]
  exact run_group (by decide) hfirst hlast enclosed'

/-- A group in the first stage, before a local stage. -/
theorem Swaps.before {x : Reading α} {f : α → Reading β} (hx : Swaps c g x)
    (h : ∀ a d, x.run c = .ok (a, d) → Local d (f a)) : Swaps c g (x >>= f) := by
  intro v e hv
  rw [run_bind] at hv
  obtain ⟨⟨a, d⟩, ha, hv⟩ := bind_eq_ok_iff.mp hv
  obtain ⟨b, more, split, swap⟩ := hx a d ha
  obtain ⟨pre, split', same⟩ := h a d ha v e hv
  refine ⟨b, more ++ pre, by rw [split, split', List.append_assoc], ?_⟩
  intro inner enclosed r alike
  have ahead : Alike d.rest (pre ++ r) := by
    rw [split']
    exact alike.append pre
  rw [run_bind, List.append_assoc, swap inner enclosed _ ahead]
  exact same r alike

/-- A group in the second stage, behind a local stage. -/
theorem Swaps.behind {x : Reading α} {f : α → Reading β} (hx : Local c x) {a : α}
    (ha : x.run c = .ok (a, d)) (h : Swaps d g (f a)) : Swaps c g (x >>= f) := by
  intro v e hv
  rw [run_bind, ha] at hv
  obtain ⟨pre, split, same⟩ := hx a d ha
  obtain ⟨b, more, split', swap⟩ := h v e hv
  have whole : c.rest = (pre ++ b.before) ++ g.rest :=
    split.trans ((congrArg (pre ++ ·) b.whole).trans (List.append_assoc ..).symm)
  refine ⟨⟨pre ++ b.before, b.opening, b.inner, b.closing, b.behind, b.opens, b.closes,
    b.balanced, b.here, whole⟩, more, split', ?_⟩
  intro inner enclosed r alike
  have ahead : Alike d.rest (b.tokens inner (more ++ r)) := alike_tokens b inner _
  have moved : (pre ++ b.before) ++ b.opening :: (inner ++ b.closing :: (more ++ r)) =
      pre ++ b.tokens inner (more ++ r) := List.append_assoc ..
  show (x >>= f).run ⟨c.last, (pre ++ b.before) ++ _⟩ = _
  rw [moved, run_bind, same _ ahead]
  exact swap inner enclosed r alike

/-- A group in one round of a loop. -/
theorem Swaps.round {f : (c : Cursor) → Except ParseError (Option (Past c α))}
    (local_step : ∀ c, Local c (step f)) (rounds : Rounds f c d) (h : Swaps d g (step f)) :
    Swaps c g (onward (many f)) := by
  induction rounds with
  | refl c =>
    rw [onward_many]
    refine h.before fun a e _ => ?_
    cases a with
    | none => exact local_pure []
    | some first =>
      exact (local_many local_step e).bind fun more _ _ => local_pure (first :: more)
  | round first _ ih =>
    rw [onward_many]
    exact Swaps.behind (local_step _) first ((ih h).before fun more _ _ => local_pure _)

/-! ## Places -/

/-- Does `x` read on from one cursor to another? -/
def Leads (x : Reading α) (c d : Cursor) : Prop := ∃ v, x.run c = .ok (v, d)

theorem leads_iff {x : Reading α} : Leads x c d ↔ (x.run c).map Prod.snd = .ok d := by
  rw [map_eq_ok_iff]
  constructor
  · rintro ⟨v, run⟩
    exact ⟨(v, d), run, rfl⟩
  · rintro ⟨⟨v, _⟩, run, rfl⟩
    exact ⟨v, run⟩

instance (x : Reading α) (c d : Cursor) : Decidable (Leads x c d) := decidable_of_iff' _ leads_iff

/-- A method or constructor passes its body after its parameters. -/
def MemberTailPasses (c g : Cursor) : Prop :=
  Leads (onward (many memberPart?)) c g ∧ g.kind? = some .lbrace

/-- A field passes the blocks of its initializer, each as a part. -/
def FieldTailPasses (c g : Cursor) : Prop :=
  Rounds fieldPart? c g ∧ g.kind? = some .lbrace

/-- A type of which only the header is kept passes its body after its header. -/
def PassedTypePasses (c g : Cursor) : Prop :=
  ∃ d, Leads (past identifier) c d ∧ Leads (onward headerTail) d g

/-- A constructor passes its body. -/
def ConstructorPasses (c g : Cursor) : Prop :=
  ∃ d e, Leads (past identifier) c d ∧ Leads (past (group .lparen .rparen)) d e ∧
    MemberTailPasses e g

/-- A method passes its body after its parameters and the dimensions behind them. -/
def MethodTailPasses (c g : Cursor) : Prop :=
  ∃ d e, Leads (past parameters) c d ∧ Leads (onward dimensions) d e ∧ MemberTailPasses e g

/-- The groups of a field or a method. -/
inductive FieldOrMethodPasses : Cursor → Cursor → Prop
  | field {c d e f g : Cursor} (result : Leads (past resultType) c d)
      (name : Leads (past identifier) d e)
      (noBracket : (option (accept .lparen)).run e = .ok (none, f))
      (passes : FieldTailPasses f g) : FieldOrMethodPasses c g
  | method {c d e f g : Cursor} {t : Token} (result : Leads (past resultType) c d)
      (name : Leads (past identifier) d e)
      (bracket : (option (accept .lparen)).run e = .ok (some t, f))
      (passes : MethodTailPasses f g) : FieldOrMethodPasses c g

/-- The groups of a member that is no initializer and no type. -/
inductive PlainMemberPasses : Cursor → Cursor → Prop
  | constructor {c d g : Cursor} (generic : Leads (onward typeParameters) c d)
      (starts : d.atConstructor = true) (passes : ConstructorPasses d g) : PlainMemberPasses c g
  | fieldOrMethod {c d g : Cursor} (generic : Leads (onward typeParameters) c d)
      (starts : d.atConstructor = false) (passes : FieldOrMethodPasses d g) :
      PlainMemberPasses c g

/-- The groups of a member that is no lone semicolon. -/
inductive MemberPasses : Cursor → Cursor → Prop
  | initializer {c g : Cursor} (modified : Leads (onward modifiers) c g)
      (brace : g.kind? = some .lbrace) : MemberPasses c g
  | nestedType {c d e g : Cursor} {i : Introduced} (modified : Leads (onward modifiers) c d)
      (noBrace : d.kind? ≠ some .lbrace) (keyword : (option typeKeyword).run d = .ok (some i, e))
      (passes : PassedTypePasses e g) : MemberPasses c g
  | plain {c d e g : Cursor} (modified : Leads (onward modifiers) c d)
      (noBrace : d.kind? ≠ some .lbrace) (noKeyword : (option typeKeyword).run d = .ok (none, e))
      (passes : PlainMemberPasses e g) : MemberPasses c g

/-- The groups of the members of a class. -/
inductive MembersPasses : Cursor → Cursor → Prop
  | member {l : Location} {c g : Cursor} {t : Token} {ts : List Token}
      (rounds : Rounds memberOrSemicolon? c ⟨l, t :: ts⟩) (goesOn : t.kind ≠ .rbrace)
      (notAlone : t.kind ≠ .semicolon) (passes : MemberPasses ⟨l, t :: ts⟩ g) :
      MembersPasses c g

/-- The groups of a class after its keyword. Its own body is no group that is passed. -/
def ClassTailPasses (c g : Cursor) : Prop :=
  ∃ d₁ d₂ d₃ d₄, Leads (past identifier) c d₁ ∧ Leads (onward typeParameters) d₁ d₂ ∧
    Leads (onward headerTail) d₂ d₃ ∧ Leads (past (expect .lbrace .body)) d₃ d₄ ∧
    MembersPasses d₄ g

/-- The groups of a type declaration. -/
inductive TypeDeclarationPasses : Cursor → Cursor → Prop
  | ofClass {c d e g : Cursor} (modified : Leads (onward modifiers) c d)
      (keyword : (option typeKeyword).run d = .ok (some .ofClass, e))
      (passes : ClassTailPasses e g) : TypeDeclarationPasses c g
  | ofHeader {c d e g : Cursor} {kind : HeaderKind} (modified : Leads (onward modifiers) c d)
      (keyword : (option typeKeyword).run d = .ok (some (.ofHeader kind), e))
      (passes : PassedTypePasses e g) : TypeDeclarationPasses c g

/-- The groups of type declarations in a row. -/
inductive TypeDeclarationsPasses : Cursor → Cursor → Prop
  | typeDeclaration {l : Location} {c g : Cursor} {t : Token} {ts : List Token}
      (rounds : Rounds typeOrSemicolon? c ⟨l, t :: ts⟩) (notAlone : t.kind ≠ .semicolon)
      (passes : TypeDeclarationPasses ⟨l, t :: ts⟩ g) : TypeDeclarationsPasses c g

/-! ## Places lie ahead -/

theorem suffix_memberTail (h : MemberTailPasses c g) : g.rest <:+ c.rest := by
  obtain ⟨⟨_, before⟩, _⟩ := h
  exact (local_many local_memberPart? c).suffix before

theorem suffix_passedType (h : PassedTypePasses c g) : g.rest <:+ c.rest := by
  obtain ⟨d, ⟨_, named⟩, ⟨_, headed⟩⟩ := h
  exact (local_headerTail.suffix headed).trans (local_identifier.suffix named)

theorem suffix_fieldOrMethod (h : FieldOrMethodPasses c g) : g.rest <:+ c.rest := by
  cases h with
  | field result name noBracket passes =>
    obtain ⟨_, result⟩ := result
    obtain ⟨_, named⟩ := name
    refine (passes.1.suffix local_fieldPart?).trans (((local_accept _).suffix noBracket).trans ?_)
    exact (local_identifier.suffix named).trans (local_resultType.suffix result)
  | method result name bracket passes =>
    obtain ⟨_, result⟩ := result
    obtain ⟨_, named⟩ := name
    obtain ⟨d, e, ⟨_, listed⟩, ⟨_, counted⟩, tail⟩ := passes
    refine (suffix_memberTail tail).trans ((local_dimensions.suffix counted).trans ?_)
    refine (local_parameters.suffix listed).trans (((local_accept _).suffix bracket).trans ?_)
    exact (local_identifier.suffix named).trans (local_resultType.suffix result)

theorem suffix_plainMember (h : PlainMemberPasses c g) : g.rest <:+ c.rest := by
  cases h with
  | constructor generic _ passes =>
    obtain ⟨_, generic⟩ := generic
    obtain ⟨d, e, ⟨_, named⟩, ⟨_, passed⟩, tail⟩ := passes
    refine (suffix_memberTail tail).trans (((local_group _ _).suffix passed).trans ?_)
    exact (local_identifier.suffix named).trans (local_typeParameters.suffix generic)
  | fieldOrMethod generic _ passes =>
    obtain ⟨_, generic⟩ := generic
    exact (suffix_fieldOrMethod passes).trans (local_typeParameters.suffix generic)

theorem suffix_member (h : MemberPasses c g) : g.rest <:+ c.rest := by
  cases h with
  | initializer modified _ => exact local_modifiers.suffix modified.choose_spec
  | nestedType modified _ keyword passes =>
    refine (suffix_passedType passes).trans ((local_typeKeyword.suffix keyword).trans ?_)
    exact local_modifiers.suffix modified.choose_spec
  | plain modified _ noKeyword passes =>
    refine (suffix_plainMember passes).trans ((local_typeKeyword.suffix noKeyword).trans ?_)
    exact local_modifiers.suffix modified.choose_spec

theorem suffix_classTail (h : ClassTailPasses c g) : g.rest <:+ c.rest := by
  obtain ⟨d₁, d₂, d₃, d₄, ⟨_, named⟩, ⟨_, generic⟩, ⟨_, headed⟩, ⟨_, opened⟩, passes⟩ := h
  obtain ⟨rounds, _, _, passes⟩ := passes
  refine (suffix_member passes).trans ((rounds.suffix local_memberOrSemicolon?).trans ?_)
  refine ((local_expect _ _).suffix opened).trans ((local_headerTail.suffix headed).trans ?_)
  exact (local_typeParameters.suffix generic).trans (local_identifier.suffix named)

theorem suffix_typeDeclaration (h : TypeDeclarationPasses c g) : g.rest <:+ c.rest := by
  cases h with
  | ofClass modified keyword passes =>
    refine (suffix_classTail passes).trans ((local_typeKeyword.suffix keyword).trans ?_)
    exact local_modifiers.suffix modified.choose_spec
  | ofHeader modified keyword passes =>
    refine (suffix_passedType passes).trans ((local_typeKeyword.suffix keyword).trans ?_)
    exact local_modifiers.suffix modified.choose_spec

/-! ## Swapping -/

theorem swaps_memberTail (h : MemberTailPasses c g) : Swaps c g (past memberTail) := by
  obtain ⟨⟨passed, before⟩, brace⟩ := h
  rw [past_memberTail]
  refine .behind (local_many local_memberPart? c) before (.behind local_kind (run_look _ _) ?_)
  rw [if_pos brace]
  exact .group

theorem swaps_fieldTail (h : FieldTailPasses c g) : Swaps c g (past fieldTail) := by
  obtain ⟨rounds, brace⟩ := h
  have part : Swaps g g (step fieldPart?) := by
    rw [step_fieldPart?]
    refine .behind local_head (run_look _ _) ?_
    obtain ⟨l, _ | ⟨t, ts⟩⟩ := g
    · cases brace
    · have ht : t.kind = .lbrace := Option.some.inj brace
      show Swaps _ _ (if t.kind = .semicolon then _ else _)
      rw [if_neg (by rw [ht]; decide), if_pos ht]
      exact Swaps.group.before fun _ _ _ => local_pure _
  rw [past_fieldTail]
  refine (Swaps.round local_fieldPart? rounds part).before fun _ _ _ => ?_
  exact (local_expect _ _).bind fun _ _ _ => local_pure ()

theorem swaps_passedType (h : PassedTypePasses c g) : Swaps c g (past passedType) := by
  obtain ⟨d, ⟨name, named⟩, ⟨_, headed⟩⟩ := h
  rw [past_passedType]
  refine .behind local_identifier named (.behind local_headerTail headed ?_)
  exact Swaps.group.before fun _ _ _ => local_pure name

theorem swaps_constructor (h : ConstructorPasses c g) : Swaps c g (past constructor) := by
  obtain ⟨d, e, ⟨_, named⟩, ⟨_, passed⟩, tail⟩ := h
  rw [past_constructor]
  exact .behind local_identifier named (.behind (local_group _ _) passed (swaps_memberTail tail))

theorem swaps_methodTail (result : Option JavaType) (h : MethodTailPasses c g) :
    Swaps c g (past (methodTail result)) := by
  obtain ⟨d, e, ⟨parameters, before⟩, ⟨dims, after⟩, tail⟩ := h
  rw [past_methodTail]
  refine .behind local_parameters before (.behind local_dimensions after ?_)
  intro v f hv
  obtain ⟨⟨type, e'⟩, checked, hv'⟩ := bind_eq_ok_iff.mp (run_bind _ _ e ▸ hv)
  obtain rfl := eq_of_run_dimensioned checked
  exact Swaps.behind (local_dimensioned result dims) checked
    ((swaps_memberTail tail).before fun _ _ _ => local_pure _) v f hv

theorem swaps_fieldOrMethod (l : Location) (modifiers : List Modifier)
    (typeParameters : List String) (h : FieldOrMethodPasses c g) :
    Swaps c g (past (fieldOrMethod l modifiers typeParameters)) := by
  rw [past_fieldOrMethod]
  cases h with
  | field result name noBracket passes =>
    obtain ⟨type, result⟩ := result
    obtain ⟨name, named⟩ := name
    refine .behind local_resultType result (.behind local_identifier named ?_)
    refine .behind (local_accept _) noBracket ?_
    exact (swaps_fieldTail passes).before fun _ _ _ => local_pure none
  | method result name bracket passes =>
    obtain ⟨type, result⟩ := result
    obtain ⟨name, named⟩ := name
    refine .behind local_resultType result (.behind local_identifier named ?_)
    refine .behind (local_accept _) bracket ?_
    exact (swaps_methodTail type passes).before fun _ _ _ =>
      (local_span l).bind fun _ _ _ => local_pure _

theorem swaps_plainMember (l : Location) (modifiers : List Modifier)
    (h : PlainMemberPasses c g) : Swaps c g (past (plainMember l modifiers)) := by
  rw [past_plainMember]
  cases h with
  | constructor generic starts passes =>
    obtain ⟨typeParameters, generic⟩ := generic
    refine .behind local_typeParameters generic (.behind local_atConstructor (run_look _ _) ?_)
    rw [if_pos starts]
    exact (swaps_constructor passes).before fun _ _ _ => local_pure none
  | fieldOrMethod generic starts passes =>
    obtain ⟨typeParameters, generic⟩ := generic
    refine .behind local_typeParameters generic (.behind local_atConstructor (run_look _ _) ?_)
    rw [if_neg (by simp [starts])]
    exact swaps_fieldOrMethod l modifiers typeParameters passes

theorem swaps_member (h : MemberPasses c g) : Swaps c g (past member) := by
  rw [past_member]
  refine .behind local_location (run_look _ _) ?_
  cases h with
  | initializer modified brace =>
    obtain ⟨modifiers, modified⟩ := modified
    refine .behind local_modifiers modified (.behind local_kind (run_look _ _) ?_)
    rw [if_pos brace]
    exact Swaps.group.before fun _ _ _ => local_pure none
  | nestedType modified noBrace keyword passes =>
    obtain ⟨modifiers, modified⟩ := modified
    refine .behind local_modifiers modified (.behind local_kind (run_look _ _) ?_)
    rw [if_neg noBrace]
    refine .behind local_typeKeyword keyword ?_
    exact (swaps_passedType passes).before fun _ _ _ => local_pure none
  | plain modified noBrace noKeyword passes =>
    obtain ⟨modifiers, modified⟩ := modified
    refine .behind local_modifiers modified (.behind local_kind (run_look _ _) ?_)
    rw [if_neg noBrace]
    exact .behind local_typeKeyword noKeyword (swaps_plainMember _ modifiers passes)

theorem swaps_members (h : MembersPasses c g) : Swaps c g (past members) := by
  obtain @⟨l, _, _, t, ts, rounds, goesOn, notAlone, passes⟩ := h
  have round : Swaps ⟨l, t :: ts⟩ g (step memberOrSemicolon?) := by
    rw [step_memberOrSemicolon?]
    refine .behind local_head (run_look _ _) ?_
    show Swaps _ _ (if t.kind = .rbrace then _ else _)
    rw [if_neg goesOn, if_neg notAlone]
    exact (swaps_member passes).before fun _ _ _ => local_pure _
  rw [past_members]
  refine (Swaps.round local_memberOrSemicolon? rounds round).before fun _ _ _ => ?_
  exact (local_expect _ _).bind fun _ _ _ => local_pure _

theorem swaps_classTail (l : Location) (modifiers : List Modifier) (h : ClassTailPasses c g) :
    Swaps c g (past (classTail l modifiers)) := by
  obtain ⟨d₁, d₂, d₃, d₄, ⟨_, named⟩, ⟨_, generic⟩, ⟨_, headed⟩, ⟨_, opened⟩, passes⟩ := h
  rw [past_classTail]
  refine .behind local_identifier named (.behind local_typeParameters generic ?_)
  refine .behind local_headerTail headed (.behind (local_expect _ _) opened ?_)
  exact (swaps_members passes).before fun _ _ _ => (local_span l).bind fun _ _ _ => local_pure _

theorem swaps_typeDeclaration (h : TypeDeclarationPasses c g) :
    Swaps c g (past typeDeclaration) := by
  rw [past_typeDeclaration]
  refine .behind local_location (run_look _ _) ?_
  cases h with
  | ofClass modified keyword passes =>
    obtain ⟨modifiers, modified⟩ := modified
    refine .behind local_modifiers modified (.behind local_typeKeyword keyword ?_)
    exact (swaps_classTail _ modifiers passes).before fun _ _ _ => local_pure _
  | ofHeader modified keyword passes =>
    obtain ⟨modifiers, modified⟩ := modified
    refine .behind local_modifiers modified (.behind local_typeKeyword keyword ?_)
    refine Swaps.before ?_ fun _ _ _ => local_pure _
    rw [past_headerOfType]
    exact (swaps_passedType passes).before fun _ _ _ => (local_span _).bind fun _ _ _ =>
      local_pure _

theorem swaps_typeDeclarations (h : TypeDeclarationsPasses c g) :
    Swaps c g (onward typeDeclarations) := by
  obtain @⟨l, _, _, t, ts, rounds, notAlone, passes⟩ := h
  have round : Swaps ⟨l, t :: ts⟩ g (step typeOrSemicolon?) := by
    rw [step_typeOrSemicolon?]
    refine .behind local_head (run_look _ _) ?_
    show Swaps _ _ (if t.kind = .semicolon then _ else _)
    rw [if_neg notAlone]
    exact (swaps_typeDeclaration passes).before fun _ _ _ => local_pure _
  rw [onward_typeDeclarations]
  exact (Swaps.round local_typeOrSemicolon? rounds round).before fun _ _ _ => local_pure _

end Reading

end JavaStub
