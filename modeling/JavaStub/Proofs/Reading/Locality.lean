import JavaStub.Proofs.Reading.Declarations

/-!
# Locality of readings

What is read does not depend on the tokens that come after it, apart from the first two of
them, and apart from the first alone where it opens a brace group. So the tokens behind a
reading can be replaced by others that are `Alike`, and the reading stays the same.

Main facts:

1. `Local.bind`: stages that are local make a local reading.
2. `local_openType`: the mutual readers of types, by recursion on the tokens that are left.
3. `local_typeDeclaration`: the reading of type declarations.
-/

namespace JavaStub.Reading

open Cursor

variable {α β : Type} {c : Cursor}

/-- Do two lists of tokens start alike, as far as a reading looks ahead? -/
def Alike (r r' : List Token) : Prop :=
  r.take 2 = r'.take 2 ∨ ∃ t s s', t.kind = .lbrace ∧ r = t :: s ∧ r' = t :: s'

theorem Alike.refl (r : List Token) : Alike r r := .inl rfl

theorem Alike.nil {r : List Token} (h : Alike [] r) : r = [] := by
  rcases h with h | ⟨t, s, s', _, h, _⟩
  · cases r with
    | nil => rfl
    | cons u us => cases h
  · cases h

theorem Alike.cons {t : Token} {ts r : List Token} (h : Alike (t :: ts) r) :
    ∃ us, r = t :: us ∧ (t.kind ≠ .lbrace → ts.head? = us.head?) := by
  rcases h with h | ⟨u, s, s', hu, h, rfl⟩
  · cases r with
    | nil => cases h
    | cons u us =>
      simp only [List.take_succ_cons, List.cons.injEq] at h
      obtain ⟨rfl, h⟩ := h
      refine ⟨us, rfl, fun _ => ?_⟩
      cases ts <;> cases us <;> simp_all
  · obtain ⟨rfl, rfl⟩ := List.cons.inj h
    exact ⟨s', rfl, fun away => absurd hu away⟩

theorem Alike.head? {r r' : List Token} (h : Alike r r') : r'.head? = r.head? := by
  cases r with
  | nil => rw [h.nil]
  | cons t ts =>
    obtain ⟨us, rfl, _⟩ := h.cons
    rfl

/-- Tokens before two lists that start alike leave them alike. -/
theorem Alike.append {r r' : List Token} (h : Alike r r') : ∀ pre, Alike (pre ++ r) (pre ++ r')
  | [] => h
  | [t] => by
    refine .inl ?_
    have same := h.head?
    cases r <;> cases r' <;> simp_all
  | t :: u :: pre => .inl rfl

/-- What `x` reads at `c` stays the same when the tokens behind it are replaced by others that
start alike. -/
def Local (c : Cursor) (x : Reading α) : Prop :=
  ∀ v d, x.run c = .ok (v, d) → ∃ pre, c.rest = pre ++ d.rest ∧
    ∀ r', Alike d.rest r' → x.run ⟨c.last, pre ++ r'⟩ = .ok (v, ⟨d.last, r'⟩)

theorem local_pure (a : α) : Local c (pure a) := by
  intro v d h
  cases h
  exact ⟨[], rfl, fun r' _ => rfl⟩

theorem Local.bind {x : Reading α} {f : α → Reading β} (hx : Local c x)
    (h : ∀ a d, x.run c = .ok (a, d) → Local d (f a)) : Local c (x >>= f) := by
  intro v e hv
  rw [run_bind] at hv
  obtain ⟨⟨a, d⟩, ha, hv⟩ := bind_eq_ok_iff.mp hv
  obtain ⟨pre₁, hpre₁, first⟩ := hx a d ha
  obtain ⟨pre₂, hpre₂, second⟩ := h a d ha v e hv
  refine ⟨pre₁ ++ pre₂, by rw [hpre₁, hpre₂, List.append_assoc], fun r' alike => ?_⟩
  have ahead : Alike d.rest (pre₂ ++ r') := by
    rw [hpre₂]
    exact alike.append pre₂
  rw [run_bind, List.append_assoc, first _ ahead]
  exact second r' alike

/-- A local reading goes forward. -/
theorem Local.suffix {x : Reading α} (hx : Local c x) {v : α} {d : Cursor}
    (h : x.run c = .ok (v, d)) : d.rest <:+ c.rest := by
  obtain ⟨pre, split, _⟩ := hx v d h
  exact ⟨pre, split.symm⟩

theorem local_look {f : Cursor → α} (h : ∀ r', Alike c.rest r' → f ⟨c.last, r'⟩ = f c) :
    Local c (look f) := by
  intro v d hv
  cases hv
  exact ⟨[], rfl, fun r' alike => congrArg (fun v => Except.ok (v, _)) (h r' alike)⟩

theorem local_fail (f : Cursor → ParseError) : Local c (fail f : Reading α) := by
  intro v d hv
  cases hv

/-- A reading that takes nothing, and whose lookahead is local. -/
theorem local_declined {x : Reading α} {v : α}
    (h : ∀ r', Alike c.rest r' → x.run ⟨c.last, r'⟩ = .ok (v, ⟨c.last, r'⟩)) : Local c x := by
  intro w d hw
  have here : x.run c = .ok (v, c) := h c.rest (.refl _)
  rw [here] at hw
  cases hw
  exact ⟨[], rfl, h⟩

/-! ## What a cursor tells -/

theorem local_head : Local c (look (·.rest.head?)) := local_look fun _ alike => alike.head?

theorem local_kind : Local c (look kind?) :=
  local_look fun _ alike => congrArg (Option.map Token.kind) alike.head?

theorem local_location : Local c (look location) := by
  refine local_look fun r' alike => ?_
  obtain ⟨l, _ | ⟨t, ts⟩⟩ := c
  · rw [Alike.nil alike]
  · obtain ⟨us, rfl, _⟩ := Alike.cons alike
    rfl

theorem local_span (l : Location) : Local c (look (spanFrom l)) := local_look fun _ _ => rfl

theorem local_atClosingAngle : Local c (look atClosingAngle) := by
  refine local_look fun r' alike => ?_
  unfold atClosingAngle kind?
  rw [alike.head?]

/-- A condition on the next two tokens that no brace meets as the first. -/
theorem twoKinds_of_alike {p : Option Token.Kind → Option Token.Kind → α} {a : α}
    (brace : ∀ k, p (some .lbrace) k = a) {l : Location} {r : List Token}
    (alike : Alike c.rest r) :
    p (⟨l, r⟩ : Cursor).kind? (⟨l, r⟩ : Cursor).secondKind? = p c.kind? c.secondKind? := by
  obtain ⟨l, _ | ⟨t, ts⟩⟩ := c
  · rw [Alike.nil alike]
    rfl
  · obtain ⟨us, rfl, second⟩ := Alike.cons alike
    show p (some t.kind) (us.head?.map Token.kind) = p (some t.kind) (ts.head?.map Token.kind)
    by_cases ht : t.kind = .lbrace
    · rw [ht, brace, brace]
    · rw [second ht]

theorem atAnnotation_of_alike {l : Location} {r : List Token} (alike : Alike c.rest r) :
    atAnnotation ⟨l, r⟩ = c.atAnnotation :=
  twoKinds_of_alike (p := fun k s => k = some .atSign && s != some .kwInterface) (a := false)
    (fun _ => rfl) alike

theorem local_atAnnotation : Local c (look atAnnotation) :=
  local_look fun _ alike => atAnnotation_of_alike alike

theorem local_atPair (first second : Token.Kind) (h : first ≠ .lbrace) :
    Local c (look (atPair first second)) :=
  local_look fun _ alike =>
    twoKinds_of_alike (p := fun k s => k = some first && s = some second) (a := false)
      (fun _ => by simp [h.symm]) alike

theorem local_atConstructor : Local c (look atConstructor) :=
  local_atPair .identifier .lparen (by decide)

/-! ## Single tokens -/

theorem local_next (p : Token → Bool) : Local c (option (next? p)) := by
  obtain ⟨l, _ | ⟨t, ts⟩⟩ := c
  · refine local_declined (v := none) fun r' alike => ?_
    rw [Alike.nil alike]
    rfl
  by_cases h : p t = true
  · intro v d hv
    rw [run_next_cons, if_pos h] at hv
    cases hv
    refine ⟨[t], rfl, fun r' _ => ?_⟩
    rw [List.singleton_append, run_next_cons, if_pos h]
  · refine local_declined (v := none) fun r' alike => ?_
    obtain ⟨us, rfl, _⟩ := Alike.cons alike
    rw [run_next_cons, if_neg h]

theorem local_accept (kind : Token.Kind) : Local c (option (accept kind)) := local_next _

theorem local_first : Local c (option first?) := local_next _

theorem local_expect (kind : Token.Kind) (expected : Expectation) :
    Local c (past (expect kind expected)) := by
  rw [past_expect]
  refine (local_accept kind).bind fun t _ _ => ?_
  cases t with
  | none => exact local_fail _
  | some t => exact local_pure t

theorem local_optional (kind : Token.Kind) : Local c (sure (Cursor.optional kind)) := by
  rw [sure_optional]
  exact (local_accept kind).bind fun _ _ _ => local_pure _

/-! ## Loops -/

theorem local_many {f : (c : Cursor) → Except ParseError (Option (Past c α))}
    (h : ∀ c, Local c (step f)) (c : Cursor) : Local c (onward (many f)) := by
  rw [onward_many]
  refine (h c).bind fun a d hd => ?_
  cases a with
  | none => exact local_pure []
  | some first =>
    have := step_lt hd
    exact (local_many h d).bind fun more _ _ => local_pure (first :: more)
termination_by c.rest.length

theorem Rounds.suffix {f : (c : Cursor) → Except ParseError (Option (Past c α))}
    (h : ∀ c, Local c (step f)) {d : Cursor} (rounds : Rounds f c d) : d.rest <:+ c.rest := by
  induction rounds with
  | refl c => exact List.suffix_rfl
  | round first _ ih => exact ih.trans ((h _).suffix first)

theorem local_separated {separator : Token.Kind}
    {item : (c : Cursor) → Except ParseError (Past c (α × Nat))}
    (h : ∀ c, Local c (past item)) (c : Cursor) : Local c (past (separated separator item)) := by
  rw [past_separated]
  refine (h c).bind fun ⟨first, owed⟩ d hd => ?_
  have := past_lt hd
  -- an item that owes a closing angle is the last one of its list
  by_cases ho : owed = 0
  · subst ho
    refine (local_accept separator).bind fun t e he => ?_
    cases t with
    | none => exact local_pure _
    | some t =>
      have := option_lt he
      exact (local_separated h e).bind fun more _ _ => local_pure _
  · show Local d (if owed = 0 then _ else _)
    rw [if_neg ho]
    exact local_pure _
termination_by c.rest.length

/-! ## Names and groups -/

theorem local_identifier : Local c (past identifier) := by
  rw [past_identifier]
  exact (local_expect _ _).bind fun t _ _ => local_pure t.lexeme

theorem local_joiningDot : Local c (option joiningDot) := by
  obtain ⟨l, _ | ⟨t, ts⟩⟩ := c
  · refine local_declined (v := none) fun r' alike => ?_
    rw [Alike.nil alike]
    rfl
  -- the token behind the dot decides, so the run is given for all the tokens `us` there
  have run : ∀ us : List Token, (option joiningDot).run ⟨l, t :: us⟩ =
      .ok (if us.head?.map Token.kind = some .identifier ∧ t.kind = .dot
        then (some t, ⟨t.location, us⟩) else (none, ⟨l, t :: us⟩)) := by
    intro us
    rw [run_option]
    unfold joiningDot
    by_cases h : us.head?.map Token.kind = some .identifier
    · have second : (⟨l, t :: us⟩ : Cursor).secondKind? = some .identifier := h
      rw [if_pos second]
      refine (run_next_cons (fun t => t.kind = .dot) l t us).trans ?_
      simp [h]
    · have second : ¬(⟨l, t :: us⟩ : Cursor).secondKind? = some .identifier := h
      rw [if_neg second, if_neg fun both => h both.1]
      rfl
  by_cases h : ts.head?.map Token.kind = some .identifier ∧ t.kind = .dot
  · intro v d hv
    rw [run, if_pos h] at hv
    cases hv
    refine ⟨[t], rfl, fun r' alike => ?_⟩
    rw [List.singleton_append, run, if_pos (by rw [alike.head?]; exact h)]
  · refine local_declined (v := none) fun r' alike => ?_
    obtain ⟨us, rfl, second⟩ := Alike.cons alike
    rw [run, if_neg]
    rintro ⟨hs, ht⟩
    exact h ⟨by rw [second (by rw [ht]; decide)]; exact hs, ht⟩

theorem local_joinedName (c : Cursor) : Local c (step joinedName) := by
  rw [step_joinedName]
  refine local_joiningDot.bind fun t _ _ => ?_
  cases t with
  | none => exact local_pure none
  | some t => exact local_identifier.bind fun name _ _ => local_pure (some name)

theorem local_qualifiedName : Local c (past qualifiedName) := by
  rw [past_qualifiedName]
  refine local_identifier.bind fun first d _ => ?_
  exact (local_many local_joinedName d).bind fun more _ _ => local_pure _

/-- Groups close where they do whatever follows them. -/
theorem closeGroups_local {opening closing : Token.Kind} {depth : Nat} {l : Location}
    {ts : List Token} {d : Cursor} (h : closeGroups opening closing depth l ts = .ok d) :
    ∃ pre, ts = pre ++ d.rest ∧
      ∀ r, closeGroups opening closing depth l (pre ++ r) = .ok ⟨d.last, r⟩ := by
  fun_induction closeGroups opening closing depth l ts with
  | case1 l ts =>
    cases h
    exact ⟨[], rfl, fun r => by rw [List.nil_append, closeGroups]⟩
  | case2 => cases h
  | case3 l depth t ts h₁ ih =>
    obtain ⟨pre, rfl, closed⟩ := ih h
    exact ⟨t :: pre, rfl, fun r => by rw [List.cons_append, closeGroups, if_pos h₁, closed]⟩
  | case4 l depth t ts h₁ h₂ ih =>
    obtain ⟨pre, rfl, closed⟩ := ih h
    refine ⟨t :: pre, rfl, fun r => ?_⟩
    rw [List.cons_append, closeGroups, if_neg h₁, if_pos h₂, closed]
  | case5 l depth t ts h₁ h₂ ih =>
    obtain ⟨pre, rfl, closed⟩ := ih h
    refine ⟨t :: pre, rfl, fun r => ?_⟩
    rw [List.cons_append, closeGroups, if_neg h₁, if_neg h₂, closed]

theorem local_group (opening closing : Token.Kind) : Local c (past (group opening closing)) := by
  rw [past_group]
  refine (local_expect _ _).bind fun _ d _ => ?_
  intro v e hv
  rw [run_restOfGroup] at hv
  cases hd : closeGroups opening closing 1 d.last d.rest with
  | error e => rw [hd] at hv; cases hv
  | ok e' =>
    rw [hd] at hv
    cases hv
    obtain ⟨pre, hpre, closed⟩ := closeGroups_local hd
    exact ⟨pre, hpre, fun r' _ => by rw [run_restOfGroup, closed]; rfl⟩

theorem local_annotationArguments : Local c (onward annotationArguments) := by
  rw [onward_annotationArguments]
  refine local_kind.bind fun kind _ _ => ?_
  split
  · exact local_group _ _
  · exact local_pure ()

theorem local_annotation? (c : Cursor) : Local c (step annotation?) := by
  rw [step_annotation?]
  refine local_atAnnotation.bind fun starts _ _ => ?_
  split
  · refine (local_expect _ _).bind fun _ _ _ => local_qualifiedName.bind fun _ _ _ => ?_
    exact local_annotationArguments.bind fun _ _ _ => local_pure (some ())
  · exact local_pure none

theorem local_annotations : Local c (onward annotations) := by
  rw [onward_annotations]
  exact (local_many local_annotation? c).bind fun _ _ _ => local_pure ()

/-- A step that is decided by the next token is local when it is for every token. -/
theorem local_byHead {x : Token → Reading (Option α)} (h : ∀ t d, Local d (x t)) :
    Local c (do
      match ← look (·.rest.head?) with
      | none => return none
      | some t => x t) := by
  refine local_head.bind fun t d _ => ?_
  cases t with
  | none => exact local_pure none
  | some t => exact h t d

theorem local_pass : Local c pass := local_first.bind fun _ _ _ => local_pure (some ())

theorem local_groupPart (opening closing : Token.Kind) :
    Local c (do let _ ← past (group opening closing); return some ()) :=
  (local_group opening closing).bind fun _ _ _ => local_pure (some ())

theorem local_headerPart? (c : Cursor) : Local c (step headerPart?) := by
  rw [step_headerPart?]
  refine local_byHead fun t d => ?_
  split
  · exact local_pure none
  · split
    · exact local_groupPart _ _
    · exact local_pass

theorem local_headerTail : Local c (onward headerTail) := by
  rw [onward_headerTail]
  refine (local_many local_headerPart? c).bind fun _ _ _ => local_kind.bind fun kind _ _ => ?_
  split
  · exact local_pure ()
  · exact local_fail _

theorem local_memberPart? (c : Cursor) : Local c (step memberPart?) := by
  rw [step_memberPart?]
  refine local_byHead fun t d => ?_
  split
  · exact local_pure none
  · split
    · exact local_pure none
    · exact local_pass

theorem local_memberTail : Local c (past memberTail) := by
  rw [past_memberTail]
  refine (local_many local_memberPart? c).bind fun _ _ _ => local_kind.bind fun kind _ _ => ?_
  split
  · exact local_group _ _
  · exact (local_expect _ _).bind fun _ _ _ => local_pure ()

theorem local_fieldPart? (c : Cursor) : Local c (step fieldPart?) := by
  rw [step_fieldPart?]
  refine local_byHead fun t d => ?_
  split
  · exact local_pure none
  · split
    · exact local_groupPart _ _
    · split
      · exact local_groupPart _ _
      · exact local_pass

theorem local_fieldTail : Local c (past fieldTail) := by
  rw [past_fieldTail]
  refine (local_many local_fieldPart? c).bind fun _ _ _ => ?_
  exact (local_expect _ _).bind fun _ _ _ => local_pure ()

/-! ## Types -/

theorem local_dimension? (c : Cursor) : Local c (step dimension?) := by
  rw [step_dimension?]
  refine (local_accept _).bind fun t _ _ => ?_
  cases t with
  | none => exact local_pure none
  | some t => exact (local_expect _ _).bind fun _ _ _ => local_pure (some ())

theorem local_dimensions : Local c (onward dimensions) := by
  rw [onward_dimensions]
  exact (local_many local_dimension? c).bind fun dims _ _ => local_pure dims.length

theorem local_dimensionsUnlessOwed (owed : Nat) : Local c (onward (dimensionsUnlessOwed owed)) := by
  rw [onward_dimensionsUnlessOwed]
  split
  · exact local_dimensions
  · exact local_pure 0

theorem local_closeAngle (owed : Nat) : Local c (onward (closeAngle owed)) := by
  rw [onward_closeAngle]
  split
  · refine (local_next _).bind fun t _ _ => ?_
    cases t with
    | none => exact local_fail _
    | some t => exact local_pure _
  · exact local_pure _

mutual

theorem local_openType (c : Cursor) : Local c (past openType) := by
  rw [past_openType]
  refine local_location.bind fun _ _ h₀ => local_annotations.bind fun _ c₁ h₁ => ?_
  cases h₀
  have := onward_le h₁
  refine (local_next _).bind fun t c₂ h₂ => ?_
  cases t with
  | some t =>
    refine local_dimensions.bind fun dims _ _ => (local_span _).bind fun span _ _ => ?_
    exact local_pure _
  | none =>
    cases option_none h₂
    refine (local_segment c₁).bind fun first c₃ h₃ => ?_
    have := past_lt h₃
    refine (local_segmentTail first.2 c₃).bind fun more c₄ h₄ => ?_
    refine (local_dimensionsUnlessOwed more.2).bind fun dims _ _ => ?_
    exact (local_span _).bind fun span _ _ => local_pure _
termination_by 6 * c.rest.length + 2

theorem local_segment (c : Cursor) : Local c (past segment) := by
  rw [past_segment]
  refine local_location.bind fun _ _ h₀ => local_identifier.bind fun name c₁ h₁ => ?_
  cases h₀
  have := past_lt h₁
  refine (local_accept _).bind fun t c₂ h₂ => ?_
  cases t with
  | none => exact (local_span _).bind fun span _ _ => local_pure _
  | some t =>
    have := option_lt h₂
    refine (local_typeArguments c₂).bind fun arguments _ _ => ?_
    exact (local_span _).bind fun span _ _ => local_pure _
termination_by 6 * c.rest.length + 1

theorem local_segmentTail (owed : Nat) (c : Cursor) : Local c (onward (segmentTail owed)) := by
  rw [onward_segmentTail]
  split
  · refine local_joiningDot.bind fun t c₁ h₁ => ?_
    cases t with
    | none => exact local_pure _
    | some t =>
      have := option_lt h₁
      refine (local_segment c₁).bind fun first c₂ h₂ => ?_
      have := past_lt h₂
      exact (local_segmentTail first.2 c₂).bind fun more _ _ => local_pure _
  · exact local_pure _
termination_by 6 * c.rest.length

theorem local_typeArguments (c : Cursor) : Local c (onward typeArguments) := by
  rw [onward_typeArguments]
  refine local_atClosingAngle.bind fun closes _ h₀ => ?_
  cases h₀
  split
  · exact (local_closeAngle 0).bind fun owed _ _ => local_pure _
  · refine (local_argumentList c).bind fun arguments _ _ => ?_
    exact (local_closeAngle arguments.2).bind fun owed _ _ => local_pure _
termination_by 6 * c.rest.length + 5

theorem local_argumentList (c : Cursor) : Local c (past argumentList) := by
  rw [past_argumentList]
  refine (local_typeArgument c).bind fun ⟨first, owed⟩ c₁ h₁ => ?_
  have := past_lt h₁
  by_cases h : owed = 0
  · subst h
    refine (local_accept _).bind fun t c₂ h₂ => ?_
    cases t with
    | none => exact local_pure _
    | some t =>
      have := option_lt h₂
      exact (local_argumentList c₂).bind fun more _ _ => local_pure _
  · show Local c₁ (if owed = 0 then _ else _)
    rw [if_neg h]
    exact local_pure _
termination_by 6 * c.rest.length + 4

theorem local_typeArgument (c : Cursor) : Local c (past typeArgument) := by
  rw [past_typeArgument]
  refine local_location.bind fun _ _ h₀ => local_annotations.bind fun _ c₁ h₁ => ?_
  cases h₀
  have := onward_le h₁
  refine (local_accept _).bind fun t c₂ h₂ => ?_
  cases t with
  | none =>
    cases option_none h₂
    refine (local_openType c₁).bind fun inner _ _ => ?_
    exact (local_span _).bind fun span _ _ => local_pure _
  | some t =>
    have := option_lt h₂
    refine (local_accept _).bind fun t c₃ h₃ => ?_
    cases t with
    | some t =>
      have := option_lt h₃
      refine (local_openType c₃).bind fun bound _ _ => ?_
      exact (local_span _).bind fun span _ _ => local_pure _
    | none =>
      cases option_none h₃
      refine (local_accept _).bind fun t c₄ h₄ => ?_
      cases t with
      | some t =>
        have := option_lt h₄
        refine (local_openType c₄).bind fun bound _ _ => ?_
        exact (local_span _).bind fun span _ _ => local_pure _
      | none => exact (local_span _).bind fun span _ _ => local_pure _
termination_by 6 * c.rest.length + 3

end

theorem local_completeType : Local c (past completeType) := by
  rw [past_completeType]
  refine (local_openType c).bind fun type _ _ => ?_
  split
  · exact local_pure _
  · exact local_fail _

/-! ## Signatures -/

theorem local_modifierOrAnnotation? (c : Cursor) : Local c (step modifierOrAnnotation?) := by
  rw [step_modifierOrAnnotation?]
  refine (local_annotation? c).bind fun passed d _ => ?_
  cases passed with
  | some _ => exact local_pure _
  | none =>
    refine local_byHead fun t e => ?_
    split
    · exact local_pure none
    · exact local_first.bind fun _ _ _ => local_pure _

theorem local_modifiers : Local c (onward modifiers) := by
  rw [onward_modifiers]
  exact (local_many local_modifierOrAnnotation? c).bind fun found _ _ => local_pure _

theorem local_bound (c : Cursor) : Local c (past bound) := by
  rw [past_bound]
  exact (local_openType c).bind fun type _ _ => local_pure _

theorem local_bounds : Local c (onward bounds) := by
  rw [onward_bounds]
  refine (local_accept _).bind fun t d _ => ?_
  cases t with
  | none => exact local_pure 0
  | some t => exact (local_separated local_bound d).bind fun read _ _ => local_pure _

theorem local_typeParameter (c : Cursor) : Local c (past typeParameter) := by
  rw [past_typeParameter]
  refine local_annotations.bind fun _ _ _ => local_identifier.bind fun name _ _ => ?_
  exact local_bounds.bind fun owed _ _ => local_pure _

theorem local_typeParameters : Local c (onward typeParameters) := by
  rw [onward_typeParameters]
  refine (local_accept _).bind fun t d _ => ?_
  cases t with
  | none => exact local_pure []
  | some t =>
    refine (local_separated local_typeParameter d).bind fun names _ _ => ?_
    refine (local_closeAngle names.2).bind fun owed _ _ => ?_
    split
    · exact local_pure _
    · exact local_fail _

theorem local_parameter : Local c (past parameter) := by
  rw [past_parameter]
  refine local_location.bind fun l _ _ => local_modifiers.bind fun _ _ _ => ?_
  refine local_completeType.bind fun type _ _ => local_annotations.bind fun _ _ _ => ?_
  refine (local_optional _).bind fun varargs _ _ => local_identifier.bind fun name _ _ => ?_
  refine local_dimensions.bind fun dims _ _ => (local_span l).bind fun span _ _ => ?_
  exact local_pure _

theorem local_parameterItem (c : Cursor) : Local c (past parameterItem) := by
  rw [past_parameterItem]
  exact local_parameter.bind fun parameter _ _ => local_pure _

theorem local_parameters : Local c (past parameters) := by
  rw [past_parameters]
  refine (local_accept _).bind fun t d _ => ?_
  cases t with
  | some t => exact local_pure []
  | none =>
    refine (local_separated local_parameterItem d).bind fun read _ _ => ?_
    exact (local_expect _ _).bind fun _ _ _ => local_pure _

/-! ## Members -/

theorem local_passedType : Local c (past passedType) := by
  rw [past_passedType]
  refine local_identifier.bind fun name _ _ => local_headerTail.bind fun _ _ _ => ?_
  exact (local_group _ _).bind fun _ _ _ => local_pure name

theorem local_constructor : Local c (past constructor) := by
  rw [past_constructor]
  refine local_identifier.bind fun _ _ _ => (local_group _ _).bind fun _ _ _ => ?_
  exact local_memberTail

theorem local_resultType : Local c (past resultType) := by
  rw [past_resultType]
  refine (local_accept _).bind fun t d _ => ?_
  cases t with
  | some t => exact local_pure none
  | none => exact local_completeType.bind fun type _ _ => local_pure _

theorem local_dimensioned (result : Option JavaType) (dims : Nat) :
    Local c (dimensioned result dims) := by
  intro v d hv
  obtain rfl := eq_of_run_dimensioned hv
  exact ⟨[], rfl, fun r' _ => run_dimensioned_rest hv r'⟩

theorem local_methodTail (result : Option JavaType) : Local c (past (methodTail result)) := by
  rw [past_methodTail]
  refine local_parameters.bind fun parameters _ _ => local_dimensions.bind fun dims _ _ => ?_
  refine (local_dimensioned result dims).bind fun result _ _ => ?_
  exact local_memberTail.bind fun _ _ _ => local_pure _

theorem local_fieldOrMethod (l : Location) (modifiers : List Modifier)
    (typeParameters : List String) :
    Local c (past (fieldOrMethod l modifiers typeParameters)) := by
  rw [past_fieldOrMethod]
  refine local_resultType.bind fun result _ _ => local_identifier.bind fun name _ _ => ?_
  refine (local_accept _).bind fun t d _ => ?_
  cases t with
  | none => exact local_fieldTail.bind fun _ _ _ => local_pure none
  | some t =>
    refine (local_methodTail result).bind fun tail _ _ => (local_span l).bind fun span _ _ => ?_
    exact local_pure _

theorem local_plainMember (l : Location) (modifiers : List Modifier) :
    Local c (past (plainMember l modifiers)) := by
  rw [past_plainMember]
  refine local_typeParameters.bind fun typeParameters d _ => ?_
  refine local_atConstructor.bind fun starts e _ => ?_
  split
  · exact local_constructor.bind fun _ _ _ => local_pure none
  · exact local_fieldOrMethod l modifiers typeParameters

theorem local_keyword (introduced : Introduced) : Local c (keyword introduced) :=
  local_first.bind fun _ _ _ => local_pure (some introduced)

theorem local_typeKeyword : Local c (option typeKeyword) := by
  rw [option_typeKeyword]
  refine local_byHead fun t d => ?_
  split
  · exact local_keyword _
  · exact local_keyword _
  · exact local_keyword _
  · refine (local_atPair _ _ (by decide)).bind fun starts e _ => ?_
    split
    · exact local_first.bind fun _ _ _ => local_keyword _
    · exact local_pure none
  · refine (local_atPair _ _ (by decide)).bind fun starts e _ => ?_
    split
    · exact local_keyword _
    · exact local_pure none
  · exact local_pure none

theorem local_member : Local c (past member) := by
  rw [past_member]
  refine local_location.bind fun l _ _ => local_modifiers.bind fun modifiers d _ => ?_
  refine local_kind.bind fun kind e _ => ?_
  split
  · exact (local_group _ _).bind fun _ _ _ => local_pure none
  · refine local_typeKeyword.bind fun introduced e _ => ?_
    cases introduced with
    | some introduced => exact local_passedType.bind fun _ _ _ => local_pure none
    | none => exact local_plainMember l modifiers

theorem local_memberOrSemicolon? (c : Cursor) : Local c (step memberOrSemicolon?) := by
  rw [step_memberOrSemicolon?]
  refine local_byHead fun t d => ?_
  split
  · exact local_pure none
  · split
    · exact local_first.bind fun _ _ _ => local_pure _
    · exact local_member.bind fun found _ _ => local_pure _

theorem local_members : Local c (past members) := by
  rw [past_members]
  refine (local_many local_memberOrSemicolon? c).bind fun found _ _ => ?_
  exact (local_expect _ _).bind fun _ _ _ => local_pure _

/-! ## Units -/

theorem local_package : Local c (past package) := by
  rw [past_package]
  refine local_location.bind fun l _ _ => (local_expect _ _).bind fun _ _ _ => ?_
  refine local_qualifiedName.bind fun name _ _ => (local_expect _ _).bind fun _ _ _ => ?_
  exact (local_span l).bind fun span _ _ => local_pure _

theorem local_importStar : Local c (onward importStar) := by
  rw [onward_importStar]
  refine (local_accept _).bind fun t d _ => ?_
  cases t with
  | none => exact local_pure false
  | some t => exact (local_expect _ _).bind fun _ _ _ => local_pure true

theorem local_importTail (l : Location) : Local c (past (importTail l)) := by
  rw [past_importTail]
  refine (local_optional _).bind fun isStatic _ _ => local_qualifiedName.bind fun name _ _ => ?_
  refine local_importStar.bind fun isWildcard _ _ => (local_expect _ _).bind fun _ _ _ => ?_
  exact (local_span l).bind fun span _ _ => local_pure _

theorem local_importOrSemicolon? (c : Cursor) : Local c (step importOrSemicolon?) := by
  rw [step_importOrSemicolon?]
  refine local_byHead fun t d => ?_
  split
  · exact local_first.bind fun _ _ _ => local_pure _
  · split
    · refine local_first.bind fun _ _ _ => (local_importTail t.location).bind fun found _ _ => ?_
      exact local_pure _
    · exact local_pure none

theorem local_imports : Local c (onward imports) := by
  rw [onward_imports]
  exact (local_many local_importOrSemicolon? c).bind fun found _ _ => local_pure _

theorem local_classTail (l : Location) (modifiers : List Modifier) :
    Local c (past (classTail l modifiers)) := by
  rw [past_classTail]
  refine local_identifier.bind fun name _ _ => local_typeParameters.bind fun names _ _ => ?_
  refine local_headerTail.bind fun _ _ _ => (local_expect _ _).bind fun _ _ _ => ?_
  refine local_members.bind fun methods _ _ => (local_span l).bind fun span _ _ => ?_
  exact local_pure _

theorem local_headerOfType (kind : HeaderKind) (l : Location) (modifiers : List Modifier) :
    Local c (past (headerOfType kind l modifiers)) := by
  rw [past_headerOfType]
  exact local_passedType.bind fun name _ _ => (local_span l).bind fun span _ _ => local_pure _

theorem local_typeDeclaration : Local c (past typeDeclaration) := by
  rw [past_typeDeclaration]
  refine local_location.bind fun l _ _ => local_modifiers.bind fun modifiers d _ => ?_
  refine local_typeKeyword.bind fun introduced e _ => ?_
  rcases introduced with _ | _ | kind
  · exact local_fail _
  · exact (local_classTail l modifiers).bind fun declaration _ _ => local_pure _
  · exact (local_headerOfType kind l modifiers).bind fun header _ _ => local_pure _

theorem local_typeOrSemicolon? (c : Cursor) : Local c (step typeOrSemicolon?) := by
  rw [step_typeOrSemicolon?]
  refine local_byHead fun t d => ?_
  split
  · exact local_first.bind fun _ _ _ => local_pure _
  · exact local_typeDeclaration.bind fun found _ _ => local_pure _

end JavaStub.Reading
