import JavaStub.Proofs.Reading.Declarations
import JavaStub.Proofs.Spans.Trees

/-!
# Tokens laid under spans

From one cursor to a later one some tokens are taken, and the last of them is the token before the
later cursor. Trees of spans are `Laid` between the cursors when they cover some of these tokens,
one after the other. A span that is taken from the place of the first cursor to the last token that
was read makes one tree of all trees that are laid since.

Most readers keep no spans: they `Go` over tokens, and nothing is laid.

Main facts:

1. `Laid.append` and `Laid.close`: trees one after the other, and a span around them.
2. `Lays.bind` and `Lays.skip`: the stages of a reading.
3. `lays_many` and `lays_separated`: the loops.
4. `goes_modifiers`, `goes_memberTail` and others: the readers that keep no spans.
-/

namespace JavaStub.Reading

open Cursor SpanTree

open Token (Kind)

variable {α β : Type} {c c₀ d e : Cursor} {ps qs : List SpanTree} {m m' : List Token}
  {out : β → List SpanTree}

/-! ## Between two cursors -/

/-- The place of the last of the tokens, or the given one if there are none. -/
def lastPlace (l : Location) (m : List Token) : Location := (m.getLast?.map (·.location)).getD l

theorem lastPlace_append (l : Location) (m m' : List Token) :
    lastPlace (lastPlace l m) m' = lastPlace l (m ++ m') := by
  unfold lastPlace
  rw [List.getLast?_append]
  cases m'.getLast? <;> rfl

theorem lastPlace_cons (l : Location) (t : Token) (m : List Token) :
    lastPlace l (t :: m) = lastPlace t.location m := (lastPlace_append l [t] m).symm

/-- The cursor between the tokens before it and the tokens that are left. -/
def between (before rest : List Token) : Cursor := ⟨lastPlace .start before, rest⟩

/-- The trees cover some of the tokens between two cursors, one after the other. -/
def Laid (c : Cursor) (ps : List SpanTree) (d : Cursor) : Prop :=
  ∃ m, c.rest = m ++ d.rest ∧ d.last = lastPlace c.last m ∧ InRow ps m

theorem Laid.refl (c : Cursor) : Laid c [] c := ⟨[], rfl, rfl, .nil⟩

theorem Laid.append (h : Laid c ps d) (h' : Laid d qs e) : Laid c (ps ++ qs) e := by
  obtain ⟨m, split, last, row⟩ := h
  obtain ⟨m', split', last', row'⟩ := h'
  refine ⟨m ++ m', ?_, ?_, row.append row'⟩
  · rw [split, split', List.append_assoc]
  · rw [last', last, lastPlace_append]

theorem Laid.le (h : Laid c ps d) : d.rest.length ≤ c.rest.length := by
  obtain ⟨m, split, _⟩ := h
  rw [split, List.length_append]
  exact Nat.le_add_left _ _

theorem Laid.forget (h : Laid c ps d) : Laid c [] d := by
  obtain ⟨m, split, last, _⟩ := h
  exact ⟨m, split, last, .nil⟩

/-- What is taken lies before the cursor where it was taken. -/
theorem Laid.exists_between {before rest : List Token} (h : Laid (between before rest) ps d) :
    ∃ m, rest = m ++ d.rest ∧ d = between (before ++ m) d.rest := by
  obtain ⟨m, split, last, _⟩ := h
  refine ⟨m, split, ?_⟩
  unfold between
  rw [← lastPlace_append]
  exact congrArg (Cursor.mk · d.rest) last

/-- The parts of a tree without their span. -/
theorem Laid.inside {span : Span} (h : Laid c [.node span ps] d) : Laid c ps d := by
  obtain ⟨m, split, last, row⟩ := h
  exact ⟨m, split, last, row.inside⟩

/-- The span of all that was read makes one tree of what was laid. -/
theorem Laid.close (h : Laid c ps d) (lt : d.rest.length < c.rest.length) :
    Laid c [.node (d.spanFrom c.location) ps] d := by
  obtain ⟨m, split, last, row⟩ := h
  obtain ⟨first, rest, rfl⟩ : ∃ first rest, m = first :: rest := by
    refine List.exists_cons_of_ne_nil fun none => ?_
    rw [split, none] at lt
    exact Nat.lt_irrefl _ lt
  obtain ⟨final, hl⟩ : ∃ final, (first :: rest).getLast? = some final :=
    ⟨_, List.getLast?_eq_some_getLast (List.cons_ne_nil first rest)⟩
  refine ⟨first :: rest, split, last, ?_⟩
  have span : d.spanFrom c.location = ⟨first.location, final.location⟩ := by
    unfold spanFrom Cursor.location
    rw [split, last, lastPlace, hl]
    rfl
  have row : InRow [.node (d.spanFrom c.location) ps] ([] ++ (first :: rest ++ [])) := by
    rw [span]
    exact .cons (.node rfl hl row) .nil
  rw [List.nil_append, List.append_nil] at row
  exact row

/-! ## Readings -/

/-- What `x` reads at `c` is laid since `c₀`, with the trees that `out` has for it. -/
def Lays (c₀ c : Cursor) (out : β → List SpanTree) (x : Reading β) : Prop :=
  ∀ v d, x.run c = .ok (v, d) → Laid c₀ (out v) d

/-- The reading keeps no spans of what it takes. -/
def Goes (c : Cursor) (x : Reading α) : Prop := Lays c c (fun _ => []) x

theorem lays_pure {v : β} (h : Laid c₀ (out v) c) : Lays c₀ c out (pure v) := by
  intro w d hw
  cases hw
  exact h

theorem lays_fail (f : Cursor → ParseError) : Lays c₀ c out (fail f : Reading β) := by
  intro v d hv
  cases hv

theorem lays_look {f : Cursor → α} {k : α → Reading β} (h : Lays c₀ c out (k (f c))) :
    Lays c₀ c out (look f >>= k) := fun v d hv => h v d hv

/-- A stage that goes on with what is laid already. -/
theorem Lays.andThen {x : Reading α} {f : α → Reading β} {parts : α → List SpanTree}
    (hx : Lays c₀ c parts x)
    (h : ∀ a d, x.run c = .ok (a, d) → Laid c₀ (parts a) d → Lays c₀ d out (f a)) :
    Lays c₀ c out (x >>= f) := by
  intro v e hv
  rw [run_bind] at hv
  obtain ⟨⟨a, d⟩, ha, hv⟩ := bind_eq_ok_iff.mp hv
  exact h a d ha (hx a d ha) v e hv

/-- A stage that lays trees behind the others. -/
theorem Lays.bind {x : Reading α} {f : α → Reading β} {parts : α → List SpanTree}
    (hx : Lays c c parts x) (laid : Laid c₀ ps c)
    (h : ∀ a d, x.run c = .ok (a, d) → d.rest.length ≤ c.rest.length →
      Laid c₀ (ps ++ parts a) d → Lays c₀ d out (f a)) : Lays c₀ c out (x >>= f) := by
  have all : Lays c₀ c (fun a => ps ++ parts a) x := fun a d ha => laid.append (hx a d ha)
  exact all.andThen fun a d ha laid => h a d ha (hx a d ha).le laid

/-- A stage that keeps no spans. -/
theorem Lays.skip {x : Reading α} {f : α → Reading β} (hx : Goes c x) (laid : Laid c₀ ps c)
    (h : ∀ a d, x.run c = .ok (a, d) → d.rest.length ≤ c.rest.length → Laid c₀ ps d →
      Lays c₀ d out (f a)) : Lays c₀ c out (x >>= f) :=
  Lays.bind hx laid fun a d ha le laid => h a d ha le (by simpa using laid)

theorem Lays.forget {x : Reading β} (h : Lays c c out x) : Goes c x :=
  fun v d hv => (h v d hv).forget

/-- A stage that keeps no spans, in a reading that keeps none. -/
theorem Goes.bind {x : Reading α} {f : α → Reading β} (hx : Goes c x)
    (h : ∀ a d, x.run c = .ok (a, d) → Goes d (f a)) : Goes c (x >>= f) :=
  Lays.skip hx (.refl c) fun a d ha _ laid v e hv => laid.append (h a d ha v e hv)

theorem goes_pure (a : α) : Goes c (pure a) := lays_pure (.refl c)

theorem goes_fail (f : Cursor → ParseError) : Goes c (fail f : Reading α) := lays_fail f

theorem goes_look (f : Cursor → α) : Goes c (look f) := by
  intro v d hv
  cases hv
  exact .refl c

/-! ## Single tokens -/

theorem goes_next (p : Token → Bool) : Goes c (option (next? p)) := by
  intro found d hd
  cases found with
  | none =>
    cases option_none hd
    exact .refl c
  | some t =>
    obtain ⟨_, split, last⟩ := of_run_next hd
    exact ⟨[t], split, last, .nil⟩

theorem goes_accept (kind : Kind) : Goes c (option (accept kind)) := goes_next _

theorem goes_first : Goes c (option first?) := goes_next _

theorem goes_optional (kind : Kind) : Goes c (sure (Cursor.optional kind)) := by
  rw [sure_optional]
  exact (goes_accept kind).bind fun found _ _ => goes_pure _

theorem goes_expect (kind : Kind) (expected : Expectation) :
    Goes c (past (expect kind expected)) := by
  intro t d hd
  obtain ⟨_, split, last⟩ := of_run_expect hd
  exact ⟨[t], split, last, .nil⟩

/-! ## Loops -/

/-- The trees of a value, if there is one. -/
def ifAny (out : β → List SpanTree) (v : Option β) : List SpanTree := v.elim [] out

theorem lays_many {f : (c : Cursor) → Except ParseError (Option (Past c β))}
    (h : ∀ c, Lays c c (ifAny out) (step f)) (c : Cursor) :
    Lays c c (·.flatMap out) (onward (many f)) := by
  rw [onward_many]
  refine (h c).bind (.refl c) fun first d hd _ laid => ?_
  cases first with
  | none => exact lays_pure laid
  | some first =>
    have := step_lt hd
    refine (lays_many h d).bind laid fun more e _ _ laid => lays_pure ?_
    simpa [ifAny] using laid
termination_by c.rest.length

theorem lays_separated (out : β → List SpanTree) {separator : Kind}
    {item : (c : Cursor) → Except ParseError (Past c (β × Nat))}
    (h : ∀ c, Lays c c (fun r => out r.1) (past item)) (c : Cursor) :
    Lays c c (fun r => r.1.flatMap out) (past (separated separator item)) := by
  rw [past_separated]
  refine (h c).bind (.refl c) fun ⟨first, owed⟩ d hd _ laid => ?_
  have := past_lt hd
  have one : Laid c ([first].flatMap out) d := by simpa using laid
  by_cases ho : owed = 0
  · subst ho
    refine Lays.skip (goes_accept separator) one fun t e he _ one => ?_
    cases t with
    | none => exact lays_pure one
    | some t =>
      have := option_lt he
      refine (lays_separated out h e).bind one fun more _ _ _ laid => lays_pure ?_
      simpa using laid
  · show Lays c d _ (if owed = 0 then _ else _)
    rw [if_neg ho]
    exact lays_pure one
termination_by c.rest.length

theorem goes_many {f : (c : Cursor) → Except ParseError (Option (Past c α))}
    (h : ∀ c, Goes c (step f)) (c : Cursor) : Goes c (onward (many f)) := by
  have all : Lays c c (·.flatMap fun _ => []) (onward (many f)) := by
    refine lays_many (fun c v d hv => ?_) c
    have laid := h c v d hv
    cases v with
    | none => exact laid
    | some v => exact laid
  exact all.forget

theorem goes_separated {separator : Kind}
    {item : (c : Cursor) → Except ParseError (Past c (α × Nat))}
    (h : ∀ c, Goes c (past item)) (c : Cursor) : Goes c (past (separated separator item)) :=
  (lays_separated (fun _ => []) h c).forget

/-- A step that is decided by the next token, and that lays nothing without one. -/
theorem lays_byHead {x : Token → Reading (Option β)} {out : Option β → List SpanTree}
    (nothing : out none = []) (h : ∀ t ts, c.rest = t :: ts → Lays c c out (x t)) :
    Lays c c out (do
      match ← look (·.rest.head?) with
      | none => return none
      | some t => x t) := by
  refine lays_look ?_
  cases here : c.rest with
  | nil =>
    refine lays_pure ?_
    rw [nothing]
    exact .refl c
  | cons t ts => exact h t ts here

theorem goes_byHead {x : Token → Reading (Option α)} (h : ∀ t, Goes c (x t)) :
    Goes c (do
      match ← look (·.rest.head?) with
      | none => return none
      | some t => x t) :=
  lays_byHead rfl fun t _ _ => h t

/-! ## Names and groups -/

theorem goes_identifier : Goes c (past identifier) := by
  rw [past_identifier]
  exact (goes_expect _ _).bind fun t _ _ => goes_pure _

theorem goes_joiningDot : Goes c (option joiningDot) := by
  intro v d h
  cases v with
  | none =>
    cases option_none h
    exact .refl c
  | some t =>
    obtain ⟨_, split, place⟩ := of_run_joiningDot h
    exact ⟨[t], split, place, .nil⟩

theorem goes_joinedName (c : Cursor) : Goes c (step joinedName) := by
  rw [step_joinedName]
  refine goes_joiningDot.bind fun t _ _ => ?_
  cases t with
  | none => exact goes_pure none
  | some t => exact goes_identifier.bind fun name _ _ => goes_pure _

theorem goes_qualifiedName : Goes c (past qualifiedName) := by
  rw [past_qualifiedName]
  exact goes_identifier.bind fun first _ _ =>
    (goes_many goes_joinedName _).bind fun more _ _ => goes_pure _

/-- Closing groups ends behind the token that closes the last of them. -/
theorem laid_closeGroups {opening closing : Kind} {depth : Nat} {last : Location} {ts : List Token}
    (h : closeGroups opening closing depth last ts = .ok d) : Laid ⟨last, ts⟩ [] d := by
  fun_induction closeGroups opening closing depth last ts with
  | case1 last ts =>
    cases h
    exact .refl _
  | case2 => cases h
  | case3 last depth t ts _ ih => exact Laid.append ⟨[t], rfl, rfl, .nil⟩ (ih h)
  | case4 last depth t ts _ _ ih => exact Laid.append ⟨[t], rfl, rfl, .nil⟩ (ih h)
  | case5 last depth t ts _ _ ih => exact Laid.append ⟨[t], rfl, rfl, .nil⟩ (ih h)

theorem goes_group (opening closing : Kind) : Goes c (past (group opening closing)) := by
  rw [past_group]
  refine (goes_expect _ _).bind fun _ c₁ _ v d hd => ?_
  rw [run_restOfGroup] at hd
  obtain ⟨e, closed, same⟩ := map_eq_ok_iff.mp hd
  cases same
  exact laid_closeGroups closed

theorem goes_annotationArguments : Goes c (onward annotationArguments) := by
  rw [onward_annotationArguments]
  refine (goes_look _).bind fun kind _ _ => ?_
  split
  · exact goes_group _ _
  · exact goes_pure _

theorem goes_annotation? (c : Cursor) : Goes c (step annotation?) := by
  rw [step_annotation?]
  refine (goes_look _).bind fun starts _ _ => ?_
  split
  · exact (goes_expect _ _).bind fun _ _ _ => goes_qualifiedName.bind fun _ _ _ =>
      goes_annotationArguments.bind fun _ _ _ => goes_pure _
  · exact goes_pure none

theorem goes_annotations : Goes c (onward annotations) := by
  rw [onward_annotations]
  exact (goes_many goes_annotation? c).bind fun _ _ _ => goes_pure ()

theorem goes_pass : Goes c pass := goes_first.bind fun _ _ _ => goes_pure _

/-- A group that is passed as a part of something. -/
theorem goes_groupPart (opening closing : Kind) :
    Goes c (do let _ ← past (group opening closing); return some ()) :=
  (goes_group opening closing).bind fun _ _ _ => goes_pure _

theorem goes_headerPart? (c : Cursor) : Goes c (step headerPart?) := by
  rw [step_headerPart?]
  refine goes_byHead fun t => ?_
  split_ifs
  · exact goes_pure none
  · exact goes_groupPart _ _
  · exact goes_pass

theorem goes_headerTail : Goes c (onward headerTail) := by
  rw [onward_headerTail]
  refine (goes_many goes_headerPart? c).bind fun _ _ _ => (goes_look _).bind fun kind _ _ => ?_
  split
  · exact goes_pure ()
  · exact goes_fail _

theorem goes_memberPart? (c : Cursor) : Goes c (step memberPart?) := by
  rw [step_memberPart?]
  refine goes_byHead fun t => ?_
  split_ifs
  · exact goes_pure none
  · exact goes_pure none
  · exact goes_pass

theorem goes_memberTail : Goes c (past memberTail) := by
  rw [past_memberTail]
  refine (goes_many goes_memberPart? c).bind fun _ _ _ => (goes_look _).bind fun kind _ _ => ?_
  split
  · exact goes_group _ _
  · exact (goes_expect _ _).bind fun _ _ _ => goes_pure ()

theorem goes_fieldPart? (c : Cursor) : Goes c (step fieldPart?) := by
  rw [step_fieldPart?]
  refine goes_byHead fun t => ?_
  split_ifs
  · exact goes_pure none
  · exact goes_groupPart _ _
  · exact goes_groupPart _ _
  · exact goes_pass

theorem goes_fieldTail : Goes c (past fieldTail) := by
  rw [past_fieldTail]
  exact (goes_many goes_fieldPart? c).bind fun _ _ _ =>
    (goes_expect _ _).bind fun _ _ _ => goes_pure ()

/-! ## Dimensions, angles and modifiers -/

theorem goes_dimension? (c : Cursor) : Goes c (step dimension?) := by
  rw [step_dimension?]
  refine (goes_accept _).bind fun t _ _ => ?_
  cases t with
  | none => exact goes_pure none
  | some t => exact (goes_expect _ _).bind fun _ _ _ => goes_pure _

theorem goes_dimensions : Goes c (onward dimensions) := by
  rw [onward_dimensions]
  exact (goes_many goes_dimension? c).bind fun _ _ _ => goes_pure _

theorem goes_dimensionsUnlessOwed (owed : Nat) : Goes c (onward (dimensionsUnlessOwed owed)) := by
  rw [onward_dimensionsUnlessOwed]
  split
  · exact goes_dimensions
  · exact goes_pure 0

theorem goes_closeAngle (owed : Nat) : Goes c (onward (closeAngle owed)) := by
  rw [onward_closeAngle]
  split
  · refine (goes_next _).bind fun t _ _ => ?_
    cases t with
    | none => exact goes_fail _
    | some t => exact goes_pure _
  · exact goes_pure _

theorem goes_modifierOrAnnotation? (c : Cursor) : Goes c (step modifierOrAnnotation?) := by
  rw [step_modifierOrAnnotation?]
  refine (goes_annotation? c).bind fun annotation d _ => ?_
  cases annotation with
  | some _ => exact goes_pure _
  | none =>
    refine goes_byHead fun t => ?_
    cases modifierOf? t.kind with
    | none => exact goes_pure none
    | some modifier => exact goes_first.bind fun _ _ _ => goes_pure _

theorem goes_modifiers : Goes c (onward modifiers) := by
  rw [onward_modifiers]
  exact (goes_many goes_modifierOrAnnotation? c).bind fun _ _ _ => goes_pure _

/-! ## Declarations that are passed -/

theorem goes_keyword (introduced : Introduced) : Goes c (keyword introduced) :=
  goes_first.bind fun _ _ _ => goes_pure _

theorem goes_typeKeyword : Goes c (option typeKeyword) := by
  rw [option_typeKeyword]
  refine goes_byHead fun t => ?_
  split
  · exact goes_keyword _
  · exact goes_keyword _
  · exact goes_keyword _
  · refine (goes_look _).bind fun starts _ _ => ?_
    split
    · exact goes_first.bind fun _ _ _ => goes_keyword _
    · exact goes_pure none
  · refine (goes_look _).bind fun starts _ _ => ?_
    split
    · exact goes_keyword _
    · exact goes_pure none
  · exact goes_pure none

theorem goes_passedType : Goes c (past passedType) := by
  rw [past_passedType]
  exact goes_identifier.bind fun _ _ _ => goes_headerTail.bind fun _ _ _ =>
    (goes_group _ _).bind fun _ _ _ => goes_pure _

theorem goes_constructor : Goes c (past constructor) := by
  rw [past_constructor]
  exact goes_identifier.bind fun _ _ _ => (goes_group _ _).bind fun _ _ _ => goes_memberTail

theorem goes_importStar : Goes c (onward importStar) := by
  rw [onward_importStar]
  refine (goes_accept _).bind fun t _ _ => ?_
  cases t with
  | none => exact goes_pure false
  | some t => exact (goes_expect _ _).bind fun _ _ _ => goes_pure true

end JavaStub.Reading
