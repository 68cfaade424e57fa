import JavaStub.Proofs.Groups
import JavaStub.Proofs.Reading.Locality

/-!
# How much a reading sees behind it

A reading is local when the tokens behind it can be replaced by others that are `Alike`. Many a
reading sees less than that: nothing behind a bracket that closes, or only whether one more
bracket opens. Here the relation is a parameter, and so is a number of tokens that are taken at
least, since what a stage sees does not count when the next stage takes it.

Main facts:

1. `Kept.bind`: stages in a row.
2. `kept_parameters`: the parameters of a method see nothing behind them.
3. `kept_dimensions`: array dimensions see whether one more bracket opens.
-/

namespace JavaStub.Reading

open Cursor

open Token (Kind)

variable {α β : Type} {c : Cursor} {m n : Nat} {R S : List Token → List Token → Prop}

/-- What `x` reads at `c` takes `n` tokens or more, and it stays the same when the tokens behind
it are replaced by others that `R` relates to them. -/
def Kept (n : Nat) (R : List Token → List Token → Prop) (c : Cursor) (x : Reading α) : Prop :=
  ∀ v d, x.run c = .ok (v, d) → ∃ pre, c.rest = pre ++ d.rest ∧ n ≤ pre.length ∧
    ∀ r', R d.rest r' → x.run ⟨c.last, pre ++ r'⟩ = .ok (v, ⟨d.last, r'⟩)

/-- Are tokens that `S` relates also related by `R` when `n` tokens or more stand before them? -/
def Carries (n : Nat) (S R : List Token → List Token → Prop) : Prop :=
  ∀ pre r r', n ≤ pre.length → S r r' → R (pre ++ r) (pre ++ r')

/-! ## Relations -/

/-- All lists of tokens are related. -/
def AnyTokens (_ _ : List Token) : Prop := True

/-- The first token is the same. -/
def SameHead (r r' : List Token) : Prop := r'.head? = r.head?

/-- The new tokens start with no bracket of an array dimension, or so do the old ones. -/
def NoNewBracket (r r' : List Token) : Prop :=
  r'.head?.map Token.kind = some .lbracket → r.head?.map Token.kind = some .lbracket

theorem carries_any : Carries n S AnyTokens := fun _ _ _ _ _ => trivial

theorem carries_head : Carries n SameHead SameHead := by
  intro pre r r' _ h
  cases pre with
  | nil => exact h
  | cons t pre => rfl

theorem carries_head_of_pos : Carries (n + 1) S SameHead := by
  intro pre r r' long _
  cases pre with
  | nil => cases long
  | cons t pre => rfl

theorem carries_bracket_of_head : Carries n SameHead NoNewBracket := by
  intro pre r r' _ h
  cases pre with
  | nil => exact fun bracket => h ▸ bracket
  | cons t pre => exact id

theorem carries_alike_of_head : Carries (n + 1) SameHead Alike := by
  intro pre r r' long h
  match pre with
  | [t] => cases r <;> cases r' <;> simp_all [SameHead, Alike]
  | t :: u :: pre => exact .inl rfl

theorem carries_alike : Carries (n + 2) S Alike := by
  intro pre r r' long _
  match pre with
  | [t] => exact absurd long (by simp)
  | t :: u :: pre => exact .inl rfl

/-! ## Stages -/

theorem Kept.bind {x : Reading α} {f : α → Reading β} (hx : Kept m R c x)
    (carries : Carries n S R) (h : ∀ a d, x.run c = .ok (a, d) → Kept n S d (f a)) :
    Kept (m + n) S c (x >>= f) := by
  intro v e hv
  obtain ⟨a, d, ha, hv⟩ := run_bind_eq_ok_iff.mp hv
  obtain ⟨pre₁, split₁, long₁, first⟩ := hx a d ha
  obtain ⟨pre₂, split₂, long₂, second⟩ := h a d ha v e hv
  refine ⟨pre₁ ++ pre₂, by rw [split₁, split₂, List.append_assoc], ?_, fun r' related => ?_⟩
  · rw [List.length_append]
    omega
  · have ahead : R d.rest (pre₂ ++ r') := split₂ ▸ carries pre₂ _ _ long₂ related
    rw [run_bind, List.append_assoc, first _ ahead]
    exact second r' related

theorem Kept.mono {x : Reading α} (hx : Kept m R c x) (h : n ≤ m) : Kept n R c x :=
  fun v d hv =>
    let ⟨pre, split, long, same⟩ := hx v d hv
    ⟨pre, split, h.trans long, same⟩

theorem Kept.map {x : Reading α} (hx : Kept n R c x) (g : α → β) :
    Kept n R c (do let a ← x; return g a) := by
  intro v d hv
  obtain ⟨a, e, ha, hv⟩ := run_bind_eq_ok_iff.mp hv
  cases hv
  obtain ⟨pre, split, long, same⟩ := hx a d ha
  refine ⟨pre, split, long, fun r' related => ?_⟩
  rw [run_bind, same r' related]
  rfl

theorem Local.kept {x : Reading α} (hx : Local c x) : Kept 0 Alike c x :=
  fun v d hv =>
    let ⟨pre, split, same⟩ := hx v d hv
    ⟨pre, split, Nat.zero_le _, same⟩

/-- A local stage sees less when the stages after it take enough. -/
theorem Local.bind_kept {x : Reading α} {f : α → Reading β} (hx : Local c x)
    (carries : Carries n S Alike) (h : ∀ a d, x.run c = .ok (a, d) → Kept n S d (f a)) :
    Kept n S c (x >>= f) :=
  (hx.kept.bind carries h).mono (Nat.le_add_left n 0)

theorem kept_pure (a : α) : Kept 0 R c (pure a) := by
  intro v d h
  cases h
  exact ⟨[], rfl, Nat.le_refl _, fun _ _ => rfl⟩

theorem kept_span (l : Location) : Kept 0 R c (look (spanFrom l)) := by
  intro v d h
  cases h
  exact ⟨[], rfl, Nat.le_refl _, fun _ _ => rfl⟩

/-! ## Single tokens and groups -/

theorem run_accept_cons (kind : Kind) (l : Location) (t : Token) (ts : List Token) :
    (option (accept kind)).run ⟨l, t :: ts⟩ =
      .ok (if t.kind = kind then (some t, ⟨t.location, ts⟩) else (none, ⟨l, t :: ts⟩)) := by
  refine (run_next_cons (fun t => t.kind = kind) l t ts).trans ?_
  simp only [decide_eq_true_eq]

theorem kept_expect (kind : Kind) (expected : Expectation) :
    Kept 1 AnyTokens c (past (expect kind expected)) := by
  intro t d h
  obtain ⟨met, split, place⟩ := of_run_expect h
  refine ⟨[t], split, Nat.le_refl _, fun r' _ => ?_⟩
  rw [past_expect, run_bind, List.singleton_append, run_accept_cons, if_pos met, place]
  rfl

theorem kept_identifier : Kept 1 AnyTokens c (past identifier) := by
  rw [past_identifier]
  exact (kept_expect _ _).bind carries_any fun t _ _ => kept_pure t.lexeme

theorem kept_accept (kind : Kind) : Kept 0 SameHead c (option (accept kind)) := by
  intro v d h
  obtain ⟨l, _ | ⟨t, ts⟩⟩ := c
  · cases h
    refine ⟨[], rfl, Nat.le_refl _, fun r' same => ?_⟩
    obtain rfl : r' = [] := List.head?_eq_none_iff.mp same
    rfl
  · rw [run_accept_cons] at h
    split at h
    · next met =>
      cases h
      refine ⟨[t], rfl, Nat.zero_le _, fun r' _ => ?_⟩
      rw [List.singleton_append, run_accept_cons, if_pos met]
    · next unmet =>
      cases h
      refine ⟨[], rfl, Nat.le_refl _, fun r' same => ?_⟩
      obtain ⟨us, rfl⟩ := List.head?_eq_some_iff.mp same
      rw [List.nil_append, run_accept_cons, if_neg unmet]

theorem kept_group {opening closing : Kind} (distinct : opening ≠ closing) :
    Kept 2 AnyTokens c (past (group opening closing)) := by
  intro v d h
  obtain ⟨first, inner, last, split, opens, closes, place, enclosed⟩ := of_run_group distinct h
  refine ⟨first :: (inner ++ [last]), by rw [split]; simp, by simp, fun r' _ => ?_⟩
  rw [List.cons_append, List.append_assoc, List.singleton_append,
    run_group distinct opens closes enclosed, place]

/-! ## Array dimensions -/

/-- No dimension is read where no bracket opens, and only there. -/
theorem run_dimension?_eq_none_iff (l : Location) (r : List Token) :
    (step dimension?).run ⟨l, r⟩ = .ok (none, ⟨l, r⟩) ↔
      r.head?.map Token.kind ≠ some .lbracket := by
  rw [step_dimension?, run_bind]
  cases r with
  | nil => exact iff_of_true rfl (by simp)
  | cons t ts =>
    rw [run_accept_cons, List.head?_cons, Option.map_some, ok_bind]
    by_cases met : t.kind = .lbracket
    · rw [if_pos met]
      refine ⟨fun h => ?_, fun away => absurd (congrArg some met) away⟩
      obtain ⟨_, _, _, h⟩ := run_bind_eq_ok_iff.mp h
      cases h
    · rw [if_neg met]
      exact ⟨fun _ h => met (Option.some.inj h), fun _ => rfl⟩

/-- A dimension is two brackets, whatever follows. -/
theorem kept_of_run_dimension? {d : Cursor} {v : Unit}
    (h : (step dimension?).run c = .ok (some v, d)) :
    ∃ pre, c.rest = pre ++ d.rest ∧
      ∀ r', (step dimension?).run ⟨c.last, pre ++ r'⟩ = .ok (some v, ⟨d.last, r'⟩) := by
  rw [step_dimension?] at h
  obtain ⟨_ | t, c₁, opened, h⟩ := run_bind_eq_ok_iff.mp h
  · cases h
  obtain ⟨met, split, place⟩ := of_run_next opened
  have closed : Kept 1 AnyTokens c₁ (do
      let _ ← past (expect .rbracket .dimensionEnd)
      return some ()) := (kept_expect _ _).map fun _ => some ()
  obtain ⟨pre, split', -, same⟩ := closed _ _ h
  refine ⟨t :: pre, by rw [split, split']; rfl, fun r' => ?_⟩
  rw [step_dimension?, run_bind, List.cons_append, run_accept_cons, if_pos (of_decide_eq_true met),
    ok_bind, ← place]
  exact same r' trivial

theorem kept_dimension (c : Cursor) : Kept 0 NoNewBracket c (onward (many dimension?)) := by
  intro v e h
  rw [onward_many] at h
  obtain ⟨_ | a, d, first, h⟩ := run_bind_eq_ok_iff.mp h
  · cases h
    cases step_none first
    refine ⟨[], rfl, Nat.le_refl _, fun r' away => ?_⟩
    have declines := (run_dimension?_eq_none_iff c.last c.rest).mp first
    have none := (run_dimension?_eq_none_iff c.last r').mpr fun bracket => declines (away bracket)
    rw [onward_many, run_bind, List.nil_append, none]
    rfl
  -- one pair of brackets, and the rest by the induction on the remaining tokens
  · have := step_lt first
    obtain ⟨pre, split, same⟩ := kept_of_run_dimension? first
    obtain ⟨more, e', rounds, h⟩ := run_bind_eq_ok_iff.mp h
    cases h
    obtain ⟨pre', split', -, same'⟩ := kept_dimension d more _ rounds
    refine ⟨pre ++ pre', by rw [split, split', List.append_assoc], Nat.zero_le _, ?_⟩
    intro r' away
    rw [onward_many, run_bind, List.append_assoc, same, ok_bind]
    dsimp only
    rw [run_bind, same' r' away]
    rfl
termination_by c.rest.length

theorem kept_dimensions : Kept 0 NoNewBracket c (onward dimensions) := by
  rw [onward_dimensions]
  exact (kept_dimension c).map List.length

/-! ## Parameters -/

theorem kept_separated {separator : Kind}
    {item : (c : Cursor) → Except ParseError (Past c (α × Nat))}
    (h : ∀ c, Kept 1 SameHead c (past item)) (c : Cursor) :
    Kept 1 SameHead c (past (separated separator item)) := by
  rw [past_separated]
  refine Kept.bind (n := 0) (h c) carries_head fun ⟨first, owed⟩ d hd => ?_
  have := past_lt hd
  by_cases ho : owed = 0
  · subst ho
    refine Kept.bind (n := 0) (m := 0) (kept_accept separator) carries_head fun t e he => ?_
    cases t with
    | none => exact kept_pure _
    | some t =>
      have := option_lt he
      refine Kept.mono ?_ (Nat.zero_le 1)
      exact (kept_separated h e).bind (n := 0) carries_head fun more _ _ => kept_pure _
  · show Kept 0 SameHead d (if owed = 0 then _ else _)
    rw [if_neg ho]
    exact kept_pure _
termination_by c.rest.length

/-- A parameter sees the token behind it, which tells that no bracket opens there. -/
theorem kept_parameter (c : Cursor) : Kept 1 SameHead c (past parameter) := by
  rw [past_parameter]
  refine local_location.bind_kept carries_alike_of_head fun l _ _ => ?_
  refine local_modifiers.bind_kept carries_alike_of_head fun _ _ _ => ?_
  refine local_completeType.bind_kept carries_alike_of_head fun type _ _ => ?_
  refine local_annotations.bind_kept carries_alike_of_head fun _ _ _ => ?_
  refine (local_optional _).bind_kept carries_alike_of_head fun varargs _ _ => ?_
  refine kept_identifier.bind (n := 0) carries_any fun name _ _ => ?_
  refine kept_dimensions.bind (n := 0) carries_bracket_of_head fun dims _ _ => ?_
  exact (kept_span l).bind (n := 0) carries_any fun span _ _ => kept_pure _

theorem kept_parameterItem (c : Cursor) : Kept 1 SameHead c (past parameterItem) := by
  rw [past_parameterItem]
  exact (kept_parameter c).map (·, 0)

/-- The parameters of a method see nothing behind the bracket that closes them. -/
theorem kept_parameters : Kept 1 AnyTokens c (past parameters) := by
  intro v e h
  rw [past_parameters] at h
  obtain ⟨_ | t, d, closing, h⟩ := run_bind_eq_ok_iff.mp h
  · have listed : Kept 2 AnyTokens d (do
        let read ← past (separated .comma parameterItem)
        let _ ← past (expect .rparen .parameterEnd)
        return read.1) :=
      (kept_separated kept_parameterItem d).bind (n := 1) carries_head_of_pos fun read _ _ =>
        (kept_expect _ _).map fun _ => read.1
    obtain ⟨pre, split, long, same⟩ := listed v e h
    obtain ⟨_, split', -, declines⟩ := kept_accept .rparen none d closing
    cases option_none closing
    refine ⟨pre, split, Nat.le_of_succ_le long, fun r' _ => ?_⟩
    have head : SameHead c.rest (pre ++ r') :=
      split ▸ carries_head_of_pos (S := AnyTokens) pre _ r' long trivial
    obtain rfl := List.append_left_eq_self.mp split'.symm
    rw [past_parameters, run_bind]
    refine (congrArg (· >>= _) (declines _ head)).trans (same r' trivial)
  · obtain ⟨met, split, place⟩ := of_run_next closing
    cases h
    refine ⟨[t], split, Nat.le_refl _, fun r' _ => ?_⟩
    rw [past_parameters, run_bind, List.singleton_append, run_accept_cons,
      if_pos (of_decide_eq_true met), place]
    rfl

end JavaStub.Reading
