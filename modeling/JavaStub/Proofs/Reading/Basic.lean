import JavaStub.Cursor.Loops
import JavaStub.Proofs.Pipeline

/-!
# Readings

A reader hands back the proof that tokens were used up, and so its type depends on the cursor
it starts at. A `Reading` is a reader without that proof: a function from a cursor to a value
and the cursor after it. Readings form a monad, and every reader, seen as a reading, satisfies
an equation in it that says which readers it runs one after the other.

Main facts:

1. `stage` and `stage_map`: a stage of a reader is a stage of its reading.
2. `onward_many` and `past_separated`: the two loops as readings.
-/

namespace JavaStub

/-- A reading of tokens: the value that is read at a cursor, and the cursor after it. -/
@[ext]
structure Reading (α : Type) where
  run : Cursor → Except ParseError (α × Cursor)

namespace Reading

open Cursor

variable {α β γ : Type}

instance : Monad Reading where
  pure a := ⟨fun c => .ok (a, c)⟩
  bind x f := ⟨fun c => x.run c >>= fun p => (f p.1).run p.2⟩

@[simp] theorem run_pure (a : α) (c : Cursor) : (pure a : Reading α).run c = .ok (a, c) := rfl

@[simp] theorem run_bind (x : Reading α) (f : α → Reading β) (c : Cursor) :
    (x >>= f).run c = (x.run c >>= fun p => (f p.1).run p.2) := rfl

/-- Stages in a row read what they read one after the other. -/
theorem run_bind_eq_ok_iff {x : Reading α} {f : α → Reading β} {b : β} {c e : Cursor} :
    (x >>= f).run c = .ok (b, e) ↔ ∃ a d, x.run c = .ok (a, d) ∧ (f a).run d = .ok (b, e) := by
  rw [run_bind, bind_eq_ok_iff]
  exact Prod.exists

/-- What the cursor tells without a token being read. -/
def look (f : Cursor → α) : Reading α := ⟨fun c => .ok (f c, c)⟩

/-- The refusal of what stands at the cursor. -/
def fail (f : Cursor → ParseError) : Reading α := ⟨fun c => .error (f c)⟩

@[simp] theorem run_look (f : Cursor → α) (c : Cursor) : (look f).run c = .ok (f c, c) := rfl

@[simp] theorem run_fail (f : Cursor → ParseError) (c : Cursor) :
    (fail f : Reading α).run c = .error (f c) := rfl

/-! ## Readers as readings -/

/-- The value that an attempt has read, if any, and the cursor after it. -/
def attempted {c : Cursor} : Option (Past c α) → Option α × Cursor
  | some r => (some r.value, r.next)
  | none => (none, c)

/-- A reader that takes some token. -/
def past (f : (c : Cursor) → Except ParseError (Past c α)) : Reading α :=
  ⟨fun c => (f c).map fun r => (r.value, r.next)⟩

/-- A reader that perhaps takes no token. -/
def onward (f : (c : Cursor) → Except ParseError (Onward c α)) : Reading α :=
  ⟨fun c => (f c).map fun r => (r.value, r.next)⟩

/-- A reader that cannot fail. -/
def sure (f : (c : Cursor) → Onward c α) : Reading α := ⟨fun c => .ok ((f c).value, (f c).next)⟩

/-- A reader that takes some token or declines. -/
def step (f : (c : Cursor) → Except ParseError (Option (Past c α))) : Reading (Option α) :=
  ⟨fun c => (f c).map attempted⟩

/-- A reader that takes some token or declines, and cannot fail. -/
def option (f : (c : Cursor) → Option (Past c α)) : Reading (Option α) :=
  ⟨fun c => .ok (attempted (f c))⟩

theorem run_past (f : (c : Cursor) → Except ParseError (Past c α)) (c : Cursor) :
    (past f).run c = (f c).map fun r => (r.value, r.next) := rfl

theorem run_onward (f : (c : Cursor) → Except ParseError (Onward c α)) (c : Cursor) :
    (onward f).run c = (f c).map fun r => (r.value, r.next) := rfl

theorem run_step (f : (c : Cursor) → Except ParseError (Option (Past c α))) (c : Cursor) :
    (step f).run c = (f c).map attempted := rfl

theorem run_option (f : (c : Cursor) → Option (Past c α)) (c : Cursor) :
    (option f).run c = .ok (attempted (f c)) := rfl

/-- A reader stops where its reading stops. -/
theorem map_next_past (f : (c : Cursor) → Except ParseError (Past c α)) (c : Cursor) :
    (f c).map (·.next) = ((past f).run c).map Prod.snd := by
  rw [run_past]
  cases f c <;> rfl

theorem map_next_onward (f : (c : Cursor) → Except ParseError (Onward c α)) (c : Cursor) :
    (f c).map (·.next) = ((onward f).run c).map Prod.snd := by
  rw [run_onward]
  cases f c <;> rfl

theorem past_lt {f : (c : Cursor) → Except ParseError (Past c α)} {c d : Cursor} {a : α}
    (h : (past f).run c = .ok (a, d)) : d.rest.length < c.rest.length := by
  obtain ⟨r, _, same⟩ := map_eq_ok_iff.mp h
  cases same
  exact r.lt

theorem onward_le {f : (c : Cursor) → Except ParseError (Onward c α)} {c d : Cursor} {a : α}
    (h : (onward f).run c = .ok (a, d)) : d.rest.length ≤ c.rest.length := by
  obtain ⟨r, _, same⟩ := map_eq_ok_iff.mp h
  cases same
  exact r.le

theorem step_lt {f : (c : Cursor) → Except ParseError (Option (Past c α))} {c d : Cursor} {a : α}
    (h : (step f).run c = .ok (some a, d)) : d.rest.length < c.rest.length := by
  obtain ⟨_ | r, _, same⟩ := map_eq_ok_iff.mp h
  · cases same
  · cases same
    exact r.lt

theorem step_none {f : (c : Cursor) → Except ParseError (Option (Past c α))} {c d : Cursor}
    (h : (step f).run c = .ok (none, d)) : d = c := by
  obtain ⟨_ | r, _, same⟩ := map_eq_ok_iff.mp h
  · cases same
    rfl
  · cases same

theorem option_lt {f : (c : Cursor) → Option (Past c α)} {c d : Cursor} {a : α}
    (h : (option f).run c = .ok (some a, d)) : d.rest.length < c.rest.length := by
  rw [run_option] at h
  rcases hc : f c with _ | r
  · rw [hc] at h; cases h
  · rw [hc] at h
    cases h
    exact r.lt

theorem option_none {f : (c : Cursor) → Option (Past c α)} {c d : Cursor}
    (h : (option f).run c = .ok (none, d)) : d = c := by
  rw [run_option] at h
  rcases hc : f c with _ | r
  · rw [hc] at h; cases h; rfl
  · rw [hc] at h; cases h

/-- The first stage of a reader is the first stage of its reading. -/
theorem stage {ρ τ : Type} {x : Except ParseError ρ} {f : ρ → Except ParseError τ}
    {out : τ → γ × Cursor} {π : ρ → β × Cursor} {k : β × Cursor → Except ParseError (γ × Cursor)}
    (h : ∀ r, (f r).map out = k (π r)) : (x >>= f).map out = (x.map π >>= k) := by
  cases x with
  | error e => rfl
  | ok r => exact h r

/-- A stage whose value is moved back to an earlier cursor. -/
theorem stage_map {ρ σ τ : Type} {x : Except ParseError ρ} {φ : ρ → σ}
    {f : σ → Except ParseError τ} {out : τ → γ × Cursor} {π : ρ → β × Cursor}
    {k : β × Cursor → Except ParseError (γ × Cursor)} (h : ∀ r, (f (φ r)).map out = k (π r)) :
    (x.map φ >>= f).map out = (x.map π >>= k) := by
  cases x with
  | error e => rfl
  | ok r => exact h r

/-- The last stage of a reader, whose value is only moved back. -/
theorem last_map {ρ σ : Type} {x : Except ParseError ρ} {φ : ρ → σ} {out : σ → γ × Cursor}
    {π : ρ → γ × Cursor} (h : ∀ r, out (φ r) = π r) : (x.map φ).map out = x.map π := by
  cases x with
  | error e => rfl
  | ok r => exact congrArg Except.ok (h r)

/-- The last stage of a reader, whose value is moved back and changed. -/
theorem last_value {ρ σ : Type} {x : Except ParseError ρ} {φ : ρ → σ} {out : σ → γ × Cursor}
    {π : ρ → β × Cursor} {g : β → γ} (h : ∀ r, out (φ r) = (g (π r).1, (π r).2)) :
    (x.map φ).map out = (x.map π >>= fun p => .ok (g p.1, p.2)) := by
  cases x with
  | error e => rfl
  | ok r => exact congrArg Except.ok (h r)

/-- The last stage of a reader, whose value counts for nothing. -/
theorem last_none {ρ σ : Type} {x : Except ParseError ρ} {φ : ρ → σ}
    {out : σ → Option γ × Cursor} {π : ρ → β × Cursor} (h : ∀ r, out (φ r) = (none, (π r).2)) :
    (x.map φ).map out = (x.map π >>= fun p => .ok (none, p.2)) :=
  last_value (g := fun _ => none) h

/-- A step that never declines reads what its reader reads. -/
theorem attempted_some (f : (c : Cursor) → Except ParseError (Past c α)) (c : Cursor) :
    ((f c).map some).map attempted = (past f >>= fun a => pure (some a)).run c := by
  rw [run_bind, run_past]
  cases f c <;> rfl

theorem ext_run {x y : Reading α} (h : ∀ c, x.run c = y.run c) : x = y :=
  Reading.ext (funext h)

/-! ## Single tokens -/

theorem run_next_cons (p : Token → Bool) (l : Location) (t : Token) (ts : List Token) :
    (option (next? p)).run ⟨l, t :: ts⟩ =
      .ok (if p t then (some t, ⟨t.location, ts⟩) else (none, ⟨l, t :: ts⟩)) := by
  rw [run_option, next?_cons]
  split <;> rfl

/-- A token that is read is the next one, and it meets the condition. -/
theorem of_run_next {p : Token → Bool} {c d : Cursor} {t : Token}
    (h : (option (next? p)).run c = .ok (some t, d)) :
    p t = true ∧ c.rest = t :: d.rest ∧ d.last = t.location := by
  obtain ⟨l, _ | ⟨u, ts⟩⟩ := c
  · cases h
  · rw [run_next_cons] at h
    split at h
    · next hu => cases h; exact ⟨hu, rfl, rfl⟩
    · cases h

theorem sure_optional (kind : Token.Kind) :
    sure (Cursor.optional kind) = do
      let found ← option (accept kind)
      return found.isSome := by
  refine ext_run fun c => ?_
  show Except.ok ((c.optional kind).value, (c.optional kind).next) =
    .ok ((attempted (c.accept kind)).1.isSome, (attempted (c.accept kind)).2)
  unfold Cursor.optional
  cases c.accept kind <;> rfl

theorem past_expect (kind : Token.Kind) (expected : Expectation) :
    past (expect kind expected) = (do
      match ← option (accept kind) with
      | some t => return t
      | none => fail (unexpected · expected)) := by
  refine ext_run fun c => ?_
  show (expect kind expected c).map _ = _
  rw [run_bind, run_option]
  unfold expect
  cases c.accept kind <;> rfl

/-- A token that is asked for is the next one, and it is of the kind that is asked for. -/
theorem of_run_expect {kind : Token.Kind} {expected : Expectation} {c d : Cursor} {t : Token}
    (h : (past (expect kind expected)).run c = .ok (t, d)) :
    t.kind = kind ∧ c.rest = t :: d.rest ∧ d.last = t.location := by
  rw [past_expect, run_bind] at h
  obtain ⟨⟨_ | u, e⟩, next, h⟩ := bind_eq_ok_iff.mp h
  · cases h
  · cases h
    obtain ⟨met, split, place⟩ := of_run_next next
    exact ⟨of_decide_eq_true met, split, place⟩

/-! ## Loops -/

theorem onward_many (f : (c : Cursor) → Except ParseError (Option (Past c α))) :
    onward (many f) = (do
      match ← step f with
      | none => return []
      | some first => do
        let more ← onward (many f)
        return first :: more) := by
  refine ext_run fun c => ?_
  rw [run_onward, many, run_bind, run_step]
  rcases f c with e | _ | ⟨first, c₁, h₁⟩
  · rfl
  · rfl
  · exact stage_map fun _ => rfl

/-- The rounds of a loop, from one cursor to another. -/
inductive Rounds (f : (c : Cursor) → Except ParseError (Option (Past c α))) :
    Cursor → Cursor → Prop
  | refl (c : Cursor) : Rounds f c c
  | round {c d e : Cursor} {a : α} (first : (step f).run c = .ok (some a, d))
      (more : Rounds f d e) : Rounds f c e

/-- A loop goes on until its step declines. -/
theorem rounds_of_many {f : (c : Cursor) → Except ParseError (Option (Past c α))} {c d : Cursor}
    {as : List α} (h : (onward (many f)).run c = .ok (as, d)) :
    Rounds f c d ∧ (step f).run d = .ok (none, d) := by
  rw [onward_many, run_bind] at h
  obtain ⟨⟨a, e⟩, first, h⟩ := bind_eq_ok_iff.mp h
  cases a with
  | none =>
    cases h
    obtain rfl := step_none first
    exact ⟨.refl _, first⟩
  | some a =>
    have := step_lt first
    obtain ⟨⟨more, e'⟩, h', h⟩ := bind_eq_ok_iff.mp h
    cases h
    obtain ⟨rounds, last⟩ := rounds_of_many h'
    exact ⟨.round first rounds, last⟩
termination_by c.rest.length

theorem past_separated (separator : Token.Kind)
    (item : (c : Cursor) → Except ParseError (Past c (α × Nat))) :
    past (separated separator item) = (do
      let first ← past item
      if first.2 = 0 then
        match ← option (accept separator) with
        | none => return ([first.1], 0)
        | some _ => do
          let more ← past (separated separator item)
          return (first.1 :: more.1, more.2)
      else return ([first.1], first.2)) := by
  refine ext_run fun c => ?_
  rw [run_past, separated]
  refine stage fun ⟨⟨first, owed⟩, c₁, h₁⟩ => ?_
  by_cases h : owed = 0
  · simp only [h, if_true, run_bind, run_option, ok_bind]
    rcases c₁.accept separator with _ | ⟨t, c₂, h₂⟩
    · rfl
    · exact stage_map fun _ => rfl
  · simp only [h, if_false]
    rfl

end Reading

end JavaStub
