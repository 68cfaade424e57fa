import Mathlib.Data.List.Basic
import Mathlib.Data.List.Forall2

/-!
# Pipelines

A pipeline in `Except` stops at its first failing stage, and `failure?` is the error it stops
with.

Main facts:

1. `bind_eq_ok_iff`: a pipeline succeeds when all of its stages do.
2. `failure?_bind`: a stage that succeeds leaves the failure to the stages after it.
3. `failure?_mapM`: a traversal fails with the error of the first element that fails.
4. `forall₂_of_mapM`: a traversal that succeeds pairs every element with its result.
-/

namespace JavaStub

variable {ε α β : Type}

@[simp] theorem ok_bind (a : α) (f : α → Except ε β) : (Except.ok a >>= f) = f a := rfl

@[simp] theorem error_bind (e : ε) (f : α → Except ε β) :
    (Except.error e >>= f) = Except.error e := rfl

theorem bind_eq_ok_iff {x : Except ε α} {f : α → Except ε β} {b : β} :
    (x >>= f) = .ok b ↔ ∃ a, x = .ok a ∧ f a = .ok b := by
  cases x <;> simp

theorem map_eq_ok_iff {x : Except ε α} {f : α → β} {b : β} :
    x.map f = .ok b ↔ ∃ a, x = .ok a ∧ f a = b := by
  cases x <;> simp [Except.map]

/-! ## Failures -/

/-- The error that a computation ends with, if it fails. -/
def failure? : Except ε α → Option ε
  | .ok _ => none
  | .error e => some e

@[simp] theorem failure?_ok (a : α) : failure? (.ok a : Except ε α) = none := rfl

@[simp] theorem failure?_error (e : ε) : failure? (.error e : Except ε α) = some e := rfl

@[simp] theorem failure?_pure (a : α) : failure? (pure a : Except ε α) = none := rfl

@[simp] theorem failure?_throw (e : ε) : failure? (throw e : Except ε α) = some e := rfl

theorem failure?_eq_none_iff {x : Except ε α} : failure? x = none ↔ ∃ a, x = .ok a := by
  cases x <;> simp

theorem failure?_eq_some_iff {x : Except ε α} {e : ε} : failure? x = some e ↔ x = .error e := by
  cases x <;> simp

@[simp] theorem failure?_map (f : α → β) (x : Except ε α) : failure? (x.map f) = failure? x := by
  cases x <;> rfl

/-- A stage whose value no later failure depends on. -/
theorem failure?_bind {x : Except ε α} {f : α → Except ε β} {later : Option ε}
    (h : ∀ a, x = .ok a → failure? (f a) = later) :
    failure? (x >>= f) = (failure? x).or later := by
  cases x with
  | error e => rfl
  | ok a => exact h a rfl

theorem failure?_mapM (f : α → Except ε β) (xs : List α) :
    failure? (xs.mapM f) = xs.findSome? fun x => failure? (f x) := by
  induction xs with
  | nil => rfl
  | cons x xs ih =>
    rw [List.mapM_cons, List.findSome?_cons]
    cases hx : f x with
    | error e => rfl
    | ok y =>
      simp only [failure?_ok, ← ih]
      cases xs.mapM f <;> rfl

/-- The first hit in a list of lists is the first one in the first list that has any. -/
theorem findSome?_flatMap (p : β → Option ε) (f : α → List β) (xs : List α) :
    (xs.flatMap f).findSome? p = xs.findSome? fun x => (f x).findSome? p := by
  induction xs with
  | nil => rfl
  | cons x xs ih =>
    rw [List.flatMap_cons, List.findSome?_append, ih, List.findSome?_cons]
    cases (f x).findSome? p <;> rfl

/-- A traversal that succeeds pairs every element with its result. -/
theorem forall₂_of_mapM {f : α → Except ε β} {xs : List α} {ys : List β} (h : xs.mapM f = .ok ys) :
    List.Forall₂ (fun x y => f x = .ok y) xs ys := by
  induction xs generalizing ys with
  | nil =>
    obtain rfl := Except.ok.inj h
    exact .nil
  | cons x xs ih =>
    rw [List.mapM_cons] at h
    obtain ⟨y, hy, h⟩ := bind_eq_ok_iff.mp h
    obtain ⟨zs, hzs, h⟩ := bind_eq_ok_iff.mp h
    obtain rfl := Except.ok.inj h
    exact .cons hy (ih hzs)

/-- A traversal whose elements are only checked hands them on. -/
theorem mapM_eq_self {f : α → Except ε α} {xs ys : List α} (h : xs.mapM f = .ok ys)
    (same : ∀ x y, f x = .ok y → y = x) : ys = xs := by
  have pairs := (forall₂_of_mapM h).imp fun x y hy => (same x y hy).symm
  rw [List.forall₂_eq_eq_eq] at pairs
  exact pairs.symm

end JavaStub
