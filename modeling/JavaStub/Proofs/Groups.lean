import Mathlib.Data.List.Infix
import JavaStub.Proofs.Reading.Types

/-!
# Groups by counting

A group is passed by a depth that delimiters of its two kinds move up and down. What it
encloses is balanced: it has as many closing delimiters as opening ones, and no prefix of it
has more closing ones.

Main facts:

1. `closeGroups_of_closes` and `closes_of_closeGroups`: the depth counts what is open.
2. `run_group` and `of_run_group`: a group is passed if and only if what it encloses is
   balanced, and then it is passed through its closing delimiter.
-/

namespace JavaStub

open Token (Kind)

/-- Kinds between an opening and a closing delimiter that belong together. -/
structure Balanced (opening closing : Kind) (ks : List Kind) : Prop where
  /-- Every delimiter that is opened is closed. -/
  total : ks.count closing = ks.count opening
  /-- None is closed before it is opened. -/
  among : ∀ p, p <+: ks → p.count closing ≤ p.count opening

/-- Kinds that close `depth` more delimiters than they open, and never more before. -/
structure Closes (opening closing : Kind) (depth : Nat) (ks : List Kind) : Prop where
  total : ks.count closing = depth + ks.count opening
  among : ∀ p, p <+: ks → p.count closing ≤ depth + p.count opening

variable {opening closing : Kind} {depth : Nat} {k : Kind} {ks : List Kind}

theorem balanced_iff_closes : Balanced opening closing ks ↔ Closes opening closing 0 ks := by
  constructor
  · rintro ⟨total, among⟩
    exact ⟨by omega, fun p hp => by have := among p hp; omega⟩
  · rintro ⟨total, among⟩
    exact ⟨by omega, fun p hp => by have := among p hp; omega⟩

theorem closes_nil_iff : Closes opening closing depth [] ↔ depth = 0 := by
  constructor
  · intro h
    have := h.total
    simpa using this.symm
  · rintro rfl
    exact ⟨rfl, fun p hp => by rw [List.prefix_nil.mp hp]; rfl⟩

theorem count_cons_eq (j k : Kind) (ks : List Kind) :
    (k :: ks).count j = [k].count j + ks.count j := by
  rw [← List.singleton_append, List.count_append]

/-- The first kind moves the depth by what it opens and closes. -/
theorem closes_cons_iff {n : Nat} (h : depth + [k].count opening = n + [k].count closing) :
    Closes opening closing depth (k :: ks) ↔ Closes opening closing n ks := by
  constructor
  · rintro ⟨total, among⟩
    rw [count_cons_eq closing k ks, count_cons_eq opening k ks] at total
    refine ⟨by omega, fun p hp => ?_⟩
    have := among (k :: p) ((List.prefix_cons_inj k).mpr hp)
    rw [count_cons_eq closing k p, count_cons_eq opening k p] at this
    omega
  · rintro ⟨total, among⟩
    refine ⟨by rw [count_cons_eq closing k ks, count_cons_eq opening k ks]; omega, fun p hp => ?_⟩
    rcases List.prefix_cons_iff.mp hp with rfl | ⟨q, rfl, hq⟩
    · simp
    · have := among q hq
      rw [count_cons_eq closing k q, count_cons_eq opening k q]
      omega

/-- An opening delimiter leaves one more to close. -/
theorem closes_opening_iff (distinct : opening ≠ closing) :
    Closes opening closing depth (opening :: ks) ↔ Closes opening closing (depth + 1) ks :=
  closes_cons_iff (by simp [distinct])

/-- A closing delimiter leaves one less to close. -/
theorem closes_closing_iff (distinct : opening ≠ closing) :
    Closes opening closing (depth + 1) (closing :: ks) ↔ Closes opening closing depth ks :=
  closes_cons_iff (by simp [distinct.symm])

/-- Where nothing is open nothing is closed. -/
theorem not_closes_closing (distinct : opening ≠ closing) :
    ¬Closes opening closing 0 (closing :: ks) := by
  intro h
  have := h.among [closing] ((List.prefix_cons_inj closing).mpr List.nil_prefix)
  simp [distinct.symm] at this

/-- Other kinds count for nothing. -/
theorem closes_other_iff (h₁ : k ≠ opening) (h₂ : k ≠ closing) :
    Closes opening closing depth (k :: ks) ↔ Closes opening closing depth ks :=
  closes_cons_iff (by simp [h₁, h₂])

/-! ## Kinds outside of groups -/

/-- Round brackets. -/
def roundGroups : List (Kind × Kind) := [(.lparen, .rparen)]

/-- Braces and round brackets. -/
def fieldGroups : List (Kind × Kind) := [(.lbrace, .rbrace), (.lparen, .rparen)]

/-- Kinds that can be passed part by part: delimiters that open one of the given groups stand
there only with the group that they open, and barred kinds stand only inside of groups. -/
inductive Shielded (groups : List (Kind × Kind)) (barred : List Kind) : List Kind → Prop
  | nil : Shielded groups barred []
  | token {k : Kind} {ks : List Kind} (free : k ∉ barred) (single : ∀ g ∈ groups, k ≠ g.1)
      (more : Shielded groups barred ks) : Shielded groups barred (k :: ks)
  | group {g : Kind × Kind} {inner ks : List Kind} (known : g ∈ groups)
      (enclosed : Balanced g.1 g.2 inner) (more : Shielded groups barred ks) :
      Shielded groups barred (g.1 :: (inner ++ g.2 :: ks))

namespace Shielded

variable {groups : List (Kind × Kind)} {barred : List Kind} {ks' : List Kind}

theorem append (h : Shielded groups barred ks) (h' : Shielded groups barred ks') :
    Shielded groups barred (ks ++ ks') := by
  induction h with
  | nil => exact h'
  | token free single _ ih => exact .token free single ih
  | group known enclosed _ ih =>
    rw [List.cons_append, List.append_assoc, List.cons_append]
    exact .group known enclosed ih

/-- Fewer kinds may be barred. -/
theorem mono {fewer : List Kind} (h : Shielded groups barred ks) (sub : fewer ⊆ barred) :
    Shielded groups fewer ks := by
  induction h with
  | nil => exact .nil
  | token free single _ ih => exact .token (fun hk => free (sub hk)) single ih
  | group known enclosed _ ih => exact .group known enclosed ih

/-- What starts with a barred kind starts with a group. -/
theorem head (h : Shielded groups barred (k :: ks)) : k ∉ barred ∨ ∃ g ∈ groups, k = g.1 := by
  cases h with
  | token free _ _ => exact .inl free
  | group known _ _ => exact .inr ⟨_, known, rfl⟩

/-- What starts with a kind that opens no group goes on behind it. -/
theorem tail (h : Shielded groups barred (k :: ks)) (single : ∀ g ∈ groups, k ≠ g.1) :
    Shielded groups barred ks := by
  cases h with
  | token _ _ more => exact more
  | group known _ _ => exact absurd rfl (single _ known)

/-- What starts with a kind that opens one group only goes on behind that group. -/
theorem behind {g : Kind × Kind} (h : Shielded groups barred (k :: ks)) (known : g ∈ groups)
    (opens : k = g.1) (only : ∀ g' ∈ groups, k = g'.1 → g' = g) :
    ∃ inner more, ks = inner ++ g.2 :: more ∧ Balanced g.1 g.2 inner ∧
      Shielded groups barred more := by
  cases h with
  | token _ single _ => exact absurd opens (single g known)
  | group known' enclosed more =>
    obtain rfl := only _ known' rfl
    exact ⟨_, _, rfl, enclosed, more⟩

end Shielded

namespace Reading

open Cursor

/-- Tokens that close all but one of the open groups are passed up to the delimiter that closes
this one. -/
theorem closeGroups_of_closes (distinct : opening ≠ closing) {l : Location} {ts post : List Token}
    {last : Token} (hlast : last.kind = closing)
    (h : Closes opening closing depth (ts.map Token.kind)) :
    closeGroups opening closing (depth + 1) l (ts ++ last :: post) =
      .ok ⟨last.location, post⟩ := by
  -- `last` closes the outermost group, so the depth is one more than that of the tokens in front
  induction ts generalizing depth l with
  | nil =>
    obtain rfl := closes_nil_iff.mp h
    rw [List.nil_append, closeGroups, if_neg (by rw [hlast]; exact distinct.symm), if_pos hlast,
      closeGroups]
  | cons t ts ih =>
    rw [List.map_cons] at h
    rw [List.cons_append, closeGroups]
    by_cases ho : t.kind = opening
    · rw [ho, closes_opening_iff distinct] at h
      rw [if_pos ho, ih h]
    · by_cases hc : t.kind = closing
      · rw [hc] at h
        cases depth with
        | zero => exact absurd h (not_closes_closing distinct)
        | succ n => rw [if_neg ho, if_pos hc, ih ((closes_closing_iff distinct).mp h)]
      · rw [closes_other_iff ho hc] at h
        rw [if_neg ho, if_neg hc, ih h]

/-- What is balanced is passed up to the delimiter that closes the group around it. -/
theorem closeGroups_of_balanced (distinct : opening ≠ closing) {ts : List Token} {last : Token}
    (hlast : last.kind = closing) (h : Balanced opening closing (ts.map Token.kind))
    (l : Location) (post : List Token) :
    closeGroups opening closing 1 l (ts ++ last :: post) = .ok ⟨last.location, post⟩ :=
  closeGroups_of_closes distinct hlast (balanced_iff_closes.mp h)

/-- What was passed up to the delimiter that closes the last open group closes all the others. -/
theorem closes_of_closeGroups (distinct : opening ≠ closing) {l : Location} {ts : List Token}
    {d : Cursor} (h : closeGroups opening closing (depth + 1) l ts = .ok d) :
    ∃ inner last, ts = inner ++ last :: d.rest ∧ last.kind = closing ∧
      d.last = last.location ∧ Closes opening closing depth (inner.map Token.kind) := by
  induction ts generalizing depth l with
  | nil => cases h
  | cons t ts ih =>
    rw [closeGroups] at h
    split at h
    · next ho =>
      obtain ⟨inner, last, rfl, hlast, place, closes⟩ := ih h
      refine ⟨t :: inner, last, rfl, hlast, place, ?_⟩
      rw [List.map_cons, ho]
      exact (closes_opening_iff distinct).mpr closes
    · split at h
      · next hc =>
        cases depth with
        -- the outermost group ends here
        | zero =>
          rw [closeGroups] at h
          cases h
          exact ⟨[], t, rfl, hc, rfl, closes_nil_iff.mpr rfl⟩
        | succ n =>
          obtain ⟨inner, last, rfl, hlast, place, closes⟩ := ih h
          refine ⟨t :: inner, last, rfl, hlast, place, ?_⟩
          rw [List.map_cons, hc]
          exact (closes_closing_iff distinct).mpr closes
      · next ho hc =>
        obtain ⟨inner, last, rfl, hlast, place, closes⟩ := ih h
        exact ⟨t :: inner, last, rfl, hlast, place, (closes_other_iff ho hc).mpr closes⟩

/-- Behind its opening delimiter a group is passed up to the delimiter that closes it. -/
theorem run_group_cons {t : Token} (opens : t.kind = opening) (l : Location) (ts : List Token) :
    (past (group opening closing)).run ⟨l, t :: ts⟩ =
      (closeGroups opening closing 1 t.location ts).map fun d => ((), d) := by
  have opened : (past (expect opening (.delimiter opening))).run ⟨l, t :: ts⟩ =
      .ok (t, ⟨t.location, ts⟩) := by
    rw [past_expect, run_bind]
    refine (congrArg (· >>= _) (run_next_cons (fun t => t.kind = opening) _ _ _)).trans ?_
    simp [opens]
  rw [past_group, run_bind, opened, ok_bind, run_restOfGroup]

/-- Where no group opens none is passed. -/
theorem run_group_of_ne {c : Cursor} (other : c.kind? ≠ some opening) :
    (past (group opening closing)).run c = .error (c.unexpected (.delimiter opening)) := by
  have declined : (past (expect opening (.delimiter opening))).run c =
      .error (c.unexpected (.delimiter opening)) := by
    obtain ⟨l, _ | ⟨t, ts⟩⟩ := c
    · rfl
    · have ht : ¬t.kind = opening := fun ht => other (congrArg some ht)
      rw [past_expect, run_bind]
      refine (congrArg (· >>= _) (run_next_cons (fun t => t.kind = opening) _ _ _)).trans ?_
      simp [ht]
  rw [past_group, run_bind, declined]
  rfl

/-- A balanced group is passed. -/
theorem run_group (distinct : opening ≠ closing) {l : Location} {first last : Token}
    {inner post : List Token} (hfirst : first.kind = opening) (hlast : last.kind = closing)
    (h : Balanced opening closing (inner.map Token.kind)) :
    (past (group opening closing)).run ⟨l, first :: (inner ++ last :: post)⟩ =
      .ok ((), ⟨last.location, post⟩) := by
  rw [run_group_cons hfirst, closeGroups_of_balanced distinct hlast h first.location post]
  rfl

/-- A group that is passed is balanced. -/
theorem of_run_group (distinct : opening ≠ closing) {c d : Cursor} {v : Unit}
    (h : (past (group opening closing)).run c = .ok (v, d)) :
    ∃ first inner last, c.rest = first :: (inner ++ last :: d.rest) ∧ first.kind = opening ∧
      last.kind = closing ∧ d.last = last.location ∧
      Balanced opening closing (inner.map Token.kind) := by
  by_cases opens : c.kind? = some opening
  · obtain ⟨l, _ | ⟨first, ts⟩⟩ := c
    · cases opens
    · have hfirst : first.kind = opening := Option.some.inj opens
      rw [run_group_cons hfirst] at h
      obtain ⟨e, closed, same⟩ := map_eq_ok_iff.mp h
      cases same
      obtain ⟨inner, last, rfl, hlast, place, closes⟩ := closes_of_closeGroups distinct closed
      exact ⟨first, inner, last, rfl, hfirst, hlast, place, balanced_iff_closes.mpr closes⟩
  · rw [run_group_of_ne opens] at h
    cases h

end Reading

end JavaStub
