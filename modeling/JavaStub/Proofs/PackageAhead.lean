import JavaStub.Proofs.Reading.Takes

/-!
# Looking ahead for the package

The lookahead for the keyword `package` passes annotations in a way of its own. It agrees with
the reading of annotations wherever no name follows them, and it does not look into a brace
group that stands outside of round brackets.

Main facts:

1. `packageAhead_of_annotations`: annotations that are read are looked past.
2. `packageAhead_of_keyword`: they do not hide the keyword.
3. `packageAhead_congr`: what follows a stop behind matched round brackets is not looked at.
-/

namespace JavaStub.Reading

open Cursor

open Token (Kind)

/-! ## Behind matched round brackets -/

theorem afterNameRun_cons (t : Token) (ts : List Token) :
    afterNameRun (t :: ts) =
      if t.kind = .identifier ∨ t.kind = .dot then afterNameRun ts else t :: ts := by
  unfold afterNameRun
  rw [List.dropWhile_cons]
  simp

theorem afterNameRun_append {p : List Token} {w : Token} {r : List Token}
    (hw : w.kind ≠ .identifier ∧ w.kind ≠ .dot) :
    afterNameRun (p ++ w :: r) = afterNameRun p ++ w :: r := by
  induction p with
  | nil =>
    rw [List.nil_append, afterNameRun_cons, if_neg (by simp [hw])]
    rfl
  | cons t p ih =>
    rw [List.cons_append, afterNameRun_cons, afterNameRun_cons, ih]
    split <;> rfl

theorem shielded_afterNameRun {barred : List Kind} {p : List Token}
    (h : Shielded roundGroups barred (p.map Token.kind)) :
    Shielded roundGroups barred ((afterNameRun p).map Token.kind) := by
  induction p with
  | nil => exact h
  | cons t p ih =>
    rw [afterNameRun_cons]
    split
    · next ht =>
      refine ih (Shielded.tail (k := t.kind) h fun g hg => ?_)
      rw [List.mem_singleton.mp hg]
      rcases ht with ht | ht <;> simp [ht]
    · exact h

/-- Arguments in matched round brackets are passed without a look at what follows a stop. -/
theorem afterArguments_append {barred : List Kind} {p : List Token} {w : Token}
    (h : Shielded roundGroups barred (p.map Token.kind)) (hw : w.kind ≠ .lparen) :
    ∃ q, q.length ≤ p.length ∧ Shielded roundGroups barred (q.map Token.kind) ∧
      ∀ r, afterArguments (p ++ w :: r) = some (q ++ w :: r) := by
  cases p with
  | nil => exact ⟨[], Nat.le_refl _, .nil, fun r => afterArguments_of_ne hw⟩
  | cons t p =>
    by_cases ht : t.kind = .lparen
    · rw [List.map_cons] at h
      obtain ⟨inner, more, split, enclosed, more_shielded⟩ :=
        h.behind (List.mem_singleton.mpr rfl) ht fun g hg _ => List.mem_singleton.mp hg
      obtain ⟨p₁, p₂, rfl, rfl, split₂⟩ := List.map_eq_append_iff.mp split
      obtain ⟨last, q, rfl, hlast, rfl⟩ := List.map_eq_cons_iff.mp split₂
      refine ⟨q, by simp; omega, more_shielded, fun r => ?_⟩
      have closed := closeGroups_of_balanced (by decide) hlast enclosed t.location (q ++ w :: r)
      rw [List.cons_append, List.append_assoc, List.cons_append, afterArguments_round ht, closed]
    · exact ⟨t :: p, Nat.le_refl _, h, fun r => afterArguments_of_ne ht⟩

/-- An annotation starts with its sign. -/
theorem sign_of_atAnnotation {c : Cursor} (h : c.atAnnotation = true) :
    c.kind? = some .atSign := by
  unfold atAnnotation at h
  exact of_decide_eq_true (Bool.and_eq_true_iff.mp h).1

/-- Before a stop the lookahead passes an annotation, and where it goes on then does not depend on
what is behind the stop. -/
theorem exists_packageAhead_behind {barred : List Kind} {t w : Token} {p : List Token}
    (h : Shielded roundGroups barred ((t :: p).map Token.kind))
    (hw : w.kind ≠ .identifier ∧ w.kind ≠ .dot ∧ w.kind ≠ .lparen) (sign : t.kind = .atSign) :
    ∃ q, q.length ≤ p.length ∧ Shielded roundGroups barred (q.map Token.kind) ∧
      ∀ r, atAnnotation ⟨.start, t :: (p ++ w :: r)⟩ = true →
        packageAhead (t :: (p ++ w :: r)) = packageAhead (q ++ w :: r) := by
  obtain ⟨notName, notDot, notRound⟩ := hw
  have tail : Shielded roundGroups barred (p.map Token.kind) := by
    refine Shielded.tail (k := t.kind) h fun g hg => ?_
    rw [List.mem_singleton.mp hg, sign]
    decide
  obtain ⟨q, short, shielded, passed⟩ :=
    afterArguments_append (shielded_afterNameRun tail) notRound
  refine ⟨q, short.trans (afterNameRun_length_le p), shielded, fun r starts => ?_⟩
  rw [packageAhead_of_sign starts, afterNameRun_append ⟨notName, notDot⟩, passed]
  rfl

/-- Behind matched round brackets and a stop nothing is looked at. -/
theorem packageAhead_congr {barred : List Kind} {p : List Token} {w : Token}
    (h : Shielded roundGroups barred (p.map Token.kind))
    (hw : w.kind ≠ .identifier ∧ w.kind ≠ .dot ∧ w.kind ≠ .lparen ∧ w.kind ≠ .atSign)
    (r r' : List Token) : packageAhead (p ++ w :: r) = packageAhead (p ++ w :: r') := by
  obtain ⟨notName, notDot, notRound, notAt⟩ := hw
  cases p with
  | nil =>
    have stops : ∀ r, atAnnotation ⟨.start, w :: r⟩ = false := fun r => by
      simp [kind?, atAnnotation, notAt]
    rw [List.nil_append, List.nil_append, packageAhead_of_not (stops r),
      packageAhead_of_not (stops r')]
  | cons t p =>
    have same : atAnnotation ⟨.start, t :: (p ++ w :: r)⟩ =
        atAnnotation ⟨.start, t :: (p ++ w :: r')⟩ := by
      cases p <;> rfl
    rw [List.cons_append, List.cons_append]
    cases starts : atAnnotation ⟨.start, t :: (p ++ w :: r)⟩ with
    | false =>
      rw [packageAhead_of_not starts, packageAhead_of_not (same.symm.trans starts)]
    | true =>
      have sign : t.kind = .atSign := Option.some.inj <| sign_of_atAnnotation starts
      obtain ⟨q, short, shielded, behind⟩ :=
        exists_packageAhead_behind h ⟨notName, notDot, notRound⟩ sign
      rw [behind r starts, behind r' (same.symm.trans starts)]
      exact packageAhead_congr shielded ⟨notName, notDot, notRound, notAt⟩ r r'
termination_by p.length
decreasing_by
  subst_vars
  rw [List.length_cons]
  omega

/-! ## Behind annotations -/

/-- Identifiers and dots are passed with a run of names. -/
theorem afterNameRun_of_prefix {p r : List Token}
    (h : ∀ t ∈ p, t.kind = .identifier ∨ t.kind = .dot) :
    afterNameRun (p ++ r) = afterNameRun r := by
  induction p with
  | nil => rfl
  | cons t p ih =>
    rw [List.cons_append, afterNameRun_cons, if_pos (h t (List.mem_cons_self ..))]
    exact ih fun u hu => h u (List.mem_cons_of_mem _ hu)

/-- An annotation that is read starts with its sign. -/
theorem of_run_annotation? {c d : Cursor} {v : Unit}
    (h : (step annotation?).run c = .ok (some v, d)) : c.kind? = some .atSign := by
  rw [step_annotation?, run_bind, run_look, ok_bind] at h
  cases starts : c.atAnnotation with
  | false => simp [starts] at h
  | true => exact sign_of_atAnnotation starts

/-- Where no name follows, the lookahead passes the same arguments. -/
theorem any_afterArguments {c d : Cursor}
    (h : (onward annotationArguments).run c = .ok ((), d))
    (follows : d.kind? ≠ some .identifier ∧ d.kind? ≠ some .dot) :
    (afterArguments (afterNameRun c.rest)).any packageAhead = packageAhead d.rest := by
  rw [onward_annotationArguments, run_bind, run_look, ok_bind] at h
  by_cases round : c.kind? = some .lparen
  · rw [if_pos round] at h
    obtain ⟨first, inner, last, split, hfirst, hlast, _, enclosed⟩ := of_run_group (by decide) h
    have closed := closeGroups_of_balanced (by decide) hlast enclosed first.location d.rest
    dsimp only at split
    rw [split, afterNameRun_cons, if_neg (by simp [hfirst]), afterArguments_round hfirst, closed]
    rfl
  · rw [if_neg round] at h
    cases h
    obtain ⟨l, _ | ⟨t, ts⟩⟩ := c
    · exact packageAhead_nil.symm
    · have notName : ¬(t.kind = .identifier ∨ t.kind = .dot) := by
        rintro (ht | ht)
        · exact follows.1 (congrArg some ht)
        · exact follows.2 (congrArg some ht)
      have notRound : t.kind ≠ .lparen := fun ht => round (congrArg some ht)
      rw [afterNameRun_cons, if_neg notName, afterArguments_of_ne notRound]
      rfl

/-- Where no name follows, an annotation that is read is looked past. -/
theorem packageAhead_of_annotation? {c d : Cursor}
    (h : (step annotation?).run c = .ok (some (), d))
    (follows : d.kind? ≠ some .identifier ∧ d.kind? ≠ some .dot) :
    packageAhead c.rest = packageAhead d.rest := by
  rw [step_annotation?, run_bind, run_look, ok_bind] at h
  cases starts : c.atAnnotation with
  | false => simp [starts] at h
  | true =>
    rw [if_pos starts, run_bind] at h
    obtain ⟨⟨t, c₁⟩, opened, h⟩ := bind_eq_ok_iff.mp h
    rw [run_bind] at h
    obtain ⟨⟨name, c₂⟩, named, h⟩ := bind_eq_ok_iff.mp h
    rw [run_bind] at h
    obtain ⟨⟨_, c₃⟩, argued, h⟩ := bind_eq_ok_iff.mp h
    cases h
    obtain ⟨l, ts⟩ := c
    obtain ⟨_, split, _⟩ := of_run_expect opened
    obtain ⟨names, split', run⟩ := takes_qualifiedName _ _ named
    obtain rfl : ts = t :: c₁.rest := split
    rw [packageAhead_of_sign starts, split', afterNameRun_of_prefix run]
    exact any_afterArguments argued follows

/-- Where no name follows, annotations that are read are looked past. -/
theorem packageAhead_of_annotations {c d : Cursor}
    (h : (onward annotations).run c = .ok ((), d))
    (follows : d.kind? ≠ some .identifier ∧ d.kind? ≠ some .dot) :
    packageAhead c.rest = packageAhead d.rest := by
  rw [onward_annotations, run_bind] at h
  obtain ⟨⟨passed, e⟩, looped, done⟩ := bind_eq_ok_iff.mp h
  cases done
  have rounds := (rounds_of_many looped).1
  clear h looped
  induction rounds with
  | refl => rfl
  | @round c₁ c₂ _ a first more ih =>
    refine (packageAhead_of_annotation? first ?_).trans (ih follows)
    cases more with
    | refl => exact follows
    | round next _ =>
      -- another annotation stands there
      have starts := of_run_annotation? next
      simp [starts]

/-- Annotations do not hide the keyword behind them. -/
theorem packageAhead_of_keyword {c d : Cursor} (h : (onward annotations).run c = .ok ((), d))
    (keyword : d.kind? = some .kwPackage) : packageAhead c.rest = true := by
  rw [packageAhead_of_annotations h (by simp [keyword])]
  obtain ⟨l, _ | ⟨t, ts⟩⟩ := d
  · cases keyword
  · have stops : atAnnotation ⟨l, t :: ts⟩ = false := by
      unfold atAnnotation
      rw [keyword]
      rfl
    rw [packageAhead_of_not stops]
    exact decide_eq_true (Option.some.inj keyword)

end JavaStub.Reading
