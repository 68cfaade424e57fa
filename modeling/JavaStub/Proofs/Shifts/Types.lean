import JavaStub.Proofs.Shifts.Mirror

/-!
# Types with split shifts

The readers of types do on split words what they do on the words as they are. On the split side no
angle is ever owed: an angle that is owed on the other side is next there (`Owes`), and so nothing
but the end of a list of type arguments can follow on either side.

Main facts:

1. `mirrors_closeAngle`: one list of type arguments is closed on both sides.
2. `mirrors_openType`: the mutual readers of types, by recursion on the words that are left.
-/

namespace JavaStub

open Token (Kind)

open Cursor Grammar

variable {ws vs us ts W : List Word} {owed : Nat}

namespace Reading

variable {α γ δ : Type}

/-- What is left of `ws` on both sides behind a value: the angles that are owed are split off on the
other side, so that none is owed there. -/
structure Owes (ws : List Word) (p : α × Nat) (vs : List Word) (q : α × Nat) (ts : List Word) :
    Prop where
  value : q = (p.1, 0)
  left : Parted ws p.2 vs ts

/-- The stretch that has been read is of no particular place on either side. -/
theorem mirrors_spanFrom {S : γ → List Word → δ → List Word → Prop} {f : Span → Reading γ}
    {g : Span → Reading δ} (start : Location) (h : ∀ span, Mirrors S (f span) ws (g span) us) :
    Mirrors S (look (spanFrom start) >>= f) ws (look (spanFrom start) >>= g) us := by
  have same : Mirrors (fun span vs span' ts => span' = span ∧ vs = ws ∧ ts = us)
      (look (spanFrom start)) ws (look (spanFrom start)) us :=
    .read (reads_look rfl) (reads_look rfl) ⟨rfl, rfl, rfl⟩
  refine same.bind fun _ same => ?_
  obtain ⟨rfl, rfl, rfl⟩ := same
  exact h _

/-- A value is kept with the stretch that has been read for it. -/
theorem Mirrors.withSpan {x y : Reading (α × Nat)} (h : Mirrors (Owes W) x ws y us)
    (start : Location) (f : α → Span → γ) :
    Mirrors (Owes W)
      (x >>= fun p => look (spanFrom start) >>= fun span => pure (f p.1 span, p.2)) ws
      (y >>= fun p => look (spanFrom start) >>= fun span => pure (f p.1 span, p.2)) us := by
  refine h.bind fun _ read => ?_
  obtain ⟨rfl, left⟩ := read
  exact mirrors_spanFrom start fun span => mirrors_pure ⟨rfl, left⟩

/-- Where no angle is next, and none is owed, no list is closed. -/
theorem run_closeAngle_error (others : ∀ w ∈ us.head?, angleCount w.kind = 0) :
    ∃ e, (onward (closeAngle 0)).run (ofWords us) = .error e := by
  have next : Reads (option (next? fun t => angleCount t.kind != 0)) us none us := by
    refine reads_next_none fun w hw => ?_
    rw [Word.token_kind, others w hw]
    rfl
  rw [onward_closeAngle, if_pos rfl]
  exact ⟨_, next.bind_error rfl⟩

/-- One list of type arguments is closed. -/
theorem mirrors_closeAngle (h : Parted W owed vs ts) :
    Mirrors (fun owed' vs' none ts' => none = 0 ∧ Parted W owed' vs' ts')
      (onward (closeAngle owed)) vs (onward (closeAngle 0)) ts := by
  cases owed with
  | succ owed =>
    rw [h.closing_next]
    refine .read ?_ (reads_angle rfl) ⟨rfl, h.closed⟩
    rw [onward_closeAngle, if_neg (Nat.succ_ne_zero owed)]
    exact reads_pure owed
  | zero =>
    obtain rfl : ts = unshifted vs := h.split
    cases vs with
    | nil =>
      obtain ⟨e, refused⟩ := run_closeAngle_error (fun w hw => nomatch hw : ∀ w ∈ [].head?, _)
      exact .refused refused refused
    | cons w vs =>
      rcases unshifted_cases w vs with ⟨other, split⟩ | ⟨n, v, angle, gt, split⟩
      · have others : ∀ us : List Word, ∀ u ∈ (w :: us).head?, angleCount u.kind = 0 := by
          rintro us _ ⟨⟩
          exact other
        obtain ⟨e, here⟩ := run_closeAngle_error (others vs)
        obtain ⟨e', there⟩ := run_closeAngle_error (others (unshifted vs))
        rw [split]
        exact .refused here there
      · rw [split]
        exact .read (reads_angle angle) (reads_angle (by rw [gt]; rfl))
          ⟨rfl, .of_angle h.leaves.suffix angle⟩

theorem atClosingAngle_unshifted (ws : List Word) :
    (ofWords (unshifted ws)).atClosingAngle = (ofWords ws).atClosingAngle := by
  unfold atClosingAngle
  rw [kind?_ofWords, kind?_ofWords]
  cases ws with
  | nil => rfl
  | cons w ws =>
    rcases unshifted_cases w ws with ⟨_, split⟩ | ⟨n, v, angle, gt, split⟩
    · rw [split]
      rfl
    · rw [split]
      show (angleCount v.kind != 0) = (angleCount w.kind != 0)
      rw [gt, angle]
      rfl

/-- While an angle is owed no dimensions follow on either side. -/
theorem mirrors_dimensionsUnlessOwed (h : Parted W owed vs ts) :
    Mirrors (fun dims vs' dims' ts' => dims' = dims ∧ Parted W owed vs' ts')
      (onward (dimensionsUnlessOwed owed)) vs (onward (dimensionsUnlessOwed 0)) ts := by
  rw [onward_dimensionsUnlessOwed, onward_dimensionsUnlessOwed, if_pos rfl]
  cases owed with
  | zero =>
    obtain rfl : ts = unshifted vs := h.split
    rw [if_pos rfl]
    refine Mirrors.mono blind_dimensions fun same => ?_
    obtain ⟨rfl, rfl, suffix⟩ := same
    exact ⟨rfl, .of_suffix (suffix.trans h.leaves.suffix)⟩
  | succ owed =>
    have noDims : Grammar.Dimensions 0 [] := .nil
    have none : Reads (onward dimensions) ts 0 ts := reads_dimensions noDims (h.notAt (by decide))
    rw [if_neg (Nat.succ_ne_zero owed)]
    exact .read (reads_pure 0) none ⟨rfl, h⟩

mutual

/-- A type is read from both sides. -/
theorem mirrors_openType (ws : List Word) (h : ws <:+ W) :
    Mirrors (Owes W) (past openType) ws (past openType) (unshifted ws) := by
  rw [past_openType]
  refine blind_location.andThen fun start vs _ atStart => ?_
  refine blind_annotations.andThen fun _ vs₁ _ passed => ?_
  have primitive : ∀ w : Word, angleCount w.kind ≠ 0 → w.token.kind.isPrimitive = false :=
    fun w angle => eq_false_of_ne_true fun h => angle (angleCount_of_isPrimitive h)
  refine (blind_next primitive).andThen fun t vs₂ _ tried => ?_
  have within := ((tried.trans passed).trans atStart).trans h
  have := ((tried.trans passed).trans atStart).length_le
  cases t with
  | some t =>
    refine blind_dimensions.andThen fun dims vs₃ _ suffix => mirrors_spanFrom start fun span => ?_
    exact mirrors_pure ⟨rfl, .of_suffix (suffix.trans within)⟩
  | none =>
    refine (mirrors_segment vs₂ within).bind fun {first vs₃ _ _} here read => ?_
    obtain ⟨rfl, left⟩ := read
    have := here.past_lt
    refine (mirrors_segmentTail vs₃ left).bind fun _ read => ?_
    obtain ⟨rfl, left⟩ := read
    refine (mirrors_dimensionsUnlessOwed left).bind fun _ read => ?_
    obtain ⟨rfl, left⟩ := read
    refine mirrors_spanFrom start fun span => ?_
    exact mirrors_pure ⟨rfl, left⟩
termination_by 6 * ws.length + 2

/-- A name with its type arguments is read from both sides. -/
theorem mirrors_segment (ws : List Word) (h : ws <:+ W) :
    Mirrors (Owes W) (past segment) ws (past segment) (unshifted ws) := by
  rw [past_segment]
  refine blind_location.andThen fun start vs _ atStart => ?_
  refine blind_identifier.andThen fun name vs₁ named suffix₁ => ?_
  refine (blind_accept rfl).andThen fun t vs₂ _ suffix₂ => ?_
  have within := ((suffix₂.trans suffix₁).trans atStart).trans h
  have := named.past_lt
  have := atStart.length_le
  have := suffix₂.length_le
  cases t with
  | none =>
    refine mirrors_spanFrom start fun span => ?_
    exact mirrors_pure ⟨rfl, .of_suffix within⟩
  | some t =>
    exact (mirrors_typeArguments vs₂ within).withSpan start fun arguments span =>
      ReferenceType.mk name arguments 0 span
termination_by 6 * ws.length + 1

/-- The names that dots join are read from both sides; while an angle is owed there are none. -/
theorem mirrors_segmentTail {owed : Nat} {ts : List Word} (vs : List Word)
    (h : Parted W owed vs ts) :
    Mirrors (Owes W) (onward (segmentTail owed)) vs (onward (segmentTail 0)) ts := by
  rw [onward_segmentTail, onward_segmentTail, if_pos rfl]
  cases owed with
  | zero =>
    obtain rfl : ts = unshifted vs := h.split
    rw [if_pos rfl]
    refine blind_joiningDot.andThen fun t vs₁ dot suffix => ?_
    have within := suffix.trans h.leaves.suffix
    cases t with
    | none => exact mirrors_pure ⟨rfl, .of_suffix within⟩
    | some t =>
      have := dot.option_lt
      refine (mirrors_segment vs₁ within).bind fun {first vs₂ _ _} here read => ?_
      obtain ⟨rfl, left⟩ := read
      have := here.past_lt
      refine (mirrors_segmentTail vs₂ left).bind fun _ read => ?_
      obtain ⟨rfl, left⟩ := read
      exact mirrors_pure ⟨rfl, left⟩
  | succ owed =>
    have next : NotAt [.dot] ts := h.notAt (by decide)
    have none := reads_joiningDot_none (notJoined_of_notAt next (List.mem_singleton_self _))
    rw [if_neg (Nat.succ_ne_zero owed)]
    exact .read (reads_pure _) (none.bind (reads_pure _)) ⟨rfl, h⟩
termination_by 6 * vs.length

/-- The rest of a list of type arguments is read from both sides. -/
theorem mirrors_typeArguments (ws : List Word) (h : ws <:+ W) :
    Mirrors (Owes W) (onward typeArguments) ws (onward typeArguments) (unshifted ws) := by
  rw [onward_typeArguments]
  refine (blind_look (atClosingAngle_unshifted ws)).andThen fun closes vs _ suffix => ?_
  have within := suffix.trans h
  have := suffix.length_le
  split
  · refine (mirrors_closeAngle (.of_suffix within)).bind fun _ read => ?_
    obtain ⟨rfl, left⟩ := read
    exact mirrors_pure ⟨rfl, left⟩
  · refine (mirrors_argumentList vs within).bind fun _ read => ?_
    obtain ⟨rfl, left⟩ := read
    refine (mirrors_closeAngle left).bind fun _ read => ?_
    obtain ⟨rfl, left⟩ := read
    exact mirrors_pure ⟨rfl, left⟩
termination_by 6 * ws.length + 5

/-- Type arguments are read from both sides. -/
theorem mirrors_argumentList (ws : List Word) (h : ws <:+ W) :
    Mirrors (Owes W) (past argumentList) ws (past argumentList) (unshifted ws) := by
  rw [past_argumentList]
  refine (mirrors_typeArgument ws h).bind fun {first vs _ ts} here read => ?_
  obtain ⟨rfl, left⟩ := read
  obtain ⟨first, owed⟩ := first
  have := here.past_lt
  cases owed with
  | zero =>
    obtain rfl : ts = unshifted vs := left.split
    refine (blind_accept rfl).andThen fun t vs₁ comma suffix => ?_
    have within := suffix.trans left.leaves.suffix
    have := suffix.length_le
    cases t with
    | none => exact mirrors_pure ⟨rfl, .of_suffix within⟩
    | some t =>
      refine (mirrors_argumentList vs₁ within).bind fun _ read => ?_
      obtain ⟨rfl, left⟩ := read
      exact mirrors_pure ⟨rfl, left⟩
  | succ owed =>
    have next : NotAt [.comma] ts := left.notAt (by decide)
    have none : Reads (option (accept .comma)) ts none ts :=
      reads_accept_none next (List.mem_singleton_self _)
    exact .read (reads_pure _) (none.bind (reads_pure _)) ⟨rfl, left⟩
termination_by 6 * ws.length + 4

/-- A type argument is read from both sides. -/
theorem mirrors_typeArgument (ws : List Word) (h : ws <:+ W) :
    Mirrors (Owes W) (past typeArgument) ws (past typeArgument) (unshifted ws) := by
  rw [past_typeArgument]
  refine blind_location.andThen fun start vs _ atStart => ?_
  refine blind_annotations.andThen fun _ vs₁ _ passed => ?_
  refine (blind_accept rfl).andThen fun t vs₂ mark marked => ?_
  have suffix := (marked.trans passed).trans atStart
  have within := suffix.trans h
  have := suffix.length_le
  cases t with
  | none =>
    exact (mirrors_openType vs₂ within).withSpan start JavaType.argument
  | some t =>
    refine (blind_accept rfl).andThen fun t vs₃ _ suffix₃ => ?_
    have := suffix₃.length_le
    cases t with
    | some t =>
      exact (mirrors_openType vs₃ (suffix₃.trans within)).withSpan start
        (JavaType.boundedWildcard .upper)
    | none =>
      refine (blind_accept rfl).andThen fun t vs₄ _ suffix₄ => ?_
      have within := (suffix₄.trans suffix₃).trans within
      have := suffix₄.length_le
      cases t with
      | some t =>
        exact (mirrors_openType vs₄ within).withSpan start
          (JavaType.boundedWildcard .lower)
      | none => exact mirrors_spanFrom start fun span => mirrors_pure ⟨rfl, .of_suffix within⟩
termination_by 6 * ws.length + 3

end

end Reading

end JavaStub
