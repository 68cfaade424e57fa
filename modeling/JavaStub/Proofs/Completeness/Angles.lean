import JavaStub.Proofs.Completeness.Basic

/-!
# Closing angles

One lexeme can close several lists of type arguments. The invariant for reading types is in
`Leaves`: the angles that are owed, followed by the words that are left, spell what is not read
yet; and angles are only owed by the lexeme that was read last.

Main facts:

1. `unfused_split`: words are cut wherever something other than a closing angle stands.
2. `reads_closeAngle`: one angle is closed, by an angle that is owed or by the next lexeme.
3. `Leaves.exact`: where a type ends between two lexemes none is owed.
-/

namespace JavaStub

open Token (Kind)

open Cursor Grammar

variable {ws vs us as V W : List Word}

/-! ## Closing angles taken apart -/

@[simp] theorem unfused_nil : unfused [] = [] := rfl

theorem unfused_cons (w : Word) (ws : List Word) : unfused (w :: ws) = w.unfused ++ unfused ws :=
  rfl

theorem unfused_append (ws vs : List Word) : unfused (ws ++ vs) = unfused ws ++ unfused vs :=
  List.flatMap_append

namespace Word

theorem unfused_of_count {w : Word} (h : angleCount w.kind = 0) : w.unfused = [w] := by
  unfold unfused
  simp [h]

theorem unfused_eq_replicate {w : Word} (h : angleCount w.kind ≠ 0) :
    w.unfused = List.replicate (angleCount w.kind) closing := by
  unfold unfused
  split
  · next h' => exact absurd h' h
  · rfl

theorem unfused_length_pos (w : Word) : 0 < w.unfused.length := by
  by_cases h : angleCount w.kind = 0
  · rw [unfused_of_count h]
    exact Nat.zero_lt_one
  · rw [unfused_eq_replicate h, List.length_replicate]
    exact Nat.pos_of_ne_zero h

/-- Of a word that is taken apart only closing angles are left. -/
theorem mem_unfused {w v : Word} (h : v ∈ w.unfused) (other : v.kind ≠ .gt) : w.unfused = [v] := by
  by_cases hw : angleCount w.kind = 0
  · rw [unfused_of_count hw] at h ⊢
    rw [List.mem_singleton.mp h]
  · rw [unfused_eq_replicate hw] at h
    exact absurd (congrArg kind (List.eq_of_mem_replicate h)) other

theorem eq_of_unfused {w v : Word} (h : w.unfused = [v]) (other : v.kind ≠ .gt) : w = v := by
  by_cases hw : angleCount w.kind = 0
  · rw [unfused_of_count hw] at h
    exact List.singleton_inj.mp h
  · rw [unfused_eq_replicate hw] at h
    have : v ∈ List.replicate (angleCount w.kind) closing := by rw [h]; exact List.mem_singleton_self v
    exact absurd (congrArg kind (List.eq_of_mem_replicate this)) other

end Word

/-- Words are cut where something other than a closing angle stands. -/
theorem unfused_split {w : Word} (h : unfused us = V ++ w :: W) (other : w.kind ≠ .gt) :
    ∃ ws vs, us = ws ++ w :: vs ∧ unfused ws = V ∧ unfused vs = W := by
  induction us generalizing V with
  | nil => simp at h
  | cons u us ih =>
    rw [unfused_cons] at h
    -- `w` stands behind what `u` is split into, or among it
    rcases List.append_eq_append_iff.mp h with ⟨V', rfl, h'⟩ | ⟨V', hu, h'⟩
    · obtain ⟨ws, vs, rfl, rfl, rfl⟩ := ih h'
      exact ⟨u :: ws, vs, rfl, rfl, rfl⟩
    · cases V' with
      | nil =>
        obtain ⟨ws, vs, rfl, hws, rfl⟩ := ih (V := []) h'.symm
        refine ⟨u :: ws, vs, rfl, ?_, rfl⟩
        rw [unfused_cons, hws, hu, List.append_nil, List.append_nil]
      | cons v V' =>
        obtain ⟨rfl, rfl⟩ := List.cons.inj h'
        -- only closing angles are ever split, so `u` is `w` itself
        have single := Word.mem_unfused (by rw [hu]; simp) other
        obtain rfl := Word.eq_of_unfused single other
        rw [single] at hu
        have short := congrArg List.length hu
        simp only [List.length_append, List.length_cons, List.length_nil] at short
        obtain rfl : V = [] := List.eq_nil_of_length_eq_zero (by omega)
        obtain rfl : V' = [] := List.eq_nil_of_length_eq_zero (by omega)
        exact ⟨[], us, rfl, rfl, rfl⟩

theorem unfused_eq_cons {w : Word} (h : unfused us = w :: W) (other : w.kind ≠ .gt) :
    ∃ vs, us = w :: vs ∧ unfused vs = W := by
  obtain ⟨ws, vs, rfl, hws, hvs⟩ := unfused_split (V := []) h other
  cases ws with
  | nil => exact ⟨vs, rfl, hvs⟩
  | cons u ws =>
    have := u.unfused_length_pos
    have := congrArg List.length hws
    rw [unfused_cons, List.length_append, List.length_nil] at this
    omega

/-- Words without closing angles are there as they are. -/
theorem unfused_eq_append (h : unfused us = V ++ W) (others : ∀ w ∈ V, w.kind ≠ .gt) :
    ∃ vs, us = V ++ vs ∧ unfused vs = W := by
  induction V generalizing us with
  | nil => exact ⟨us, rfl, h⟩
  | cons w V ih =>
    obtain ⟨vs, rfl, hvs⟩ := unfused_eq_cons h (others w (List.mem_cons_self ..))
    obtain ⟨us, rfl, hus⟩ := ih hvs fun v hv => others v (List.mem_cons_of_mem _ hv)
    exact ⟨us, rfl, hus⟩

/-- What is next is next in the words as they are written. -/
theorem Grammar.NotAt.of_unfused {ks : List Kind} (h : NotAt ks (unfused us))
    (others : ∀ k ∈ ks, angleCount k = 0) : NotAt ks us := by
  rintro w hw hk
  cases us with
  | nil => cases hw
  | cons u us =>
    cases hw
    rw [unfused_cons, Word.unfused_of_count (others _ hk)] at h
    exact notAt_cons.mp h hk

theorem Grammar.NotAt.unfused {ks : List Kind} (h : NotAt ks us) (other : .gt ∉ ks) :
    NotAt ks (unfused us) := by
  cases us with
  | nil => exact notAt_nil ks
  | cons u us =>
    rw [unfused_cons]
    by_cases hu : angleCount u.kind = 0
    · rw [Word.unfused_of_count hu]
      exact h
    · obtain ⟨n, hn⟩ := Nat.exists_eq_succ_of_ne_zero hu
      rw [Word.unfused_eq_replicate hu, hn]
      exact notAt_cons.mpr other

theorem count_unfused {k : Kind} (h : angleCount k = 0) (ws : List Word) :
    ((unfused ws).map Word.kind).count k = (ws.map Word.kind).count k := by
  induction ws with
  | nil => rfl
  | cons w ws ih =>
    rw [unfused_cons, List.map_append, List.count_append, ih, List.map_cons, List.count_cons]
    by_cases hw : angleCount w.kind = 0
    · rw [Word.unfused_of_count hw, List.map_singleton, List.count_singleton]
      omega
    · have other : w.kind ≠ k := fun hk => hw (by rw [hk]; exact h)
      have angle : Kind.gt ≠ k := by
        rintro rfl
        cases h
      rw [Word.unfused_eq_replicate hw, List.map_replicate, List.count_replicate]
      simp [other, angle, Word.closing]

/-- What is balanced with its closing angles taken apart is balanced as it is written. -/
theorem Balanced.of_unfused {opening closing : Kind}
    (h : Balanced opening closing ((unfused ws).map Word.kind)) (ho : angleCount opening = 0)
    (hc : angleCount closing = 0) : Balanced opening closing (ws.map Word.kind) := by
  obtain ⟨total, among⟩ := h
  rw [count_unfused hc, count_unfused ho] at total
  refine ⟨total, fun p hp => ?_⟩
  obtain ⟨q, hq, rfl⟩ := List.prefix_map_iff.mp hp
  have := among ((unfused q).map Word.kind) (by
    obtain ⟨r, rfl⟩ := hq
    rw [unfused_append, List.map_append]
    exact List.prefix_append _ _)
  rwa [count_unfused hc, count_unfused ho] at this

/-! ## Angles that are owed -/

/-- What is left of the words `us`: `owed` closing angles and the words `vs`, which together
spell `V`. -/
structure Leaves (us : List Word) (owed : Nat) (vs V : List Word) : Prop where
  spelled : List.replicate owed Word.closing ++ unfused vs = V
  suffix : vs <:+ us
  /-- Angles are owed by the word before, which closes more than that. -/
  lexeme : owed = 0 ∨ ∃ w, w :: vs <:+ us ∧ owed < w.unfused.length

namespace Leaves

variable {owed : Nat}

theorem refl (h : unfused us = V) : Leaves us 0 us V :=
  ⟨by rw [List.replicate_zero, List.nil_append, h], List.suffix_refl us, .inl rfl⟩

theorem behind (h : Leaves vs owed ws V) (suffix : vs <:+ us) : Leaves us owed ws V :=
  ⟨h.spelled, h.suffix.trans suffix, h.lexeme.imp id fun ⟨w, hw, more⟩ => ⟨w, hw.trans suffix, more⟩⟩

/-- Where none is owed the words that are left spell what stands behind. -/
theorem whole (h : Leaves us 0 vs V) : unfused vs = V := h.spelled

theorem notAt (h : Leaves us 0 vs V) {ks : List Kind} (behind : NotAt ks V)
    (others : ∀ k ∈ ks, angleCount k = 0) : NotAt ks vs :=
  NotAt.of_unfused (h.whole.symm ▸ behind) others

/-- Where no closing angle is next none is owed. -/
theorem settled (h : Leaves us owed vs V) (next : NotAt [.gt] V) : owed = 0 ∧ unfused vs = V := by
  cases owed with
  | zero => exact ⟨rfl, h.whole⟩
  | succ n =>
    have first := h.spelled
    rw [List.replicate_succ, List.cons_append] at first
    rw [← first, notAt_cons] at next
    exact absurd (List.mem_singleton_self _) next

/-- Where whole lexemes are left none is owed. -/
theorem exact (h : Leaves (us ++ ws) owed vs (unfused ws)) : owed = 0 ∧ vs = ws := by
  have spelled := h.spelled
  rcases List.suffix_or_suffix_of_suffix h.suffix (List.suffix_append us ws) with
    ⟨p, rfl⟩ | ⟨p, rfl⟩
  · -- the words `p` before `vs` spell the angles that are owed
    rw [unfused_append, List.append_cancel_right_eq] at spelled
    rcases List.eq_nil_or_concat p with rfl | ⟨q, v, rfl⟩
    · rw [unfused_nil, List.replicate_eq_nil_iff] at spelled
      exact ⟨spelled, rfl⟩
    · rw [List.concat_eq_append] at h spelled ⊢
      rw [unfused_append, unfused_cons, unfused_nil, List.append_nil] at spelled
      have long := congrArg List.length spelled
      rw [List.length_replicate, List.length_append] at long
      have positive := v.unfused_length_pos
      rcases h.lexeme with none | ⟨w, last, less⟩
      · omega
      · have written : v :: vs <:+ us ++ (q ++ [v] ++ vs) := ⟨us ++ q, by simp⟩
        have same : w :: vs = v :: vs :=
          (List.suffix_of_suffix_length_le last written (Nat.le_refl _)).eq_of_length rfl
        obtain rfl := (List.cons.inj same).1
        omega
  · -- more is left than whole lexemes
    rw [unfused_append] at spelled
    have long := congrArg List.length spelled
    rw [List.length_append, List.length_append, List.length_replicate] at long
    obtain rfl : owed = 0 := by omega
    cases p with
    | nil => exact ⟨rfl, rfl⟩
    | cons w p =>
      rw [unfused_cons, List.length_append] at long
      have := w.unfused_length_pos
      omega

end Leaves

namespace Reading

variable {α : Type} {owed : Nat}

/-- The value `a` is read from the words `us` with closing angles that are owed after it, and
what is left then of `ws` spells `V`. -/
def ReadsOwing (ws : List Word) (x : Reading (α × Nat)) (us : List Word) (a : α) (V : List Word) :
    Prop :=
  ∃ owed vs, Reads x us (a, owed) vs ∧ Leaves ws owed vs V

/-- A lexeme closes one list; the other angles in it are owed then. -/
theorem reads_angle {w : Word} {n : Nat} (angle : angleCount w.kind = n + 1) :
    Reads (onward (closeAngle 0)) (w :: us) n us := by
  have next : Reads (option (next? fun t => angleCount t.kind != 0)) (w :: us) (some w.token) us :=
    reads_next (bne_iff_ne.mpr (by rw [Word.token_kind]; omega))
  have count : angleCount w.token.kind - 1 = n := by
    rw [Word.token_kind, angle]
    rfl
  rw [onward_closeAngle, if_pos rfl, ← count]
  exact next.bind (reads_pure _)

/-- One closing angle is closed. -/
theorem reads_closeAngle (h : Leaves ws owed us (Word.closing :: V)) :
    ∃ owed' vs, Reads (onward (closeAngle owed)) us owed' vs ∧ Leaves ws owed' vs V := by
  cases owed with
  | zero =>
    have spelled := h.whole
    cases us with
    | nil => cases spelled
    | cons w vs =>
      have angle : angleCount w.kind ≠ 0 := by
        intro hw
        rw [unfused_cons, Word.unfused_of_count hw] at spelled
        obtain rfl := (List.cons.inj spelled).1
        cases hw
      rw [unfused_cons, Word.unfused_eq_replicate angle] at spelled
      obtain ⟨n, hn⟩ := Nat.exists_eq_succ_of_ne_zero angle
      rw [hn, List.replicate_succ, List.cons_append] at spelled
      refine ⟨n, vs, reads_angle hn, (List.cons.inj spelled).2,
        (List.suffix_cons w vs).trans h.suffix, .inr ⟨w, h.suffix, ?_⟩⟩
      rw [Word.unfused_eq_replicate angle, List.length_replicate]
      omega
  | succ n =>
    have spelled := h.spelled
    rw [List.replicate_succ, List.cons_append] at spelled
    have closed : Reads (onward (closeAngle (n + 1))) us n us := by
      rw [onward_closeAngle, if_neg (Nat.succ_ne_zero n)]
      exact reads_pure n
    refine ⟨n, us, closed, (List.cons.inj spelled).2, h.suffix, .inr ?_⟩
    rcases h.lexeme with none | ⟨w, last, less⟩
    · cases none
    · exact ⟨w, last, by omega⟩

end Reading

end JavaStub
