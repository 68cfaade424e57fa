import JavaStub.Proofs.Reading.Locality
import JavaStub.Proofs.Shifts.Guard
import JavaStub.Proofs.Shifts.Types

/-!
# Shifts read as angles

A type is read from tokens with `>>` and `>>>` among them as from the tokens with each of these
split into single angles: what is refused with the angles is refused with the shifts, and a type
that is read up to a place between two of the tokens is the same type. Only where a type ends inside
of a shift the tokens are refused, for the angles that are left over.

Main facts:

1. `run_completeType_unshifted`: the two readings of words side by side.
2. `completeType_of_isSplit`: the agreement for all tokens and places in them, and the bound on the
   angles that are owed meanwhile.
-/

namespace JavaStub

open Cursor Reading

variable {c c' : Cursor}

/-- The second tokens are the first with every shift split into the angles it is made of, up to
places. -/
def IsSplit (ts ts' : List Token) : Prop :=
  ts'.map Token.word = unshifted (ts.map Token.word)

instance (ts ts' : List Token) : Decidable (IsSplit ts ts') :=
  inferInstanceAs (Decidable (ts'.map Token.word = unshifted (ts.map Token.word)))

namespace Reading

/-- From words that are split a type is read, and no angle is owed behind it, or none is read from
the words as they are either. -/
theorem run_completeType_unshifted (ws : List Word) :
    (∃ e e', (past completeType).run (ofWords ws) = .error e ∧
      (past completeType).run (ofWords (unshifted ws)) = .error e') ∨
    ∃ t owed vs ts, Parted ws owed vs ts ∧ Reads (past completeType) (unshifted ws) t ts ∧
      (past completeType).run (ofWords ws) =
        if owed = 0 then .ok (t, ofWords vs) else .error (.unbalancedAngle .start) := by
  rw [past_completeType]
  cases mirrors_openType ws (List.suffix_refl ws) with
  | refused here there => exact .inl ⟨_, _, run_bind_error here, run_bind_error there⟩
  | @read p vs q ts here there owes =>
    obtain ⟨rfl, left⟩ := owes
    refine .inr ⟨p.1, p.2, vs, ts, left, there.bind (reads_pure _), ?_⟩
    unfold Reads at here
    rw [run_bind, here, ok_bind]
    split <;> rfl

end Reading

/-- What is read to its end has been read with all angles closed. -/
theorem openType_of_completeType {r : Past c JavaType} (h : c.completeType = .ok r) :
    c.openType = .ok (r.map fun t => (t, 0)) := by
  unfold completeType at h
  obtain ⟨⟨⟨t, owed⟩, d, lt⟩, read, closed⟩ := bind_eq_ok_iff.mp h
  unfold balanced at closed
  by_cases none : owed = 0
  · subst none
    cases closed
    exact read
  · rw [if_neg none] at closed
    cases closed

/-- What is read from a cursor is a part of what is there. -/
theorem suffix_of_completeType {r : Past c JavaType} (h : c.completeType = .ok r) :
    r.next.rest <:+ c.rest := by
  refine local_completeType.suffix (v := r.value) ?_
  rw [run_past, h]
  rfl

/-- What is refused as words is refused as tokens, for the same reason. -/
theorem completeType_of_words_error {e : ParseError}
    (h : (past completeType).run (ofWords (c.rest.map Token.word)) = .error e) :
    ∃ e', c.completeType = .error e' ∧ relocate unplaced e' = e := by
  rw [run_completeType_ofWords] at h
  cases found : c.completeType with
  | error e' =>
    rw [found] at h
    exact ⟨e', rfl, Except.error.inj h⟩
  | ok r =>
    rw [found] at h
    cases h

/-- What is read as words is read as tokens. -/
theorem completeType_of_words {t : JavaType} {vs : List Word}
    (h : Reads (past completeType) (c.rest.map Token.word) t vs) :
    ∃ r, c.completeType = .ok r ∧ relocate unplaced r.value = t ∧
      r.next.rest.map Token.word = vs := by
  unfold Reads at h
  rw [run_completeType_ofWords] at h
  cases found : c.completeType with
  | error e =>
    rw [found] at h
    cases h
  | ok r =>
    rw [found] at h
    obtain ⟨value, left⟩ := Prod.mk.inj (Except.ok.inj h)
    rw [relocate_unplaced_cursor] at left
    exact ⟨r, rfl, value, ofWords_injective left⟩

/-- The two readings of tokens side by side: both are refused, or the split tokens are read, and
what comes of the others depends on the angles that would be owed. -/
theorem completeType_side_by_side (split : IsSplit c.rest c'.rest) :
    (∃ e e', c.completeType = .error e ∧ c'.completeType = .error e') ∨
    ∃ r' owed vs, c'.completeType = .ok r' ∧
      Parted (c.rest.map Token.word) owed vs (r'.next.rest.map Token.word) ∧
      (owed = 0 → ∃ r, c.completeType = .ok r ∧
        relocate unplaced r.value = relocate unplaced r'.value ∧
        r.next.rest.map Token.word = vs) ∧
      (owed ≠ 0 → ∃ l, c.completeType = .error (.unbalancedAngle l)) := by
  rcases run_completeType_unshifted (c.rest.map Token.word) with
    ⟨e, e', here, there⟩ | ⟨t, owed, vs, ts, parted, there, here⟩
  · rw [← split] at there
    obtain ⟨e, refused, _⟩ := completeType_of_words_error here
    obtain ⟨e', refused', _⟩ := completeType_of_words_error there
    exact .inl ⟨e, e', refused, refused'⟩
  · rw [← split] at there
    obtain ⟨r', read, rfl, rfl⟩ := completeType_of_words there
    refine .inr ⟨r', owed, vs, read, parted, fun none => ?_, fun some => ?_⟩
    · rw [if_pos none] at here
      exact completeType_of_words here
    · rw [if_neg some] at here
      obtain ⟨e, refused, same⟩ := completeType_of_words_error here
      cases e with
      | unbalancedAngle l => exact ⟨l, refused⟩
      | _ => cases same

/-- What is left of tokens is known by its words. -/
theorem eq_of_words {ts us vs : List Token} (hu : us <:+ ts) (hv : vs <:+ ts)
    (words : us.map Token.word = vs.map Token.word) : us = vs := by
  have long := congrArg List.length words
  rw [List.length_map, List.length_map] at long
  exact (List.suffix_of_suffix_length_le hu hv (Nat.le_of_eq long)).eq_of_length long

/-- A type is read from tokens with shifts among them as from the tokens with the shifts split, if
it ends between two of them, and refused for its angles if it ends inside of one; and at no time are
more than two angles owed, or tokens looked for while any is. -/
theorem completeType_of_isSplit (split : IsSplit c.rest c'.rest) :
    (∀ e', c'.completeType = .error e' → ∃ e, c.completeType = .error e) ∧
    (∀ r', c'.completeType = .ok r' →
      (∀ rest, rest <:+ c.rest → IsSplit rest r'.next.rest →
        ∃ r, c.completeType = .ok r ∧ c.openType = .ok (r.map fun t => (t, 0)) ∧
          r.next.rest = rest ∧ relocate unplaced r.value = relocate unplaced r'.value) ∧
      ((∀ rest, rest <:+ c.rest → ¬ IsSplit rest r'.next.rest) →
        ∃ l, c.completeType = .error (.unbalancedAngle l))) ∧
    Guarded.completeType 0 c = c.completeType.mapError .refused ∧
    Guarded.typeParameters 0 c = c.typeParameters.mapError .refused := by
  refine ⟨?_, ?_, (Guarded.guards_completeType c).same, (Guarded.guards_typeParameters c).same⟩
  · intro e' refused
    rcases completeType_side_by_side split with ⟨e, _, found, _⟩ | ⟨r', _, _, read, _⟩
    · exact ⟨e, found⟩
    · rw [read] at refused
      cases refused
  · intro r' found
    rcases completeType_side_by_side split with
      ⟨_, _, _, refused⟩ | ⟨r'', owed, vs, read, parted, whole, beyond⟩
    · rw [refused] at found
      cases found
    · rw [read] at found
      cases found
      refine ⟨fun rest suffix boundary => ?_, fun inside => ?_⟩
      · have ⟨before, all⟩ := suffix
        rw [boundary, ← all, List.map_append] at parted
        obtain ⟨rfl, rfl⟩ := parted.exact
        obtain ⟨r, here, same, words⟩ := whole rfl
        have stop := eq_of_words (suffix_of_completeType here) suffix words
        exact ⟨r, here, openType_of_completeType here, stop, same⟩
      · refine beyond fun none => ?_
        subst none
        obtain ⟨rest, suffix, rfl⟩ := List.suffix_map_iff.mp parted.leaves.suffix
        exact inside rest suffix parted.split

/-- The tokens of `A<B<C>>D`. -/
def shiftTokens : List Token :=
  [⟨.identifier, "A", ⟨1, 1, 0⟩⟩, ⟨.lt, "<", ⟨1, 2, 1⟩⟩, ⟨.identifier, "B", ⟨1, 3, 2⟩⟩,
   ⟨.lt, "<", ⟨1, 4, 3⟩⟩, ⟨.identifier, "C", ⟨1, 5, 4⟩⟩, ⟨.rshift, ">>", ⟨1, 6, 5⟩⟩,
   ⟨.identifier, "D", ⟨1, 8, 7⟩⟩]

/-- The tokens of `A<B<C> >D`. -/
def angleTokens : List Token :=
  [⟨.identifier, "A", ⟨1, 1, 0⟩⟩, ⟨.lt, "<", ⟨1, 2, 1⟩⟩, ⟨.identifier, "B", ⟨1, 3, 2⟩⟩,
   ⟨.lt, "<", ⟨1, 4, 3⟩⟩, ⟨.identifier, "C", ⟨1, 5, 4⟩⟩, ⟨.gt, ">", ⟨1, 6, 5⟩⟩,
   ⟨.gt, ">", ⟨1, 8, 7⟩⟩, ⟨.identifier, "D", ⟨1, 9, 8⟩⟩]

/-- The type `A<B<C>>`. -/
def angleType : JavaType :=
  .reference (.mk "A"
    [.argument (.reference (.mk "B"
      [.argument (.reference (.mk "C" [] 0 (.inLine 4 4))) (.inLine 4 4)] 0 (.inLine 2 5)))
        (.inLine 2 5)] 0 (.inLine 0 7))

theorem completeType_angleTokens : (Cursor.start angleTokens).completeType =
    .ok ⟨angleType, ⟨⟨1, 8, 7⟩, angleTokens.drop 7⟩, by decide⟩ := by decide +kernel

/-- The type `B<C>`. -/
def innerType : JavaType :=
  .reference (.mk "B"
    [.argument (.reference (.mk "C" [] 0 (.inLine 4 4))) (.inLine 4 4)] 0 (.inLine 2 5))

theorem completeType_innerTokens : (Cursor.start (angleTokens.drop 2)).completeType =
    .ok ⟨innerType, ⟨⟨1, 6, 5⟩, angleTokens.drop 6⟩, by decide⟩ := by decide +kernel

theorem completeType_shiftTokens :
    IsSplit shiftTokens angleTokens ∧
    (∃ r, (Cursor.start shiftTokens).completeType = .ok r ∧
      (Cursor.start shiftTokens).openType = .ok (r.map fun t => (t, 0)) ∧
      r.next.rest = shiftTokens.drop 6 ∧
      relocate unplaced r.value = relocate unplaced angleType) ∧
    ∃ l, (Cursor.start (shiftTokens.drop 2)).completeType = .error (.unbalancedAngle l) := by
  have split : IsSplit (Cursor.start shiftTokens).rest (Cursor.start angleTokens).rest := by decide
  have inner : IsSplit (Cursor.start (shiftTokens.drop 2)).rest
      (Cursor.start (angleTokens.drop 2)).rest := by decide
  have inside : ∀ rest, rest <:+ shiftTokens.drop 2 → ¬ IsSplit rest (angleTokens.drop 6) := by
    intro rest suffix
    have all : ∀ rest ∈ (shiftTokens.drop 2).tails, ¬ IsSplit rest (angleTokens.drop 6) := by decide
    exact all rest ((List.mem_tails _ _).mpr suffix)
  refine ⟨split, ?_, ?_⟩
  · exact ((completeType_of_isSplit split).2.1 _ completeType_angleTokens).1 _
      (List.drop_suffix 6 _) (by decide)
  · exact ((completeType_of_isSplit inner).2.1 _ completeType_innerTokens).2 inside

end JavaStub
