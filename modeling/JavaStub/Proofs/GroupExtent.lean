import JavaStub.Proofs.Groups
import JavaStub.Proofs.Spans.Laid

/-!
# How far a group goes

A group goes from its opening delimiter through the first token behind which as many delimiters have been
closed as opened. Before that more have been opened than closed, so its end is found by counting alone.
Where it has no end, or does not even begin, it is refused: at the token that stands in its place, or at
the end of the tokens.

Main facts:

1. `closeGroups_of_error`: where no end is found there is none.
2. `isExtent_of_balanced`: a balanced group goes as far as the counts say.
3. `group_exact`: which groups are passed, how far, and how the others are refused.
-/

namespace JavaStub

open Token (Kind)

variable {opening closing : Kind} {depth : Nat} {ts p q : List Token}

/-- Among the tokens as many delimiters are closed as are opened. -/
def Level (opening closing : Kind) (ts : List Token) : Prop :=
  (ts.map Token.kind).count closing = (ts.map Token.kind).count opening

/-- Among the tokens fewer delimiters are closed than are opened. -/
def LeavesOpen (opening closing : Kind) (ts : List Token) : Prop :=
  (ts.map Token.kind).count closing < (ts.map Token.kind).count opening

/-- The tokens start with some that are level. -/
def HasExtent (opening closing : Kind) (ts : List Token) : Prop :=
  ∃ p, p <+: ts ∧ p ≠ [] ∧ Level opening closing p

/-- The tokens `ts` start with the level tokens `p`, and with no fewer that are level. -/
structure IsExtent (opening closing : Kind) (ts p : List Token) : Prop where
  start : p <+: ts
  nonempty : p ≠ []
  level : Level opening closing p
  shortest : ∀ q, q <+: ts → q ≠ [] → Level opening closing q → p.length ≤ q.length
  /-- Before the last of the tokens some group is always open. -/
  leavesOpen : ∀ q, q <+: p → q ≠ [] → q ≠ p → LeavesOpen opening closing q

/-- Level tokens before the end of which some group is always open are the shortest. -/
theorem isExtent_of_leavesOpen (start : p <+: ts) (nonempty : p ≠ []) (level : Level opening closing p)
    (leavesOpen : ∀ q, q <+: p → q ≠ [] → q ≠ p → LeavesOpen opening closing q) :
    IsExtent opening closing ts p where
  start := start
  nonempty := nonempty
  level := level
  leavesOpen := leavesOpen
  shortest q hq ne hl := by
    rcases List.prefix_or_prefix_of_prefix hq start with within | beyond
    · by_cases same : q = p
      · rw [same]
      · exact absurd hl (Nat.ne_of_lt (leavesOpen q within ne same))
    · exact beyond.length_le

/-- A balanced group ends where it is level. -/
theorem isExtent_of_balanced (distinct : opening ≠ closing) {first last : Token}
    {inner : List Token} (hfirst : first.kind = opening) (hlast : last.kind = closing)
    (h : Balanced opening closing (inner.map Token.kind)) (post : List Token) :
    IsExtent opening closing (first :: (inner ++ last :: post)) (first :: (inner ++ [last])) := by
  refine isExtent_of_leavesOpen ⟨post, by simp⟩ (List.cons_ne_nil _ _) ?_ fun p hp ne other => ?_
  · have total := h.total
    unfold Level
    simp [hfirst, hlast, distinct, distinct.symm]
    omega
  · obtain ⟨q, rfl, hq⟩ := (List.prefix_cons_iff.mp hp).resolve_left ne
    rcases List.prefix_concat_iff.mp hq with rfl | within
    · exact absurd rfl other
    · have among := h.among _ (within.map Token.kind)
      unfold LeavesOpen
      simp [hfirst, distinct]
      omega

/-! ## Groups without an end -/

/-- Kinds that never close all of `depth` groups and of those that they open. -/
def NeverCloses (opening closing : Kind) (depth : Nat) (ks : List Kind) : Prop :=
  ∀ p, p <+: ks → p.count closing < depth + p.count opening

theorem neverCloses_nil (positive : 0 < depth) : NeverCloses opening closing depth [] := by
  intro p hp
  rw [List.prefix_nil.mp hp]
  exact positive

/-- The first kind moves the depth by what it opens and closes. -/
theorem neverCloses_cons {n : Nat} {k : Kind} {ks : List Kind} (positive : 0 < depth)
    (moved : depth + [k].count opening = n + [k].count closing)
    (h : NeverCloses opening closing n ks) : NeverCloses opening closing depth (k :: ks) := by
  intro p hp
  rcases List.prefix_cons_iff.mp hp with rfl | ⟨q, rfl, hq⟩
  · exact positive
  · have := h q hq
    rw [count_cons_eq closing k q, count_cons_eq opening k q]
    omega

/-- A group that is never closed is level nowhere. -/
theorem not_hasExtent (distinct : opening ≠ closing) {first : Token} (hfirst : first.kind = opening)
    (h : NeverCloses opening closing 1 (ts.map Token.kind)) :
    ¬HasExtent opening closing (first :: ts) := by
  rintro ⟨p, hp, ne, level⟩
  obtain ⟨q, rfl, hq⟩ := (List.prefix_cons_iff.mp hp).resolve_left ne
  have never := h _ (hq.map Token.kind)
  unfold Level at level
  simp [hfirst, distinct] at level
  omega

namespace Reading

open Cursor

/-- Where no end of the open groups is found there is none, and the last token is reported. -/
theorem closeGroups_of_error (distinct : opening ≠ closing) {l : Location} {e : ParseError}
    (h : closeGroups opening closing depth l ts = .error e) :
    NeverCloses opening closing depth (ts.map Token.kind) ∧
      e = .unexpectedEnd (.delimiter closing) (lastPlace l ts) := by
  -- it fails at the end of the tokens only, and there the depth is still positive
  fun_induction closeGroups opening closing depth l ts with
  | case1 => cases h
  | case2 depth l =>
    cases h
    exact ⟨neverCloses_nil (Nat.succ_pos depth), rfl⟩
  | case3 l depth t ts opens ih =>
    obtain ⟨never, rfl⟩ := ih h
    rw [lastPlace_cons]
    exact ⟨neverCloses_cons (Nat.succ_pos depth) (by simp [opens, distinct]) never, rfl⟩
  | case4 l depth t ts _ closes ih =>
    obtain ⟨never, rfl⟩ := ih h
    rw [lastPlace_cons]
    exact ⟨neverCloses_cons (Nat.succ_pos depth) (by simp [closes, distinct.symm]) never, rfl⟩
  | case5 l depth t ts other other' ih =>
    obtain ⟨never, rfl⟩ := ih h
    rw [lastPlace_cons]
    exact ⟨neverCloses_cons (Nat.succ_pos depth) (by simp [other, other']) never, rfl⟩

/-! ## Groups -/

/-- What passing a group comes to between the tokens `before` it and the tokens `rest`: the cursor behind
it, or a refusal. -/
structure PassesGroup (opening closing : Kind) (before rest : List Token)
    (passed : Except ParseError Cursor) : Prop where
  ok_iff : (∃ d, passed = .ok d) ↔
    rest.head?.map Token.kind = some opening ∧ HasExtent opening closing rest
  stops : ∀ d, passed = .ok d → ∃ p behind, rest = p ++ behind ∧ d = between (before ++ p) behind ∧
    IsExtent opening closing rest p
  /-- Another token stands there. -/
  other : ∀ t, rest.head? = some t → t.kind ≠ opening →
    passed = .error (.unexpectedToken (.delimiter opening) t.lexeme t.location)
  /-- The tokens end there. -/
  ended : rest = [] →
    passed = .error (.unexpectedEnd (.delimiter opening) (lastPlace .start (before ++ rest)))
  /-- The group has no end. -/
  unclosed : rest.head?.map Token.kind = some opening → ¬HasExtent opening closing rest →
    passed = .error (.unexpectedEnd (.delimiter closing) (lastPlace .start (before ++ rest)))

variable {before rest : List Token} {first : Token}

/-- What does not open a group is refused. -/
theorem passesGroup_of_ne (other : rest.head?.map Token.kind ≠ some opening) :
    PassesGroup opening closing before rest
      (.error ((between before rest).unexpected (.delimiter opening))) where
  ok_iff := iff_of_false (fun ⟨_, h⟩ => nomatch h) fun h => other h.1
  stops := nofun
  other t head _ := by
    obtain ⟨ts, rfl⟩ := List.head?_eq_some_iff.mp head
    rfl
  ended none := by
    rw [none, List.append_nil]
    rfl
  unclosed opens := absurd opens other

/-- What opens a group is no other token. -/
theorem kind_eq_of_opening (opens : first.kind = opening) :
    ∀ t, (first :: ts).head? = some t → t.kind = opening := by
  intro t head
  cases head
  exact opens

/-- A group whose end is not found is refused. -/
theorem passesGroup_of_error (distinct : opening ≠ closing) (opens : first.kind = opening)
    {e : ParseError} (h : closeGroups opening closing 1 first.location ts = .error e) :
    PassesGroup opening closing before (first :: ts) (.error e) := by
  obtain ⟨never, rfl⟩ := closeGroups_of_error distinct h
  have endless := not_hasExtent distinct opens never
  have place : lastPlace first.location ts = lastPlace .start (before ++ first :: ts) := by
    rw [← lastPlace_append, lastPlace_cons]
  exact {
    ok_iff := iff_of_false (fun ⟨_, h⟩ => nomatch h) fun h => endless h.2
    stops := nofun
    other := fun t head other => absurd (kind_eq_of_opening opens t head) other
    ended := nofun
    unclosed := fun _ _ => by rw [place] }

/-- A group whose end is found goes as far as the counts say. -/
theorem passesGroup_of_ok (distinct : opening ≠ closing) (opens : first.kind = opening) {d : Cursor}
    (h : closeGroups opening closing 1 first.location ts = .ok d) :
    PassesGroup opening closing before (first :: ts) (.ok d) := by
  obtain ⟨inner, last, rfl, hlast, place, closes⟩ := closes_of_closeGroups distinct h
  have extent := isExtent_of_balanced distinct opens hlast (balanced_iff_closes.mpr closes) d.rest
  have goes : HasExtent opening closing (first :: (inner ++ last :: d.rest)) :=
    ⟨_, extent.start, extent.nonempty, extent.level⟩
  have behind : d = between (before ++ first :: (inner ++ [last])) d.rest := by
    unfold between lastPlace
    rw [← List.cons_append, ← List.append_assoc, List.getLast?_concat]
    exact congrArg (Cursor.mk · d.rest) place
  exact {
    ok_iff := iff_of_true ⟨d, rfl⟩ ⟨congrArg some opens, goes⟩
    stops := by
      rintro _ ⟨⟩
      exact ⟨_, d.rest, by simp, behind, extent⟩
    other := fun t head other => absurd (kind_eq_of_opening opens t head) other
    ended := nofun
    unclosed := fun _ endless => absurd goes endless }

/-- A group is passed if and only if it opens where the cursor stands and some of the tokens from there on
are level; the cursor is then behind the fewest tokens that are. All other groups are refused. -/
theorem group_exact (distinct : opening ≠ closing) (before rest : List Token) :
    PassesGroup opening closing before rest
      ((group opening closing (between before rest)).map (·.next)) := by
  rw [map_next_past (group opening closing)]
  by_cases opens : rest.head?.map Token.kind = some opening
  · cases rest with
    | nil => cases opens
    | cons first ts =>
      have hfirst : first.kind = opening := Option.some.inj opens
      unfold between
      rw [run_group_cons hfirst]
      cases closed : closeGroups opening closing 1 first.location ts with
      | error e => exact passesGroup_of_error distinct hfirst closed
      | ok d => exact passesGroup_of_ok distinct hfirst closed
  · have other : (between before rest).kind? ≠ some opening := opens
    rw [run_group_of_ne other]
    exact passesGroup_of_ne opens

/-- The tokens of the text `@A(())())`. -/
def nestedBrackets : List Token :=
  [⟨.atSign, "@", ⟨1, 1, 0⟩⟩, ⟨.identifier, "A", ⟨1, 2, 1⟩⟩, ⟨.lparen, "(", ⟨1, 3, 2⟩⟩,
   ⟨.lparen, "(", ⟨1, 4, 3⟩⟩, ⟨.rparen, ")", ⟨1, 5, 4⟩⟩, ⟨.rparen, ")", ⟨1, 6, 5⟩⟩,
   ⟨.lparen, "(", ⟨1, 7, 6⟩⟩, ⟨.rparen, ")", ⟨1, 8, 7⟩⟩, ⟨.rparen, ")", ⟨1, 9, 8⟩⟩]

/-- The group goes through the bracket that matches the first one, though behind the pair after it the
tokens are level again. -/
theorem group_nestedBrackets :
    Kind.lparen ≠ .rparen ∧
      PassesGroup .lparen .rparen (nestedBrackets.take 2) (nestedBrackets.drop 2)
        (.ok (between (nestedBrackets.take 6) (nestedBrackets.drop 6))) := by
  have distinct : Kind.lparen ≠ .rparen := by decide
  have passed := group_exact distinct (nestedBrackets.take 2) (nestedBrackets.drop 2)
  have stops : (group .lparen .rparen
      (between (nestedBrackets.take 2) (nestedBrackets.drop 2))).map (·.next) =
        .ok (between (nestedBrackets.take 6) (nestedBrackets.drop 6)) := by decide +kernel
  rw [stops] at passed
  exact ⟨distinct, passed⟩

end Reading

end JavaStub
