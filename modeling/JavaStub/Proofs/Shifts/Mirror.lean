import JavaStub.Proofs.Completeness.Types

/-!
# Shifts split into angles

The lexemes `>>` and `>>>` close two and three lists of type arguments. Here each of them is split
into single angles, and readings of the words as they are and of the split words are compared. What
takes no closing angle is read in the same way from both (`Blind`). Where angles are owed, they are
next on the split side, and behind them is what is left on the other side, split (`Parted`).

Main facts:

1. `Mirrors.bind`: stages that mirror each other make readings that do.
2. `blind_group`: groups are passed alike, whatever angles are in them.
3. `blind_annotations` and `blind_dimensions`.
-/

namespace JavaStub

open Token (Kind)

open Cursor Grammar

variable {ws vs us ts W : List Word} {owed : Nat}

/-! ## Splitting -/

/-- A word, with a shift split into the angles it is made of. -/
def Word.unshifted (w : Word) : List Word :=
  match w.kind with
  | .rshift => [closing, closing]
  | .urshift => [closing, closing, closing]
  | _ => [w]

/-- Words with every shift split into the angles it is made of. -/
def unshifted (ws : List Word) : List Word := ws.flatMap Word.unshifted

@[simp] theorem unshifted_nil : unshifted [] = [] := rfl

theorem unshifted_cons (w : Word) (ws : List Word) :
    unshifted (w :: ws) = w.unshifted ++ unshifted ws := rfl

namespace Word

theorem unshifted_of_count {w : Word} (h : angleCount w.kind = 0) : w.unshifted = [w] := by
  unfold unshifted
  split
  · next shift => rw [shift] at h; cases h
  · next shift => rw [shift] at h; cases h
  · rfl

/-- A word that closes lists of type arguments is split into as many angles as it closes. -/
theorem unshifted_of_angle {w : Word} {n : Nat} (h : angleCount w.kind = n + 1) :
    ∃ v, v.kind = .gt ∧ w.unshifted = v :: List.replicate n closing := by
  unfold unshifted
  split
  · next shift =>
    rw [shift] at h
    obtain rfl : n = 1 := (Nat.succ.inj h).symm
    exact ⟨closing, rfl, rfl⟩
  · next shift =>
    rw [shift] at h
    obtain rfl : n = 2 := (Nat.succ.inj h).symm
    exact ⟨closing, rfl, rfl⟩
  · next notTwo notThree =>
    have gt : w.kind = .gt := by
      revert h notTwo notThree
      cases w.kind <;> simp [angleCount]
    rw [gt] at h
    obtain rfl : n = 0 := (Nat.succ.inj h).symm
    exact ⟨w, gt, rfl⟩

end Word

theorem unfused_replicate (n : Nat) :
    unfused (List.replicate n Word.closing) = List.replicate n Word.closing := by
  induction n with
  | zero => rfl
  | succ n ih =>
    rw [List.replicate_succ, unfused_cons, ih]
    rfl

/-- Split or not, the words have the same angles. -/
theorem unfused_unshifted (ws : List Word) : unfused (unshifted ws) = unfused ws := by
  induction ws with
  | nil => rfl
  | cons w ws ih =>
    rw [unshifted_cons, unfused_append, ih, unfused_cons]
    congr 1
    cases hw : angleCount w.kind with
    | zero => rw [Word.unshifted_of_count hw, unfused_cons, unfused_nil, List.append_nil]
    | succ n =>
      obtain ⟨v, gt, split⟩ := Word.unshifted_of_angle hw
      have first : v.unfused = [Word.closing] := by
        unfold Word.unfused
        rw [gt]
        rfl
      rw [split, unfused_cons, unfused_replicate, first, Word.unfused_eq_replicate (by omega), hw]
      rfl

/-- The first word is the same on both sides, or it is made of angles. -/
theorem unshifted_cases (w : Word) (ws : List Word) :
    angleCount w.kind = 0 ∧ unshifted (w :: ws) = w :: unshifted ws ∨
      ∃ n v, angleCount w.kind = n + 1 ∧ v.kind = .gt ∧
        unshifted (w :: ws) = v :: (List.replicate n Word.closing ++ unshifted ws) := by
  rw [unshifted_cons]
  cases hw : angleCount w.kind with
  | zero =>
    rw [Word.unshifted_of_count hw]
    exact .inl ⟨rfl, rfl⟩
  | succ n =>
    obtain ⟨v, gt, split⟩ := Word.unshifted_of_angle hw
    rw [split]
    exact .inr ⟨n, v, rfl, gt, rfl⟩

theorem unshifted_eq_cons {w : Word} {V : List Word} (h : unshifted us = w :: V)
    (other : w.kind ≠ .gt) : ∃ vs, us = w :: vs ∧ unshifted vs = V := by
  cases us with
  | nil => cases h
  | cons u us =>
    rcases unshifted_cases u us with ⟨_, split⟩ | ⟨n, v, _, gt, split⟩
    · rw [split] at h
      obtain ⟨rfl, rfl⟩ := List.cons.inj h
      exact ⟨us, rfl, rfl⟩
    · rw [split] at h
      obtain ⟨rfl, _⟩ := List.cons.inj h
      exact absurd gt other

/-- Of the words `ws` there are left `owed` angles and the words `vs`, which are `ts` when they are
split. -/
structure Parted (ws : List Word) (owed : Nat) (vs ts : List Word) : Prop where
  split : ts = List.replicate owed Word.closing ++ unshifted vs
  leaves : Leaves ws owed vs (unfused ts)

namespace Parted

theorem of_suffix (h : vs <:+ ws) : Parted ws 0 vs (unshifted vs) :=
  ⟨rfl, (Leaves.refl (unfused_unshifted vs).symm).behind h⟩

/-- Where whole lexemes are left none is owed. -/
theorem exact (h : Parted (us ++ ws) owed vs (unshifted ws)) : owed = 0 ∧ vs = ws := by
  have left := h.leaves
  rw [unfused_unshifted] at left
  exact left.exact

/-- Where an angle is owed an angle is next on the split side. -/
theorem closing_next (h : Parted ws (owed + 1) vs ts) :
    ts = Word.closing :: (List.replicate owed Word.closing ++ unshifted vs) := by
  rw [h.split, List.replicate_succ, List.cons_append]

/-- While an angle is owed nothing else is next on the split side. -/
theorem notAt (h : Parted ws (owed + 1) vs ts) {ks : List Kind} (other : .gt ∉ ks) :
    NotAt ks ts := by
  rw [h.closing_next]
  exact notAt_cons.mpr other

/-- An angle that is owed has been closed. -/
theorem closed (h : Parted ws (owed + 1) vs ts) :
    Parted ws owed vs (List.replicate owed Word.closing ++ unshifted vs) := by
  refine ⟨rfl, ?_, h.leaves.suffix, .inr ?_⟩
  · rw [unfused_append, unfused_replicate, unfused_unshifted]
  · rcases h.leaves.lexeme with none | ⟨w, last, less⟩
    · cases none
    · exact ⟨w, last, by omega⟩

/-- The first angle of a lexeme has been closed. -/
theorem of_angle {w : Word} {n : Nat} (h : w :: vs <:+ ws) (angle : angleCount w.kind = n + 1) :
    Parted ws n vs (List.replicate n Word.closing ++ unshifted vs) := by
  refine ⟨rfl, ?_, (List.suffix_cons w vs).trans h, .inr ⟨w, h, ?_⟩⟩
  · rw [unfused_append, unfused_replicate, unfused_unshifted]
  · rw [Word.unfused_eq_replicate (by omega), List.length_replicate]
    omega

end Parted

namespace Reading

variable {α β γ δ : Type} {x : Reading α} {y : Reading β}

/-! ## Readings that mirror each other -/

theorem length_ofWords (ws : List Word) : (ofWords ws).rest.length = ws.length := List.length_map _

theorem run_bind_error {f : α → Reading γ} {c : Cursor} {e : ParseError}
    (refused : x.run c = .error e) : (x >>= f).run c = .error e := by
  rw [run_bind, refused]
  rfl

theorem Reads.bind_error {f : α → Reading γ} {a : α} {e : ParseError} (h : Reads x ws a vs)
    (refused : (f a).run (.ofWords vs) = .error e) : (x >>= f).run (.ofWords ws) = .error e := by
  unfold Reads at h
  rw [run_bind, h, ok_bind]
  exact refused

/-- On the words `us` the reading `y` does what `x` does on `ws`: both are refused, or `R` holds of
what they read and what they leave. -/
inductive Mirrors (R : α → List Word → β → List Word → Prop) (x : Reading α) (ws : List Word)
    (y : Reading β) (us : List Word) : Prop
  | read {a : α} {vs : List Word} {b : β} {ts : List Word} (here : Reads x ws a vs)
      (there : Reads y us b ts) (related : R a vs b ts)
  | refused {e e' : ParseError} (here : x.run (.ofWords ws) = .error e)
      (there : y.run (.ofWords us) = .error e')

section Mirrors

variable {R : α → List Word → β → List Word → Prop} {S : γ → List Word → δ → List Word → Prop}

theorem Mirrors.bind {f : α → Reading γ} {g : β → Reading δ} (h : Mirrors R x ws y us)
    (next : ∀ {a vs b ts}, Reads x ws a vs → R a vs b ts → Mirrors S (f a) vs (g b) ts) :
    Mirrors S (x >>= f) ws (y >>= g) us := by
  cases h with
  | read here there related =>
    cases next here related with
    | read here' there' related' => exact .read (here.bind here') (there.bind there') related'
    | refused here' there' => exact .refused (here.bind_error here') (there.bind_error there')
  | refused here there => exact .refused (run_bind_error here) (run_bind_error there)

theorem Mirrors.mono {R' : α → List Word → β → List Word → Prop} (h : Mirrors R x ws y us)
    (weaker : ∀ {a vs b ts}, R a vs b ts → R' a vs b ts) : Mirrors R' x ws y us := by
  cases h with
  | read here there related => exact .read here there (weaker related)
  | refused here there => exact .refused here there

theorem mirrors_pure {a : α} {b : β} (h : R a ws b us) : Mirrors R (pure a) ws (pure b) us :=
  .read (reads_pure a) (reads_pure b) h

theorem mirrors_fail {f g : Cursor → ParseError} : Mirrors R (fail f) ws (fail g) us :=
  .refused rfl rfl

end Mirrors

/-! ## Readings that take no closing angle -/

/-- What is read from the words `ws` is the same, and what is left is a part of them. -/
structure Same (ws : List Word) (a : α) (vs : List Word) (b : α) (ts : List Word) : Prop where
  value : b = a
  left : ts = unshifted vs
  suffix : vs <:+ ws

/-- At the words `ws` the reading does not tell split words from the words as they are. -/
def Blind (ws : List Word) (x : Reading α) : Prop := Mirrors (Same ws) x ws x (unshifted ws)

/-- Behind a blind reading the two runs go on from the same words. -/
theorem Blind.andThen {S : γ → List Word → δ → List Word → Prop} {f : α → Reading γ}
    {g : α → Reading δ} (h : Blind ws x)
    (next : ∀ a vs, Reads x ws a vs → vs <:+ ws → Mirrors S (f a) vs (g a) (unshifted vs)) :
    Mirrors S (x >>= f) ws (x >>= g) (unshifted ws) := by
  refine Mirrors.bind h fun here same => ?_
  obtain ⟨rfl, rfl, suffix⟩ := same
  exact next _ _ here suffix

theorem Blind.bind {f : α → Reading γ} (h : Blind ws x)
    (next : ∀ a vs, Reads x ws a vs → Blind vs (f a)) : Blind ws (x >>= f) :=
  h.andThen fun a vs here suffix =>
    (next a vs here).mono fun same => ⟨same.value, same.left, same.suffix.trans suffix⟩

theorem blind_pure (a : α) : Blind ws (pure a) := mirrors_pure ⟨rfl, rfl, List.suffix_refl ws⟩

theorem blind_fail (f : Cursor → ParseError) : Blind ws (fail f : Reading α) := mirrors_fail

theorem blind_look {f : Cursor → α} (h : f (ofWords (unshifted ws)) = f (ofWords ws)) :
    Blind ws (look f) :=
  .read (reads_look rfl) (reads_look h) ⟨rfl, rfl, List.suffix_refl ws⟩

theorem blind_location : Blind ws (look location) :=
  blind_look (by rw [location_ofWords, location_ofWords])

/-- A token is read by its kind when this is the kind of no closing angle. -/
theorem blind_next {p : Token → Bool}
    (others : ∀ w : Word, angleCount w.kind ≠ 0 → p w.token = false) :
    Blind ws (option (next? p)) := by
  cases ws with
  | nil =>
    exact .read (reads_next_none nofun) (reads_next_none nofun) ⟨rfl, rfl, List.suffix_refl _⟩
  | cons w ws =>
    unfold Blind
    -- the two differ at `w` only when it closes angles, and then neither of them is taken
    rcases unshifted_cases w ws with ⟨_, split⟩ | ⟨n, v, angle, gt, split⟩
    · rw [split]
      by_cases met : p w.token = true
      · exact .read (reads_next met) (reads_next met) ⟨rfl, rfl, List.suffix_cons w ws⟩
      · have missed : ∀ {us : List Word}, ∀ u ∈ (w :: us).head?, p u.token = false := by
          rintro us _ ⟨⟩
          exact eq_false_of_ne_true met
        exact .read (reads_next_none missed) (reads_next_none missed)
          ⟨rfl, split.symm, List.suffix_refl _⟩
    · refine .read (reads_next_none ?_) (reads_next_none ?_) ⟨rfl, rfl, List.suffix_refl _⟩
      · rintro _ ⟨⟩
        exact others w (by omega)
      · rw [split]
        rintro _ ⟨⟩
        exact others v (by rw [gt]; decide)

theorem blind_accept {k : Kind} (h : angleCount k = 0) : Blind ws (option (accept k)) :=
  blind_next fun w angle => decide_eq_false fun (hw : w.kind = k) => angle (by rw [hw, h])

theorem blind_expect {k : Kind} (h : angleCount k = 0) (expected : Expectation) :
    Blind ws (past (expect k expected)) := by
  rw [past_expect]
  refine (blind_accept h).bind fun t vs _ => ?_
  cases t with
  | none => exact blind_fail _
  | some t => exact blind_pure t

theorem blind_identifier : Blind ws (past identifier) := by
  rw [past_identifier]
  exact (blind_expect rfl _).bind fun t _ _ => blind_pure t.lexeme

theorem Reads.step_lt {f : (c : Cursor) → Except ParseError (Option (Past c α))} {a : α}
    (h : Reads (step f) ws (some a) vs) : vs.length < ws.length := by
  have := Reading.step_lt h
  rwa [length_ofWords, length_ofWords] at this

theorem Reads.past_lt {f : (c : Cursor) → Except ParseError (Past c α)} {a : α}
    (h : Reads (past f) ws a vs) : vs.length < ws.length := by
  have := Reading.past_lt h
  rwa [length_ofWords, length_ofWords] at this

theorem Reads.option_lt {f : (c : Cursor) → Option (Past c α)} {a : α}
    (h : Reads (option f) ws (some a) vs) : vs.length < ws.length := by
  have := Reading.option_lt h
  rwa [length_ofWords, length_ofWords] at this

theorem blind_many {f : (c : Cursor) → Except ParseError (Option (Past c α))}
    (h : ∀ ws, Blind ws (step f)) (ws : List Word) : Blind ws (onward (many f)) := by
  rw [onward_many]
  refine (h ws).bind fun a vs here => ?_
  cases a with
  | none => exact blind_pure []
  | some first =>
    have := here.step_lt
    exact (blind_many h vs).bind fun more _ _ => blind_pure (first :: more)
termination_by ws.length

/-- The dot before an identifier is the same on both sides. -/
theorem blind_joiningDot : Blind ws (option joiningDot) := by
  unfold Blind
  -- neither the dot nor the identifier behind it is changed by the splitting
  by_cases joined : NotJoined ws
  · have joined' : NotJoined (unshifted ws) := by
      intro d w us same hd hw
      obtain ⟨ws, rfl, left⟩ := unshifted_eq_cons same (by rw [hd]; decide)
      obtain ⟨ws, rfl, _⟩ := unshifted_eq_cons left (by rw [hw]; decide)
      exact joined d w ws rfl hd hw
    exact .read (reads_joiningDot_none joined) (reads_joiningDot_none joined')
      ⟨rfl, rfl, List.suffix_refl ws⟩
  · unfold NotJoined at joined
    push Not at joined
    obtain ⟨d, w, us, rfl, hd, hw⟩ := joined
    have split : unshifted (d :: w :: us) = d :: w :: unshifted us := by
      rw [unshifted_cons, unshifted_cons, Word.unshifted_of_count (by rw [hd]; rfl),
        Word.unshifted_of_count (by rw [hw]; rfl)]
      rfl
    have left : unshifted (w :: us) = w :: unshifted us := by
      rw [unshifted_cons, Word.unshifted_of_count (by rw [hw]; rfl)]
      rfl
    rw [split]
    exact .read (reads_joiningDot hd hw) (reads_joiningDot hd hw)
      ⟨rfl, left.symm, List.suffix_cons _ _⟩

theorem blind_qualifiedName : Blind ws (past qualifiedName) := by
  have joinedName : ∀ ws, Blind ws (step joinedName) := by
    intro ws
    rw [step_joinedName]
    refine blind_joiningDot.bind fun t _ _ => ?_
    cases t with
    | none => exact blind_pure none
    | some t => exact blind_identifier.bind fun name _ _ => blind_pure (some name)
  rw [past_qualifiedName]
  refine blind_identifier.bind fun first vs _ => ?_
  exact (blind_many joinedName vs).bind fun more _ _ => blind_pure _

/-! ## Groups and annotations -/

section Groups

variable {opening closing : Kind}

/-- The reading that closes the last of `depth` open groups. -/
def closesGroups (opening closing : Kind) (depth : Nat) : Reading Unit :=
  ⟨fun c => (closeGroups opening closing depth c.last c.rest).map fun d => ((), d)⟩

/-- How many groups are open behind a token inside of `depth + 1` of them. -/
def depthBehind (opening closing : Kind) (depth : Nat) (k : Kind) : Nat :=
  if k = opening then depth + 2 else if k = closing then depth else depth + 1

theorem run_closesGroups_cons (depth : Nat) (w : Word) (ws : List Word) :
    (closesGroups opening closing (depth + 1)).run (ofWords (w :: ws)) =
      (closesGroups opening closing (depthBehind opening closing depth w.kind)).run
        (ofWords ws) := by
  unfold closesGroups depthBehind ofWords
  rw [List.map_cons]
  dsimp only
  rw [closeGroups, Word.token_kind]
  split
  · rfl
  · split <;> rfl

/-- Angles neither open nor close a group of other delimiters. -/
theorem depthBehind_angle (ho : angleCount opening = 0) (hc : angleCount closing = 0) (depth : Nat)
    {k : Kind} (angle : angleCount k ≠ 0) : depthBehind opening closing depth k = depth + 1 := by
  unfold depthBehind
  rw [if_neg fun hk => angle (by rw [hk, ho]), if_neg fun hk => angle (by rw [hk, hc])]

theorem run_closesGroups_angles (ho : angleCount opening = 0) (hc : angleCount closing = 0)
    (depth n : Nat) (ws : List Word) :
    (closesGroups opening closing (depth + 1)).run
        (ofWords (List.replicate n Word.closing ++ ws)) =
      (closesGroups opening closing (depth + 1)).run (ofWords ws) := by
  induction n with
  | zero => rfl
  | succ n ih =>
    rw [List.replicate_succ, List.cons_append, run_closesGroups_cons,
      depthBehind_angle ho hc depth (by decide), ih]

theorem blind_closesGroups (ho : angleCount opening = 0) (hc : angleCount closing = 0) (depth : Nat)
    (ws : List Word) : Blind ws (closesGroups opening closing depth) := by
  induction ws generalizing depth with
  | nil =>
    cases depth with
    | zero => exact .read rfl rfl ⟨rfl, rfl, List.suffix_refl _⟩
    | succ depth => exact .refused rfl rfl
  | cons w ws ih =>
    cases depth with
    | zero =>
      have stays : ∀ us,
          (closesGroups opening closing 0).run (ofWords us) = .ok ((), ofWords us) := by
        intro us
        unfold closesGroups
        dsimp only
        rw [closeGroups]
        rfl
      exact .read (stays _) (stays _) ⟨rfl, rfl, List.suffix_refl _⟩
    | succ depth =>
      -- both runs go on behind `w`, inside of as many groups
      have behind : (closesGroups opening closing (depth + 1)).run (ofWords (unshifted (w :: ws))) =
          (closesGroups opening closing (depthBehind opening closing depth w.kind)).run
            (ofWords (unshifted ws)) := by
        rcases unshifted_cases w ws with ⟨_, split⟩ | ⟨n, v, angle, gt, split⟩
        · rw [split, run_closesGroups_cons]
        · rw [split, run_closesGroups_cons, depthBehind_angle ho hc depth (by rw [gt]; decide),
            run_closesGroups_angles ho hc, depthBehind_angle ho hc depth (by omega)]
      cases ih (depthBehind opening closing depth w.kind) with
      | read here there same =>
        refine .read ?_ ?_ ⟨same.value, same.left, same.suffix.trans (List.suffix_cons w ws)⟩
        · exact (run_closesGroups_cons depth w ws).trans here
        · exact behind.trans there
      | refused here there =>
        exact .refused ((run_closesGroups_cons depth w ws).trans here) (behind.trans there)

theorem blind_group (ho : angleCount opening = 0) (hc : angleCount closing = 0) :
    Blind ws (past (group opening closing)) := by
  have rest : onward (restOfGroup opening closing) = closesGroups opening closing 1 :=
    ext_run (run_restOfGroup opening closing)
  rw [past_group, rest]
  exact (blind_expect ho _).bind fun _ vs _ => blind_closesGroups ho hc 1 vs

end Groups

/-- A kind of no closing angle is next on both sides or on none. -/
theorem kind?_unshifted {k : Kind} (h : angleCount k = 0) (ws : List Word) :
    (ofWords (unshifted ws)).kind? = some k ↔ (ofWords ws).kind? = some k := by
  rw [kind?_ofWords, kind?_ofWords]
  cases ws with
  | nil => rfl
  | cons w ws =>
    rcases unshifted_cases w ws with ⟨_, split⟩ | ⟨n, v, angle, gt, split⟩
    · rw [split]
      rfl
    · rw [split]
      refine ⟨fun next => ?_, fun next => ?_⟩
      · obtain rfl : v.kind = k := Option.some.inj next
        rw [gt] at h
        cases h
      · obtain rfl : w.kind = k := Option.some.inj next
        omega

theorem blind_annotationArguments : Blind ws (onward annotationArguments) := by
  have opens : Mirrors (fun kind vs kind' ts => (kind' = some Kind.lparen ↔ kind = some .lparen) ∧
      vs = ws ∧ ts = unshifted ws) (look kind?) ws (look kind?) (unshifted ws) :=
    .read (reads_look rfl) (reads_look rfl) ⟨kind?_unshifted rfl ws, rfl, rfl⟩
  rw [onward_annotationArguments]
  refine opens.bind fun _ same => ?_
  obtain ⟨same, rfl, rfl⟩ := same
  split
  · next opened =>
    rw [if_pos (same.mpr opened)]
    exact blind_group rfl rfl
  · next none =>
    rw [if_neg (mt same.mp none)]
    exact blind_pure ()

theorem atAnnotation_unshifted (ws : List Word) :
    atAnnotation (ofWords (unshifted ws)) = atAnnotation (ofWords ws) := by
  cases ws with
  | nil => rfl
  | cons w ws =>
    rcases unshifted_cases w ws with ⟨_, split⟩ | ⟨n, v, angle, gt, split⟩
    · have second : (ofWords (w :: unshifted ws)).secondKind? = some .kwInterface ↔
          (ofWords (w :: ws)).secondKind? = some .kwInterface := by
        rw [secondKind?_ofWords, secondKind?_ofWords]
        have := kind?_unshifted (k := .kwInterface) rfl ws
        rwa [kind?_ofWords, kind?_ofWords] at this
      rw [split, atAnnotation, atAnnotation, kind?_ofWords, kind?_ofWords]
      congr 1
      rw [Bool.eq_iff_iff, bne_iff_ne, bne_iff_ne]
      exact not_congr second
    · have sign : w.kind ≠ .atSign := fun hw => by rw [hw] at angle; cases angle
      rw [split, noSign_of_ne sign, noSign_of_ne (by rw [gt]; decide)]

theorem blind_annotations : Blind ws (onward annotations) := by
  have annotation? : ∀ ws, Blind ws (step annotation?) := by
    intro ws
    rw [step_annotation?]
    refine (blind_look (atAnnotation_unshifted ws)).bind fun starts _ _ => ?_
    split
    · refine (blind_expect rfl _).bind fun _ _ _ => blind_qualifiedName.bind fun _ _ _ => ?_
      exact blind_annotationArguments.bind fun _ _ _ => blind_pure (some ())
    · exact blind_pure none
  rw [onward_annotations]
  exact (blind_many annotation? ws).bind fun _ _ _ => blind_pure ()

theorem blind_dimensions : Blind ws (onward dimensions) := by
  have dimension? : ∀ ws, Blind ws (step dimension?) := by
    intro ws
    rw [step_dimension?]
    refine (blind_accept rfl).bind fun t _ _ => ?_
    cases t with
    | none => exact blind_pure none
    | some t => exact (blind_expect rfl _).bind fun _ _ _ => blind_pure (some ())
  rw [onward_dimensions]
  exact (blind_many dimension? ws).bind fun dims _ _ => blind_pure dims.length

end Reading

end JavaStub
