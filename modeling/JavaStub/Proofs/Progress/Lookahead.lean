import JavaStub.Proofs.Progress.Records
import JavaStub.Proofs.Reading.Declarations

/-!
# The look for a package declaration

Whether annotations at the head of a unit belong to a package declaration is seen by a look past them,
which moves no cursor. It is recorded here like the readers are: with marks for its rounds, and with the
depth of round brackets as a counter that starts at zero in front of the first bracket.

Main facts:

1. `found_glanceGroup` and `found_lookahead`: the recorded look sees what the look sees.
2. `progress_lookahead`: its rounds go forward, and the depth is never lowered from zero.
-/

namespace JavaStub

open Token (Kind)

/-- What a look ahead finds, and the marks that it leaves. -/
structure Glance (ρ : Type) where
  marks : List Mark
  found : ρ

namespace Glance

instance : Monad Glance where
  pure a := ⟨[], a⟩
  bind x f := ⟨x.marks ++ (f x.found).marks, (f x.found).found⟩

/-- The look that leaves a mark. -/
def mark (m : Mark) : Glance Unit := ⟨[m], ()⟩

/-- Lowers a counter by one, and hands back what it is then. -/
def lower (counter : Counter) (value : Nat) : Glance Nat := ⟨[.lowered counter value], value - 1⟩

@[simp] theorem found_bind {ρ τ : Type} (x : Glance ρ) (f : ρ → Glance τ) :
    (x >>= f).found = (f x.found).found := rfl

theorem bind_congr {ρ τ : Type} {x : Glance ρ} {f g : ρ → Glance τ} (h : f x.found = g x.found) :
    (x >>= f) = (x >>= g) := by
  show Glance.mk _ _ = Glance.mk _ _
  rw [h]

@[simp] theorem marks_pure {ρ : Type} (a : ρ) : (pure a : Glance ρ).marks = [] := rfl

@[simp] theorem marks_bind {ρ τ : Type} (x : Glance ρ) (f : ρ → Glance τ) :
    (x >>= f).marks = x.marks ++ (f x.found).marks := rfl

end Glance

/-- The tokens after a run of identifiers and dots. -/
def glanceName : List Token → Glance (List Token)
  | [] => return []
  | t :: ts =>
    if t.kind = .identifier || t.kind = .dot then do
      Glance.mark (.round .aheadName (t :: ts) ts)
      glanceName ts
    else return t :: ts

/-- The depth of round brackets behind a token, from the depth before it. -/
def glanceDepth (depth : Nat) (t : Token) : Glance Nat :=
  if t.kind = .lparen then return depth + 1
  else if t.kind = .rparen then Glance.lower .aheadGroup depth
  else return depth

/-- The tokens after the one behind which no round bracket is open, if there is one. -/
def glanceGroup (depth : Nat) : List Token → Glance (Option (List Token))
  | [] => return none
  | t :: ts => do
    let depth ← glanceDepth depth t
    if depth = 0 then return some ts
    else
      Glance.mark (.round .aheadGroup (t :: ts) ts)
      glanceGroup depth ts

/-- The tokens after the arguments of an annotation, if they end. -/
def glanceArguments (ts : List Token) : Glance (Option (List Token)) :=
  if ts.head?.map (·.kind) = some .lparen then glanceGroup 0 ts else return some ts

/-- The tokens after an annotation whose sign has been passed, if it ends. -/
def glanceBehindSign (ts : List Token) : Glance (Option (List Token)) := do
  let named ← glanceName ts
  glanceArguments named

/-- Is the keyword `package` next, after annotations however they are written? -/
def lookahead : List Token → Glance Bool
  | [] => return false
  | t :: ts => do
    if t.kind = .atSign && ts.head?.map (·.kind) != some .kwInterface then
      match ← glanceBehindSign ts with
      | none => return false
      | some rest =>
        Glance.mark (.round .ahead (t :: ts) rest)
        if _ : rest.length < (t :: ts).length then lookahead rest else return false
    else return t.kind = .kwPackage
termination_by ts => ts.length
decreasing_by assumption

/-! ## What is seen -/

theorem found_glanceName (ts : List Token) : (glanceName ts).found = Cursor.afterNameRun ts := by
  induction ts with
  | nil => rfl
  | cons t ts ih =>
    rw [glanceName, Cursor.afterNameRun, List.dropWhile_cons]
    split
    · exact ih
    · rfl

theorem found_glanceGroup (depth : Nat) (l : Location) (ts : List Token) :
    (glanceGroup (depth + 1) ts).found =
      match Cursor.closeGroups .lparen .rparen (depth + 1) l ts with
      | .ok d => some d.rest
      | .error _ => none := by
  induction ts generalizing depth l with
  | nil => rfl
  | cons t ts ih =>
    rw [glanceGroup, Cursor.closeGroups, Glance.found_bind]
    unfold glanceDepth
    split
    · exact ih (depth + 1) t.location
    · split
      · cases depth with
        | zero => rw [Cursor.closeGroups]; rfl
        | succ depth => exact ih depth t.location
      · exact ih depth t.location

/-- The arguments are looked past; at the end of the tokens there are none. -/
theorem found_glanceArguments (ts : List Token) :
    (glanceArguments ts).found = if ts = [] then some [] else Reading.afterArguments ts := by
  unfold glanceArguments
  cases ts with
  | nil => rfl
  | cons t ts =>
    rw [if_neg (List.cons_ne_nil t ts)]
    by_cases opens : t.kind = .lparen
    · have head : (t :: ts).head?.map (·.kind) = some .lparen := by simp [opens]
      rw [if_pos head, Reading.afterArguments_round opens, glanceGroup, glanceDepth, if_pos opens]
      exact found_glanceGroup 0 t.location ts
    · have head : (t :: ts).head?.map (·.kind) ≠ some .lparen := by simpa using opens
      rw [if_neg head, Reading.afterArguments_of_ne opens]
      rfl

/-- What is seen behind an annotation; behind a name at the end of the tokens nothing is left. -/
theorem found_glanceBehindSign (ts : List Token) :
    (glanceBehindSign ts).found =
      if Cursor.afterNameRun ts = [] then some []
      else Reading.afterArguments (Cursor.afterNameRun ts) := by
  rw [glanceBehindSign, Glance.found_bind, found_glanceName, found_glanceArguments]

/-! ## What the marks say -/

/-- A look from the place `us` in `ts` that ends at a place behind it: its marks hold, and its rounds are paid
for by the tokens that it has passed. -/
structure Passes {ρ : Type} (ts us : List Token) (x : Glance ρ) (rest : ρ → List Token) : Prop where
  sound : ∀ m ∈ x.marks, ∃ place, m.Sound ts place
  paid : rounds x.marks + (rest x.found).length ≤ us.length
  suffix : rest x.found <:+ us

section Stages

variable {ρ τ : Type} {ts us vs : List Token} {x : Glance ρ} {rest : ρ → List Token}

theorem passes_pure {a : ρ} (suffix : rest a <:+ us) : Passes ts us (pure a) rest where
  sound := nofun
  paid := by
    rw [Glance.marks_pure, rounds_nil, Nat.zero_add]
    exact suffix.length_le
  suffix := suffix

theorem Passes.bind {f : ρ → Glance τ} {rest' : τ → List Token} (h : Passes ts us x rest)
    (next : Passes ts (rest x.found) (f x.found) rest') : Passes ts us (x >>= f) rest' where
  sound m member := by
    rcases List.mem_append.mp member with member | member
    · exact h.sound m member
    · exact next.sound m member
  paid := by
    have first := h.paid
    have second := next.paid
    rw [Glance.marks_bind, rounds_append, Glance.found_bind]
    omega
  suffix := next.suffix.trans h.suffix

/-- A look that passes more than it shows. -/
theorem Passes.before (h : Passes ts us x rest) (suffix : us <:+ vs) : Passes ts vs x rest where
  sound := h.sound
  paid := Nat.le_trans h.paid suffix.length_le
  suffix := h.suffix.trans suffix

theorem passes_lower {counter : Counter} {value : Nat} (positive : 1 ≤ value) :
    Passes ts us (Glance.lower counter value) fun _ => us where
  sound m member := by
    obtain rfl := List.mem_singleton.mp member
    exact ⟨us, positive⟩
  paid := Nat.le_of_eq (Nat.zero_add _)
  suffix := List.suffix_refl us

/-- A round over at least one token is paid for by the first one. -/
theorem passes_round {loop : Loop} {t : Token} (within : t :: us <:+ ts) (suffix : vs <:+ us) :
    Passes ts (t :: us) (Glance.mark (.round loop (t :: us) vs)) fun _ => vs where
  sound m member := by
    obtain rfl := List.mem_singleton.mp member
    have lt : vs.length < (t :: us).length := Nat.lt_succ_of_le suffix.length_le
    exact ⟨vs, rfl, forward_of_lt within (suffix.trans (List.suffix_cons t us)) lt⟩
  paid := by
    have le := suffix.length_le
    show 1 + vs.length ≤ us.length + 1
    omega
  suffix := suffix.trans (List.suffix_cons t us)

/-- A look from behind a token, and a round that it ends and the token pays for. -/
theorem Passes.bindRound {loop : Loop} {t : Token} {y : Glance τ} {rest' : τ → List Token}
    (within : t :: us <:+ ts) (h : Passes ts us x rest) (more : Passes ts (rest x.found) y rest') :
    Passes ts (t :: us)
      (x >>= fun a => Glance.mark (.round loop (t :: us) (rest a)) >>= fun _ => y) rest' where
  sound m member := by
    rcases List.mem_append.mp member with member | member
    · exact h.sound m member
    · rcases List.mem_cons.mp member with rfl | member
      · have behind := h.suffix.trans (List.suffix_cons t us)
        have lt : (rest x.found).length < (t :: us).length := Nat.lt_succ_of_le h.suffix.length_le
        exact ⟨rest x.found, rfl, forward_of_lt within behind lt⟩
      · exact more.sound m member
  paid := by
    have first := h.paid
    have second := more.paid
    rw [Glance.marks_bind, Glance.marks_bind, rounds_append, rounds_append]
    show rounds x.marks + (1 + rounds y.marks) + (rest' y.found).length ≤ us.length + 1
    omega
  suffix := more.suffix.trans (h.suffix.trans (List.suffix_cons t us))

end Stages

variable {ts : List Token}

theorem passes_glanceName {us : List Token} (within : us <:+ ts) :
    Passes ts us (glanceName us) id := by
  induction us with
  | nil => exact passes_pure (List.suffix_refl _)
  | cons t us ih =>
    have tail := (List.suffix_cons t us).trans within
    rw [glanceName]
    split
    · exact (passes_round within (List.suffix_refl us)).bind (ih tail)
    · exact passes_pure (List.suffix_refl _)

/-- The depth is zero only in front of the first bracket, which opens. -/
theorem passes_glanceGroup {us : List Token} {depth : Nat} (within : us <:+ ts)
    (opens : depth = 0 → us.head?.map (·.kind) = some .lparen) :
    Passes ts us (glanceGroup depth us) (·.getD []) := by
  induction us generalizing depth with
  | nil => exact passes_pure (List.suffix_refl _)
  | cons t us ih =>
    have tail := (List.suffix_cons t us).trans within
    -- what stands behind the delimiter: the group ends, or the next round starts
    have go (depth' : Nat) : Passes ts (t :: us)
        (if depth' = 0 then pure (some us)
          else do
            Glance.mark (.round .aheadGroup (t :: us) us)
            glanceGroup depth' us) (·.getD []) := by
      split
      · exact passes_pure (List.suffix_cons t us)
      · next positive =>
        exact (passes_round within (List.suffix_refl us)).bind
          (ih tail fun zero => absurd zero positive)
    rw [glanceGroup]
    unfold glanceDepth
    split
    · exact go (depth + 1)
    · next other =>
      have positive : 1 ≤ depth := by
        refine Nat.pos_of_ne_zero fun zero => other ?_
        simpa using opens zero
      split
      · exact (passes_lower positive).bind (go (depth - 1))
      · exact go depth

theorem passes_glanceArguments {us : List Token} (within : us <:+ ts) :
    Passes ts us (glanceArguments us) (·.getD []) := by
  unfold glanceArguments
  split
  · next opens => exact passes_glanceGroup within fun _ => opens
  · exact passes_pure (List.suffix_refl us)

theorem passes_glanceBehindSign {us : List Token} (within : us <:+ ts) :
    Passes ts us (glanceBehindSign us) (·.getD []) := by
  have name := passes_glanceName within
  exact name.bind (passes_glanceArguments (name.suffix.trans within))

/-! ## The look -/

/-- The round of the look over one annotation, in which the test never fails. -/
theorem lookahead_of_sign {t : Token} {us : List Token}
    (h : (t.kind = .atSign && us.head?.map (·.kind) != some .kwInterface) = true) :
    lookahead (t :: us) = (do
      match ← glanceBehindSign us with
      | none => return false
      | some rest => do
        Glance.mark (.round .ahead (t :: us) rest)
        lookahead rest) := by
  rw [lookahead, if_pos h]
  refine Glance.bind_congr ?_
  have passed := (passes_glanceBehindSign (List.suffix_refl us)).suffix
  cases found : (glanceBehindSign us).found with
  | none => rfl
  | some rest =>
    rw [found] at passed
    have lt : rest.length < (t :: us).length := Nat.lt_succ_of_le passed.length_le
    refine Glance.bind_congr ?_
    rw [dif_pos lt]

/-- The rounds of a look go forward, and there are no more of them than tokens. -/
theorem passes_lookahead :
    (us : List Token) → us <:+ ts → Passes ts us (lookahead us) fun _ => []
  | [], _ => by
    rw [lookahead]
    exact passes_pure (List.suffix_refl [])
  | t :: us, within => by
    have tail := (List.suffix_cons t us).trans within
    by_cases sign : (t.kind = .atSign && us.head?.map (·.kind) != some .kwInterface) = true
    · have passed := passes_glanceBehindSign tail
      cases found : (glanceBehindSign us).found with
      | none =>
        rw [lookahead_of_sign sign]
        refine (passed.bind ?_).before (List.suffix_cons t us)
        rw [found]
        exact passes_pure (List.suffix_refl [])
      | some rest =>
        have suffix : rest <:+ us := by simpa [found] using passed.suffix
        have le : rest.length ≤ us.length := suffix.length_le
        have more := passes_lookahead rest (suffix.trans tail)
        have same : lookahead (t :: us) = (do
            let found ← glanceBehindSign us
            Glance.mark (.round .ahead (t :: us) (found.getD []))
            lookahead rest) :=
          (lookahead_of_sign sign).trans (Glance.bind_congr (by rw [found]; rfl))
        rw [same]
        exact passed.bindRound within (by rw [found]; exact more)
    · rw [lookahead, if_neg sign]
      exact passes_pure List.nil_suffix
termination_by us => us.length

/-- The recorded look sees what the look sees. -/
theorem found_lookahead : (ts : List Token) → (lookahead ts).found = Cursor.packageAhead ts
  | [] => by
    rw [lookahead, Reading.packageAhead_nil]
    rfl
  | t :: us => by
    by_cases sign : (t.kind = .atSign && us.head?.map (·.kind) != some .kwInterface) = true
    · have starts : Cursor.atAnnotation ⟨.start, t :: us⟩ = true := by
        simpa [Cursor.atAnnotation, Cursor.kind?, Cursor.secondKind?] using sign
      have suffix := (passes_glanceBehindSign (List.suffix_refl us)).suffix
      rw [lookahead_of_sign sign, Reading.packageAhead_of_sign starts, Glance.found_bind]
      rw [found_glanceBehindSign] at suffix ⊢
      -- a name that ends the tokens has no arguments and no keyword behind it
      by_cases last : Cursor.afterNameRun us = []
      · rw [if_pos last, last]
        show (lookahead []).found = false
        rw [lookahead]
        rfl
      · rw [if_neg last] at suffix ⊢
        cases found : Reading.afterArguments (Cursor.afterNameRun us) with
        | none => rfl
        | some rest =>
          rw [found] at suffix
          have le : rest.length ≤ us.length := suffix.length_le
          exact found_lookahead rest
    · have starts : Cursor.atAnnotation ⟨.start, t :: us⟩ = false := by
        simpa [Cursor.atAnnotation, Cursor.kind?, Cursor.secondKind?] using sign
      rw [lookahead, if_neg sign, Reading.packageAhead_of_not starts]
      rfl
termination_by ts => ts.length

/-- What the marks of a look say; the cursor does not move. -/
theorem progress_lookahead (ts : List Token) : Progress ts (lookahead ts).marks := by
  have passed := passes_lookahead ts (List.suffix_refl ts)
  exact progress_of_sound passed.sound (by simpa using passed.paid)

end JavaStub
