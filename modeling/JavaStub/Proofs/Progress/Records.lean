import JavaStub.Proofs.Reading.Basic

/-!
# Records of runs

What a reader does to the cursor is not seen in what it comes to, so it is told by marks: each token
that is taken, each round of a loop after which the loop goes on, each declaration that is read, and
each counter that is lowered, with its value before. A place is told by the tokens that are left there.

Main facts:

1. `Runs.moves` and `Runs.getLast?`: on a run the cursor takes one token at a time, up to its end.
2. `Runs.progress` and `progress_of_sound`: what the marks say of a run, and of a look that moves no
   cursor.
-/

namespace JavaStub

/-- The loops over tokens. -/
inductive Loop where
  | imports
  | types
  | members
  | modifiers
  | annotations
  | group
  | header
  | memberTail
  | fieldTail
  | dimensions
  | names
  | segments
  | typeArguments
  | typeParameters
  | bounds
  | parameters
  | ahead
  | aheadName
  | aheadGroup
  deriving DecidableEq, Repr

/-- The declarations that are read by one call each. -/
inductive Declared where
  | ofImport
  | ofType
  | ofMember
  deriving DecidableEq, Repr

/-- The counters: groups that are open, and closing angles that are owed. -/
inductive Counter where
  | group
  | aheadGroup
  | angles
  deriving DecidableEq, Repr

/-- What a reader does, told by the tokens that are left at a place. -/
inductive Mark where
  /-- The cursor goes over one token. -/
  | took (rest : List Token)
  /-- A round of a loop that began at `since` ends, and the loop goes on. -/
  | round (loop : Loop) (since rest : List Token)
  /-- A declaration that began at `since` has been read. -/
  | read (what : Declared) (since rest : List Token)
  /-- A counter of this value is lowered by one. -/
  | lowered (counter : Counter) (value : Nat)

/-- Does a mark end a round? -/
def Mark.isRound : Mark → Bool
  | .round .. => true
  | _ => false

/-- The number of rounds after which a loop goes on. -/
def rounds (marks : List Mark) : Nat := marks.countP Mark.isRound

@[simp] theorem rounds_nil : rounds [] = 0 := rfl

@[simp] theorem rounds_append (marks more : List Mark) :
    rounds (marks ++ more) = rounds marks + rounds more := List.countP_append

/-! ## Runs -/

/-- The place `rest` is at least one token further than the place `since`, and both are in `ts`. -/
structure Forward (ts since rest : List Token) : Prop where
  within : since <:+ ts
  further : ∃ t read, since = t :: (read ++ rest)

theorem forward_of_lt {ts since rest : List Token} (within : since <:+ ts) (suffix : rest <:+ since)
    (lt : rest.length < since.length) : Forward ts since rest := by
  obtain ⟨read, rfl⟩ := suffix
  cases read with
  | nil => exact absurd lt (Nat.lt_irrefl _)
  | cons t read => exact ⟨within, t, read, rfl⟩

/-- What holds of a mark that is made at the place `us` in `ts` while the cursor stays there: rounds and
declarations end where the cursor is, at least one token behind their beginning, and no counter that is
lowered is zero. -/
def Mark.Sound (ts us : List Token) : Mark → Prop
  | .took _ => False
  | .round _ since rest => rest = us ∧ Forward ts since rest
  | .read _ since rest => rest = us ∧ Forward ts since rest
  | .lowered _ value => 1 ≤ value

/-- The marks of a run from one place in `ts` to another, on which the cursor takes one token at a
time. -/
inductive Runs (ts : List Token) : List Token → List Mark → List Token → Prop
  | refl (us : List Token) : Runs ts us [] us
  | took {t : Token} {us vs : List Token} {marks : List Mark} (more : Runs ts us marks vs) :
      Runs ts (t :: us) (.took us :: marks) vs
  | stay {m : Mark} {us vs : List Token} {marks : List Mark} (sound : m.Sound ts us)
      (more : Runs ts us marks vs) : Runs ts us (m :: marks) vs

namespace Runs

variable {ts us vs ws : List Token} {marks marks' : List Mark}

theorem suffix (h : Runs ts us marks vs) : vs <:+ us := by
  induction h with
  | refl us => exact List.suffix_refl us
  | took _ ih => exact ih.trans (List.suffix_cons _ _)
  | stay _ _ ih => exact ih

theorem append (h : Runs ts us marks vs) (h' : Runs ts vs marks' ws) :
    Runs ts us (marks ++ marks') ws := by
  induction h with
  | refl us => exact h'
  | took _ ih => exact .took (ih h')
  | stay sound _ ih => exact .stay sound (ih h')

end Runs

/-- The places that a cursor comes to. -/
def places (marks : List Mark) : List (List Token) :=
  marks.filterMap fun
    | .took rest => some rest
    | _ => none

/-- What marks say of a run on `ts`. -/
structure Progress (ts : List Token) (marks : List Mark) : Prop where
  /-- The cursor takes one token at a time: it never goes back, nor over the end of the tokens. -/
  moves : (ts :: places marks).IsChain fun before after => ∃ t, before = t :: after
  /-- Each round after which a loop goes on has taken a token. -/
  round : ∀ loop since rest, .round loop since rest ∈ marks → Forward ts since rest
  /-- So has each declaration that has been read. -/
  read : ∀ what since rest, .read what since rest ∈ marks → Forward ts since rest
  /-- A counter that is lowered is at least one. -/
  lowered : ∀ counter value, .lowered counter value ∈ marks → 1 ≤ value
  /-- There are no more rounds than tokens. -/
  few : rounds marks ≤ ts.length

section Reading

variable {ts us vs : List Token} {marks : List Mark}

/-- A mark that holds while the cursor stays is no place that it comes to. -/
theorem places_of_sound {m : Mark} (sound : m.Sound ts us) : places (m :: marks) = places marks := by
  cases m with
  | took rest => exact sound.elim
  | round | read | lowered => rfl

theorem Runs.moves (h : Runs ts us marks vs) :
    (us :: places marks).IsChain fun before after => ∃ t, before = t :: after := by
  induction h with
  | refl us => exact .singleton us
  | took _ ih => exact .cons_cons ⟨_, rfl⟩ ih
  | stay sound _ ih => rwa [places_of_sound sound]

/-- The last place of a run is the one where it ends. -/
theorem Runs.getLast? (h : Runs ts us marks vs) : (us :: places marks).getLast? = some vs := by
  induction h with
  | refl us => rfl
  | took _ ih => exact ih
  | stay sound _ ih => rwa [places_of_sound sound]

theorem Runs.sound (h : Runs ts us marks vs) {m : Mark} (member : m ∈ marks) :
    (∃ rest, m = .took rest) ∨ ∃ place, m.Sound ts place := by
  induction h with
  | refl us => cases member
  | took _ ih =>
    rcases List.mem_cons.mp member with rfl | member
    · exact .inl ⟨_, rfl⟩
    · exact ih member
  | stay sound _ ih =>
    rcases List.mem_cons.mp member with rfl | member
    · exact .inr ⟨_, sound⟩
    · exact ih member

/-- Marks that hold while the cursor takes one token at a time are those of a run that goes forward. -/
theorem progress_of_mem
    (moves : (ts :: places marks).IsChain fun before after => ∃ t, before = t :: after)
    (sound : ∀ m ∈ marks, (∃ rest, m = .took rest) ∨ ∃ place, m.Sound ts place)
    (few : rounds marks ≤ ts.length) : Progress ts marks where
  moves := moves
  round loop since rest member := by
    obtain ⟨_, same⟩ | ⟨place, _, forward⟩ := sound _ member
    · cases same
    · exact forward
  read what since rest member := by
    obtain ⟨_, same⟩ | ⟨place, _, forward⟩ := sound _ member
    · cases same
    · exact forward
  lowered counter value member := by
    obtain ⟨_, same⟩ | ⟨place, positive⟩ := sound _ member
    · cases same
    · exact positive
  few := few

theorem Runs.progress (h : Runs ts ts marks us) (few : rounds marks ≤ ts.length) :
    Progress ts marks :=
  progress_of_mem h.moves (fun _ member => h.sound member) few

/-- Where no mark moves the cursor it stays where it is. -/
theorem progress_of_sound (sound : ∀ m ∈ marks, ∃ place, m.Sound ts place)
    (few : rounds marks ≤ ts.length) : Progress ts marks := by
  have still : places marks = [] := by
    clear few
    induction marks with
    | nil => rfl
    | cons m marks ih =>
      obtain ⟨place, h⟩ := sound m List.mem_cons_self
      rw [places_of_sound h]
      exact ih fun m' member => sound m' (List.mem_cons_of_mem m member)
  refine progress_of_mem ?_ (fun m member => .inr (sound m member)) few
  rw [still]
  exact .singleton ts

end Reading

end JavaStub
