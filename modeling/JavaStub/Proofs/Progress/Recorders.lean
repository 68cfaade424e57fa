import JavaStub.Proofs.Progress.Records

/-!
# Recorders

A recorder does what a reader does and keeps marks of it, also when it fails. No proof that a round
of a loop has taken a token is in its type: after each round a loop tests whether the cursor has moved,
and stops where it has not. As each recorder comes to what the reader comes to, this never happens.

Rounds are paid for by tokens. A recorder starts with a credit, each of its rounds costs one, each token
that is taken brings one, and what is left at the end is the credit of the next recorder. One that takes
some token ends with more than it started with, so it pays for the round that it is in.

Main facts:

1. `Follows.bind`: stages that follow readings make recorders that do.
2. `records_many` and `records_separated`: loops whose steps pay for their rounds.
-/

namespace JavaStub

/-- What a computation comes to, and the marks that it leaves. -/
structure Recorded (ρ : Type) where
  marks : List Mark
  result : Except ParseError ρ

namespace Recorded

variable {ρ τ : Type}

instance : Monad Recorded where
  pure r := ⟨[], .ok r⟩
  bind x f :=
    match x.result with
    | .ok r => ⟨x.marks ++ (f r).marks, (f r).result⟩
    | .error e => ⟨x.marks, .error e⟩

/-- Another value with the same marks. -/
def map (f : ρ → τ) (x : Recorded ρ) : Recorded τ := ⟨x.marks, x.result.map f⟩

/-- The computation that leaves a mark. -/
def mark (m : Mark) : Recorded Unit := ⟨[m], .ok ()⟩

/-- Lowers a counter by one, and hands back what it is then. -/
def lower (counter : Counter) (value : Nat) : Recorded Nat := do
  mark (.lowered counter value)
  return value - 1

end Recorded

/-- A reader that keeps marks. -/
structure Recorder (α : Type) where
  run : (c : Cursor) → Recorded (Onward c α)

namespace Recorder

open Token (Kind)

variable {α β : Type}

instance : Monad Recorder where
  pure a := ⟨fun c => pure (.stay c a)⟩
  bind x f := ⟨fun c => x.run c >>= fun r => ((f r.value).run r.next).map (·.upon r.le)⟩

/-- What the cursor tells without a token being read. -/
def look (f : Cursor → α) : Recorder α := ⟨fun c => pure (.stay c (f c))⟩

/-- The refusal of what stands at the cursor. -/
def fail (f : Cursor → ParseError) : Recorder α := ⟨fun c => ⟨[], .error (f c)⟩⟩

/-- A computation that leaves the cursor where it is. -/
def still (x : Recorded α) : Recorder α := ⟨fun c => x.map (.stay c)⟩

/-- Takes a token, if there is one that meets the condition. -/
def next? (p : Token → Bool) : Recorder (Option Token) :=
  ⟨fun c =>
    match c.next? p with
    | some r => do
      Recorded.mark (.took r.next.rest)
      return (r.map some).onward
    | none => pure (.stay c none)⟩

def first? : Recorder (Option Token) := next? fun _ => true

def accept (kind : Kind) : Recorder (Option Token) := next? fun t => t.kind = kind

def optional (kind : Kind) : Recorder Bool := do
  let found ← accept kind
  return found.isSome

def expect (kind : Kind) (expected : Expectation) : Recorder Token := do
  match ← accept kind with
  | some t => return t
  | none => fail (·.unexpected expected)

/-- Marks that a declaration has been read. -/
def reading (what : Declared) (x : Recorder α) : Recorder α :=
  ⟨fun c => do
    let r ← x.run c
    Recorded.mark (.read what c.rest r.next.rest)
    return r⟩

/-- The rounds of a loop from a cursor on; the value of a round tells which loop it is of. -/
def manyFrom (loop : α → Loop) (step : Recorder (Option α)) (c : Cursor) :
    Recorded (Onward c (List α)) := do
  let ⟨found, d, h⟩ ← step.run c
  match found with
  | none => return ⟨[], d, h⟩
  | some first =>
    Recorded.mark (.round (loop first) c.rest d.rest)
    if _ : d.rest.length < c.rest.length then
      let ⟨more, e, h'⟩ ← manyFrom loop step d
      return ⟨first :: more, e, Nat.le_trans h' h⟩
    else return ⟨[first], d, h⟩
termination_by c.rest.length

/-- The values of a step that is repeated until it declines. -/
def many (loop : α → Loop) (step : Recorder (Option α)) : Recorder (List α) :=
  ⟨manyFrom loop step⟩

/-- The items of a list from a cursor on, a round for each that has a separator behind it. -/
def separatedFrom (loop : Loop) (separator : Kind) (item : Recorder (α × Nat)) (c : Cursor) :
    Recorded (Onward c (List α × Nat)) := do
  let ⟨(first, owed), c₁, h₁⟩ ← item.run c
  if owed = 0 then
    let ⟨found, c₂, h₂⟩ ← (accept separator).run c₁
    match found with
    | none => return ⟨([first], 0), c₂, Nat.le_trans h₂ h₁⟩
    | some _ =>
      Recorded.mark (.round loop c.rest c₂.rest)
      if _ : c₂.rest.length < c.rest.length then
        let ⟨(more, owed), c₃, h₃⟩ ← separatedFrom loop separator item c₂
        return ⟨(first :: more, owed), c₃, Nat.le_trans h₃ (Nat.le_trans h₂ h₁)⟩
      else return ⟨([first], 0), c₂, Nat.le_trans h₂ h₁⟩
  else return ⟨([first], owed), c₁, h₁⟩
termination_by c.rest.length

/-- One or more items with separators between them. -/
def separated (loop : Loop) (separator : Kind) (item : Recorder (α × Nat)) :
    Recorder (List α × Nat) :=
  ⟨separatedFrom loop separator item⟩

end Recorder

/-! ## Following a reading -/

variable {α β : Type}

/-- The recorder that came to `y` from the place `us` in `ts` follows the reading that came to `x`: it comes
to the same, its marks are those of a run, and with the credit `k` for its rounds it ends with the
credit `s`. -/
inductive Follows (ts : List Token) {c : Cursor} (k : Nat) (s : α → Nat) (us : List Token) :
    Recorded (Onward c α) → Except ParseError (α × Cursor) → Prop
  | ok {marks : List Mark} {r : Onward c α} (runs : Runs ts us marks r.next.rest)
      (paid : rounds marks + r.next.rest.length + s r.value ≤ us.length + k) :
      Follows ts k s us ⟨marks, .ok r⟩ (.ok (r.value, r.next))
  | error {marks : List Mark} {vs : List Token} {e : ParseError} (runs : Runs ts us marks vs)
      (paid : rounds marks + vs.length ≤ us.length + k) :
      Follows ts k s us ⟨marks, .error e⟩ (.error e)

section Stages

variable {ts us : List Token} {c d : Cursor} {k : Nat} {s s' : α → Nat} {s₂ : β → Nat}
  {y : Recorded (Onward c α)} {x : Except ParseError (α × Cursor)}

/-- The next stage starts at the cursor of the last one, with the credit that is left. -/
theorem Follows.bind {f : Onward c α → Recorded (Onward d β)}
    {g : α × Cursor → Except ParseError (β × Cursor)} (h : Follows ts k s us y x)
    (next : ∀ r : Onward c α, r.next.rest <:+ us →
      r.next.rest.length + s r.value ≤ us.length + k →
      Follows ts (s r.value) s₂ r.next.rest (f r) (g (r.value, r.next))) :
    Follows ts k s₂ us (y >>= f) (x >>= g) := by
  cases h with
  | error runs paid => exact .error runs paid
  | @ok marks r runs paid =>
    -- what the first part has not spent is the credit of the second one
    have more := next r runs.suffix (by omega)
    show Follows ts k s₂ us ⟨marks ++ (f r).marks, (f r).result⟩ (g (r.value, r.next))
    revert more
    generalize f r = z, g (r.value, r.next) = w
    intro more
    cases more with
    | ok runs' paid' =>
      refine .ok (runs.append runs') ?_
      rw [rounds_append]
      dsimp only
      omega
    | error runs' paid' =>
      refine .error (runs.append runs') ?_
      rw [rounds_append]
      dsimp only
      omega

/-- A value that is moved back to an earlier cursor. -/
theorem Follows.upon {h' : c.rest.length ≤ d.rest.length} (h : Follows ts k s us y x) :
    Follows ts k s us (y.map (·.upon h')) x := by
  cases h with
  | ok runs paid => exact .ok runs paid
  | error runs paid => exact .error runs paid

theorem Follows.loosen (h : Follows ts k s us y x) (less : ∀ a, s' a ≤ s a) :
    Follows ts k s' us y x := by
  cases h with
  | error runs paid => exact .error runs paid
  | @ok marks r runs paid =>
    refine .ok runs ?_
    have := less r.value
    omega

theorem follows_ok {r : Onward c α} (less : s r.value ≤ k) :
    Follows ts k s r.next.rest ⟨[], .ok r⟩ (.ok (r.value, r.next)) := by
  refine .ok (.refl _) ?_
  rw [rounds_nil]
  omega

/-- The last stage of a recorder, whose marks have all been made. -/
theorem follows_pure {r : Onward c α} (same : x = .ok (r.value, r.next)) (place : r.next.rest = us)
    (less : s r.value ≤ k) : Follows ts k s us (pure r) x := by
  subst same place
  exact follows_ok less

/-- A mark that is made between stages costs one if it ends a round. -/
theorem follows_mark {f : Unit → Recorded (Onward c α)} (m : Mark) (sound : m.Sound ts us)
    (h : Follows ts k s us (f ()) x) :
    Follows ts (k + rounds [m]) s us (Recorded.mark m >>= f) x := by
  show Follows ts _ s us ⟨m :: (f ()).marks, (f ()).result⟩ x
  have split (marks : List Mark) : rounds (m :: marks) = rounds [m] + rounds marks :=
    rounds_append [m] marks
  revert h
  generalize f () = z
  intro h
  cases h with
  | ok runs paid =>
    refine .ok (.stay sound runs) ?_
    rw [split]
    dsimp only
    omega
  | error runs paid =>
    refine .error (.stay sound runs) ?_
    rw [split]
    dsimp only
    omega

theorem follows_round {f : Unit → Recorded (Onward c α)} {since : List Token} (loop : Loop)
    (within : since <:+ ts) (suffix : us <:+ since) (lt : us.length < since.length)
    (h : Follows ts k s us (f ()) x) :
    Follows ts (k + 1) s us (Recorded.mark (.round loop since us) >>= f) x :=
  follows_mark (.round loop since us) ⟨rfl, forward_of_lt within suffix lt⟩ h

/-- A counter may be lowered if it is not zero. -/
theorem follows_lower {f : Nat → Recorded (Onward c α)} {counter : Counter} {value : Nat}
    (positive : 1 ≤ value) (h : Follows ts k s us (f (value - 1)) x) :
    Follows ts k s us (Recorded.lower counter value >>= f) x :=
  follows_mark (f := fun _ => f (value - 1)) (.lowered counter value) positive h

/-- A token that is taken brings the credit for one round. -/
theorem follows_took {f : Unit → Recorded (Onward c α)} {t : Token}
    (h : Follows ts (k + 1) s us (f ()) x) :
    Follows ts k s (t :: us) (Recorded.mark (.took us) >>= f) x := by
  show Follows ts k s (t :: us) ⟨.took us :: (f ()).marks, (f ()).result⟩ x
  have same (marks : List Mark) : rounds (.took us :: marks) = rounds marks := by
    rw [← List.singleton_append, rounds_append]
    exact Nat.zero_add _
  revert h
  generalize f () = z
  intro h
  cases h with
  | ok runs paid =>
    refine .ok (.took runs) ?_
    rw [same, List.length_cons]
    dsimp only
    omega
  | error runs paid =>
    refine .error (.took runs) ?_
    rw [same, List.length_cons]
    dsimp only
    omega

theorem suffix_of_next? {p : Token → Bool} {r : Past c Token} (read : c.next? p = some r) :
    r.next.rest <:+ c.rest := by
  rw [(Cursor.eq_of_next? read).2.1]
  exact List.suffix_cons _ _

theorem follows_taken {f : Unit → Recorded (Onward c α)} {p : Token → Bool} {r : Past d Token}
    (read : d.next? p = some r) (h : Follows ts (k + 1) s r.next.rest (f ()) x) :
    Follows ts k s d.rest (Recorded.mark (.took r.next.rest) >>= f) x := by
  rw [(Cursor.eq_of_next? read).2.1]
  exact follows_took h

end Stages

/-- The recorder follows the reading from every cursor. -/
def Records (k : Nat) (s : α → Nat) (y : Recorder α) (x : Reading α) : Prop :=
  ∀ (ts : List Token) (c : Cursor), c.rest <:+ ts → Follows ts k s c.rest (y.run c) (x.run c)

section Combinators

variable {k : Nat} {s s' : α → Nat} {s₂ : β → Nat} {y : Recorder α} {x : Reading α}

theorem Records.bind {f : α → Recorder β} {g : α → Reading β} (h : Records k s y x)
    (next : ∀ a, Records (s a) s₂ (f a) (g a)) : Records k s₂ (y >>= f) (x >>= g) :=
  fun ts c within => (h ts c within).bind fun r suffix _ =>
    (next r.value ts r.next (suffix.trans within)).upon

theorem Records.loosen (h : Records k s y x) (less : ∀ a, s' a ≤ s a) : Records k s' y x :=
  fun ts c within => (h ts c within).loosen less

theorem records_pure {a : α} (less : s a ≤ k) : Records k s (pure a) (pure a) :=
  fun _ c _ => follows_ok (r := .stay c a) less

theorem records_look (f : Cursor → α) :
    Records k (fun _ => k) (Recorder.look f) (Reading.look f) :=
  fun _ c _ => follows_ok (r := .stay c (f c)) (Nat.le_refl k)

theorem records_fail (f : Cursor → ParseError) :
    Records k s (Recorder.fail f) (Reading.fail f) := by
  refine fun _ c _ => .error (.refl _) ?_
  rw [rounds_nil]
  omega

theorem records_lower {counter : Counter} {value : Nat} (positive : 1 ≤ value) :
    Records k (fun _ => k) (Recorder.still (Recorded.lower counter value)) (pure (value - 1)) :=
  fun _ c _ => follows_lower (f := fun n => pure (.stay c n)) positive
    (follows_ok (r := .stay c (value - 1)) (Nat.le_refl k))

/-! ## Single tokens -/

/-- What a token that was perhaps taken pays for. -/
def worth : Option α → Nat
  | none => 0
  | some _ => 1

theorem worth_le_one (found : Option α) : worth found ≤ 1 := by
  cases found with
  | none => exact Nat.zero_le 1
  | some _ => exact Nat.le_refl 1

theorem records_next (p : Token → Bool) :
    Records k (fun found => k + worth found) (Recorder.next? p)
      (Reading.option (Cursor.next? p)) := by
  intro ts c within
  show Follows ts k _ c.rest (match c.next? p with | some r => _ | none => _)
    (.ok (Reading.attempted (c.next? p)))
  cases read : c.next? p with
  | none => exact follows_ok (r := .stay c none) (Nat.le_refl k)
  | some r =>
    refine follows_taken read ?_
    exact follows_ok (r := (r.map some).onward) (Nat.le_refl (k + 1))

theorem records_accept (kind : Token.Kind) :
    Records k (fun found => k + worth found) (Recorder.accept kind)
      (Reading.option (Cursor.accept kind)) :=
  records_next _

theorem records_optional (kind : Token.Kind) :
    Records k (fun _ => k) (Recorder.optional kind) (Reading.sure (Cursor.optional kind)) := by
  rw [Reading.sure_optional]
  exact (records_accept kind).bind fun found => records_pure (Nat.le_add_right k _)

theorem records_expect (kind : Token.Kind) (expected : Expectation) :
    Records k (fun _ => k + 1) (Recorder.expect kind expected)
      (Reading.past (Cursor.expect kind expected)) := by
  rw [Reading.past_expect]
  refine (records_accept kind).bind fun found => ?_
  cases found with
  | none => exact records_fail _
  | some t => exact records_pure (Nat.le_refl _)

/-- A stage that only looks at the cursor. -/
theorem follows_look {ts : List Token} {c : Cursor} {f : Cursor → α} {g : α → Recorder β}
    {g' : α → Reading β} (h : Follows ts k s₂ c.rest ((g (f c)).run c) ((g' (f c)).run c)) :
    Follows ts k s₂ c.rest ((Recorder.look f >>= g).run c) ((Reading.look f >>= g').run c) :=
  Follows.upon (d := c) h

/-- A step that declines. -/
theorem follows_declined {ts us : List Token} {l : Location} :
    Follows ts k (fun found => k + worth found) us ((pure none : Recorder (Option α)).run ⟨l, us⟩)
      ((pure none : Reading (Option α)).run ⟨l, us⟩) :=
  follows_ok (r := .stay ⟨l, us⟩ none) (Nat.le_refl k)

/-- A step that is decided by the next token, and declines at the end of the tokens. -/
theorem records_byHead {f : Token → Recorder (Option α)} {g : Token → Reading (Option α)}
    (h : ∀ ts l t rest, t :: rest <:+ ts →
      Follows ts k (fun found => k + worth found) (t :: rest) ((f t).run ⟨l, t :: rest⟩)
        ((g t).run ⟨l, t :: rest⟩)) :
    Records k (fun found => k + worth found)
      (do
        match ← Recorder.look (·.rest.head?) with
        | none => return none
        | some t => f t)
      (do
        match ← Reading.look (·.rest.head?) with
        | none => return none
        | some t => g t) := by
  rintro ts ⟨l, _ | ⟨t, rest⟩⟩ within
  · exact follows_declined
  · exact follows_look (h ts l t rest within)

/-- The token that decides a step is taken. -/
theorem follows_first {ts : List Token} {l : Location} {t : Token} {rest : List Token}
    {f : Option Token → Recorder β} {g : Option Token → Reading β} (within : t :: rest <:+ ts)
    (h : Records (k + 1) s₂ (f (some t)) (g (some t))) :
    Follows ts k s₂ (t :: rest) ((Recorder.first? >>= f).run ⟨l, t :: rest⟩)
      ((Reading.option Cursor.first? >>= g).run ⟨l, t :: rest⟩) := by
  let back (r : Onward ⟨t.location, rest⟩ β) : Onward ⟨l, t :: rest⟩ β :=
    r.upon (Nat.le_succ rest.length)
  show Follows ts k s₂ (t :: rest)
    (Recorded.mark (.took rest) >>= fun _ => ((f (some t)).run ⟨t.location, rest⟩).map back)
    ((g (some t)).run ⟨t.location, rest⟩)
  refine follows_took ?_
  exact (h ts ⟨t.location, rest⟩ ((List.suffix_cons t rest).trans within)).upon

/-! ## Declarations -/

/-- A declaration that took some token has moved the cursor. -/
theorem Follows.reading {ts : List Token} {c : Cursor} {what : Declared} (within : c.rest <:+ ts)
    (h : Follows ts k (fun _ => k + 1) c.rest (y.run c) (x.run c)) :
    Follows ts k (fun _ => k + 1) c.rest ((Recorder.reading what y).run c) (x.run c) := by
  have whole : x.run c = (x.run c >>= fun p => .ok p) := by cases x.run c <;> rfl
  rw [whole]
  refine h.bind fun r suffix paid => ?_
  have lt : r.next.rest.length < c.rest.length := by omega
  exact follows_mark (.read what c.rest r.next.rest) ⟨rfl, forward_of_lt within suffix lt⟩
    (follows_ok (Nat.le_refl (k + 1)))

theorem Records.reading {what : Declared} (h : Records k (fun _ => k + 1) y x) :
    Records k (fun _ => k + 1) (Recorder.reading what y) x :=
  fun ts c within => (h ts c within).reading within

end Combinators

/-! ## Loops -/

theorem follows_manyFrom {loop : α → Loop} {step : Recorder (Option α)}
    {f : (c : Cursor) → Except ParseError (Option (Past c α))} {k : Nat}
    (h : Records k (fun found => k + worth found) step (Reading.step f)) {ts : List Token}
    (c : Cursor) (within : c.rest <:+ ts) :
    Follows ts k (fun _ => k) c.rest (Recorder.manyFrom loop step c)
      ((Reading.onward (Cursor.many f)).run c) := by
  rw [Reading.onward_many, Recorder.manyFrom, Reading.run_bind]
  refine (h ts c within).bind fun ⟨found, d, le⟩ suffix paid => ?_
  cases found with
  | none => exact follows_ok (r := ⟨[], d, le⟩) (Nat.le_refl k)
  | some first =>
    -- an item that is found earns a round: it has taken a token, so the guard of the loop holds
    have lt : d.rest.length < c.rest.length := by
      dsimp only [worth] at paid
      omega
    refine follows_round (loop first) within suffix lt ?_
    rw [dif_pos lt]
    refine (follows_manyFrom h d (suffix.trans within)).bind fun ⟨more, e, le'⟩ _ _ => ?_
    exact follows_ok (r := ⟨first :: more, e, Nat.le_trans le' le⟩) (Nat.le_refl k)
termination_by c.rest.length

/-- In a loop whose steps take a token each the test never fails. -/
theorem records_many {loop : α → Loop} {step : Recorder (Option α)}
    {f : (c : Cursor) → Except ParseError (Option (Past c α))} {k : Nat}
    (h : Records k (fun found => k + worth found) step (Reading.step f)) :
    Records k (fun _ => k) (Recorder.many loop step) (Reading.onward (Cursor.many f)) :=
  fun _ c within => follows_manyFrom h c within

theorem follows_separatedFrom {loop : Loop} {separator : Token.Kind} {item : Recorder (α × Nat)}
    {f : (c : Cursor) → Except ParseError (Past c (α × Nat))} {k : Nat}
    (h : ∀ k, Records k (fun _ => k + 1) item (Reading.past f)) {ts : List Token}
    (c : Cursor) (within : c.rest <:+ ts) :
    Follows ts k (fun _ => k + 1) c.rest (Recorder.separatedFrom loop separator item c)
      ((Reading.past (Cursor.separated separator f)).run c) := by
  rw [Reading.past_separated, Recorder.separatedFrom, Reading.run_bind]
  refine (h k ts c within).bind fun ⟨⟨first, owed⟩, c₁, h₁⟩ suffix₁ paid => ?_
  by_cases none : owed = 0
  · subst none
    dsimp only
    rw [if_pos rfl, if_pos rfl, Reading.run_bind]
    refine (records_accept separator ts c₁ (suffix₁.trans within)).bind
      fun ⟨found, c₂, h₂⟩ suffix₂ _ => ?_
    cases found with
    | none => exact follows_ok (r := ⟨([first], 0), c₂, Nat.le_trans h₂ h₁⟩) (Nat.le_refl _)
    | some t =>
      have suffix := suffix₂.trans suffix₁
      have lt : c₂.rest.length < c.rest.length := by
        dsimp only at paid h₂
        omega
      refine follows_round loop within suffix lt ?_
      rw [dif_pos lt]
      refine (follows_separatedFrom h c₂ (suffix.trans within)).bind
        fun ⟨⟨more, owed⟩, c₃, h₃⟩ _ _ => ?_
      exact follows_ok
        (r := ⟨(first :: more, owed), c₃, Nat.le_trans h₃ (Nat.le_trans h₂ h₁)⟩) (Nat.le_succ _)
  · dsimp only
    rw [if_neg none, if_neg none]
    exact follows_ok (r := ⟨([first], owed), c₁, h₁⟩) (Nat.le_refl _)
termination_by c.rest.length

/-- In a list whose items take a token each the test never fails. -/
theorem records_separated {loop : Loop} {separator : Token.Kind} {item : Recorder (α × Nat)}
    {f : (c : Cursor) → Except ParseError (Past c (α × Nat))} {k : Nat}
    (h : ∀ k, Records k (fun _ => k + 1) item (Reading.past f)) :
    Records k (fun _ => k + 1) (Recorder.separated loop separator item)
      (Reading.past (Cursor.separated separator f)) :=
  fun _ c within => follows_separatedFrom h c within

end JavaStub
