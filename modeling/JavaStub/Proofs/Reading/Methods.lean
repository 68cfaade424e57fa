import JavaStub.Proofs.Reading.Kept

/-!
# Methods as readings

What a method is read from. Behind its modifiers and type parameters stand the type of its result,
its name and its parameters, and then array dimensions, which belong to the result as well. Behind
them stands its tail.

Main facts:

1. `readsMethod_of_member`: every method is read in these stages.
2. `ReadsMethod.result`: its result has the dimensions of both places.
3. `of_run_dimensions`: dimensions are pairs of brackets, and no bracket opens behind them.
-/

namespace JavaStub.Reading

open Cursor

open Token (Kind)

variable {c d e : Cursor}

/-- The member at `c` is read as a method: with the type `written` of its result before its name, with
its parameters up to `p`, and with `dims` dimensions behind them up to its tail at `e`. -/
inductive ReadsMethod : (c : Cursor) → Method → (written : Option JavaType) → (p : Cursor) →
    (dims : Nat) → (e : Cursor) → Prop
  | mk {c c₁ c₂ c₃ c₄ c₅ p e : Cursor} {m : Method} {written : Option JavaType} {t : Token}
      {dims : Nat} (modified : (onward modifiers).run c = .ok (m.modifiers, c₁))
      (noBrace : c₁.kind? ≠ some .lbrace) (noKeyword : (option typeKeyword).run c₁ = .ok (none, c₁))
      (generic : (onward typeParameters).run c₁ = .ok (m.typeParameters, c₂))
      (starts : c₂.atConstructor = false) (typed : (past resultType).run c₂ = .ok (written, c₃))
      (named : (past identifier).run c₃ = .ok (m.name, c₄))
      (bracket : (option (accept .lparen)).run c₄ = .ok (some t, c₅))
      (listed : (past parameters).run c₅ = .ok (m.parameters, p))
      (counted : (onward dimensions).run p = .ok (dims, e))
      (checked : (dimensioned written dims).run e = .ok (m.result, e)) :
      ReadsMethod c m written p dims e

/-! ## Stages -/

/-- What a method reads behind its opening bracket. -/
theorem of_run_methodTail {written : Option JavaType} {kept : List Parameter × Option JavaType}
    (h : (past (methodTail written)).run c = .ok (kept, d)) :
    ∃ c₁ e dims, (past parameters).run c = .ok (kept.1, c₁) ∧
      (onward dimensions).run c₁ = .ok (dims, e) ∧
      (dimensioned written dims).run e = .ok (kept.2, e) ∧ (past memberTail).run e = .ok ((), d) := by
  rw [past_methodTail] at h
  obtain ⟨parameters, c₁, listed, h⟩ := run_bind_eq_ok_iff.mp h
  obtain ⟨dims, e, counted, h⟩ := run_bind_eq_ok_iff.mp h
  obtain ⟨type, f, checked, rest⟩ := run_bind_eq_ok_iff.mp h
  obtain rfl := eq_of_run_dimensioned checked
  obtain ⟨_, _, tail, done⟩ := run_bind_eq_ok_iff.mp rest
  cases done
  exact ⟨c₁, f, dims, listed, counted, checked, tail⟩

/-- A member that is no initializer and no type is a method if one is read. -/
theorem of_run_plainMember {l : Location} {modifiers : List Modifier} {m : Method}
    (h : (past (plainMember l modifiers)).run c = .ok (some m, d)) :
    ∃ c₁ written c₂ c₃ t c₄ kept, m.modifiers = modifiers ∧
      (onward typeParameters).run c = .ok (m.typeParameters, c₁) ∧ c₁.atConstructor = false ∧
      (past resultType).run c₁ = .ok (written, c₂) ∧ (past identifier).run c₂ = .ok (m.name, c₃) ∧
      (option (accept .lparen)).run c₃ = .ok (some t, c₄) ∧
      (past (methodTail written)).run c₄ = .ok (kept, d) ∧ kept = (m.parameters, m.result) := by
  rw [past_plainMember] at h
  obtain ⟨typeParameters, c₁, generic, h⟩ := run_bind_eq_ok_iff.mp h
  rw [run_bind, run_look, ok_bind] at h
  split at h
  -- a constructor has no method to keep
  · obtain ⟨_, _, _, h⟩ := run_bind_eq_ok_iff.mp h
    cases h
  · next starts =>
    rw [past_fieldOrMethod] at h
    obtain ⟨written, c₂, typed, h⟩ := run_bind_eq_ok_iff.mp h
    obtain ⟨name, c₃, named, h⟩ := run_bind_eq_ok_iff.mp h
    obtain ⟨_ | t, c₄, bracket, h⟩ := run_bind_eq_ok_iff.mp h
    · obtain ⟨_, _, _, h⟩ := run_bind_eq_ok_iff.mp h
      cases h
    · obtain ⟨kept, c₅, read, h⟩ := run_bind_eq_ok_iff.mp h
      cases h
      exact ⟨c₁, written, c₂, c₃, t, c₄, kept, rfl, generic, by simpa using starts, typed, named,
        bracket, read, rfl⟩

/-- A method is read up to its tail, and then its tail is read. -/
theorem readsMethod_of_member {m : Method} (h : (past member).run c = .ok (some m, d)) :
    ∃ written p dims e, ReadsMethod c m written p dims e ∧
      (past memberTail).run e = .ok ((), d) := by
  rw [past_member, run_bind, run_look, ok_bind] at h
  obtain ⟨modifiers, c₁, modified, h⟩ := run_bind_eq_ok_iff.mp h
  rw [run_bind, run_look, ok_bind] at h
  split at h
  · obtain ⟨_, _, _, h⟩ := run_bind_eq_ok_iff.mp h
    cases h
  · next noBrace =>
    obtain ⟨_ | introduced, c₂, noKeyword, plain⟩ := run_bind_eq_ok_iff.mp h
    · cases option_none noKeyword
      obtain ⟨c₃, written, c₄, c₅, t, c₆, kept, rfl, generic, starts, typed, named, bracket, read,
        rfl⟩ := of_run_plainMember plain
      obtain ⟨c₇, e, dims, listed, counted, checked, tail⟩ := of_run_methodTail read
      exact ⟨written, c₇, dims, e, .mk modified noBrace noKeyword generic starts typed named bracket
        listed counted checked, tail⟩
    · obtain ⟨_, _, _, none⟩ := run_bind_eq_ok_iff.mp plain
      cases none

/-! ## Dimensions -/

theorem of_withDimensions {written result : Option JavaType} {dims : Nat} {l : Location}
    (h : withDimensions written dims l = .ok result) :
    result = written.map (·.addDimensions dims) ∧ (written = none → dims = 0) := by
  unfold withDimensions at h
  split at h
  · cases h
    exact ⟨rfl, nofun⟩
  · split at h
    · next none =>
      cases h
      exact ⟨rfl, fun _ => none⟩
    · cases h

/-- The result of a method has the dimensions that are written with its type and those behind the
parameters. Behind those of a method without a result there are none. -/
theorem ReadsMethod.result {m : Method} {written : Option JavaType} {dims : Nat}
    (h : ReadsMethod c m written d dims e) :
    m.result = written.map (·.addDimensions dims) ∧ (written = none → dims = 0) := by
  obtain ⟨_, _, _, _, _, _, _, _, _, _, checked⟩ := h
  rw [run_dimensioned] at checked
  obtain ⟨result, found, same⟩ := map_eq_ok_iff.mp checked
  cases same
  exact of_withDimensions found

/-- A dimension is a pair of brackets. -/
theorem of_run_dimension? {v : Unit} (h : (step dimension?).run c = .ok (some v, d)) :
    ∃ opens closes, c.rest = opens :: closes :: d.rest ∧ opens.kind = .lbracket ∧
      closes.kind = .rbracket := by
  rw [step_dimension?] at h
  obtain ⟨_ | opens, c₁, opened, h⟩ := run_bind_eq_ok_iff.mp h
  · cases h
  · obtain ⟨closes, c₂, closed, h⟩ := run_bind_eq_ok_iff.mp h
    cases h
    obtain ⟨met, split, _⟩ := of_run_next opened
    obtain ⟨met', split', _⟩ := of_run_expect closed
    exact ⟨opens, closes, by rw [split, split'], of_decide_eq_true met, met'⟩

/-- The kinds of the brackets of array dimensions. -/
def bracketKinds (dims : Nat) : List Kind := (List.replicate dims [Kind.lbracket, .rbracket]).flatten

theorem of_run_many_dimension? {c e : Cursor} {dims : List Unit}
    (h : (onward (many dimension?)).run c = .ok (dims, e)) :
    ∃ ts, c.rest = ts ++ e.rest ∧ ts.map Token.kind = bracketKinds dims.length ∧
      e.kind? ≠ some .lbracket := by
  rw [onward_many] at h
  obtain ⟨_ | first, d, round, h⟩ := run_bind_eq_ok_iff.mp h
  · cases h
    cases step_none round
    exact ⟨[], rfl, rfl, (run_dimension?_eq_none_iff c.last c.rest).mp round⟩
  · have := step_lt round
    obtain ⟨more, e', rounds, h⟩ := run_bind_eq_ok_iff.mp h
    cases h
    obtain ⟨opens, closes, split, kind, kind'⟩ := of_run_dimension? round
    obtain ⟨ts, split', kinds, ends⟩ := of_run_many_dimension? rounds
    refine ⟨opens :: closes :: ts, by rw [split, split']; rfl, ?_, ends⟩
    rw [List.map_cons, List.map_cons, kind, kind', kinds]
    rfl
termination_by c.rest.length

/-- Array dimensions are pairs of brackets, and no bracket opens behind them. -/
theorem of_run_dimensions {dims : Nat} (h : (onward dimensions).run c = .ok (dims, e)) :
    ∃ ts, c.rest = ts ++ e.rest ∧ ts.map Token.kind = bracketKinds dims ∧
      e.kind? ≠ some .lbracket := by
  rw [onward_dimensions] at h
  obtain ⟨found, d, rounds, h⟩ := run_bind_eq_ok_iff.mp h
  cases h
  exact of_run_many_dimension? rounds

/-- Nothing but brackets stands between the parameters of a method and its tail. -/
theorem ReadsMethod.brackets {m : Method} {written : Option JavaType} {dims : Nat}
    (h : ReadsMethod c m written d dims e) :
    ∃ ts, d.rest = ts ++ e.rest ∧ ts.map Token.kind = bracketKinds dims ∧
      e.kind? ≠ some .lbracket := by
  obtain ⟨_, _, _, _, _, _, _, _, _, counted, _⟩ := h
  exact of_run_dimensions counted

end JavaStub.Reading
