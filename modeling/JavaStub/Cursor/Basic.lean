import JavaStub.ParseError
import JavaStub.Token.Basic

/-!
# Reading tokens

A cursor stands between two tokens of a source. It knows the tokens that are left and the
place of the last one that was read. What a reading step hands back carries the proof that
fewer tokens are left (`Past`), or at least not more (`Onward`); every loop over the tokens
ends by that measure. What is read at a later cursor is moved back to an earlier one by
`after` when tokens were read between them, and by `upon` when perhaps none were.
-/

namespace JavaStub

/-- A position between two tokens. -/
structure Cursor where
  /-- The place of the token before the cursor, or the start of the text. -/
  last : Location
  /-- The tokens after the cursor. -/
  rest : List Token
  deriving DecidableEq

/-- A value read at `c`, and the cursor after the tokens read for it, at least one. -/
structure Past (c : Cursor) (α : Type) where
  value : α
  next : Cursor
  lt : next.rest.length < c.rest.length
  deriving DecidableEq

/-- A value read at `c`, and the cursor after the tokens read for it, perhaps none. -/
structure Onward (c : Cursor) (α : Type) where
  value : α
  next : Cursor
  le : next.rest.length ≤ c.rest.length
  deriving DecidableEq

variable {c d : Cursor} {α : Type}

namespace Past

/-- Another value for the same tokens. -/
def map {β : Type} (f : α → β) (r : Past c α) : Past c β := ⟨f r.value, r.next, r.lt⟩

/-- A value that took at least one token took some number of them. -/
def onward (r : Past c α) : Onward c α := ⟨r.value, r.next, Nat.le_of_lt r.lt⟩

/-- A value read at `d`, which is past `c`. -/
def after (r : Past d α) (h : d.rest.length < c.rest.length) : Past c α :=
  ⟨r.value, r.next, Nat.lt_trans r.lt h⟩

/-- A value read at `d`, which is `c` or past it. -/
def upon (r : Past d α) (h : d.rest.length ≤ c.rest.length) : Past c α :=
  ⟨r.value, r.next, Nat.lt_of_lt_of_le r.lt h⟩

end Past

namespace Onward

/-- A value that takes no token. -/
def stay (c : Cursor) (value : α) : Onward c α := ⟨value, c, Nat.le_refl _⟩

/-- A value read at `d`, which is past `c`. -/
def after (r : Onward d α) (h : d.rest.length < c.rest.length) : Past c α :=
  ⟨r.value, r.next, Nat.lt_of_le_of_lt r.le h⟩

/-- A value read at `d`, which is `c` or past it. -/
def upon (r : Onward d α) (h : d.rest.length ≤ c.rest.length) : Onward c α :=
  ⟨r.value, r.next, Nat.le_trans r.le h⟩

end Onward

namespace Cursor

/-- The cursor before the first token. -/
def start (tokens : List Token) : Cursor := ⟨.start, tokens⟩

/-- The kind of the next token. -/
def kind? (c : Cursor) : Option Token.Kind := c.rest.head?.map (·.kind)

/-- The kind of the token after the next one. -/
def secondKind? (c : Cursor) : Option Token.Kind := c.rest.tail.head?.map (·.kind)

/-- The place of the next token, or of the last one at the end of the tokens. -/
def location (c : Cursor) : Location :=
  match c.rest with
  | [] => c.last
  | t :: _ => t.location

/-- The stretch from `start` to the token before the cursor. -/
def spanFrom (start : Location) (c : Cursor) : Span := ⟨start, c.last⟩

/-- The error of a source that has something else here. -/
def unexpected (c : Cursor) (expected : Expectation) : ParseError :=
  match c.rest with
  | [] => .unexpectedEnd expected c.last
  | t :: _ => .unexpectedToken expected t.lexeme t.location

/-- The next token, read if it meets the condition. -/
def next? (p : Token → Bool) : (c : Cursor) → Option (Past c Token)
  | ⟨_, []⟩ => none
  | ⟨_, t :: ts⟩ => if p t then some ⟨t, ⟨t.location, ts⟩, Nat.lt_succ_self _⟩ else none

/-- The next token, whatever it is. -/
def first? (c : Cursor) : Option (Past c Token) := c.next? fun _ => true

/-- The next token, read if it is of the given kind. -/
def accept (kind : Token.Kind) (c : Cursor) : Option (Past c Token) :=
  c.next? fun t => t.kind = kind

/-- Is the next token of the given kind? If it is, it is read. -/
def optional (kind : Token.Kind) (c : Cursor) : Onward c Bool :=
  match c.accept kind with
  | some ⟨_, c₁, h₁⟩ => Past.onward ⟨true, c₁, h₁⟩
  | none => .stay c false

/-- The next token, which has to be of the given kind. -/
def expect (kind : Token.Kind) (expected : Expectation) (c : Cursor) :
    Except ParseError (Past c Token) :=
  match c.accept kind with
  | some r => .ok r
  | none => .error (c.unexpected expected)

@[simp] theorem next?_nil (p : Token → Bool) (l : Location) : next? p ⟨l, []⟩ = none := rfl

theorem next?_cons (p : Token → Bool) (l : Location) (t : Token) (ts : List Token) :
    next? p ⟨l, t :: ts⟩ =
      if p t then some ⟨t, ⟨t.location, ts⟩, Nat.lt_succ_self _⟩ else none := rfl

/-- A token that is read is the next one, and it meets the condition. -/
theorem eq_of_next? {p : Token → Bool} {c : Cursor} {r : Past c Token} (h : c.next? p = some r) :
    p r.value = true ∧ c.rest = r.value :: r.next.rest ∧ r.next.last = r.value.location := by
  obtain ⟨l, ts⟩ := c
  cases ts with
  | nil => simp at h
  | cons t ts =>
    by_cases ht : p t = true
    · rw [next?_cons, if_pos ht] at h
      obtain rfl := Option.some.inj h
      exact ⟨ht, rfl, rfl⟩
    · simp [next?_cons, ht] at h

end Cursor

end JavaStub
