/-!
# Locations and spans

A location counts lines and columns from one and bytes from zero; columns count
characters, offsets count their UTF-8 bytes. A text moves a location past itself
(`Location.past`): a line feed or a carriage return ends a line, and a carriage return
that stands directly before a line feed leaves the line end to it.

Main facts:

1. `past_offset`: the offset grows by the number of bytes of the text.
2. `past_append`: two texts in a row move a location like their concatenation, unless the
   cut separates a carriage return from its line feed.
-/

namespace JavaStub

/-- A place in a source text. -/
structure Location where
  /-- Line number, from one. -/
  line : Nat
  /-- Column number in characters, from one. -/
  column : Nat
  /-- Offset in bytes, from zero. -/
  offset : Nat
  deriving DecidableEq, Repr

/-- A stretch of source text, from the first token to the place where the last one starts. -/
structure Span where
  start : Location
  stop : Location
  deriving DecidableEq, Repr

/-- The number of bytes of a text in UTF-8. -/
def byteCount : List Char → Nat
  | [] => 0
  | c :: cs => c.utf8Size + byteCount cs

@[simp] theorem byteCount_nil : byteCount [] = 0 := rfl

theorem byteCount_cons (c : Char) (cs : List Char) :
    byteCount (c :: cs) = c.utf8Size + byteCount cs := rfl

namespace Location

/-- The place where every text starts. -/
def start : Location := ⟨1, 1, 0⟩

/-- The line and column as messages write them. -/
def text (l : Location) : String :=
  toString l.line ++ ":" ++ toString l.column

/-- The location after one character, when the character `next` follows it. -/
def step (l : Location) (c : Char) (next : Option Char) : Location :=
  if c = '\n' then ⟨l.line + 1, 1, l.offset + c.utf8Size⟩
  else if c = '\r' then
    if next = some '\n' then ⟨l.line, l.column, l.offset + c.utf8Size⟩
    else ⟨l.line + 1, 1, l.offset + c.utf8Size⟩
  else ⟨l.line, l.column + 1, l.offset + c.utf8Size⟩

/-- The location after a text that starts here. -/
def past (l : Location) : List Char → Location
  | [] => l
  | c :: cs => (l.step c cs.head?).past cs

@[simp] theorem past_nil (l : Location) : l.past [] = l := rfl

theorem past_cons (l : Location) (c : Char) (cs : List Char) :
    l.past (c :: cs) = (l.step c cs.head?).past cs := rfl

/-- Every character counts with its bytes, line ends included. -/
@[simp] theorem step_offset (l : Location) (c : Char) (next : Option Char) :
    (l.step c next).offset = l.offset + c.utf8Size := by
  unfold step
  split
  · rfl
  · split
    · split <;> rfl
    · rfl

theorem past_offset (l : Location) (cs : List Char) :
    (l.past cs).offset = l.offset + byteCount cs := by
  induction cs generalizing l with
  | nil => rfl
  | cons c cs ih => rw [past_cons, ih, step_offset, byteCount_cons, Nat.add_assoc]

theorem past_append {cs ds : List Char} (l : Location)
    (h : cs.getLast? = some '\r' → ds.head? ≠ some '\n') :
    l.past (cs ++ ds) = (l.past cs).past ds := by
  induction cs generalizing l with
  | nil => rfl
  | cons c cs ih =>
    cases cs with
    | nil =>
      simp only [List.cons_append, List.nil_append, past_cons, past_nil, List.head?_nil]
      have same : l.step c ds.head? = l.step c none := by
        unfold step
        by_cases hc : c = '\r'
        · have away : ds.head? ≠ some '\n' := h (by simp [hc])
          simp [away]
        · simp [hc]
      rw [same]
    | cons d cs =>
      have tail : (d :: cs).getLast? = some '\r' → ds.head? ≠ some '\n' := by
        intro hl
        exact h (by simpa [List.getLast?_cons_cons] using hl)
      simpa [past_cons] using ih (l.step c (some d)) tail

end Location

end JavaStub
