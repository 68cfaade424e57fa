import Mathlib.Data.Prod.Lex
import Mathlib.Order.Fin.Basic
import JavaStub.Token.Scan

/-!
# Pieces tile a source

Asked for its next piece until it has none, a scanner hands out the source without gaps, overlaps or
empty pieces. It counts lines, columns and bytes over the texts it hands out and never looks back at
the source, and its count is right at every piece.

Main facts:

1. `lineColumn_lt_past`: a text that is not empty moves a location on, however its lines end.
2. `calls_iff`: what a scanner hands out until it has nothing left is the scan of its input.
3. `exists_tiling`: a source is handed out in one way, as a tiling with places in source order.
-/

namespace JavaStub

theorem byteCount_append (cs ds : List Char) :
    byteCount (cs ++ ds) = byteCount cs + byteCount ds := by
  induction cs with
  | nil => rw [List.nil_append, byteCount_nil, Nat.zero_add]
  | cons c cs ih => rw [List.cons_append, byteCount_cons, byteCount_cons, ih, Nat.add_assoc]

theorem utf8ByteSize_ofList (cs : List Char) :
    (String.ofList cs).utf8ByteSize = byteCount cs := by
  induction cs with
  | nil => rfl
  | cons c cs ih =>
    rw [String.ofList_cons, String.utf8ByteSize_append, String.utf8ByteSize_singleton, ih,
      byteCount_cons]

namespace Location

variable {cs : List Char}

/-- The line and then the column, in lexicographic order. -/
def lineColumn (l : Location) : ℕ ×ₗ ℕ := toLex (l.line, l.column)

/-- The line, then the column and then the offset, in lexicographic order. -/
def key (l : Location) : ℕ ×ₗ ℕ ×ₗ ℕ := toLex (l.line, toLex (l.column, l.offset))

theorem key_injective : Function.Injective key := by
  intro l m same
  cases l
  cases m
  simpa [key] using same

/-- Locations are ordered by line, then by column, then by offset. -/
instance : LinearOrder Location := LinearOrder.lift' key key_injective

theorem lt_of_lineColumn_lt {l m : Location} (h : l.lineColumn < m.lineColumn) : l < m := by
  show l.key < m.key
  unfold key
  rw [Prod.Lex.toLex_lt_toLex, Prod.Lex.toLex_lt_toLex]
  rcases Prod.Lex.toLex_lt_toLex.mp h with line | ⟨line, column⟩
  · exact .inl line
  · exact .inr ⟨line, .inl column⟩

/-- A carriage return before a line feed stays where it is, and nothing else does. -/
theorem lineColumn_le_step (l : Location) (c : Char) (next : Option Char) :
    l.lineColumn ≤ (l.step c next).lineColumn := by
  unfold step
  split
  · exact Prod.Lex.toLex_le_toLex.mpr (.inl (Nat.lt_succ_self _))
  · split
    · split
      · exact le_refl _
      · exact Prod.Lex.toLex_le_toLex.mpr (.inl (Nat.lt_succ_self _))
    · exact Prod.Lex.toLex_le_toLex.mpr (.inr ⟨rfl, Nat.le_succ _⟩)

/-- At the end of a text a carriage return ends the line. -/
theorem lineColumn_lt_step_none (l : Location) (c : Char) :
    l.lineColumn < (l.step c none).lineColumn := by
  unfold step
  rw [if_neg (Option.some_ne_none '\n').symm]
  split
  · exact Prod.Lex.toLex_lt_toLex.mpr (.inl (Nat.lt_succ_self _))
  · split
    · exact Prod.Lex.toLex_lt_toLex.mpr (.inl (Nat.lt_succ_self _))
    · exact Prod.Lex.toLex_lt_toLex.mpr (.inr ⟨rfl, Nat.lt_succ_self _⟩)

theorem lineColumn_lt_past (l : Location) (h : cs ≠ []) :
    l.lineColumn < (l.past cs).lineColumn := by
  induction cs generalizing l with
  | nil => exact absurd rfl h
  | cons c cs ih =>
    rw [past_cons]
    cases cs with
    | nil => exact lineColumn_lt_step_none l c
    | cons d cs =>
      calc l.lineColumn ≤ (l.step c (some d)).lineColumn := lineColumn_le_step l c _
        _ < ((l.step c (some d)).past (d :: cs)).lineColumn := ih _ (List.cons_ne_nil d cs)

theorem offset_lt_past (l : Location) (h : cs ≠ []) : l.offset < (l.past cs).offset := by
  obtain ⟨c, cs, rfl⟩ := List.exists_cons_of_ne_nil h
  have positive := Char.utf8Size_pos c
  rw [past_offset, byteCount_cons]
  omega

end Location

namespace Source

variable {source : String} {l : Location} {cs : List Char} {ps before after : List Piece} {p : Piece}

/-! ## Handing out pieces -/

/-- A scanner stands at a location before the rest of its input. -/
structure Scanner where
  location : Location
  rest : List Char

namespace Scanner

variable {s s' : Scanner}

/-- The scanner of a source from which nothing was taken yet. -/
def ofSource (source : String) : Scanner := ⟨.start, source.toList⟩

/-- The next piece, token or not, and the scanner behind it. The location moves over the text that
was cut off and not over the input. -/
def next? (s : Scanner) : Option (Piece × Scanner) :=
  match s.rest with
  | [] => none
  | c :: cs =>
    let (kind, more) := Token.cut c cs
    let text := c :: cs.take more
    some (⟨kind, text, s.location⟩, ⟨s.location.past text, cs.drop more⟩)

/-- Taking the next piece until there is none gives these pieces. -/
inductive Calls : Scanner → List Piece → Prop
  | done {s : Scanner} (h : s.next? = none) : Calls s []
  | call {s s' : Scanner} {p : Piece} {ps : List Piece} (h : s.next? = some (p, s'))
      (rest : Calls s' ps) : Calls s (p :: ps)

theorem next?_nil (l : Location) : next? ⟨l, []⟩ = none := rfl

theorem next?_cons (l : Location) (c : Char) (cs : List Char) :
    next? ⟨l, c :: cs⟩ =
      some (⟨(Token.cut c cs).1, c :: cs.take (Token.cut c cs).2, l⟩,
        ⟨l.past (c :: cs.take (Token.cut c cs).2), cs.drop (Token.cut c cs).2⟩) := rfl

theorem rest_eq_nil_of_next? (h : s.next? = none) : s.rest = [] := by
  obtain ⟨l, _ | ⟨c, cs⟩⟩ := s
  · rfl
  · rw [next?_cons] at h
    cases h

/-- A text that is not empty is cut off, and the rest is what follows it. -/
theorem cut_of_next? (h : s.next? = some (p, s')) : p.text ≠ [] ∧ s.rest = p.text ++ s'.rest := by
  obtain ⟨l, _ | ⟨c, cs⟩⟩ := s
  · cases h
  · rw [next?_cons] at h
    cases h
    refine ⟨List.cons_ne_nil _ _, ?_⟩
    rw [List.cons_append, List.take_append_drop]

theorem scan_of_next? (h : s.next? = some (p, s')) :
    scan s.location s.rest = p :: scan s'.location s'.rest := by
  obtain ⟨l, _ | ⟨c, cs⟩⟩ := s
  · cases h
  · rw [next?_cons] at h
    cases h
    exact scan_cons l c cs

/-- The input gets shorter with every piece, so the pieces come to an end. -/
theorem calls_scan (s : Scanner) : Calls s (scan s.location s.rest) := by
  cases taken : s.next? with
  | none =>
    rw [rest_eq_nil_of_next? taken, scan_nil]
    exact .done taken
  | some next =>
    obtain ⟨p, s'⟩ := next
    obtain ⟨nonempty, split⟩ := cut_of_next? taken
    have shorter : s'.rest.length < s.rest.length := by
      have := List.length_pos_iff.mpr nonempty
      rw [split, List.length_append]
      omega
    rw [scan_of_next? taken]
    exact .call taken (calls_scan s')
termination_by s.rest.length

theorem calls_iff : Calls s ps ↔ ps = scan s.location s.rest := by
  constructor
  · intro h
    induction h with
    | done taken => rw [rest_eq_nil_of_next? taken, scan_nil]
    | call taken _ ih => rw [scan_of_next? taken, ih]
  · rintro rfl
    exact calls_scan s

end Scanner

/-! ## The places of the pieces -/

/-- The offset of a piece counts the bytes of the texts before it. -/
theorem offset_of_scan (h : scan l cs = before ++ p :: after) :
    p.location.offset = l.offset + byteCount (before.flatMap Piece.text) := by
  induction before generalizing l cs with
  | nil =>
    cases cs with
    | nil => simp at h
    | cons c cs =>
      rw [scan_cons] at h
      obtain ⟨rfl, -⟩ := List.cons.inj h
      rfl
  | cons q before ih =>
    cases cs with
    | nil => simp at h
    | cons c cs =>
      rw [scan_cons] at h
      obtain ⟨rfl, tail⟩ := List.cons.inj h
      rw [ih tail, Location.past_offset, List.flatMap_cons, byteCount_append, Nat.add_assoc]

section Order

variable {β : Type} [Preorder β] {f : Location → β}

/-- What grows over every text that is not empty is not less at any piece than at the start. -/
theorem le_of_mem_scan (grows : ∀ l cs, cs ≠ [] → f l < f (l.past cs)) (h : p ∈ scan l cs) :
    f l ≤ f p.location := by
  fun_induction scan l cs with
  | case1 => cases h
  | case2 l c cs kind more _ text ih =>
    rcases List.mem_cons.mp h with rfl | h
    · exact le_refl _
    · exact (grows l text (List.cons_ne_nil _ _)).le.trans (ih h)

/-- What grows over every text that is not empty grows from piece to piece. -/
theorem pairwise_scan (grows : ∀ l cs, cs ≠ [] → f l < f (l.past cs)) (l : Location)
    (cs : List Char) : (scan l cs).Pairwise fun p q => f p.location < f q.location := by
  fun_induction scan l cs with
  | case1 => exact .nil
  | case2 l c cs kind more _ text ih =>
    refine .cons (fun q hq => ?_) ih
    exact (grows l text (List.cons_ne_nil _ _)).trans_le (le_of_mem_scan grows hq)

end Order

/-- Pieces that make up a source without gaps and overlaps, each at its place. -/
structure IsTiling (source : String) (ps : List Piece) : Prop where
  nonempty : ∀ p ∈ ps, p.text ≠ []
  text : String.ofList (ps.flatMap Piece.text) = source
  /-- The offset of a piece is the size in UTF-8 of the texts before it, -/
  offset : ∀ before p after, ps = before ++ p :: after →
    p.location.offset = (String.ofList (before.flatMap Piece.text)).utf8ByteSize
  /-- and what the source has before the piece is these texts. -/
  place : ∀ before p after, ps = before ++ p :: after →
    ∃ rest, source = String.ofList (before.flatMap Piece.text) ++ String.ofList p.text ++ rest
  offsets : ps.Pairwise fun p q => p.location.offset < q.location.offset
  lineColumns : ps.Pairwise fun p q => p.location.lineColumn < q.location.lineColumn
  /-- The order of locations is the order of the pieces in the source. -/
  order : ∀ i j : Fin ps.length, ps[i].location < ps[j].location ↔ i < j

theorem isTiling_scan (source : String) : IsTiling source (scan .start source.toList) where
  nonempty := fun p hp => ne_nil_of_mem_scan hp
  text := by rw [flatMap_text_scan, String.ofList_toList]
  offset := by
    intro before p after split
    rw [offset_of_scan split, utf8ByteSize_ofList]
    exact Nat.zero_add _
  place := by
    intro before p after split
    refine ⟨String.ofList (after.flatMap Piece.text), ?_⟩
    have whole := flatMap_text_scan .start source.toList
    rw [split, List.flatMap_append, List.flatMap_cons] at whole
    rw [← String.ofList_append, ← String.ofList_append, List.append_assoc, whole,
      String.ofList_toList]
  offsets := pairwise_scan (fun l _ h => l.offset_lt_past h) .start source.toList
  lineColumns := pairwise_scan (fun l _ h => l.lineColumn_lt_past h) .start source.toList
  order := by
    intro i j
    have grows := pairwise_scan (f := id)
      (fun l _ h => Location.lt_of_lineColumn_lt (l.lineColumn_lt_past h)) .start source.toList
    -- on a linear order a strictly monotone function reflects the order too
    have mono : StrictMono fun i : Fin (scan .start source.toList).length =>
        (scan .start source.toList)[i].location :=
      fun i j less => List.pairwise_iff_getElem.mp grows i.val j.val i.isLt j.isLt less
    exact mono.lt_iff_lt

/-- Taken until there is none, the next pieces of a source come to an end, in one way, and tile the
source. -/
theorem exists_tiling (source : String) :
    ∃ ps, (∀ qs, (Scanner.ofSource source).Calls qs ↔ qs = ps) ∧ IsTiling source ps :=
  ⟨scan .start source.toList, fun _ => Scanner.calls_iff, isTiling_scan source⟩

example : (scan .start "1\r\r\n\"".toList).map (fun piece => (piece.kind, piece.location)) =
    [(some .integerLiteral, ⟨1, 1, 0⟩), (some .whitespace, ⟨1, 2, 1⟩), (none, ⟨3, 1, 4⟩)] := by
  decide +kernel

end Source

end JavaStub
