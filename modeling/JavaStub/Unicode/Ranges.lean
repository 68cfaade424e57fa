/-!
# Tables of code point ranges

A character property is a list of closed ranges of code points, and a character has
the property when its code point lies in one of them (`inRanges_iff`).
-/

namespace JavaStub.Unicode

/-- Does the code point of `c` lie in one of the ranges? -/
def inRanges (table : List (Nat × Nat)) (c : Char) : Bool :=
  table.any fun range => range.1 ≤ c.toNat && c.toNat ≤ range.2

theorem inRanges_iff {table : List (Nat × Nat)} {c : Char} :
    inRanges table c = true ↔ ∃ range ∈ table, range.1 ≤ c.toNat ∧ c.toNat ≤ range.2 := by
  simp [inRanges]

/-- A character with a code point up to one of ASCII is one of ASCII. -/
theorem toNat_lt_of_le {c : Char} {last : UInt32} (h : c.val ≤ last) (ascii : last.toNat < 0x80) :
    c.toNat < 0x80 :=
  Nat.lt_of_le_of_lt (UInt32.le_iff_toNat_le.mp h) ascii

theorem toNat_lt_of_isDigit {c : Char} (h : c.isDigit = true) : c.toNat < 0x80 :=
  toNat_lt_of_le (of_decide_eq_true (Bool.and_eq_true_iff.mp h).2) (by decide)

theorem toNat_lt_of_isAlpha {c : Char} (h : c.isAlpha = true) : c.toNat < 0x80 := by
  have cases : (c.isUpper || c.isLower) = true := h
  rcases Bool.or_eq_true_iff.mp cases with upper | lower
  · have below : c.val ≤ 'Z'.val := (of_decide_eq_true upper).2
    exact toNat_lt_of_le below (by decide)
  · have below : c.val ≤ 'z'.val := of_decide_eq_true (Bool.and_eq_true_iff.mp lower).2
    exact toNat_lt_of_le below (by decide)

end JavaStub.Unicode
