import JavaStub.Unicode.Ranges

/-!
# White space

The characters with the property `White_Space`, and a text without the white space at
its two ends. `trim_append_left` says that padding in front makes no difference.
-/

namespace JavaStub.Unicode

/-- The white space characters, in ascending order. -/
def whiteSpaceRanges : List (Nat × Nat) :=
  [(0x9, 0xD), (0x20, 0x20), (0x85, 0x85), (0xA0, 0xA0), (0x1680, 0x1680), (0x2000, 0x200A),
   (0x2028, 0x2029), (0x202F, 0x202F), (0x205F, 0x205F), (0x3000, 0x3000)]

/-- Has the character the property `White_Space`? -/
def isWhiteSpace (c : Char) : Bool :=
  inRanges whiteSpaceRanges c

/-- The text without the white space at its two ends. -/
def trim (cs : List Char) : List Char :=
  ((cs.dropWhile isWhiteSpace).reverse.dropWhile isWhiteSpace).reverse

theorem dropWhile_append_of_all {p : Char → Bool} {pad cs : List Char}
    (h : ∀ c ∈ pad, p c = true) : (pad ++ cs).dropWhile p = cs.dropWhile p := by
  induction pad with
  | nil => rfl
  | cons c pad ih =>
    have head : p c = true := h c (by simp)
    have tail : ∀ d ∈ pad, p d = true := fun d hd => h d (by simp [hd])
    simp [head, ih tail]

/-- White space in front of a text is dropped with the rest of its leading white space. -/
theorem trim_append_left {pad cs : List Char} (h : ∀ c ∈ pad, isWhiteSpace c = true) :
    trim (pad ++ cs) = trim cs := by
  simp [trim, dropWhile_append_of_all h]

end JavaStub.Unicode
