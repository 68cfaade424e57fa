/-!
# Ascending lists of names

The names of a list in ascending order by code points, each once. `mem_ascending` says that
they are the same names, and `pairwise_ascending` that each is less than those after it.
-/

namespace JavaStub

/-- An ascending list with one more name in its place. -/
def insertName (name : String) : List String → List String
  | [] => [name]
  | first :: rest =>
    if name = first then first :: rest
    else if name < first then name :: first :: rest
    else first :: insertName name rest

/-- The names of a list in ascending order, each once. -/
def ascending (names : List String) : List String := names.foldr insertName []

theorem mem_insertName {name other : String} {names : List String} :
    other ∈ insertName name names ↔ other = name ∨ other ∈ names := by
  induction names with
  | nil => simp [insertName]
  | cons first rest ih =>
    rw [insertName]
    split
    · next h => simp [h]
    · split
      · simp
      · simp only [List.mem_cons, ih]
        exact or_left_comm

theorem mem_ascending {name : String} {names : List String} :
    name ∈ ascending names ↔ name ∈ names := by
  induction names with
  | nil => simp [ascending]
  | cons first rest ih =>
    show name ∈ insertName first (ascending rest) ↔ name ∈ first :: rest
    rw [mem_insertName, ih, List.mem_cons]

theorem pairwise_insertName {name : String} {names : List String}
    (h : names.Pairwise (· < ·)) : (insertName name names).Pairwise (· < ·) := by
  induction names with
  | nil => simp [insertName]
  | cons first rest ih =>
    have ⟨below, sorted⟩ := List.pairwise_cons.mp h
    rw [insertName]
    split
    · exact h
    · next ne =>
      split
      · next lt =>
        refine List.pairwise_cons.mpr ⟨?_, h⟩
        intro other hother
        rcases List.mem_cons.mp hother with rfl | hother
        · exact lt
        · exact String.lt_trans lt (below other hother)
      · next nlt =>
        have gt : first < name := by
          rcases Std.lt_trichotomy name first with lt | eq | gt
          · exact absurd lt nlt
          · exact absurd eq ne
          · exact gt
        refine List.pairwise_cons.mpr ⟨?_, ih sorted⟩
        intro other hother
        rcases mem_insertName.mp hother with rfl | hother
        · exact gt
        · exact below other hother

theorem pairwise_ascending (names : List String) : (ascending names).Pairwise (· < ·) := by
  induction names with
  | nil => exact List.Pairwise.nil
  | cons first rest ih => exact pairwise_insertName ih

end JavaStub
