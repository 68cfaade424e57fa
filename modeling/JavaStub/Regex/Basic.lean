import JavaStub.Unicode.Letter
import JavaStub.Unicode.Number

/-!
# Regular expressions

Character classes, regular expressions over them, and the texts that an expression matches
(`Matches`). An expression is read one character at a time by its partial derivatives: the
expressions that the rest of a text may match once its first character is read.

Main facts:

1. `matches_nil_iff`: `nullable` decides whether the empty text matches.
2. `matches_cons_iff`: a text matches exactly when its tail matches a partial derivative
   by its head.
-/

namespace JavaStub

open Unicode

/-- A character class: ranges and Unicode categories, or all characters but those. -/
structure CharClass where
  ranges : List (Char × Char)
  letters : Bool
  numbers : Bool
  negated : Bool
  deriving DecidableEq

namespace CharClass

/-- The class of the characters from `first` to `last`. -/
def range (first last : Char) : CharClass := ⟨[(first, last)], false, false, false⟩

/-- The class of the listed characters. -/
def anyOf (cs : List Char) : CharClass := ⟨cs.map fun c => (c, c), false, false, false⟩

/-- The class of all characters but the listed ones. -/
def noneOf (cs : List Char) : CharClass := ⟨cs.map fun c => (c, c), false, false, true⟩

/-- Does the character belong to the class? -/
def contains (s : CharClass) (c : Char) : Bool :=
  (s.ranges.any (fun r => r.1 ≤ c && c ≤ r.2) || s.letters && isLetter c ||
    s.numbers && isNumber c) != s.negated

end CharClass

/-- A regular expression. -/
inductive Regex where
  | empty
  | char (s : CharClass)
  | seq (r s : Regex)
  | alt (r s : Regex)
  | star (r : Regex)
  deriving DecidableEq

namespace Regex

/-- The texts that an expression matches. -/
inductive Matches : Regex → List Char → Prop
  | empty : Matches .empty []
  | char {s c} (h : s.contains c = true) : Matches (.char s) [c]
  | seq {r s u v} (left : Matches r u) (right : Matches s v) : Matches (.seq r s) (u ++ v)
  | altLeft {r s u} (left : Matches r u) : Matches (.alt r s) u
  | altRight {r s u} (right : Matches s u) : Matches (.alt r s) u
  | starNil {r} : Matches (.star r) []
  | starCons {r u v} (head : Matches r u) (tail : Matches (.star r) v) :
      Matches (.star r) (u ++ v)

/-! ## Building expressions -/

/-- Exactly the given text. -/
def text (cs : List Char) : Regex := cs.foldr (fun c r => .seq (.char (.anyOf [c])) r) .empty

/-- One or more. -/
def plus (r : Regex) : Regex := .seq r (.star r)

/-- At most one. -/
def opt (r : Regex) : Regex := .alt r .empty

/-- One after the other. -/
def concat (rs : List Regex) : Regex := rs.foldr .seq .empty

/-! ## Partial derivatives -/

/-- Does the expression match the empty text? -/
def nullable : Regex → Bool
  | .empty => true
  | .char _ => false
  | .seq r s => r.nullable && s.nullable
  | .alt r s => r.nullable || s.nullable
  | .star _ => true

/-- A sequence, without an empty first part. -/
def join : Regex → Regex → Regex
  | .empty, s => s
  | r, s => .seq r s

/-- What may follow the character `c` in a matching text that starts with it. -/
def partials (c : Char) : Regex → List Regex
  | .empty => []
  | .char s => if s.contains c then [.empty] else []
  | .seq r s =>
    (r.partials c).map (·.join s) ++ if r.nullable then s.partials c else []
  | .alt r s => r.partials c ++ s.partials c
  | .star r => (r.partials c).map (·.join (.star r))

/-! ## What the derivatives match -/

theorem matches_empty_iff {w : List Char} : Matches .empty w ↔ w = [] := by
  constructor
  · intro h
    cases h
    rfl
  · rintro rfl
    exact .empty

theorem matches_char_iff {s : CharClass} {w : List Char} :
    Matches (.char s) w ↔ ∃ c, w = [c] ∧ s.contains c = true := by
  constructor
  · intro h
    cases h with
    | char h => exact ⟨_, rfl, h⟩
  · rintro ⟨c, rfl, h⟩
    exact .char h

theorem matches_seq_iff {r s : Regex} {w : List Char} :
    Matches (.seq r s) w ↔ ∃ u v, w = u ++ v ∧ Matches r u ∧ Matches s v := by
  constructor
  · intro h
    cases h with
    | seq left right => exact ⟨_, _, rfl, left, right⟩
  · rintro ⟨u, v, rfl, left, right⟩
    exact .seq left right

theorem matches_alt_iff {r s : Regex} {w : List Char} :
    Matches (.alt r s) w ↔ Matches r w ∨ Matches s w := by
  constructor
  · intro h
    cases h with
    | altLeft left => exact .inl left
    | altRight right => exact .inr right
  · rintro (left | right)
    · exact .altLeft left
    · exact .altRight right

theorem matches_join_iff {r s : Regex} {w : List Char} :
    Matches (r.join s) w ↔ Matches (.seq r s) w := by
  cases r with
  | empty =>
    rw [matches_seq_iff]
    constructor
    · intro h
      exact ⟨[], w, rfl, .empty, h⟩
    · rintro ⟨u, v, rfl, left, right⟩
      rw [matches_empty_iff] at left
      simpa [join, left] using right
  | char _ => rfl
  | seq _ _ => rfl
  | alt _ _ => rfl
  | star _ => rfl

theorem matches_nil_iff {r : Regex} : Matches r [] ↔ r.nullable = true := by
  induction r with
  | empty => simp [matches_empty_iff, nullable]
  | char s => simp [matches_char_iff, nullable]
  | seq r s ihr ihs =>
    rw [matches_seq_iff]
    simp only [nullable, Bool.and_eq_true, ← ihr, ← ihs]
    constructor
    · rintro ⟨u, v, h, left, right⟩
      obtain ⟨rfl, rfl⟩ := List.append_eq_nil_iff.mp h.symm
      exact ⟨left, right⟩
    · rintro ⟨left, right⟩
      exact ⟨[], [], rfl, left, right⟩
  | alt r s ihr ihs => simp [matches_alt_iff, nullable, ihr, ihs]
  | star r _ => simp [nullable, Matches.starNil]

/-- A nonempty repetition has a nonempty first round. -/
theorem matches_star_cons_iff {r : Regex} {c : Char} {w : List Char} :
    Matches (.star r) (c :: w) ↔
      ∃ u v, w = u ++ v ∧ Matches r (c :: u) ∧ Matches (.star r) v := by
  constructor
  · intro h
    generalize hs : Regex.star r = s at h
    generalize hx : c :: w = x at h
    induction h with
    | empty => cases hs
    | char _ => cases hs
    | seq _ _ => cases hs
    | altLeft _ => cases hs
    | altRight _ => cases hs
    | starNil => cases hx
    | @starCons r' u v head tail _ ihTail =>
      cases hs
      cases u with
      | nil => exact ihTail rfl hx
      | cons d u =>
        obtain ⟨rfl, rfl⟩ := List.cons.inj hx
        exact ⟨u, v, rfl, head, tail⟩
  · rintro ⟨u, v, rfl, head, tail⟩
    exact .starCons head tail

/-- Behind its first character a sequence goes on with its first part, or this part is empty. -/
theorem matches_seq_cons_iff {r s : Regex} {c : Char} {w : List Char} :
    Matches (.seq r s) (c :: w) ↔
      (∃ u v, w = u ++ v ∧ Matches r (c :: u) ∧ Matches s v) ∨
        r.nullable = true ∧ Matches s (c :: w) := by
  rw [matches_seq_iff, ← matches_nil_iff]
  constructor
  · rintro ⟨u, v, h, left, right⟩
    cases u with
    | nil =>
      rw [List.nil_append] at h
      exact .inr ⟨left, h ▸ right⟩
    | cons d u =>
      obtain ⟨rfl, rfl⟩ := List.cons.inj h
      exact .inl ⟨u, v, rfl, left, right⟩
  · rintro (⟨u, v, rfl, left, right⟩ | ⟨left, right⟩)
    · exact ⟨c :: u, v, rfl, left, right⟩
    · exact ⟨[], c :: w, rfl, left, right⟩

/-- What is left of a part may be any of some expressions, and the same expression follows it. -/
theorem matches_map_join_iff {qs : List Regex} {s : Regex} {w : List Char} :
    (∃ q ∈ qs.map (·.join s), Matches q w) ↔
      ∃ u v, w = u ++ v ∧ (∃ q ∈ qs, Matches q u) ∧ Matches s v := by
  constructor
  · rintro ⟨_, joined, hw⟩
    obtain ⟨q, hq, rfl⟩ := List.mem_map.mp joined
    obtain ⟨u, v, rfl, left, right⟩ := matches_seq_iff.mp (matches_join_iff.mp hw)
    exact ⟨u, v, rfl, ⟨q, hq, left⟩, right⟩
  · rintro ⟨u, v, rfl, ⟨q, hq, left⟩, right⟩
    exact ⟨q.join s, List.mem_map.mpr ⟨q, hq, rfl⟩, matches_join_iff.mpr (.seq left right)⟩

theorem matches_cons_iff {r : Regex} {c : Char} {w : List Char} :
    Matches r (c :: w) ↔ ∃ q ∈ r.partials c, Matches q w := by
  induction r generalizing w with
  | empty => simp [matches_empty_iff, partials]
  | char s =>
    rw [matches_char_iff, partials]
    by_cases h : s.contains c = true
    · simp [h, matches_empty_iff, and_assoc]
    · simp [h, and_assoc]
  | seq r s ihr ihs =>
    rw [matches_seq_cons_iff, partials]
    simp only [List.mem_append, or_and_right, exists_or, matches_map_join_iff, ihr, ihs]
    refine or_congr_right ?_
    by_cases empty : r.nullable = true
    · simp [empty]
    · simp [empty]
  | alt r s ihr ihs =>
    rw [matches_alt_iff, ihr, ihs]
    simp only [partials, List.mem_append, or_and_right, exists_or]
  | star r ih =>
    rw [matches_star_cons_iff, partials, matches_map_join_iff]
    simp only [ih]

end Regex

end JavaStub
