import JavaStub.Regex.Basic

/-!
# The longest match

A list of rules, each an expression with a label, read side by side. The live rules after a
prefix of the input are the derivatives of the rules by it (`mem_read_iff`), and `munch`
goes on while any rule is live, keeping the longest prefix that one of them matches. Of two
rules that match the same prefix the earlier one in the list gives the label.
-/

namespace JavaStub.Regex

variable {κ : Type} [DecidableEq κ]

/-- The rules that are still live once the character `c` is read. -/
def read (c : Char) (live : List (κ × Regex)) : List (κ × Regex) :=
  (live.flatMap fun rule => (rule.2.partials c).map fun r => (rule.1, r)).eraseDups

/-- The label of the first rule that needs nothing more. -/
def accepted (live : List (κ × Regex)) : Option κ :=
  (live.find? fun rule => rule.2.nullable).map (·.1)

/-- The longest prefix that a live rule matches: the label of the rule and the length. -/
def munch : List (κ × Regex) → List Char → Option (κ × Nat)
  | [], _ => none
  | live, [] => (accepted live).map (·, 0)
  | live, c :: cs =>
    match munch (read c live) cs with
    | some (label, more) => some (label, more + 1)
    | none => (accepted live).map (·, 0)

theorem mem_read_iff {c : Char} {live : List (κ × Regex)} {label : κ} {q : Regex} :
    (label, q) ∈ read c live ↔ ∃ r, (label, r) ∈ live ∧ q ∈ r.partials c := by
  simp only [read, List.mem_eraseDups, List.mem_flatMap, List.mem_map, Prod.mk.injEq]
  constructor
  · rintro ⟨⟨label', r⟩, hmem, q', hq, rfl, rfl⟩
    exact ⟨r, hmem, hq⟩
  · rintro ⟨r, hmem, hq⟩
    exact ⟨(label, r), hmem, q, hq, rfl, rfl⟩

/-- A live rule matches a text exactly when one that survives its head matches its tail. -/
theorem exists_matches_cons_iff {c : Char} {cs : List Char} {live : List (κ × Regex)}
    {label : κ} :
    (∃ r, (label, r) ∈ live ∧ Matches r (c :: cs)) ↔
      ∃ q, (label, q) ∈ read c live ∧ Matches q cs := by
  constructor
  · rintro ⟨r, hmem, h⟩
    obtain ⟨q, hq, hw⟩ := matches_cons_iff.mp h
    exact ⟨q, mem_read_iff.mpr ⟨r, hmem, hq⟩, hw⟩
  · rintro ⟨q, hmem, hw⟩
    obtain ⟨r, hr, hq⟩ := mem_read_iff.mp hmem
    exact ⟨r, hr, matches_cons_iff.mpr ⟨q, hq, hw⟩⟩

theorem munch_le {live : List (κ × Regex)} {cs : List Char} {label : κ} {n : Nat}
    (h : munch live cs = some (label, n)) : n ≤ cs.length := by
  induction cs generalizing live label n with
  | nil =>
    cases live with
    | nil => simp [munch] at h
    | cons rule live =>
      simp only [munch, Option.map_eq_some_iff, Prod.mk.injEq] at h
      obtain ⟨_, _, _, rfl⟩ := h
      exact Nat.zero_le _
  | cons c cs ih =>
    cases live with
    | nil => simp [munch] at h
    | cons rule live =>
      rw [munch] at h
      split at h
      · next label' more hm =>
        obtain ⟨rfl, rfl⟩ := Prod.mk.inj (Option.some.inj h)
        exact Nat.succ_le_succ (ih hm)
      · obtain ⟨_, _, hl⟩ := Option.map_eq_some_iff.mp h
        obtain ⟨_, rfl⟩ := Prod.mk.inj hl
        exact Nat.zero_le _
      · intro hn
        cases hn

end JavaStub.Regex
