import JavaStub.Regex.Munch

/-!
# What the longest match is

The rules that are live after a text (`readAll`) match what the rules before it match after this
text, so the text is matched by a rule when one of them needs nothing more. The longest match is
such a text, and no longer prefix of the input is one.

Main facts:

1. `accepted_of_munch`: the longest match is matched, with its label.
2. `exists_munch_of_matches`: no prefix of the input that a rule matches is longer.
3. `munch_append`: a match goes on from the rules that are live after a text.
4. `munch_eq`: a text that is matched is the longest match where nothing longer is.
5. `munch_star`: a repeated class is matched as far as its characters go.
-/

namespace JavaStub

namespace CharClass

theorem contains_anyOf {cs : List Char} {c : Char} : (anyOf cs).contains c = true ↔ c ∈ cs := by
  have single : ∀ d, (d ≤ c ∧ c ≤ d) ↔ c = d := fun d =>
    ⟨fun h => Char.le_antisymm h.2 h.1, fun h => by rw [h]; exact ⟨Char.le_refl d, Char.le_refl d⟩⟩
  simp [anyOf, contains, single]

theorem contains_noneOf {cs : List Char} {c : Char} : (noneOf cs).contains c = true ↔ c ∉ cs := by
  have other : (noneOf cs).contains c = !(anyOf cs).contains c := by
    simp [anyOf, noneOf, contains]
  rw [other, Bool.not_eq_true', ← Bool.not_eq_true, contains_anyOf]

end CharClass

namespace Regex

/-! ## Matching texts -/

theorem matches_text_iff {cs w : List Char} : Matches (text cs) w ↔ w = cs := by
  induction cs generalizing w with
  | nil => exact matches_empty_iff
  | cons c cs ih =>
    show Matches (.seq (.char (.anyOf [c])) (text cs)) w ↔ _
    rw [matches_seq_iff]
    constructor
    · rintro ⟨u, v, rfl, left, right⟩
      obtain ⟨d, rfl, h⟩ := matches_char_iff.mp left
      rw [ih.mp right, List.mem_singleton.mp (CharClass.contains_anyOf.mp h)]
      rfl
    · rintro rfl
      exact ⟨[c], cs, rfl, .char (CharClass.contains_anyOf.mpr (List.mem_singleton_self c)), ih.mpr rfl⟩

theorem forall_of_matches_star {s : CharClass} {w : List Char} (h : Matches (.star (.char s)) w) :
    ∀ c ∈ w, s.contains c = true := by
  induction w with
  | nil => exact fun _ hc => absurd hc List.not_mem_nil
  | cons c w ih =>
    obtain ⟨u, v, rfl, head, tail⟩ := matches_star_cons_iff.mp h
    obtain ⟨d, hd, hs⟩ := matches_char_iff.mp head
    obtain ⟨rfl, rfl⟩ := List.cons.inj hd
    intro e he
    rcases List.mem_cons.mp he with rfl | he
    · exact hs
    · exact ih tail e he

/-- The classes of the characters that a matching text can start with. -/
def firsts : Regex → List CharClass
  | .empty => []
  | .char s => [s]
  | .seq r s => r.firsts ++ if r.nullable then s.firsts else []
  | .alt r s => r.firsts ++ s.firsts
  | .star r => r.firsts

theorem partials_eq_nil {r : Regex} {c : Char} (h : ∀ s ∈ r.firsts, s.contains c = false) :
    r.partials c = [] := by
  induction r with
  | empty => rfl
  | char s => simp [partials, h s (List.mem_singleton_self s)]
  | seq r s ihr ihs =>
    have left := ihr fun t ht => h t (List.mem_append_left _ ht)
    rw [partials, left, List.map_nil, List.nil_append]
    split
    · next empty =>
      exact ihs fun t ht => h t (List.mem_append_right _ (by rw [if_pos empty]; exact ht))
    · rfl
  | alt r s ihr ihs =>
    rw [partials, ihr fun t ht => h t (List.mem_append_left _ ht),
      ihs fun t ht => h t (List.mem_append_right _ ht)]
    rfl
  | star r ih => rw [partials, ih h, List.map_nil]

theorem exists_first_of_matches {r : Regex} {c : Char} {w : List Char} (h : Matches r (c :: w)) :
    ∃ s ∈ r.firsts, s.contains c = true := by
  refine Classical.byContradiction fun none => ?_
  have away : ∀ s ∈ r.firsts, s.contains c = false := by
    intro s hs
    exact Bool.eq_false_iff.mpr fun hc => none ⟨s, hs, hc⟩
  obtain ⟨q, hq, _⟩ := matches_cons_iff.mp h
  rw [partials_eq_nil away] at hq
  exact absurd hq List.not_mem_nil

/-! ## Rules after a text -/

variable {κ : Type} [DecidableEq κ] {label : κ} {live : List (κ × Regex)}
  {c : Char} {w v cs rest : List Char}

/-- The rules that are still live once a text is read. -/
def readAll (live : List (κ × Regex)) : List Char → List (κ × Regex)
  | [] => live
  | c :: cs => readAll (read c live) cs

/-- A rule that matches what comes after a text is left of a rule that matches all of it. -/
theorem exists_matches_of_readAll {q : Regex} (h : (label, q) ∈ readAll live w)
    (matched : Matches q v) : ∃ r, (label, r) ∈ live ∧ Matches r (w ++ v) := by
  induction w generalizing live with
  | nil => exact ⟨q, h, matched⟩
  | cons c w ih => exact exists_matches_cons_iff.mpr (ih h)

/-- The rule that gives the label matches the text that has been read. -/
theorem exists_of_accepted (h : accepted (readAll live w) = some label) :
    ∃ r, (label, r) ∈ live ∧ Matches r w := by
  obtain ⟨⟨k, q⟩, found, hk⟩ := Option.map_eq_some_iff.mp h
  obtain rfl : k = label := hk
  have nullable := List.find?_some found
  have ends : Matches q [] := matches_nil_iff.mpr nullable
  obtain ⟨r, hr, matched⟩ := exists_matches_of_readAll (List.mem_of_find?_eq_some found) ends
  rw [List.append_nil] at matched
  exact ⟨r, hr, matched⟩

omit [DecidableEq κ] in
/-- Where no rule matches the empty text none gives a label. -/
theorem accepted_eq_none (h : ∀ k r, (k, r) ∈ live → ¬Matches r []) : accepted live = none := by
  unfold accepted
  rw [Option.map_eq_none_iff, List.find?_eq_none]
  rintro ⟨k, r⟩ hmem empty
  exact h k r hmem (matches_nil_iff.mpr empty)

omit [DecidableEq κ] in
/-- Where a rule matches the empty text one gives a label. -/
theorem exists_accepted {r : Regex} (hr : (label, r) ∈ live) (h : Matches r []) :
    ∃ k, accepted live = some k := by
  cases found : accepted live with
  | some k => exact ⟨k, rfl⟩
  | none =>
    unfold accepted at found
    rw [Option.map_eq_none_iff, List.find?_eq_none] at found
    exact absurd (matches_nil_iff.mp h) (found _ hr)

/-! ## The longest match -/

theorem munch_nil : munch live [] = (accepted live).map (·, 0) := by
  cases live <;> rfl

theorem munch_cons : munch live (c :: cs) =
    match munch (read c live) cs with
    | some (label, more) => some (label, more + 1)
    | none => (accepted live).map (·, 0) := by
  cases live with
  | nil => rw [munch, show read c [] = ([] : List (κ × Regex)) from rfl, munch]; rfl
  | cons rule live => rfl

/-- The longest match is matched, and it has the label that the text has on its own. -/
theorem accepted_of_munch {n : Nat} (h : munch live cs = some (label, n)) :
    accepted (readAll live (cs.take n)) = some label := by
  induction cs generalizing live n with
  | nil =>
    rw [munch_nil] at h
    obtain ⟨k, hk, pair⟩ := Option.map_eq_some_iff.mp h
    cases pair
    exact hk
  | cons c cs ih =>
    rw [munch_cons] at h
    split at h
    · next k more hm =>
      cases h
      exact ih hm
    · obtain ⟨k, hk, pair⟩ := Option.map_eq_some_iff.mp h
      cases pair
      exact hk

/-- Where no rule matches a prefix of the input there is no match. -/
theorem munch_eq_none (h : ∀ k r, (k, r) ∈ live → ∀ v, v <+: cs → ¬Matches r v) :
    munch live cs = none := by
  induction cs generalizing live with
  | nil => rw [munch_nil, accepted_eq_none fun k r hr => h k r hr [] List.prefix_rfl, Option.map_none]
  | cons c cs ih =>
    have deeper : munch (read c live) cs = none := by
      refine ih fun k q hq v hv matched => ?_
      obtain ⟨r, hr, hw⟩ := exists_matches_cons_iff.mpr ⟨q, hq, matched⟩
      exact h k r hr (c :: v) (List.prefix_cons_inj c |>.mpr hv) hw
    rw [munch_cons, deeper]
    show (accepted live).map (·, 0) = none
    rw [accepted_eq_none fun k r hr => h k r hr [] List.nil_prefix, Option.map_none]

/-- Where a rule matches a prefix of the input there is a match, and it is not shorter. -/
theorem exists_munch_of_matches {r : Regex} (hr : (label, r) ∈ live) (hv : v <+: cs)
    (h : Matches r v) : ∃ k n, munch live cs = some (k, n) ∧ v.length ≤ n := by
  induction cs generalizing live v r with
  | nil =>
    obtain rfl := List.prefix_nil.mp hv
    obtain ⟨k, hk⟩ := exists_accepted hr h
    exact ⟨k, 0, by rw [munch_nil, hk]; rfl, Nat.le_refl 0⟩
  | cons c cs ih =>
    rw [munch_cons]
    cases v with
    | nil =>
      cases munch (read c live) cs with
      | some p => exact ⟨p.1, p.2 + 1, rfl, Nat.zero_le _⟩
      | none =>
        obtain ⟨k, hk⟩ := exists_accepted hr h
        exact ⟨k, 0, by rw [hk]; rfl, Nat.le_refl 0⟩
    -- the rest of `v` is read by a rule that is still live behind `d`
    | cons d v =>
      obtain ⟨rfl, tail⟩ := List.cons_prefix_cons.mp hv
      obtain ⟨q, hq, matched⟩ := exists_matches_cons_iff.mp ⟨r, hr, h⟩
      obtain ⟨k, n, deeper, le⟩ := ih hq tail matched
      exact ⟨k, n + 1, by rw [deeper], Nat.succ_le_succ le⟩

/-- A match goes on from the rules that are live after a text. -/
theorem munch_append {n : Nat} (h : munch (readAll live w) rest = some (label, n)) :
    munch live (w ++ rest) = some (label, w.length + n) := by
  induction w generalizing live with
  | nil => rw [List.nil_append, List.length_nil, Nat.zero_add]; exact h
  | cons c w ih =>
    rw [List.cons_append, munch_cons, ih h, List.length_cons, Nat.add_right_comm]

/-- Where no live rule goes on, the match ends. -/
theorem munch_stop (h : accepted live = some label)
    (stop : ∀ c ∈ rest.head?, read c live = []) : munch live rest = some (label, 0) := by
  cases rest with
  | nil => rw [munch_nil, h]; rfl
  | cons c rest =>
    rw [munch_cons, stop c rfl, munch, h]
    rfl

/-- A text that is matched is the longest match, if no rule matches more of the input. -/
theorem munch_eq (h : accepted (readAll live w) = some label)
    (longest : ∀ k r, (k, r) ∈ live → ∀ v, v <+: rest → v ≠ [] → ¬Matches r (w ++ v)) :
    munch live (w ++ rest) = some (label, w.length) := by
  refine munch_append (n := 0) ?_
  cases rest with
  | nil => rw [munch_nil, h]; rfl
  | cons c rest =>
    -- a longer match would be one of a rule that reads past `w`
    have deeper : munch (read c (readAll live w)) rest = none := by
      refine munch_eq_none fun k q hq v hv matched => ?_
      obtain ⟨p, hp, matched⟩ := exists_matches_cons_iff.mpr ⟨q, hq, matched⟩
      obtain ⟨r, hr, matched⟩ := exists_matches_of_readAll hp matched
      exact longest k r hr (c :: v) (List.prefix_cons_inj c |>.mpr hv) (List.cons_ne_nil c v) matched
    rw [munch_cons, deeper, h]
    rfl

/-- A rule that needs nothing more is matched at once. -/
theorem munch_empty (label : κ) (rest : List Char) :
    munch [(label, .empty)] rest = some (label, 0) :=
  munch_stop rfl fun _ _ => rfl

/-- A class that is repeated is matched as far as its characters go. -/
theorem munch_star (label : κ) (s : CharClass) (cs : List Char) :
    munch [(label, .star (.char s))] cs = some (label, (cs.takeWhile s.contains).length) := by
  induction cs with
  | nil => rfl
  | cons c cs ih =>
    cases hc : s.contains c with
    | false =>
      have dead : read c [(label, Regex.star (.char s))] = [] := by
        simp [read, partials, hc, List.eraseDups]
      rw [List.takeWhile_cons_of_neg (by simp [hc])]
      exact munch_stop rfl fun d hd => by
        obtain rfl : c = d := Option.some.inj hd
        exact dead
    | true =>
      have alive : read c [(label, Regex.star (.char s))] = [(label, .star (.char s))] := by
        simp [read, partials, hc, join, List.eraseDups_cons]
      rw [munch_cons, alive, ih, List.takeWhile_cons_of_pos hc]
      rfl

end Regex

end JavaStub
