import JavaStub.Proofs.Lexing.Munch
import JavaStub.Token.Cut

/-!
# Single lexemes

Where the next lexeme of an input ends. A text is a lexeme of a kind when the rules tell so
(`Token.IsLexeme`), and it is cut off where it cannot go on in what follows. What follows is told
by its first character: a name or keyword ends before a character that is no part of identifiers,
closing angles end before other characters, and some marks end whatever follows them.

Main facts:

1. `isLexeme_of_cut`: what is cut off is a lexeme.
2. `cut_word`: names and keywords before a character that cannot be part of them.
3. `cut_mark`, `cut_angles`, `cut_blank`, `cut_comment`: the other lexemes of a stub.
-/

namespace JavaStub

open Token (Kind)

open Regex (munch read readAll accepted)

namespace CharClass

/-- The characters of a class of ranges, one by one. -/
def members (s : CharClass) : List Char :=
  s.ranges.flatMap fun r => (List.range' r.1.toNat (r.2.toNat + 1 - r.1.toNat)).map Char.ofNat

/-- Is the class made of ranges alone, all of whose characters meet the condition? -/
def within (p : Char → Bool) (s : CharClass) : Bool :=
  !s.letters && !s.numbers && !s.negated && s.members.all p

theorem contains_eq_false {p : Char → Bool} {s : CharClass} {c : Char} (h : s.within p = true)
    (hc : p c = false) : s.contains c = false := by
  obtain ⟨ranges, letters, numbers, negated⟩ := s
  simp only [within, Bool.and_eq_true, Bool.not_eq_true', List.all_eq_true] at h
  obtain ⟨⟨⟨rfl, rfl⟩, rfl⟩, all⟩ := h
  refine Bool.eq_false_iff.mpr fun member => ?_
  simp only [contains, Bool.false_and, Bool.or_false, Bool.bne_false, List.any_eq_true,
    Bool.and_eq_true, decide_eq_true_eq] at member
  obtain ⟨r, hr, lower, upper⟩ := member
  have below : r.1.toNat ≤ c.toNat := UInt32.le_iff_toNat_le.mp lower
  have above : c.toNat ≤ r.2.toNat := UInt32.le_iff_toNat_le.mp upper
  have listed : c ∈ members ⟨ranges, false, false, false⟩ := by
    refine List.mem_flatMap.mpr ⟨r, hr, List.mem_map.mpr ⟨c.toNat, ?_, Char.ofNat_toNat c⟩⟩
    rw [List.mem_range'_1]
    omega
  rw [all c listed] at hc
  cases hc

end CharClass

namespace Token

variable {k : Kind} {c : Char} {cs w rest : List Char}

/-- The text is matched by a rule of the kind, and by no rule before it. -/
def IsLexeme (k : Kind) (w : List Char) : Prop := accepted (readAll rules w) = some k

instance (k : Kind) (w : List Char) : Decidable (IsLexeme k w) :=
  inferInstanceAs (Decidable (_ = _))

/-- Does the character start no identifier? -/
def noStart (c : Char) : Bool := !identifierStart.contains c

/-! ## Where lexemes end -/

theorem read_eq_nil {p : Char → Bool} {live : List (Kind × Regex)}
    (h : ∀ rule ∈ live, ∀ s ∈ rule.2.firsts, s.within p = true) (hc : p c = false) :
    read c live = [] := by
  have dead : ∀ rule ∈ live, (rule.2.partials c).map (fun r => (rule.1, r)) = [] := by
    intro rule hr
    rw [Regex.partials_eq_nil fun s hs => CharClass.contains_eq_false (h rule hr s hs) hc,
      List.map_nil]
  unfold Regex.read
  rw [List.flatMap_eq_nil_iff.mpr dead]
  rfl

/-- No identifier or keyword goes on here. -/
def EndsWord (cs : List Char) : Prop := ∀ c ∈ cs.head?, identifierPart.contains c = false

/-- No identifier or keyword starts a text but one that a rule for such words matches. -/
theorem rule_cases : ∀ rule ∈ rules, (∀ s ∈ rule.2.firsts, s.within noStart = true) ∨
    rule.2 = identifierRule ∨
      ∃ e ∈ Kind.fixed, rule.2 = Regex.text e.2.toList ∧
        e.2.toList.all identifierPart.contains = true := by
  decide +kernel

/-- A text that starts like an identifier and is matched has no other characters than those of
identifiers. -/
theorem part_of_matches {r : Regex} (hr : (k, r) ∈ rules) (start : identifierStart.contains c = true)
    (h : r.Matches (c :: w)) : ∀ d ∈ w, identifierPart.contains d = true := by
  rcases rule_cases (k, r) hr with away | rfl | ⟨e, _, rfl, all⟩
  · obtain ⟨s, hs, hc⟩ := Regex.exists_first_of_matches h
    have : s.contains c = false :=
      CharClass.contains_eq_false (away s hs) (by rw [noStart, start]; rfl)
    rw [this] at hc
    cases hc
  · obtain ⟨u, v, split, left, right⟩ := Regex.matches_seq_iff.mp h
    obtain ⟨d, rfl, _⟩ := Regex.matches_char_iff.mp left
    obtain ⟨rfl, rfl⟩ := List.cons.inj split
    exact Regex.forall_of_matches_star right
  · intro d hd
    rw [← Regex.matches_text_iff.mp h] at all
    exact List.all_eq_true.mp all d (List.mem_cons_of_mem c hd)

/-! ## Single lexemes -/

/-- Away from quotes and slashes the next lexeme is the longest match. -/
theorem cut_eq_munch {more : Nat} (quote : c ≠ '"') (slash : c ≠ '/')
    (h : munch (read c rules) cs = some (k, more)) : cut c cs = (some k, more) := by
  unfold cut
  simp [quote, slash, h]

/-- What is cut off is a lexeme of its kind, unless it is a text block. -/
theorem isLexeme_of_cut {more : Nat} (h : cut c cs = (some k, more)) (other : k ≠ .textBlock) :
    IsLexeme k (c :: cs.take more) := by
  unfold cut at h
  split at h
  · split at h <;> cases h
    exact absurd rfl other
  · split at h
    · cases h
    · split at h
      · next k' n hm =>
        cases h
        exact Regex.accepted_of_munch hm
      · split at h <;> cases h

/-- A lexeme that starts like an identifier. -/
structure IsWord (k : Kind) (w : List Char) : Prop where
  lexeme : IsLexeme k w
  starts : w.head?.any identifierStart.contains = true

instance (k : Kind) (w : List Char) : Decidable (IsWord k w) :=
  decidable_of_iff (IsLexeme k w ∧ w.head?.any identifierStart.contains = true)
    ⟨fun h => ⟨h.1, h.2⟩, fun h => ⟨h.1, h.2⟩⟩

theorem cut_word (h : IsWord k (c :: w)) (ends : EndsWord rest) :
    cut c (w ++ rest) = (some k, w.length) := by
  have start : identifierStart.contains c = true := h.starts
  have quote : c ≠ '"' := fun hc => by rw [hc] at start; revert start; decide
  have slash : c ≠ '/' := fun hc => by rw [hc] at start; revert start; decide
  refine cut_eq_munch quote slash (Regex.munch_eq h.lexeme ?_)
  intro label q hq v hv hne matched
  obtain ⟨r, hr, hw⟩ := Regex.exists_matches_cons_iff.mpr ⟨q, hq, matched⟩
  obtain ⟨t, rfl⟩ := hv
  cases v with
  | nil => exact hne rfl
  | cons d v =>
    have part := part_of_matches hr start hw d (List.mem_append_right w List.mem_cons_self)
    rw [ends d rfl] at part
    cases part

theorem isWord_of_identifier (h : IsLexeme .identifier w) : IsWord .identifier w := by
  obtain ⟨r, hr, matched⟩ := Regex.exists_of_accepted h
  have only : ∀ rule ∈ rules, rule.1 = .identifier → rule.2 = identifierRule := by decide +kernel
  have same : r = identifierRule := only _ hr rfl
  rw [same] at matched
  obtain ⟨u, v, rfl, left, _⟩ := Regex.matches_seq_iff.mp matched
  obtain ⟨c, rfl, start⟩ := Regex.matches_char_iff.mp left
  exact ⟨h, start⟩

theorem isWord_of_primitive (hk : k.isPrimitive = true) (h : IsLexeme k w) : IsWord k w := by
  obtain ⟨r, hr, matched⟩ := Regex.exists_of_accepted h
  have only : ∀ rule ∈ rules, rule.1.isPrimitive = true → ∃ e ∈ Kind.fixed,
      rule.2 = Regex.text e.2.toList ∧ e.2.toList.head?.any identifierStart.contains = true := by
    decide +kernel
  obtain ⟨e, _, same, start⟩ := only _ hr hk
  rw [show r = _ from same, Regex.matches_text_iff] at matched
  rw [← matched] at start
  exact ⟨h, start⟩

/-- Characters that are lexemes whatever follows them, each with its kind. -/
def marks : List (Kind × Char) :=
  [(.lparen, '('), (.rparen, ')'), (.lbrace, '\x7b'), (.rbrace, '\x7d'), (.lbracket, '['),
   (.rbracket, ']'), (.semicolon, ';'), (.comma, ','), (.question, '?')]

theorem cut_mark (h : (k, c) ∈ marks) (cs : List Char) : cut c cs = (some k, 0) := by
  have check : ∀ p ∈ marks, (p.2 ≠ '"' ∧ p.2 ≠ '/') ∧ read p.2 rules = [(p.1, .empty)] := by
    decide +kernel
  obtain ⟨⟨quote, slash⟩, live⟩ := check _ h
  refine cut_eq_munch quote slash ?_
  rw [live]
  exact Regex.munch_empty k cs

theorem cut_ellipsis (cs : List Char) : cut '.' ('.' :: '.' :: cs) = (some .ellipsis, 2) := by
  have two : read '.' (read '.' (read '.' rules)) = [(.ellipsis, .empty)] := by decide +kernel
  refine cut_eq_munch (by decide) (by decide) ?_
  rw [Regex.munch_cons, Regex.munch_cons, two, Regex.munch_empty]

/-- Can a type argument start with the character: does it start an identifier, or mark a wildcard? -/
def startsArgument (c : Char) : Bool := identifierStart.contains c || c = '?'

/-- A dot or an opening angle before a type argument is a lexeme on its own. -/
theorem cut_before_start (hc : (c, k) ∈ [('.', Kind.dot), ('<', Kind.lt)])
    (start : cs.head?.any startsArgument = true) : cut c cs = (some k, 0) := by
  have check : ∀ p ∈ [('.', Kind.dot), ('<', Kind.lt)], (p.1 ≠ '"' ∧ p.1 ≠ '/') ∧
      accepted (read p.1 rules) = some p.2 ∧
        ∀ rule ∈ read p.1 rules, ∀ s ∈ rule.2.firsts, s.within (!startsArgument ·) = true := by
    decide +kernel
  obtain ⟨⟨quote, slash⟩, matched, away⟩ := check _ hc
  refine cut_eq_munch quote slash (Regex.munch_stop matched fun d hd => ?_)
  rw [hd] at start
  exact read_eq_nil away (by rw [show startsArgument d = true from start]; rfl)

/-- No closing angle, and no operator that starts with one, goes on here. -/
def EndsAngles (cs : List Char) : Prop := ∀ c ∈ cs.head?, c ∉ ['>', '=']

/-- The kind of a lexeme of `n` closing angles, from one to three. -/
def angles : Nat → Kind
  | 1 => .gt
  | 2 => .rshift
  | _ => .urshift

/-- A run of up to three closing angles is one lexeme if it cannot be longer. -/
theorem cut_angles {n : Nat} (hn : n < 3) (ends : ∀ c ∈ cs.head?, c ≠ '=' ∧ (n < 2 → c ≠ '>')) :
    cut '>' (List.replicate n '>' ++ cs) = (some (angles (n + 1)), n) := by
  have check : ∀ m < 3, accepted (readAll (read '>' rules) (List.replicate m '>')) =
      some (angles (m + 1)) ∧ ∀ rule ∈ readAll (read '>' rules) (List.replicate m '>'),
        ∀ s ∈ rule.2.firsts, s.within (fun c => c = '=' || m < 2 && c = '>') = true := by
    decide +kernel
  obtain ⟨matched, away⟩ := check n hn
  have dead : ∀ c ∈ cs.head?, read c (readAll (read '>' rules) (List.replicate n '>')) = [] := by
    intro c hc
    refine read_eq_nil away ?_
    have := ends c hc
    simp only [Bool.or_eq_false_iff, Bool.and_eq_false_imp, decide_eq_true_eq,
      decide_eq_false_iff_not]
    exact this
  have stops := Regex.munch_append (Regex.munch_stop matched dead)
  rw [List.length_replicate, Nat.add_zero] at stops
  exact cut_eq_munch (by decide) (by decide) stops

/-- The characters of white space. -/
def blanks : List Char := [' ', '\t', '\n', '\r', '\x0c']

/-- White space is cut off as far as it goes. -/
theorem cut_blank (hc : c ∈ blanks) (cs : List Char) :
    cut c cs = (some .whitespace, (cs.takeWhile (CharClass.anyOf blanks).contains).length) := by
  have check : (blanks.all fun c => (c ≠ '"' ∧ c ≠ '/') ∧
      read c rules = [(.whitespace, .star (oneOf blanks))]) = true := by
    decide +kernel
  obtain ⟨⟨quote, slash⟩, live⟩ := of_decide_eq_true (List.all_eq_true.mp check c hc)
  refine cut_eq_munch quote slash ?_
  rw [live]
  exact Regex.munch_star _ _ cs

/-- A comment is cut off up to the end of its line. -/
theorem cut_comment (cs : List Char) : cut '/' ('/' :: cs) =
    (some .lineComment, (cs.takeWhile (CharClass.noneOf ['\n']).contains).length + 1) := by
  have live : read '/' (read '/' rules) = [(.lineComment, .star (one (.noneOf ['\n'])))] := by
    decide +kernel
  have longest := Regex.munch_star Kind.lineComment (.noneOf ['\n']) cs
  unfold cut
  rw [Regex.munch_cons, live]
  simp [one, longest]

/-- A comment in front of a line feed is cut off exactly. -/
theorem cut_line (h : '\n' ∉ w) (rest : List Char) :
    cut '/' ('/' :: (w ++ '\n' :: rest)) = (some .lineComment, w.length + 1) := by
  have all : ∀ c ∈ w, (CharClass.noneOf ['\n']).contains c = true := fun c hc =>
    CharClass.contains_noneOf.mpr fun member => h (List.mem_singleton.mp member ▸ hc)
  have line : (w ++ '\n' :: rest).takeWhile (CharClass.noneOf ['\n']).contains = w := by
    rw [List.takeWhile_append_of_pos all, List.takeWhile_cons_of_neg (by decide), List.append_nil]
  rw [cut_comment, line]

/-- The number zero before a semicolon. -/
theorem cut_zero (cs : List Char) : cut '0' (';' :: cs) = (some .integerLiteral, 0) := by
  have matched : accepted (read '0' rules) = some .integerLiteral := by decide +kernel
  have dead : read ';' (read '0' rules) = [] := by decide +kernel
  refine cut_eq_munch (by decide) (by decide) (Regex.munch_stop matched fun d hd => ?_)
  obtain rfl : ';' = d := Option.some.inj hd
  exact dead

end Token

end JavaStub
