import JavaStub.Proofs.Lexing.Exclusive
import JavaStub.Token.Scan

/-!
# The next piece is the longest match

The next piece of an input is the longest prefix that a rule matches, with the kind of this rule,
and unrecognized input where no rule matches any. Two openings are exceptions: three quotes start a
text block or nothing, and `/*` without a `*/` behind it starts nothing.

Main facts:

1. `closesComment_iff`: what closes a comment.
2. `longest_of_munch`: the longest match is longest among all rules, and keywords are preferred.
3. `exists_next_scan`: what the next piece of an input is.
-/

namespace JavaStub

namespace Token

open Regex (munch read)

variable {k : Kind} {c : Char} {cs r v w : List Char} {n : Nat}

/-- Does the input start with the quotes that open a text block? -/
def OpensTextBlock (r : List Char) : Prop := ['"', '"', '"'] <+: r

/-- Does the input start a comment that is not closed? -/
def OpenComment (r : List Char) : Prop := ∃ cs, r = '/' :: '*' :: cs ∧ ¬['*', '/'] <:+: cs

theorem closesComment_iff : closesComment cs = true ↔ ['*', '/'] <:+: cs := by
  fun_induction closesComment cs with
  | case1 cs => exact iff_of_true rfl ⟨[], cs, rfl⟩
  | case2 c cs other ih =>
    rw [ih, List.infix_cons_iff]
    refine ⟨.inr, fun h => h.resolve_left ?_⟩
    rintro ⟨tail, same⟩
    obtain ⟨rfl, rest⟩ := List.cons.inj same
    exact other tail rfl rest.symm
  | case3 => simp

theorem opensTextBlock_cons :
    (c = '"' && cs.take 2 = ['"', '"']) = true ↔ OpensTextBlock (c :: cs) := by
  rw [Bool.and_eq_true, decide_eq_true_eq, decide_eq_true_eq]
  unfold OpensTextBlock
  rw [List.cons_prefix_cons, List.prefix_iff_eq_take]
  exact and_congr eq_comm eq_comm

theorem openComment_cons :
    (c = '/' && cs.head? = some '*' && !closesComment (cs.drop 1)) = true ↔
      OpenComment (c :: cs) := by
  rw [Bool.and_eq_true, Bool.and_eq_true, decide_eq_true_eq, decide_eq_true_eq, Bool.not_eq_true',
    ← Bool.not_eq_true, closesComment_iff]
  constructor
  · rintro ⟨⟨rfl, star⟩, unclosed⟩
    obtain ⟨ds, rfl⟩ := List.head?_eq_some_iff.mp star
    exact ⟨ds, rfl, unclosed⟩
  · rintro ⟨ds, same, unclosed⟩
    cases same
    exact ⟨⟨rfl, rfl⟩, unclosed⟩

/-! ## The longest match -/

/-- The text is the longest prefix of the input that a rule matches. Its kind is that of the rule,
and where there are two such rules, the one for a keyword. -/
structure Longest (k : Kind) (w r : List Char) : Prop where
  start : w <+: r
  ne_nil : w ≠ []
  ruled : Ruled k w
  longest : ∀ k' v, v <+: r → Ruled k' v → v.length ≤ w.length
  preferred : ∀ k', Ruled k' w → k' = k ∨ k.isKeyword = true ∧ k' = .identifier

theorem ruled_of_isLexeme (h : IsLexeme k w) : Ruled k w := by
  obtain ⟨r, hr, matched⟩ := Regex.exists_of_accepted h
  exact ⟨r, List.mem_cons_of_mem _ hr, matched⟩

/-- A keyword is a lexeme of its own kind. -/
theorem isLexeme_of_keyword (h : Ruled k w) (keyword : k.isKeyword = true) : IsLexeme k w := by
  obtain ⟨r, hr, matched⟩ := h
  rcases declared_cases _ hr with ⟨e, he, same⟩ | hp
  · have lexemes : ∀ e ∈ spelled, e.1.isKeyword = true → IsLexeme e.1 e.2 := by decide +kernel
    cases same
    rw [Regex.matches_text_iff.mp matched]
    exact lexemes e he keyword
  · have others : ∀ rule ∈ patterns, rule.1.isKeyword = false := by decide +kernel
    rw [others _ hp] at keyword
    cases keyword

/-- The rules of an input that opens no text block are the others. -/
theorem exists_rule_of_ruled (h : Ruled k v) (hv : v <+: r) (quotes : ¬OpensTextBlock r) :
    ∃ q, (k, q) ∈ rules ∧ q.Matches v := by
  obtain ⟨q, hq, matched⟩ := h
  rcases List.mem_cons.mp hq with same | hq
  · cases same
    rw [Regex.matches_text_iff.mp matched] at hv
    exact absurd hv quotes
  · exact ⟨q, hq, matched⟩

/-- Where a rule matches a prefix there is a match, and it is not shorter. -/
theorem exists_munch_of_ruled (h : Ruled k (c :: v)) (hv : c :: v <+: c :: cs)
    (quotes : ¬OpensTextBlock (c :: cs)) :
    ∃ k' n, munch (read c rules) cs = some (k', n) ∧ v.length ≤ n := by
  obtain ⟨q, hq, matched⟩ := exists_rule_of_ruled h hv quotes
  obtain ⟨q', hq', matched⟩ := Regex.exists_matches_cons_iff.mp ⟨q, hq, matched⟩
  exact Regex.exists_munch_of_matches hq' (List.cons_prefix_cons.mp hv).2 matched

theorem longest_of_munch (h : munch (read c rules) cs = some (k, n))
    (quotes : ¬OpensTextBlock (c :: cs)) : Longest k (c :: cs.take n) (c :: cs) := by
  have lexeme : IsLexeme k (c :: cs.take n) := Regex.accepted_of_munch h
  refine ⟨List.cons_prefix_cons.mpr ⟨rfl, List.take_prefix n cs⟩, List.cons_ne_nil _ _,
    ruled_of_isLexeme lexeme, fun k' v hv ruled => ?_, fun k' ruled => ?_⟩
  · cases v with
    | nil => exact Nat.zero_le _
    | cons d v =>
      obtain rfl := (List.cons_prefix_cons.mp hv).1
      obtain ⟨_, m, found, le⟩ := exists_munch_of_ruled ruled hv quotes
      rw [h] at found
      cases found
      have within := Regex.munch_le h
      simp only [List.length_cons, List.length_take]
      omega
  · rcases ruled_exclusive (ruled_of_isLexeme lexeme) ruled with rfl | other | ⟨_, keyword⟩
    · exact .inl rfl
    · exact .inr other
    · have same : some k = some k' := lexeme.symm.trans (isLexeme_of_keyword ruled keyword)
      exact .inl (Option.some.inj same).symm

/-! ## What is cut off -/

theorem cut_of_munch (quotes : ¬OpensTextBlock (c :: cs)) (comment : ¬OpenComment (c :: cs))
    (h : munch (read c rules) cs = some (k, n)) : cut c cs = (some k, n) := by
  unfold cut
  rw [if_neg (mt opensTextBlock_cons.mp quotes), if_neg (mt openComment_cons.mp comment), h]

theorem cut_unmatched (quotes : ¬OpensTextBlock (c :: cs)) (comment : ¬OpenComment (c :: cs))
    (h : munch (read c rules) cs = none) : (cut c cs).1 = none := by
  unfold cut
  rw [if_neg (mt opensTextBlock_cons.mp quotes), if_neg (mt openComment_cons.mp comment), h]
  show (if c = '"' then ((none, unclosedStringLength cs) : Option Kind × Nat) else (none, 0)).1 = none
  split <;> rfl

theorem cut_textBlock (cs : List Char) :
    cut '"' ('"' :: '"' :: cs) = match textBlockLength cs with
      | some n => (some .textBlock, n + 2)
      | none => (none, 2) := by
  unfold cut
  exact if_pos rfl

theorem cut_openComment (h : OpenComment (c :: cs)) : cut c cs = (none, cs.length) := by
  have quotes : ¬(c = '"' && cs.take 2 = ['"', '"']) = true := by
    obtain ⟨_, same, _⟩ := h
    cases same
    simp
  unfold cut
  rw [if_neg quotes, if_pos (openComment_cons.mpr h)]

end Token

/-! ## The next piece -/

namespace Source

open Token (OpensTextBlock OpenComment Ruled Longest cut)

variable {r : List Char}

/-- What the next piece of an input is. -/
structure IsNext (r : List Char) (piece : Piece) : Prop where
  /-- It is a token where a rule matches. -/
  token : ¬OpensTextBlock r → ¬OpenComment r →
    (piece.kind.isSome = true ↔ ∃ k v, v ≠ [] ∧ v <+: r ∧ Ruled k v)
  longest : ¬OpensTextBlock r → ¬OpenComment r →
    ∀ k, piece.kind = some k → Longest k piece.text r
  textBlock : ∀ cs n, r = '"' :: '"' :: '"' :: cs → Token.textBlockLength cs = some n →
    piece.kind = some .textBlock ∧ piece.text = '"' :: '"' :: '"' :: cs.take n
  openTextBlock : ∀ cs, r = '"' :: '"' :: '"' :: cs → Token.textBlockLength cs = none →
    piece.kind = none
  openComment : OpenComment r → piece.kind = none

/-- The piece that is cut off an input. -/
theorem isNext_cut (l : Location) (c : Char) (cs : List Char) :
    IsNext (c :: cs) ⟨(cut c cs).1, c :: cs.take (cut c cs).2, l⟩ where
  token := by
    intro quotes comment
    constructor
    · intro some
      cases found : Regex.munch (Regex.read c Token.rules) cs with
      | some p =>
        have longest := Token.longest_of_munch found quotes
        exact ⟨p.1, _, longest.ne_nil, longest.start, longest.ruled⟩
      | none =>
        rw [Token.cut_unmatched quotes comment found] at some
        cases some
    · rintro ⟨k, _ | ⟨d, v⟩, nonempty, hv, ruled⟩
      · exact absurd rfl nonempty
      · obtain rfl := (List.cons_prefix_cons.mp hv).1
        obtain ⟨k', n, found, _⟩ := Token.exists_munch_of_ruled ruled hv quotes
        rw [Token.cut_of_munch quotes comment found]
        rfl
  longest := by
    intro quotes comment k some
    cases found : Regex.munch (Regex.read c Token.rules) cs with
    | some p =>
      rw [Token.cut_of_munch quotes comment found] at some ⊢
      cases some
      exact Token.longest_of_munch found quotes
    | none =>
      rw [Token.cut_unmatched quotes comment found] at some
      cases some
  textBlock := by
    rintro ds n same closed
    cases same
    rw [Token.cut_textBlock, closed]
    exact ⟨rfl, rfl⟩
  openTextBlock := by
    rintro ds same closed
    cases same
    rw [Token.cut_textBlock, closed]
  openComment := by
    intro comment
    rw [Token.cut_openComment comment]

/-- The scan of an input starts with its next piece, and no two rules match the same text, but for
that of a keyword and that of identifiers. -/
theorem exists_next_scan (l : Location) (c : Char) (cs : List Char) :
    (∃ piece rest, scan l (c :: cs) = piece :: rest ∧ piece.location = l ∧
      IsNext (c :: cs) piece) ∧
    ∀ k k' w, Ruled k w → Ruled k' w →
      k = k' ∨ k.isKeyword = true ∧ k' = .identifier ∨ k = .identifier ∧ k'.isKeyword = true :=
  ⟨⟨_, _, scan_cons l c cs, rfl, isNext_cut l c cs⟩, fun _ _ _ => Token.ruled_exclusive⟩

example : (scan .start "1e+;".toList).map (fun piece => (piece.kind, piece.text)) =
    [(some .integerLiteral, ['1']), (some .identifier, ['e']), (some .plus, ['+']),
      (some .semicolon, [';'])] := by
  decide +kernel

end Source

end JavaStub
