import Mathlib.Data.List.DropRight
import JavaStub.Proofs.Lexing.TextBlocks
import JavaStub.Proofs.Lexing.Tiling
import JavaStub.Proofs.Lexing.Words

/-!
# Lines and columns

A line ends with a line feed, with a carriage return, or with both in this order. A location counts
the line ends of what stands before it and the characters behind the last one, and moving it over a
text at once counts them right. Moved over one lexeme after the other it counts the two characters
of a line end apart if a lexeme ends between them. Of all lexemes only comments to the end of a line
do that: white space takes both characters, and no other lexeme ends in a carriage return.

Main facts:

1. `line_past` and `column_past`: what a location counts over a text.
2. `last_of_cut`: which lexemes end in a carriage return.
3. `column_of_scan` and `line_of_scan`: what the location of a piece counts.
4. `location_of_tokens`: columns and offsets are those of the source, and a line is further down by
   the number of comments before it that end in a carriage return.
-/

namespace JavaStub

variable {c : Char} {cs ds : List Char}

/-! ## Line ends in a text -/

/-- The number of line ends in a text. -/
def lineEnds : List Char → Nat
  | [] => 0
  | '\r' :: '\n' :: cs => lineEnds cs + 1
  | c :: cs => lineEnds cs + if c = '\n' ∨ c = '\r' then 1 else 0

/-- Does the character belong to no line end? -/
def inLine (c : Char) : Bool := c ≠ '\n' && c ≠ '\r'

/-- The characters behind the last line end of a text. -/
def lastLine (cs : List Char) : List Char := cs.rtakeWhile inLine

/-- A carriage return leaves the line end to a line feed that follows it. -/
theorem lineEnds_cons (c : Char) (cs : List Char) :
    lineEnds (c :: cs) =
      lineEnds cs + if c = '\n' ∨ c = '\r' ∧ cs.head? ≠ some '\n' then 1 else 0 := by
  by_cases pair : c = '\r' ∧ cs.head? = some '\n'
  · obtain ⟨rfl, feed⟩ := pair
    obtain ⟨ds, rfl⟩ := List.head?_eq_some_iff.mp feed
    simp [lineEnds]
  · rw [lineEnds]
    · have alone : c = '\r' → cs.head? ≠ some '\n' := fun ret feed => pair ⟨ret, feed⟩
      by_cases ret : c = '\r' <;> simp [ret, alone]
    · rintro ds rfl rfl
      exact pair ⟨rfl, rfl⟩

/-- Between two texts a line end is cut in two, or it is counted in one of them. -/
theorem lineEnds_append (cs ds : List Char) :
    lineEnds (cs ++ ds) + (if cs.getLast? = some '\r' ∧ ds.head? = some '\n' then 1 else 0) =
      lineEnds cs + lineEnds ds := by
  induction cs with
  | nil => simp [lineEnds]
  | cons c cs ih =>
    rw [List.cons_append, lineEnds_cons, lineEnds_cons]
    cases cs with
    | nil =>
      by_cases feed : ds.head? = some '\n' <;> by_cases ret : c = '\r' <;>
        simp [lineEnds, feed, ret, Nat.add_comm]
    | cons d cs =>
      rw [List.getLast?_cons_cons, List.cons_append, List.head?_cons, List.head?_cons] at *
      omega

theorem lastLine_concat (cs : List Char) (c : Char) :
    lastLine (cs ++ [c]) = if inLine c then lastLine cs ++ [c] else [] :=
  List.rtakeWhile_concat inLine cs c

namespace Location

variable {l : Location}

theorem line_past (l : Location) (cs : List Char) : (l.past cs).line = l.line + lineEnds cs := by
  induction cs generalizing l with
  | nil => rfl
  | cons c cs ih =>
    rw [past_cons, ih, lineEnds_cons]
    unfold step
    by_cases feed : c = '\n'
    · simp only [feed, if_true, true_or]
      omega
    by_cases ret : c = '\r'
    · by_cases pair : cs.head? = some '\n'
      · simp [ret, pair]
      · simp [ret, pair]
        omega
    · simp [feed, ret]

/-- The column counts the characters behind the last line end. What it was before a line feed does
not matter. -/
theorem column_past (before : List Char)
    (h : cs.head? ≠ some '\n' → l.column = 1 + (lastLine before).length) :
    (l.past cs).column = 1 + (lastLine (before ++ cs)).length := by
  induction cs generalizing l before with
  | nil => simpa using h
  | cons c cs ih =>
    rw [past_cons, ← List.singleton_append, ← List.append_assoc]
    refine ih _ fun next => ?_
    rw [lastLine_concat]
    unfold step
    by_cases feed : c = '\n'
    · simp [feed, inLine]
    by_cases ret : c = '\r'
    · simp [ret, next, inLine]
    · have here := h (by simpa using feed)
      simp [feed, ret, inLine, here, Nat.add_assoc]

end Location

/-! ## Lexemes that end in a carriage return -/

namespace Regex

/-- The classes of the characters that a matching text can end with. -/
def lasts : Regex → List CharClass
  | .empty => []
  | .char s => [s]
  | .seq r s => s.lasts ++ if s.nullable then r.lasts else []
  | .alt r s => r.lasts ++ s.lasts
  | .star r => r.lasts

theorem exists_last_of_matches {r : Regex} {w : List Char} (h : Matches r w)
    (last : w.getLast? = some c) : ∃ s ∈ r.lasts, s.contains c = true := by
  induction h with
  | empty => cases last
  | @char s d member =>
    obtain rfl : d = c := Option.some.inj last
    exact ⟨s, List.mem_singleton_self s, member⟩
  | @seq r s u v left right ihLeft ihRight =>
    -- the last character is one of `r` where `s` has read nothing
    cases v with
    | nil =>
      rw [List.append_nil] at last
      obtain ⟨t, ht, member⟩ := ihLeft last
      refine ⟨t, List.mem_append_right _ ?_, member⟩
      rw [if_pos (matches_nil_iff.mp right)]
      exact ht
    | cons d v =>
      rw [List.getLast?_append_of_ne_nil _ (List.cons_ne_nil d v)] at last
      obtain ⟨t, ht, member⟩ := ihRight last
      exact ⟨t, List.mem_append_left _ ht, member⟩
  | altLeft _ ih =>
    obtain ⟨t, ht, member⟩ := ih last
    exact ⟨t, List.mem_append_left _ ht, member⟩
  | altRight _ ih =>
    obtain ⟨t, ht, member⟩ := ih last
    exact ⟨t, List.mem_append_right _ ht, member⟩
  | starNil => cases last
  | @starCons r u v _ _ ihHead ihTail =>
    cases v with
    | nil =>
      rw [List.append_nil] at last
      exact ihHead last
    | cons d v =>
      rw [List.getLast?_append_of_ne_nil _ (List.cons_ne_nil d v)] at last
      exact ihTail last

end Regex

namespace Token

variable {k : Kind} {n : Nat}

/-- Text that may end in a carriage return is white space or a comment to the end of a line. -/
theorem rule_of_return : ∀ rule ∈ rules, (∃ s ∈ rule.2.lasts, s.contains '\r' = true) →
    rule.1 = .whitespace ∨ rule.1 = .lineComment := by
  decide +kernel

/-- What is left of a text block is nothing, or it ends in a quote. -/
theorem last_of_textBlockLengthFrom {run : Nat} (h : textBlockLengthFrom run cs = some n) :
    n = 0 ∧ 3 ≤ run ∨ (cs.take n).getLast? = some '"' := by
  -- the length ends behind a run of quotes, so its last character is a quote if it has any
  fun_induction textBlockLengthFrom run cs generalizing n with
  | case1 run long =>
    obtain rfl := Option.some.inj h
    exact .inl ⟨rfl, long⟩
  | case2 => cases h
  | case3 run cs ih =>
    obtain ⟨m, hm, rfl⟩ := Option.map_eq_some_iff.mp h
    refine .inr ?_
    rw [List.take_succ_cons]
    rcases ih hm with ⟨rfl, _⟩ | last
    · rfl
    · rw [List.getLast?_cons, last]
      rfl
  | case4 run c cs _ long =>
    obtain rfl := Option.some.inj h
    exact .inl ⟨rfl, long⟩
  | case5 => cases h
  | case6 run _ d ds _ ih =>
    obtain ⟨m, hm, rfl⟩ := Option.map_eq_some_iff.mp h
    rcases ih hm with ⟨_, long⟩ | last
    · cases long
    · refine .inr ?_
      rw [List.take_succ_cons, List.take_succ_cons, List.getLast?_cons_cons, List.getLast?_cons,
        last]
      rfl
  | case7 run c cs _ _ _ ih =>
    obtain ⟨m, hm, rfl⟩ := Option.map_eq_some_iff.mp h
    rcases ih hm with ⟨_, long⟩ | last
    · cases long
    · refine .inr ?_
      rw [List.take_succ_cons, List.getLast?_cons, last]
      rfl

/-- A text block ends in a quote. -/
theorem last_of_textBlock (h : cut c cs = (some .textBlock, n)) :
    (c :: cs.take n).getLast? = some '"' := by
  obtain ⟨ds, m, rfl, rfl, rfl, closed⟩ := closed_of_cut_textBlock h
  rw [textBlockLength_eq] at closed
  have last : (('"' :: '"' :: ds).take (m + 2)).getLast? = some '"' := by
    rcases last_of_textBlockLengthFrom closed with ⟨_, long⟩ | last
    · cases long
    · rw [Nat.add_comm, List.take_add, List.getLast?_append]
      show ((ds.take m).getLast?.or _) = _
      rw [last]
      rfl
  rw [List.getLast?_cons, last]
  rfl

theorem last_of_cut (h : cut c cs = (some k, n)) (last : (c :: cs.take n).getLast? = some '\r') :
    k = .whitespace ∨ k = .lineComment := by
  by_cases block : k = .textBlock
  · rw [last_of_textBlock (block ▸ h)] at last
    cases last
  · obtain ⟨r, hr, matched⟩ := Regex.exists_of_accepted (isLexeme_of_cut h block)
    exact rule_of_return _ hr (Regex.exists_last_of_matches matched last)

theorem head_drop_takeWhile (p : Char → Bool) (cs : List Char) :
    ∀ d ∈ (cs.drop (cs.takeWhile p).length).head?, p d = false := by
  have rest : cs.drop (cs.takeWhile p).length = cs.dropWhile p := by
    conv => enter [1, 2]; rw [← List.takeWhile_append_dropWhile (p := p) (l := cs)]
    exact List.drop_left
  intro d hd
  have stop := List.head?_dropWhile_not p cs
  rw [← rest, hd] at stop
  exact stop

/-- White space takes a line feed that follows it. -/
theorem head_drop_of_whitespace (h : cut c cs = (some .whitespace, n)) :
    (cs.drop n).head? ≠ some '\n' := by
  obtain ⟨r, hr, matched⟩ := Regex.exists_of_accepted (isLexeme_of_cut h (by decide))
  have only : ∀ rule ∈ rules, rule.1 = .whitespace → rule.2 = whitespaceRule := by decide +kernel
  rw [show r = whitespaceRule from only _ hr rfl] at matched
  obtain ⟨u, v, split, left, _⟩ := Regex.matches_seq_iff.mp matched
  obtain ⟨d, rfl, member⟩ := Regex.matches_char_iff.mp left
  obtain ⟨rfl, -⟩ := List.cons.inj split
  rw [cut_blank (CharClass.contains_anyOf.mp member)] at h
  cases h
  intro feed
  have away := head_drop_takeWhile _ cs _ feed
  rw [CharClass.contains_anyOf.mpr (by decide)] at away
  cases away

/-- A comment to the end of a line leaves the line feed to what follows it. -/
theorem head_drop_of_lineComment (h : cut c cs = (some .lineComment, n)) (more : cs.drop n ≠ []) :
    (cs.drop n).head? = some '\n' := by
  obtain ⟨r, hr, matched⟩ := Regex.exists_of_accepted (isLexeme_of_cut h (by decide))
  have only : ∀ rule ∈ rules, rule.1 = .lineComment → rule.2 = lineCommentRule := by decide +kernel
  rw [show r = lineCommentRule from only _ hr rfl] at matched
  obtain ⟨u, v, split, left, _⟩ := Regex.matches_seq_iff.mp matched
  rw [Regex.matches_text_iff.mp left] at split
  obtain ⟨rfl, slash⟩ := List.cons.inj split
  obtain ⟨ds, rfl⟩ : ∃ ds, cs = '/' :: ds := by
    cases cs with
    | nil => simp at slash
    | cons d ds =>
      cases n with
      | zero => cases slash
      | succ n => exact ⟨ds, by rw [(List.cons.inj slash).1]⟩
  rw [cut_comment] at h
  cases h
  obtain ⟨d, ds', rest⟩ := List.exists_cons_of_ne_nil more
  rw [rest]
  rw [List.drop_succ_cons] at rest
  have stop := head_drop_takeWhile (CharClass.noneOf ['\n']).contains ds d (by rw [rest]; rfl)
  have feed := mt CharClass.contains_noneOf.mpr (Bool.eq_false_iff.mp stop)
  rw [List.head?_cons, List.mem_singleton.mp (not_not.mp feed)]

/-- A line end is cut in two behind comments that end in a carriage return, and nowhere else. -/
theorem pair_iff (h : cut c cs = (some k, n)) (more : cs.drop n ≠ []) :
    (c :: cs.take n).getLast? = some '\r' ∧ (cs.drop n).head? = some '\n' ↔
      k = .lineComment ∧ (c :: cs.take n).getLast? = some '\r' := by
  constructor
  · rintro ⟨last, feed⟩
    rcases last_of_cut h last with rfl | rfl
    · exact absurd feed (head_drop_of_whitespace h)
    · exact ⟨rfl, last⟩
  · rintro ⟨rfl, last⟩
    exact ⟨last, head_drop_of_lineComment h more⟩

end Token

/-! ## Pieces of a source -/

namespace Source

variable {l : Location} {p q : Piece} {before after : List Piece}

/-- Is the piece a comment to the end of a line that ends in a carriage return? -/
def Piece.isReturnComment (p : Piece) : Bool :=
  p.kind = some .lineComment && p.text.getLast? = some '\r'

/-- The first piece is cut off the input, and the others are those of the rest. -/
theorem scan_eq_cons {ps : List Piece} (h : scan l cs = q :: ps) :
    ∃ c ds n, cs = c :: ds ∧ Token.cut c ds = (q.kind, n) ∧ q.text = c :: ds.take n ∧
      q.location = l ∧ scan (l.past q.text) (ds.drop n) = ps := by
  cases cs with
  | nil =>
    rw [scan_nil] at h
    cases h
  | cons c ds =>
    rw [scan_cons] at h
    obtain ⟨rfl, rfl⟩ := List.cons.inj h
    exact ⟨c, ds, _, rfl, rfl, rfl, rfl, rfl⟩

theorem column_of_scan (passed : List Char) (h : scan l cs = before ++ p :: after)
    (here : cs.head? ≠ some '\n' → l.column = 1 + (lastLine passed).length)
    (start : p.text.head? ≠ some '\n') :
    p.location.column = 1 + (lastLine (passed ++ before.flatMap Piece.text)).length := by
  induction before generalizing l cs passed with
  | nil =>
    obtain ⟨c, ds, n, rfl, -, text, rfl, -⟩ := scan_eq_cons h
    rw [text] at start
    simpa using here start
  | cons q before ih =>
    rw [List.cons_append] at h
    obtain ⟨c, ds, n, rfl, -, text, -, tail⟩ := scan_eq_cons h
    rw [List.flatMap_cons, ← List.append_assoc]
    refine ih _ tail fun _ => Location.column_past _ fun first => here ?_
    rw [text] at first
    exact first

theorem line_of_scan (h : scan l cs = before ++ p :: after) (tokens : ∀ q ∈ before, q.kind ≠ none)
    (start : p.text.head? ≠ some '\n') :
    p.location.line =
      l.line + lineEnds (before.flatMap Piece.text) + before.countP Piece.isReturnComment := by
  induction before generalizing l cs with
  | nil =>
    obtain ⟨_, _, _, -, -, -, rfl, -⟩ := scan_eq_cons h
    rfl
  | cons q before ih =>
    rw [List.cons_append] at h
    obtain ⟨c, ds, n, rfl, next, text, -, tail⟩ := scan_eq_cons h
    obtain ⟨k, hk⟩ := Option.ne_none_iff_exists'.mp (tokens q List.mem_cons_self)
    have behind : ds.drop n = before.flatMap Piece.text ++ (p.text ++ after.flatMap Piece.text) := by
      rw [← List.flatMap_cons, ← List.flatMap_append, ← tail, flatMap_text_scan]
    have nonempty : p.text ≠ [] :=
      ne_nil_of_mem_scan (tail ▸ List.mem_append_right before List.mem_cons_self)
    -- `p` starts with no line feed, so one behind `q` stands before `p`
    have feed : (ds.drop n).head? = some '\n' ↔ (before.flatMap Piece.text).head? = some '\n' := by
      rw [behind, List.head?_append, List.head?_append_of_ne_nil _ nonempty]
      cases (before.flatMap Piece.text).head? <;> simp [start]
    have cut : q.text.getLast? = some '\r' ∧ (before.flatMap Piece.text).head? = some '\n' ↔
        q.isReturnComment = true := by
      have more : ds.drop n ≠ [] := by
        rw [behind]
        exact List.append_ne_nil_of_right_ne_nil _ (List.append_ne_nil_of_left_ne_nil nonempty _)
      rw [← feed, text, Token.pair_iff (next.trans (by rw [hk])) more]
      simp [Piece.isReturnComment, hk, text]
    have ends := lineEnds_append q.text (before.flatMap Piece.text)
    simp only [cut] at ends
    rw [ih tail fun q hq => tokens q (List.mem_cons_of_mem _ hq), Location.line_past,
      List.flatMap_cons, List.countP_cons]
    omega

/-- Where the pieces of an input are tokens, those that matter are among them. -/
theorem exists_piece_of_significant {ps : List Piece} {ts : List Token}
    (h : significant ps = .ok ts) :
    (∀ p ∈ ps, p.kind ≠ none) ∧
      ∀ t ∈ ts, t.kind.isTrivia = false ∧ ⟨some t.kind, t.lexeme.toList, t.location⟩ ∈ ps := by
  induction ps generalizing ts with
  | nil =>
    cases h
    exact ⟨fun _ hp => absurd hp List.not_mem_nil, fun _ ht => absurd ht List.not_mem_nil⟩
  | cons p ps ih =>
    obtain ⟨kind, text, l⟩ := p
    rw [significant] at h
    cases kind with
    | none => cases h
    | some k =>
      dsimp only at h
      split at h
      · obtain ⟨tokens, members⟩ := ih h
        refine ⟨List.forall_mem_cons.mpr ⟨Option.some_ne_none k, tokens⟩, fun t ht => ?_⟩
        exact ⟨(members t ht).1, List.mem_cons_of_mem _ (members t ht).2⟩
      · next kept =>
        cases found : significant ps with
        | error e => rw [found] at h; cases h
        | ok us =>
          rw [found] at h
          cases h
          obtain ⟨tokens, members⟩ := ih found
          refine ⟨List.forall_mem_cons.mpr ⟨Option.some_ne_none k, tokens⟩, fun t ht => ?_⟩
          rcases List.mem_cons.mp ht with rfl | ht
          · rw [String.toList_ofList]
            exact ⟨Bool.eq_false_iff.mpr kept, List.mem_cons_self⟩
          · exact ⟨(members t ht).1, List.mem_cons_of_mem _ (members t ht).2⟩

/-- A token that matters to declarations does not start with a line feed. -/
theorem head_of_scan {k : Token.Kind} (h : scan l cs = before ++ p :: after) (hk : p.kind = some k)
    (kept : k.isTrivia = false) : p.text.head? ≠ some '\n' := by
  induction before generalizing l cs with
  | nil =>
    obtain ⟨c, ds, n, -, next, text, -, -⟩ := scan_eq_cons h
    intro feed
    rw [text] at feed
    obtain rfl : c = '\n' := Option.some.inj feed
    rw [Token.cut_blank (by decide), hk] at next
    cases next
    cases kept
  | cons q before ih =>
    obtain ⟨c, ds, n, -, -, -, -, tail⟩ := scan_eq_cons h
    exact ih tail

/-! ## Tokens of a source -/

/-- What the location of a token says of the text before it, which was cut into these pieces. -/
structure Places (before : List Piece) (l : Location) : Prop where
  offset : l.offset = byteCount (before.flatMap Piece.text)
  column : l.column = 1 + (lastLine (before.flatMap Piece.text)).length
  /-- The line end behind a comment that ends in a carriage return counts twice. -/
  line : l.line = 1 + lineEnds (before.flatMap Piece.text) + before.countP Piece.isReturnComment

/-- The pieces do not matter if no comment among them ends in a carriage return. -/
theorem Places.eq_past_iff (h : Places before l) :
    l = Location.start.past (before.flatMap Piece.text) ↔
      ∀ q ∈ before, q.isReturnComment = false := by
  have line := Location.line_past .start (before.flatMap Piece.text)
  have column : (Location.start.past (before.flatMap Piece.text)).column =
      1 + (lastLine (before.flatMap Piece.text)).length :=
    Location.column_past [] fun _ => rfl
  have offset := Location.past_offset .start (before.flatMap Piece.text)
  rw [show Location.start.offset = 0 from rfl, Nat.zero_add, ← h.offset] at offset
  rw [← h.column] at column
  rw [show Location.start.line = 1 from rfl] at line
  have none : before.countP Piece.isReturnComment = 0 ↔ ∀ q ∈ before, q.isReturnComment = false := by
    simp only [List.countP_eq_zero, Bool.not_eq_true]
  rw [← none]
  have total := h.line
  -- the column and the offset agree on both sides, so the lines decide
  constructor
  · intro same
    rw [← same] at line
    omega
  · intro zero
    have same : l.line = (Location.start.past (before.flatMap Piece.text)).line := by omega
    cases l
    exact Location.mk.injEq .. ▸ ⟨same, column.symm, offset.symm⟩

/-- Columns and offsets of tokens are those of the source, and a line is further down by the number
of comments before it that end in a carriage return. So a location is the one that the text before it
has, taken at once, if and only if there is no such comment. -/
theorem location_of_tokens {source : String} {ts : List Token} (h : tokens source = .ok ts) :
    ∀ t ∈ ts, ∃ before after,
      scan .start source.toList =
        before ++ ⟨some t.kind, t.lexeme.toList, t.location⟩ :: after ∧
      Places before t.location ∧
      (t.location = Location.start.past (before.flatMap Piece.text) ↔
        ∀ q ∈ before, q.isReturnComment = false) := by
  intro t ht
  obtain ⟨tokens, members⟩ := exists_piece_of_significant h
  obtain ⟨kept, member⟩ := members t ht
  obtain ⟨before, after, split⟩ := List.append_of_mem member
  have start := head_of_scan split rfl kept
  have places : Places before t.location := by
    refine ⟨?_, ?_, ?_⟩
    · have offset := offset_of_scan split
      rw [show Location.start.offset = 0 from rfl, Nat.zero_add] at offset
      exact offset
    · exact column_of_scan [] split (fun _ => rfl) start
    · refine line_of_scan split (fun q hq => tokens q ?_) start
      rw [split]
      exact List.mem_append_left _ hq
  exact ⟨before, after, split, places, places.eq_past_iff⟩

/-- The two characters of a line end are counted apart behind a comment. -/
theorem tokens_behind_comment :
    tokens "//\r\nA" = .ok [⟨.identifier, "A", ⟨3, 1, 4⟩⟩] ∧
      ∃ before after,
        scan .start "//\r\nA".toList = before ++ ⟨some .identifier, ['A'], ⟨3, 1, 4⟩⟩ :: after ∧
        Places before ⟨3, 1, 4⟩ ∧
        (⟨3, 1, 4⟩ = Location.start.past (before.flatMap Piece.text) ↔
          ∀ q ∈ before, q.isReturnComment = false) := by
  have read : tokens "//\r\nA" = .ok [⟨.identifier, "A", ⟨3, 1, 4⟩⟩] := by decide +kernel
  exact ⟨read, location_of_tokens read _ List.mem_cons_self⟩

/-- The line of a token is not always the one that the text before it ends in. -/
theorem not_line_eq_lineEnds :
    ¬∀ source ts, tokens source = .ok ts → ∀ t ∈ ts, ∀ before after,
      source.toList = before ++ t.lexeme.toList ++ after → byteCount before = t.location.offset →
        t.location.line = 1 + lineEnds before := by
  intro right
  have read : tokens "//\r\nA" = .ok [⟨.identifier, "A", ⟨3, 1, 4⟩⟩] := by decide +kernel
  have two := right _ _ read _ List.mem_cons_self ['/', '/', '\r', '\n'] [] rfl rfl
  revert two
  decide

end Source

end JavaStub
