import JavaStub.Proofs.Lexing.LineEnds
import JavaStub.Proofs.Lexing.TextBlocks
import JavaStub.Proofs.Lexing.Words

/-!
# Lexemes apart from each other

The lexemes of a source are written again, in order and with nothing but white space between them.
Each is then cut off as before, although it stands before white space now: a lexeme that goes on
over white space is a comment or white space itself, or it is in quotes, and then it ends with the
first quote that no backslash takes along. A text block ends before white space as it does before
anything but a quote.

Main facts:

1. `not_matches_behind_quote`: what is in quotes ends with its closing quote.
2. `not_matches_over_blank`: no rule matches a lexeme with white space behind it.
3. `cut_before_blank`: a lexeme is cut off again before white space.
4. `tokens_of_respaces`: so the lexemes have the same kinds again.
-/

namespace JavaStub

open Token (Kind)

variable {c q : Char} {cs ds rest u v w : List Char} {k : Kind} {n : Nat}

namespace Regex

variable {r s : Regex}

/-- The classes of the characters of a matching text. -/
def classes : Regex → List CharClass
  | .empty => []
  | .char s => [s]
  | .seq r s => r.classes ++ s.classes
  | .alt r s => r.classes ++ s.classes
  | .star r => r.classes

theorem exists_class_of_matches (h : Matches r w) (hc : c ∈ w) :
    ∃ s ∈ r.classes, s.contains c = true := by
  induction h with
  | empty => cases hc
  | @char s d member =>
    obtain rfl := List.mem_singleton.mp hc
    exact ⟨s, List.mem_singleton_self s, member⟩
  | seq _ _ ihLeft ihRight =>
    rcases List.mem_append.mp hc with hc | hc
    · obtain ⟨s, hs, member⟩ := ihLeft hc
      exact ⟨s, List.mem_append_left _ hs, member⟩
    · obtain ⟨s, hs, member⟩ := ihRight hc
      exact ⟨s, List.mem_append_right _ hs, member⟩
  | altLeft _ ih =>
    obtain ⟨s, hs, member⟩ := ih hc
    exact ⟨s, List.mem_append_left _ hs, member⟩
  | altRight _ ih =>
    obtain ⟨s, hs, member⟩ := ih hc
    exact ⟨s, List.mem_append_right _ hs, member⟩
  | starNil => cases hc
  | starCons _ _ ihHead ihTail =>
    rcases List.mem_append.mp hc with hc | hc
    · exact ihHead hc
    · exact ihTail hc

theorem readAll_append (live : List (Kind × Regex)) (w v : List Char) :
    readAll live (w ++ v) = readAll (readAll live w) v := by
  induction w generalizing live with
  | nil => rfl
  | cons c w ih => exact ih (read c live)

/-- What starts with a fixed text starts with this text. -/
theorem start_of_matches (h : Matches (.seq (text v) r) w) : v <+: w := by
  obtain ⟨x, y, rfl, left, _⟩ := matches_seq_iff.mp h
  rw [matches_text_iff.mp left]
  exact List.prefix_append v y

end Regex

namespace Token

open Regex (Matches concat munch opt read)

variable {r body : Regex} {s : CharClass}

/-! ## Lexemes in quotes -/

/-- The number of characters before the first quote `q` that no backslash takes along. -/
def lengthToQuote (q : Char) : List Char → Option Nat
  | [] => none
  | '\\' :: _ :: cs => (lengthToQuote q cs).map (· + 2)
  | c :: cs => if c = q then some 0 else (lengthToQuote q cs).map (· + 1)

/-- Texts that match the expression have no quote `q` but behind backslashes. -/
def Passes (q : Char) (r : Regex) : Prop :=
  ∀ u, Matches r u → ∀ rest, lengthToQuote q (u ++ rest) =
    (lengthToQuote q rest).map (· + u.length)

theorem passes_empty : Passes q .empty := by
  intro u h rest
  rw [Regex.matches_empty_iff.mp h]
  simp

theorem passes_char (quote : s.contains q = false) (backslash : s.contains '\\' = false) :
    Passes q (.char s) := by
  intro u h rest
  obtain ⟨c, rfl, member⟩ := Regex.matches_char_iff.mp h
  have hq : c ≠ q := fun same => by rw [same, quote] at member; cases member
  have hb : c ≠ '\\' := fun same => by rw [same, backslash] at member; cases member
  show lengthToQuote q (c :: rest) = _
  rw [lengthToQuote, if_neg hq]
  · rfl
  · rintro d ds rfl
    exact absurd rfl hb

theorem Passes.seq {s : Regex} (hr : Passes q r) (hs : Passes q s) : Passes q (.seq r s) := by
  intro w h rest
  obtain ⟨u, v, rfl, left, right⟩ := Regex.matches_seq_iff.mp h
  rw [List.append_assoc, hr u left, hs v right, Option.map_map]
  congr 1
  funext m
  simp only [Function.comp_apply, List.length_append]
  omega

theorem Passes.alt {s : Regex} (hr : Passes q r) (hs : Passes q s) : Passes q (.alt r s) := by
  intro u h
  rcases Regex.matches_alt_iff.mp h with left | right
  · exact hr u left
  · exact hs u right

theorem Passes.star (hr : Passes q r) : Passes q (.star r) := by
  intro w h
  -- of the ways to match only the two of a star remain, and the induction is over its rounds
  generalize same : Regex.star r = s at h
  induction h with
  | empty => cases same
  | char => cases same
  | seq => cases same
  | altLeft => cases same
  | altRight => cases same
  | starNil =>
    intro rest
    simp
  | @starCons r' u v head tail _ ihTail =>
    cases same
    intro rest
    rw [List.append_assoc, hr u head, ihTail rfl, Option.map_map]
    congr 1
    funext m
    simp only [Function.comp_apply, List.length_append]
    omega

theorem Passes.opt (hr : Passes q r) : Passes q (opt r) := hr.alt passes_empty

/-- A backslash takes a character along, whatever it is. -/
theorem passes_escape (hr : Passes q r) :
    Passes q (.seq (oneOf ['\\']) (.seq (one s) r)) := by
  intro w h rest
  obtain ⟨b, x, rfl, left, right⟩ := Regex.matches_seq_iff.mp h
  obtain ⟨d, v, rfl, middle, tail⟩ := Regex.matches_seq_iff.mp right
  obtain ⟨b, rfl, backslash⟩ := Regex.matches_char_iff.mp left
  obtain ⟨d, rfl, _⟩ := Regex.matches_char_iff.mp middle
  obtain rfl := List.mem_singleton.mp (CharClass.contains_anyOf.mp backslash)
  show lengthToQuote q ('\\' :: d :: (v ++ rest)) = _
  rw [lengthToQuote, hr v tail, Option.map_map]
  rfl

theorem passes_simpleEscape : Passes q simpleEscape := by
  intro u h
  obtain ⟨b, d, rfl, left, right⟩ := Regex.matches_seq_iff.mp h
  have whole := Matches.seq left (Matches.seq right .empty)
  rw [List.append_nil] at whole
  exact passes_escape passes_empty _ whole

theorem passes_octalEscape (hq : octalDigit.contains q = false) : Passes q octalEscape := by
  have digit : Passes q (one octalDigit) := passes_char hq (by decide)
  exact passes_escape (digit.opt.seq (digit.opt.seq passes_empty))

theorem passes_unicodeEscape (hq : hexDigit.contains q = false) : Passes q unicodeEscape := by
  have digit : Passes q (one hexDigit) := passes_char hq (by decide)
  have start : Passes q (Regex.text ['\\', 'u']) := passes_escape passes_empty
  exact start.seq (digit.seq (digit.seq (digit.seq (digit.seq passes_empty))))

/-- Something in quotes. -/
def quoted (q : Char) (body : Regex) : Regex := concat [oneOf [q], body, oneOf [q]]

theorem matches_quoted_iff :
    Matches (quoted q body) w ↔ ∃ u, Matches body u ∧ w = q :: (u ++ [q]) := by
  constructor
  · intro h
    obtain ⟨x, y, rfl, left, inner⟩ := Regex.matches_seq_iff.mp h
    obtain ⟨u, y, rfl, middle, last⟩ := Regex.matches_seq_iff.mp inner
    obtain ⟨z, y, rfl, right, none⟩ := Regex.matches_seq_iff.mp last
    obtain ⟨a, rfl, ha⟩ := Regex.matches_char_iff.mp left
    obtain ⟨b, rfl, hb⟩ := Regex.matches_char_iff.mp right
    obtain rfl := List.mem_singleton.mp (CharClass.contains_anyOf.mp ha)
    obtain rfl := List.mem_singleton.mp (CharClass.contains_anyOf.mp hb)
    rw [Regex.matches_empty_iff.mp none]
    exact ⟨u, middle, rfl⟩
  · rintro ⟨u, h, rfl⟩
    have quote : Matches (oneOf [q]) [q] :=
      .char (CharClass.contains_anyOf.mpr (List.mem_singleton_self q))
    exact .seq quote (.seq h (.seq quote .empty))

theorem lengthToQuote_quote (hq : q ≠ '\\') : lengthToQuote q (q :: cs) = some 0 := by
  rw [lengthToQuote, if_pos rfl]
  rintro d ds rfl
  exact absurd rfl hq

/-- What is in quotes ends with its closing quote. -/
theorem not_matches_behind_quote (hq : q ≠ '\\') (passes : Passes q body)
    (h : Matches (quoted q body) w) : ¬Matches (quoted q body) (w ++ c :: v) := by
  intro longer
  obtain ⟨u, hu, rfl⟩ := matches_quoted_iff.mp h
  obtain ⟨u', hu', same⟩ := matches_quoted_iff.mp longer
  have inner : u ++ q :: c :: v = u' ++ [q] := by simpa using (List.cons.inj same).2
  have length := passes u hu (q :: c :: v)
  rw [inner, passes u' hu' [q], lengthToQuote_quote hq, lengthToQuote_quote hq] at length
  have closing := (List.append_inj inner (by simpa using length.symm)).2
  cases closing

/-- What stands between the quotes of a string. -/
def stringBody : Regex :=
  .star (.alt (one (.noneOf ['"', '\\'])) (.alt unicodeEscape simpleEscape))

/-- What stands between the quotes of a character. -/
def charBody : Regex :=
  .alt (one (.noneOf ['\'', '\\'])) (.alt unicodeEscape (.alt octalEscape simpleEscape))

theorem passes_stringBody : Passes '"' stringBody :=
  ((passes_char (by decide) (by decide)).alt
    ((passes_unicodeEscape (by decide)).alt passes_simpleEscape)).star

theorem passes_charBody : Passes '\'' charBody :=
  (passes_char (by decide) (by decide)).alt
    ((passes_unicodeEscape (by decide)).alt
      ((passes_octalEscape (by decide)).alt passes_simpleEscape))

theorem rule_of_quote : ∀ rule ∈ rules, ∀ s ∈ rule.2.firsts,
    (s.contains '"' = true → rule.2 = quoted '"' stringBody) ∧
      (s.contains '\'' = true → rule.2 = quoted '\'' charBody) := by
  decide +kernel

/-! ## Lexemes before white space -/

/-- White space is next, or nothing. -/
def EndsBlank (cs : List Char) : Prop := ∀ c ∈ cs.head?, c ∈ blanks

theorem start_of_endsBlank (away : v.all (· ∉ blanks) = true) (ends : EndsBlank rest)
    (h : v <+: w ++ rest) : v <+: w := by
  induction v generalizing w with
  | nil => exact List.nil_prefix
  | cons d v ih =>
    rw [List.all_cons, Bool.and_eq_true, decide_eq_true_eq] at away
    cases w with
    | nil =>
      obtain ⟨tail, rfl⟩ := h
      exact absurd (ends d rfl) away.1
    | cons c w =>
      obtain ⟨rfl, tail⟩ := List.cons_prefix_cons.mp h
      exact (List.prefix_cons_inj d).mpr (ih away.2 tail)

/-- With what a comment or white space starts, and no other lexeme. -/
def triviaStarts : List (List Char) := ['/', '/'] :: ['/', '*'] :: blanks.map ([·])

theorem isTrivia_of_start (h : IsLexeme k w) (hv : v ∈ triviaStarts) (start : v <+: w) :
    k.isTrivia = true := by
  have only : ∀ v ∈ triviaStarts, ∀ rule ∈ Regex.readAll rules v, rule.1.isTrivia = true := by
    decide +kernel
  obtain ⟨tail, rfl⟩ := start
  unfold IsLexeme at h
  rw [Regex.readAll_append] at h
  obtain ⟨r, hr, _⟩ := Regex.exists_of_accepted h
  exact only v hv _ hr

/-- Only what is in quotes, comments and white space hold white space. -/
theorem rule_of_blank : ∀ rule ∈ rules,
    rule.2.classes.any (fun s => blanks.any s.contains) = true →
      rule.2 ∈ [quoted '"' stringBody, quoted '\'' charBody, lineCommentRule, blockCommentRule,
        whitespaceRule] := by
  decide +kernel

/-- No rule matches a lexeme with white space behind it. -/
theorem not_matches_over_blank {d : Char} {k' : Kind} (lexeme : IsLexeme k (c :: w))
    (kept : k.isTrivia = false) (hr : (k', r) ∈ rules) (blank : d ∈ blanks) :
    ¬Matches r (c :: w ++ d :: v) := by
  intro matched
  have starts : ∀ u ∈ triviaStarts, ¬u <+: c :: w := fun u hu start => by
    rw [isTrivia_of_start lexeme hu start] at kept
    cases kept
  have ends : EndsBlank (d :: v) := fun e he => by
    obtain rfl : d = e := Option.some.inj he
    exact blank
  obtain ⟨r₀, hr₀, alone⟩ := Regex.exists_of_accepted lexeme
  obtain ⟨t, ht, first⟩ := Regex.exists_first_of_matches alone
  have holds : r.classes.any (fun s => blanks.any s.contains) = true := by
    obtain ⟨s, hs, member⟩ := Regex.exists_class_of_matches (c := d) matched (by simp)
    exact List.any_eq_true.mpr ⟨s, hs, List.any_eq_true.mpr ⟨d, blank, member⟩⟩
  have which := rule_of_blank _ hr holds
  simp only [List.mem_cons, List.not_mem_nil, or_false] at which
  rcases which with rfl | rfl | rfl | rfl | rfl
  · obtain ⟨u, _, same⟩ := matches_quoted_iff.mp matched
    obtain rfl := (List.cons.inj same).1
    rw [show r₀ = _ from (rule_of_quote _ hr₀ t ht).1 first] at alone
    exact not_matches_behind_quote (by decide) passes_stringBody alone matched
  · obtain ⟨u, _, same⟩ := matches_quoted_iff.mp matched
    obtain rfl := (List.cons.inj same).1
    rw [show r₀ = _ from (rule_of_quote _ hr₀ t ht).2 first] at alone
    exact not_matches_behind_quote (by decide) passes_charBody alone matched
  · exact starts ['/', '/'] (by decide)
      (start_of_endsBlank (by decide) ends (Regex.start_of_matches matched))
  · exact starts ['/', '*'] (by decide)
      (start_of_endsBlank (by decide) ends (Regex.start_of_matches matched))
  · obtain ⟨x, y, same, left, _⟩ := Regex.matches_seq_iff.mp matched
    obtain ⟨b, rfl, member⟩ := Regex.matches_char_iff.mp left
    obtain rfl := (List.cons.inj same).1
    have hc : c ∈ blanks := CharClass.contains_anyOf.mp member
    refine starts [c] ?_ (List.prefix_append [c] w)
    exact List.mem_cons_of_mem _ (List.mem_cons_of_mem _ (List.mem_map_of_mem hc))

/-- A text block ends where no quote follows it. -/
theorem textBlockLengthFrom_take {run : Nat} (h : textBlockLengthFrom run cs = some n)
    (next : rest.head? ≠ some '"') : textBlockLengthFrom run (cs.take n ++ rest) = some n := by
  fun_induction textBlockLengthFrom run cs generalizing n with
  | case1 run long =>
    cases h
    exact textBlockLengthFrom_stop long next
  | case2 => cases h
  | case3 run cs ih =>
    obtain ⟨m, hm, rfl⟩ := Option.map_eq_some_iff.mp h
    show textBlockLengthFrom run ('"' :: (cs.take m ++ rest)) = some (m + 1)
    rw [textBlockLengthFrom, ih hm]
    rfl
  | case4 run c cs _ long =>
    cases h
    exact textBlockLengthFrom_stop long next
  | case5 => cases h
  | case6 run short d ds _ ih =>
    obtain ⟨m, hm, rfl⟩ := Option.map_eq_some_iff.mp h
    show textBlockLengthFrom run ('\\' :: d :: (ds.take m ++ rest)) = some (m + 2)
    rw [textBlockLengthFrom_escape short, ih hm]
    rfl
  | case7 run c cs quote short backslash ih =>
    obtain ⟨m, hm, rfl⟩ := Option.map_eq_some_iff.mp h
    show textBlockLengthFrom run (c :: (cs.take m ++ rest)) = some (m + 1)
    rw [textBlockLengthFrom_single quote backslash short, ih hm]
    rfl

theorem length_take_of_cut {kind : Option Kind} (h : cut c cs = (kind, n)) :
    (cs.take n).length = n := by
  have within := cut_le c cs
  rw [h] at within
  exact List.length_take_of_le within

/-- A lexeme is cut off again where white space follows it. -/
theorem cut_before_blank (h : cut c cs = (some k, n)) (kept : k.isTrivia = false)
    (ends : EndsBlank rest) : cut c (cs.take n ++ rest) = (some k, n) := by
  -- a text block is cut by hand, and all others are the longest match of the rules
  by_cases block : k = .textBlock
  · subst block
    obtain ⟨ds, m, rfl, rfl, rfl, closed⟩ := closed_of_cut_textBlock h
    have next : rest.head? ≠ some '"' := fun quote => absurd (ends '"' quote) (by decide)
    show cut '"' ('"' :: '"' :: (ds.take m ++ rest)) = _
    rw [textBlockLength_eq] at closed
    rw [cut_textBlock, textBlockLength_eq, textBlockLengthFrom_take closed next]
  · have lexeme := isLexeme_of_cut h block
    have again : munch (read c rules) (cs.take n ++ rest) = some (k, (cs.take n).length) := by
      refine Regex.munch_eq lexeme fun k' r hr v hv nonempty matched => ?_
      obtain ⟨d, v, rfl⟩ := List.exists_cons_of_ne_nil nonempty
      obtain ⟨tail, rfl⟩ := hv
      obtain ⟨r', hr', whole⟩ := Regex.exists_matches_cons_iff.mpr ⟨r, hr, matched⟩
      exact not_matches_over_blank lexeme kept hr' (ends d rfl) whole
    rw [length_take_of_cut h] at again
    refine cut_of_munch (fun quotes => ?_) (fun comment => ?_) again
    · have opens := start_of_endsBlank (w := c :: cs.take n) (by decide) ends quotes
      have whole := opens.trans (List.prefix_append (c :: cs.take n) (cs.drop n))
      rw [List.cons_append, List.take_append_drop] at whole
      exact block (closed_of_cut whole h).1
    · obtain ⟨ds, same, _⟩ := comment
      have opens : ['/', '*'] <+: c :: cs.take n :=
        start_of_endsBlank (by decide) ends ⟨ds, same.symm⟩
      rw [isTrivia_of_start lexeme (by decide) opens] at kept
      cases kept

end Token

/-! ## Texts of lexemes apart -/

namespace Source

open Token (EndsBlank blanks cut)

variable {l : Location} {ts : List Token} {ws : List Word}

/-- The text is cut off somewhere, as a lexeme of the kind that is kept. -/
def IsKept (k : Kind) (w : List Char) : Prop :=
  k.isTrivia = false ∧ ∃ c cs n, cut c cs = (some k, n) ∧ w = c :: cs.take n

theorem exists_cut_of_mem_scan {p : Piece} (h : p ∈ scan l cs) :
    ∃ c ds n, cut c ds = (p.kind, n) ∧ p.text = c :: ds.take n := by
  fun_induction scan l cs with
  | case1 => cases h
  | case2 l c cs kind more next text ih =>
    rcases List.mem_cons.mp h with rfl | h
    · exact ⟨c, cs, more, next, rfl⟩
    · exact ih h

/-- The tokens of a source are cut off it. -/
theorem isKept_of_tokens {source : String} (h : tokens source = .ok ts) :
    ∀ t ∈ ts, IsKept t.kind t.lexeme.toList := by
  intro t ht
  obtain ⟨kept, member⟩ := (exists_piece_of_significant h).2 t ht
  exact ⟨kept, exists_cut_of_mem_scan member⟩

/-- Nothing but white space. -/
def IsBlank (cs : List Char) : Prop := ∀ c ∈ cs, c ∈ blanks

instance (cs : List Char) : Decidable (IsBlank cs) := List.decidableBAll (· ∈ blanks) cs

/-- The lexemes of the tokens in order, each with white space behind it. There is some between two
lexemes. -/
inductive Spaced : List Token → List Char → Prop
  | nil : Spaced [] []
  | cons {t : Token} {gap : List Char} {ts : List Token} {cs : List Char} (blank : IsBlank gap)
      (apart : ts ≠ [] → gap ≠ []) (more : Spaced ts cs) :
      Spaced (t :: ts) (t.lexeme.toList ++ (gap ++ cs))

/-- The text has the lexemes of the tokens in order, with white space around and between them. -/
def Respaces (ts : List Token) (text : String) : Prop :=
  ∃ before cs, IsBlank before ∧ Spaced ts cs ∧ text.toList = before ++ cs

theorem spells_blank (blank : IsBlank cs) (h : Spells rest ws) : Spells (cs ++ rest) ws := by
  induction cs with
  | nil => exact h
  | cons c cs ih =>
    exact .blank (blank c List.mem_cons_self) (ih fun d hd => blank d (List.mem_cons_of_mem c hd))

theorem spells_kept (h : IsKept k w) (ends : EndsBlank rest) (more : Spells rest ws) :
    Spells (w ++ rest) (⟨k, String.ofList w⟩ :: ws) := by
  obtain ⟨kept, c, cs, n, next, rfl⟩ := h
  refine Spells.of_cut ?_ kept more
  rw [Token.length_take_of_cut next]
  exact Token.cut_before_blank next kept ends

theorem spells_spaced (h : Spaced ts cs) (kept : ∀ t ∈ ts, IsKept t.kind t.lexeme.toList) :
    Spells cs (ts.map Token.word) := by
  induction h with
  | nil => exact .nil
  | @cons t gap ts cs blank apart more ih =>
    -- a gap is empty only behind the last token, where nothing follows
    have ends : EndsBlank (gap ++ cs) := by
      cases gap with
      | nil =>
        cases more with
        | nil => exact fun c hc => by cases hc
        | cons => exact absurd rfl (apart (List.cons_ne_nil _ _))
      | cons c gap =>
        intro d hd
        exact Option.some.inj hd ▸ blank c List.mem_cons_self
    have first := spells_kept (kept t List.mem_cons_self) ends
      (spells_blank blank (ih fun u hu => kept u (List.mem_cons_of_mem t hu)))
    rw [String.ofList_toList] at first
    exact first

/-- The lexemes of a source, written again with white space around and between them, are the same
tokens but for their places, and what is read of them is the same. -/
theorem tokens_of_respaces {source text : String} (h : tokens source = .ok ts)
    (apart : Respaces ts text) :
    ∃ us, tokens text = .ok us ∧ us.map Token.word = ts.map Token.word ∧
      relocate unplaced (CompilationUnit.ofTokens us) =
        relocate unplaced (CompilationUnit.ofTokens ts) := by
  obtain ⟨before, cs, blank, spaced, same⟩ := apart
  have spelled : Spells text.toList (ts.map Token.word) := by
    rw [same]
    exact spells_blank blank (spells_spaced spaced (isKept_of_tokens h))
  obtain ⟨us, found, words⟩ := spelled.tokens
  exact ⟨us, found, words, CompilationUnit.ofTokens_congr words⟩

/-- A number that ends before a letter, and a comment that starts in a string. -/
theorem tokens_of_respaces_touching :
    ∃ ts, tokens "0xG/\"a /* b\"//c\n'\\''" = .ok ts ∧
      Respaces ts "\t0 xG\r\n/ \"a /* b\"\n'\\''" ∧
      ∃ us, tokens "\t0 xG\r\n/ \"a /* b\"\n'\\''" = .ok us ∧
        us.map Token.word = ts.map Token.word ∧
        relocate unplaced (CompilationUnit.ofTokens us) =
          relocate unplaced (CompilationUnit.ofTokens ts) := by
  have read : tokens "0xG/\"a /* b\"//c\n'\\''" = .ok
      [⟨.integerLiteral, "0", ⟨1, 1, 0⟩⟩, ⟨.identifier, "xG", ⟨1, 2, 1⟩⟩,
        ⟨.slash, "/", ⟨1, 4, 3⟩⟩, ⟨.stringLiteral, "\"a /* b\"", ⟨1, 5, 4⟩⟩,
        ⟨.charLiteral, "'\\''", ⟨2, 1, 16⟩⟩] := by
    decide +kernel
  have apart : Respaces _ "\t0 xG\r\n/ \"a /* b\"\n'\\''" :=
    ⟨['\t'], _, by decide,
      @Spaced.cons ⟨.integerLiteral, "0", ⟨1, 1, 0⟩⟩ [' '] _ _ (by decide) (by simp) <|
      @Spaced.cons ⟨.identifier, "xG", ⟨1, 2, 1⟩⟩ ['\r', '\n'] _ _ (by decide) (by simp) <|
      @Spaced.cons ⟨.slash, "/", ⟨1, 4, 3⟩⟩ [' '] _ _ (by decide) (by simp) <|
      @Spaced.cons ⟨.stringLiteral, "\"a /* b\"", ⟨1, 5, 4⟩⟩ ['\n'] _ _ (by decide) (by simp) <|
      @Spaced.cons ⟨.charLiteral, "'\\''", ⟨2, 1, 16⟩⟩ [] _ _ (by decide) (by simp) .nil, rfl⟩
  exact ⟨_, read, apart, tokens_of_respaces read apart⟩

end Source

end JavaStub
