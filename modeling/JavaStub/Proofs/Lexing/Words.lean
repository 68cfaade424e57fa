import JavaStub.Proofs.Completeness.Angles
import JavaStub.Proofs.Lexing.Lexemes
import JavaStub.Token.Scan

/-!
# The words of a text

`Spells cs ws` says that the text `cs` is cut into the words `ws`, blanks and comments left out.
It is a relation between texts alone, so a text is spelled from its end: one lexeme is put in front
of what is spelled already, if it cannot go on there.

Main facts:

1. `Spells.tokens`: a text has the tokens that it spells.
2. `Spells.word`, `Spells.mark`, `Spells.blank`: lexemes in front of a text.
3. `Spells.angles`: closing angles in a row are spelled by lexemes that are taken apart into them.
4. `isLexeme_of_tokens`: the tokens of a source are lexemes.
-/

namespace JavaStub

open Token (Kind)

open Token

variable {c : Char} {cs w rest : List Char} {k : Kind} {ws vs : List Word}

/-- The text is cut into these words, with blanks and comments between them. -/
inductive Spells : List Char → List Word → Prop
  | nil : Spells [] []
  | lexeme {c : Char} {cs : List Char} {k : Kind} {more : Nat} {ws : List Word}
      (next : cut c cs = (some k, more)) (kept : k.isTrivia = false)
      (rest : Spells (cs.drop more) ws) :
      Spells (c :: cs) (⟨k, String.ofList (c :: cs.take more)⟩ :: ws)
  | trivia {c : Char} {cs : List Char} {k : Kind} {more : Nat} {ws : List Word}
      (next : cut c cs = (some k, more)) (passed : k.isTrivia = true)
      (rest : Spells (cs.drop more) ws) : Spells (c :: cs) ws

namespace Spells

/-! ## Words and tokens -/

theorem significant (h : Spells cs ws) (l : Location) :
    ∃ ts, Source.significant (Source.scan l cs) = .ok ts ∧ ts.map Token.word = ws := by
  induction h generalizing l with
  | nil => exact ⟨[], by rw [Source.scan_nil, Source.significant], rfl⟩
  | @lexeme c cs k more ws next kept _ ih =>
    obtain ⟨ts, found, same⟩ := ih (l.past (c :: cs.take more))
    refine ⟨⟨k, String.ofList (c :: cs.take more), l⟩ :: ts, ?_, by rw [List.map_cons, same]; rfl⟩
    rw [Source.scan_cons, next, Source.significant]
    simp [kept, found, Except.map]
  | @trivia c cs k more ws next passed _ ih =>
    obtain ⟨ts, found, same⟩ := ih (l.past (c :: cs.take more))
    refine ⟨ts, ?_, same⟩
    rw [Source.scan_cons, next, Source.significant]
    simp [passed, found]

/-- A text has the tokens that it spells. -/
theorem tokens {source : String} (h : Spells source.toList ws) :
    ∃ ts, Source.tokens source = .ok ts ∧ ts.map Token.word = ws :=
  h.significant .start

/-! ## Lexemes in front of a text -/

/-- A lexeme that is cut off exactly. -/
theorem of_cut (next : cut c (w ++ rest) = (some k, w.length)) (kept : k.isTrivia = false)
    (more : Spells rest ws) :
    Spells (c :: w ++ rest) (⟨k, String.ofList (c :: w)⟩ :: ws) := by
  have behind : Spells ((w ++ rest).drop w.length) ws := by
    rw [List.drop_left]
    exact more
  have first := Spells.lexeme next kept behind
  rw [List.take_left] at first
  exact first

theorem word (h : IsWord k w) (kept : k.isTrivia = false) (ends : EndsWord rest)
    (more : Spells rest ws) : Spells (w ++ rest) (⟨k, String.ofList w⟩ :: ws) := by
  cases w with
  | nil => cases h.starts
  | cons c w => exact of_cut (cut_word h ends) kept more

theorem mark (h : (k, c) ∈ marks) (more : Spells rest ws) :
    Spells (c :: rest) (⟨k, String.ofList [c]⟩ :: ws) := by
  have kept : ∀ p ∈ marks, p.1.isTrivia = false := by decide
  exact of_cut (w := []) (cut_mark h rest) (kept _ h) more

theorem ellipsis (more : Spells rest ws) :
    Spells ('.' :: '.' :: '.' :: rest) (⟨.ellipsis, "..."⟩ :: ws) :=
  of_cut (w := ['.', '.']) (cut_ellipsis rest) rfl more

theorem dot (start : rest.head?.any startsArgument = true) (more : Spells rest ws) :
    Spells ('.' :: rest) (⟨.dot, "."⟩ :: ws) :=
  of_cut (w := []) (cut_before_start (by decide) start) rfl more

theorem openingAngle (start : rest.head?.any startsArgument = true)
    (more : Spells rest ws) : Spells ('<' :: rest) (⟨.lt, "<"⟩ :: ws) :=
  of_cut (w := []) (cut_before_start (by decide) start) rfl more

theorem zero (more : Spells (';' :: rest) ws) :
    Spells ('0' :: ';' :: rest) (⟨.integerLiteral, "0"⟩ :: ws) :=
  of_cut (w := []) (cut_zero rest) rfl more

/-! ## Closing angles -/

/-- Up to three closing angles are one lexeme. -/
theorem fusedAngles {n : Nat} (hn : n < 3)
    (ends : ∀ c ∈ rest.head?, c ≠ '=' ∧ (n < 2 → c ≠ '>')) (more : Spells rest ws) :
    ∃ w : Word, w.unfused = List.replicate (n + 1) Word.closing ∧
      Spells (List.replicate (n + 1) '>' ++ rest) (w :: ws) := by
  have kept : (angles (n + 1)).isTrivia = false := by
    rcases n with _ | _ | n <;> rfl
  have count : Cursor.angleCount (angles (n + 1)) = n + 1 := by
    obtain rfl | rfl | rfl : n = 0 ∨ n = 1 ∨ n = 2 := by omega
    · rfl
    · rfl
    · rfl
  have first := of_cut (w := List.replicate n '>') (k := angles (n + 1))
    (by rw [cut_angles hn ends, List.length_replicate]) kept more
  refine ⟨_, ?_, first⟩
  rw [Word.unfused_eq_replicate (by rw [count]; exact Nat.succ_ne_zero n), count]

/-- Closing angles in a row are spelled by lexemes that are taken apart into them. -/
theorem angles (n : Nat) (ends : EndsAngles rest) (more : Spells rest ws) :
    ∃ us, unfused us = List.replicate n Word.closing ∧
      Spells (List.replicate n '>' ++ rest) (us ++ ws) := by
  have equals : ∀ c ∈ rest.head?, c ≠ '=' := fun c hc h => ends c hc (by rw [h]; decide)
  have angle : ∀ c ∈ rest.head?, c ≠ '>' := fun c hc h => ends c hc (by rw [h]; decide)
  -- the angles beyond the first three are spelled first, and a lexeme of three ends before them
  induction n using Nat.strong_induction_on with
  | _ n ih =>
    rcases n with _ | n
    · exact ⟨[], rfl, more⟩
    by_cases hn : n < 3
    · obtain ⟨w, taken, first⟩ := fusedAngles hn (fun c hc => ⟨equals c hc, fun _ => angle c hc⟩) more
      exact ⟨[w], by rw [unfused_cons, taken]; exact List.append_nil _, first⟩
    · obtain ⟨m, rfl⟩ := Nat.exists_eq_add_of_le' (Nat.le_of_not_lt hn)
      obtain ⟨us, spelled, all⟩ := ih (m + 1) (by omega)
      have next : ∀ c ∈ (List.replicate (m + 1) '>' ++ rest).head?, c ≠ '=' ∧ (2 < 2 → c ≠ '>') := by
        intro c hc
        obtain rfl : '>' = c := Option.some.inj hc
        decide
      obtain ⟨w, taken, first⟩ := fusedAngles (by decide) next all
      have split : m + 3 + 1 = 3 + (m + 1) := by omega
      refine ⟨w :: us, ?_, ?_⟩
      · rw [unfused_cons, taken, spelled, ← List.replicate_add, split]
      · rw [split, List.replicate_add, List.append_assoc]
        exact first

/-! ## Blanks and comments -/

/-- White space in front of a text, which may start with more of it. -/
theorem blank (hc : c ∈ blanks) (more : Spells rest ws) : Spells (c :: rest) ws := by
  refine .trivia (cut_blank hc rest) rfl ?_
  cases rest with
  | nil => exact more
  | cons d ds =>
    by_cases hd : d ∈ blanks
    · rw [List.takeWhile_cons_of_pos (CharClass.contains_anyOf.mpr hd), List.length_cons,
        List.drop_succ_cons]
      have same := cut_blank hd ds
      cases more with
      | lexeme next kept => rw [same] at next; cases next; cases kept
      | trivia next _ rest => rw [same] at next; cases next; exact rest
    · rw [List.takeWhile_cons_of_neg (fun h => hd (CharClass.contains_anyOf.mp h))]
      exact more

/-- A comment through the end of its line. -/
theorem comment (h : '\n' ∉ cs) (more : Spells rest ws) :
    Spells ('/' :: '/' :: (cs ++ '\n' :: rest)) ws := by
  refine .trivia (cut_line h rest) rfl ?_
  rw [List.drop_succ_cons, List.drop_left]
  exact blank (by decide) more

end Spells

/-! ## The tokens of a source -/

/-- The tokens of a source are lexemes. -/
theorem isLexeme_of_significant {l : Location} {ts : List Token}
    (h : Source.significant (Source.scan l cs) = .ok ts) :
    ∀ t ∈ ts, t.kind ≠ .textBlock → IsLexeme t.kind t.lexeme.toList := by
  fun_induction Source.scan l cs generalizing ts with
  | case1 l =>
    cases h
    exact fun t ht => absurd ht List.not_mem_nil
  | case2 l c cs kind more next text =>
    rename_i ih
    rw [Source.significant] at h
    cases kind with
    | none => cases h
    | some k =>
      dsimp only at h
      split at h
      · exact ih h
      · cases found : Source.significant (Source.scan (l.past text) (cs.drop more)) with
        | error e => rw [found] at h; cases h
        | ok us =>
          rw [found] at h
          cases h
          intro t ht other
          rcases List.mem_cons.mp ht with rfl | ht
          · show IsLexeme k (String.ofList text).toList
            rw [String.toList_ofList]
            exact isLexeme_of_cut next other
          · exact ih found t ht other

end JavaStub
