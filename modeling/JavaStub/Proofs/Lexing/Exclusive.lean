import Mathlib.Data.List.Pairwise
import Mathlib.Data.List.Nodup
import JavaStub.Proofs.Lexing.Lexemes

/-!
# Rules exclude each other

No text is matched by two rules, but for keywords, which are identifiers as well. Two expressions
match no common text when reading the characters that both can start with never comes to a pair
that matches the empty text twice, and the pairs that are come to are finitely many.

Main facts:

1. `apart_of_closed`: a closed set of pairs without common texts.
2. `patterns_apart`: the rules with many spellings match no common text.
3. `ruled_exclusive`: a text has one rule, or is a keyword.
-/

namespace JavaStub

namespace CharClass

theorem mem_members {s : CharClass} {c : Char} (finite : s.within (fun _ => true) = true)
    (h : s.contains c = true) : c ∈ s.members := by
  by_contra away
  have listed : s.within (· ∈ s.members) = true := by
    unfold within at finite ⊢
    rw [Bool.and_eq_true] at finite ⊢
    exact ⟨finite.1, List.all_eq_true.mpr fun d hd => decide_eq_true hd⟩
  rw [contains_eq_false listed (decide_eq_false away)] at h
  cases h

end CharClass

namespace Regex

/-- Whether a text is matched is seen by reading it. -/
def decideMatches : (w : List Char) → (r : Regex) → Decidable (Matches r w)
  | [], _ => decidable_of_iff _ matches_nil_iff.symm
  | c :: w, r =>
    have : ∀ q, Decidable (Matches q w) := decideMatches w
    decidable_of_iff (∃ q ∈ r.partials c, Matches q w) matches_cons_iff.symm

instance (r : Regex) (w : List Char) : Decidable (Matches r w) := decideMatches w r

/-- Is no text matched by both expressions? -/
def Apart (r s : Regex) : Prop := ∀ w, Matches r w → ¬Matches s w

theorem Apart.symm {r s : Regex} (h : Apart r s) : Apart s r := fun w right left => h w left right

/-- The characters that a matching text can start with, if they are finitely many. -/
def starts (r : Regex) : List Char := r.firsts.flatMap CharClass.members

/-- What two expressions come to once both have read the same character. -/
def steps (p : Regex × Regex) : List (Regex × Regex) :=
  p.1.starts.flatMap fun c => (p.1.partials c).flatMap fun q => (p.2.partials c).map fun q' => (q, q')

/-- A pair that does not match the empty text twice, and that goes on to pairs of `S` only. -/
structure Closed (S : List (Regex × Regex)) (p : Regex × Regex) : Prop where
  finite : ∀ s ∈ p.1.firsts, s.within (fun _ => true) = true
  nullable : p.1.nullable = true → p.2.nullable = false
  steps : ∀ q ∈ steps p, q ∈ S

instance (S : List (Regex × Regex)) (p : Regex × Regex) : Decidable (Closed S p) :=
  decidable_of_iff
    ((∀ s ∈ p.1.firsts, s.within (fun _ => true) = true) ∧
      (p.1.nullable = true → p.2.nullable = false) ∧ ∀ q ∈ steps p, q ∈ S)
    ⟨fun h => ⟨h.1, h.2.1, h.2.2⟩, fun h => ⟨h.1, h.2, h.3⟩⟩

/-- Where reading goes on within a set of pairs, none of them has a common text. -/
theorem apart_of_closed {S : List (Regex × Regex)} (closed : ∀ p ∈ S, Closed S p) :
    ∀ p ∈ S, Apart p.1 p.2 := by
  intro p hp w
  -- reading the text moves the pair, but not out of `S`
  induction w generalizing p with
  | nil =>
    intro left right
    rw [matches_nil_iff] at left right
    rw [(closed p hp).nullable left] at right
    cases right
  | cons c w ih =>
    intro left right
    obtain ⟨s, hs, member⟩ := exists_first_of_matches left
    obtain ⟨q, hq, left⟩ := matches_cons_iff.mp left
    obtain ⟨q', hq', right⟩ := matches_cons_iff.mp right
    have start : c ∈ p.1.starts :=
      List.mem_flatMap.mpr ⟨s, hs, CharClass.mem_members ((closed p hp).finite s hs) member⟩
    have next : (q, q') ∈ steps p :=
      List.mem_flatMap.mpr ⟨c, start, List.mem_flatMap.mpr ⟨q, hq, List.mem_map.mpr ⟨q', hq', rfl⟩⟩⟩
    exact ih (q, q') ((closed p hp).steps _ next) left right

/-- Some pairs and those that they come to by one character. -/
def andSteps (S : List (Regex × Regex)) : List (Regex × Regex) := (S ++ S.flatMap steps).eraseDups

theorem mem_andSteps {S : List (Regex × Regex)} {p : Regex × Regex} (h : p ∈ S) :
    p ∈ andSteps S := List.mem_eraseDups.mpr (List.mem_append_left _ h)

end Regex

namespace Token

variable {k k' : Kind} {w : List Char}

/-- Is the kind a keyword? -/
def Kind.isKeyword : Kind → Bool
  | .kwPackage | .kwImport | .kwStatic | .kwPublic | .kwProtected | .kwPrivate | .kwAbstract
  | .kwFinal | .kwNative | .kwSynchronized | .kwTransient | .kwVolatile | .kwStrictfp | .kwDefault
  | .kwClass | .kwInterface | .kwEnum | .kwExtends | .kwImplements | .kwThrows | .kwSuper | .kwThis
  | .kwVoid | .kwBoolean | .kwByte | .kwShort | .kwInt | .kwLong | .kwChar | .kwFloat | .kwDouble =>
    true
  | _ => false

/-- The rules, with one for text blocks, which matches their opening quotes. -/
def declared : List (Kind × Regex) := (.textBlock, Regex.text ['"', '"', '"']) :: rules

/-- Does a rule of the kind match the text? -/
def Ruled (k : Kind) (w : List Char) : Prop := ∃ r, (k, r) ∈ declared ∧ r.Matches w

/-- The kinds with a single spelling or opening, each with it. -/
def spelled : List (Kind × List Char) :=
  (.textBlock, ['"', '"', '"']) :: (.byteOrderMark, ['\ufeff']) ::
    Kind.fixed.map fun entry => (entry.1, entry.2.toList)

/-- The rules with many spellings. -/
def patterns : List (Kind × Regex) :=
  [(.stringLiteral, stringRule), (.charLiteral, charRule), (.hexInteger, hexRule),
   (.binaryInteger, binaryRule), (.integerLiteral, integerRule), (.floatLiteral, floatRule),
   (.lineComment, lineCommentRule), (.blockComment, blockCommentRule),
   (.whitespace, whitespaceRule), (.identifier, identifierRule)]

theorem declared_cases : ∀ rule ∈ declared,
    (∃ e ∈ spelled, rule = (e.1, Regex.text e.2)) ∨ rule ∈ patterns := by
  decide +kernel

theorem spellings_nodup : (spelled.map Prod.snd).Nodup := by decide +kernel

/-- No spelling matches a pattern, but keywords are identifiers. -/
theorem spelled_apart : ∀ e ∈ spelled, ∀ rule ∈ patterns, rule.2.Matches e.2 →
    e.1.isKeyword = true ∧ rule.1 = .identifier := by
  decide +kernel

/-- Every rule with every later one. -/
def pairs : List (Kind × Regex) → List (Regex × Regex)
  | [] => []
  | rule :: rules => rules.map (fun other => (rule.2, other.2)) ++ pairs rules

theorem pairwise_of_pairs {P : Regex → Regex → Prop} {rules : List (Kind × Regex)}
    (h : ∀ p ∈ pairs rules, P p.1 p.2) : rules.Pairwise fun rule other => P rule.2 other.2 := by
  induction rules with
  | nil => exact .nil
  | cons rule rules ih =>
    refine .cons (fun other ho => ?_) (ih fun p hp => h p (List.mem_append_right _ hp))
    exact h (rule.2, other.2) (List.mem_append_left _ (List.mem_map_of_mem ho))

theorem patterns_closed : ∀ p ∈ Regex.andSteps (pairs patterns),
    Regex.Closed (Regex.andSteps (pairs patterns)) p := by
  decide +kernel

/-- No text matches two patterns. -/
theorem patterns_apart : patterns.Pairwise fun rule other => Regex.Apart rule.2 other.2 :=
  pairwise_of_pairs fun p hp =>
    Regex.apart_of_closed patterns_closed p (Regex.mem_andSteps hp)

theorem spelling_exclusive {e e' : Kind × List Char} (he : e ∈ spelled) (he' : e' ∈ spelled)
    (h : e.2 = e'.2) : e.1 = e'.1 := by
  rw [List.inj_on_of_nodup_map spellings_nodup he he' h]

theorem pattern_exclusive {rule other : Kind × Regex} (hr : rule ∈ patterns)
    (ho : other ∈ patterns) (h : rule.2.Matches w) (h' : other.2.Matches w) : rule.1 = other.1 := by
  by_contra different
  have : Std.Symm fun rule other : Kind × Regex => Regex.Apart rule.2 other.2 :=
    ⟨fun _ _ => Regex.Apart.symm⟩
  have apart : Regex.Apart rule.2 other.2 :=
    patterns_apart.forall hr ho fun same => different (congrArg Prod.fst same)
  exact apart w h h'

/-- A text has one rule, or it is a keyword and matched like an identifier as well. -/
theorem ruled_exclusive (h : Ruled k w) (h' : Ruled k' w) :
    k = k' ∨ k.isKeyword = true ∧ k' = .identifier ∨ k = .identifier ∧ k'.isKeyword = true := by
  obtain ⟨r, hr, matched⟩ := h
  obtain ⟨r', hr', matched'⟩ := h'
  rcases declared_cases _ hr with ⟨e, he, same⟩ | hp <;>
    rcases declared_cases _ hr' with ⟨e', he', same'⟩ | hp'
  case inl.inl =>
    cases same
    cases same'
    rw [Regex.matches_text_iff] at matched matched'
    exact .inl (spelling_exclusive he he' (matched.symm.trans matched'))
  case inl.inr =>
    cases same
    obtain rfl := Regex.matches_text_iff.mp matched
    exact .inr (.inl (spelled_apart e he _ hp' matched'))
  case inr.inl =>
    cases same'
    obtain rfl := Regex.matches_text_iff.mp matched'
    obtain ⟨keyword, identifier⟩ := spelled_apart e' he' _ hp matched
    exact .inr (.inr ⟨identifier, keyword⟩)
  case inr.inr => exact .inl (pattern_exclusive hp hp' matched matched')

end Token

end JavaStub
