import JavaStub.Proofs.BraceGroups
import JavaStub.Proofs.PackageAhead
import JavaStub.Proofs.Placement

/-!
# Bodies do not matter

Whatever brace group is passed when a unit is read, what it encloses can be replaced by any
tokens that are balanced, and the unit stays the same up to its spans. So the stub of a unit
depends on signatures only: its text stays the same, or the reason why there is none.

A declaration without a package may start with annotations, and then the lookahead for the
package goes on behind them. It stops before it comes to a group that is passed
(`packageAhead_tokens`), so it does not depend on one either.

Main facts:

1. `swaps_unit`: every group that is passed in a unit can be swapped.
2. `ofTokens_of_passes`: with other tokens in the group the unit and its stub are the same.
-/

namespace JavaStub

namespace Reading

open Cursor

open Token (Kind)

variable {c d e g : Cursor}

/-- The groups of a compilation unit. -/
def UnitPasses (c g : Cursor) : Prop :=
  ∃ d e, Leads (onward package?) c d ∧ Leads (onward imports) d e ∧ TypeDeclarationsPasses e g

/-! ## The lookahead stops before a group -/

/-- A type declaration is read on from its modifiers to where its name follows, if it is a
class, and else to its body. -/
inductive HeadLeads : Cursor → Cursor → Prop
  | ofClass {c d h : Cursor} (modified : Leads (onward modifiers) c d)
      (keyword : (option typeKeyword).run d = .ok (some .ofClass, h)) : HeadLeads c h
  | ofHeader {c d e f h : Cursor} {kind : HeaderKind} (modified : Leads (onward modifiers) c d)
      (keyword : (option typeKeyword).run d = .ok (some (.ofHeader kind), e))
      (named : Leads (past identifier) e f) (headed : Leads (onward headerTail) f h) :
      HeadLeads c h

/-- A group that a type declaration passes lies behind its head. -/
theorem headLeads_of_passes (h : TypeDeclarationPasses c g) :
    ∃ d, HeadLeads c d ∧ g.rest <:+ d.rest := by
  cases h with
  | ofClass modified keyword passes =>
    exact ⟨_, .ofClass modified keyword, suffix_classTail passes⟩
  | ofHeader modified keyword passes =>
    obtain ⟨f, named, headed⟩ := passes
    exact ⟨g, .ofHeader modified keyword named headed, List.suffix_rfl⟩

/-- What follows a type declaration lies behind its head. -/
theorem headLeads_of_run {declaration : TypeDeclaration}
    (h : (past typeDeclaration).run c = .ok (declaration, d)) :
    ∃ e, HeadLeads c e ∧ d.rest <:+ e.rest := by
  rw [past_typeDeclaration, run_bind, run_look, ok_bind, run_bind] at h
  obtain ⟨⟨modifiers, c₁⟩, modified, h⟩ := bind_eq_ok_iff.mp h
  rw [run_bind] at h
  obtain ⟨⟨introduced, c₂⟩, keyword, h⟩ := bind_eq_ok_iff.mp h
  rcases introduced with _ | _ | kind
  · cases h
  · refine ⟨c₂, .ofClass ⟨_, modified⟩ keyword, ?_⟩
    exact Local.suffix ((local_classTail _ _).bind fun _ _ _ => local_pure _) h
  · rw [run_bind] at h
    obtain ⟨⟨header, c₃⟩, headed, h⟩ := bind_eq_ok_iff.mp h
    cases h
    rw [past_headerOfType, run_bind] at headed
    obtain ⟨⟨name, c₄⟩, passed, h⟩ := bind_eq_ok_iff.mp headed
    cases h
    rw [past_passedType, run_bind] at passed
    obtain ⟨⟨name', c₅⟩, named, passed⟩ := bind_eq_ok_iff.mp passed
    rw [run_bind] at passed
    obtain ⟨⟨_, c₆⟩, headed, passed⟩ := bind_eq_ok_iff.mp passed
    refine ⟨c₆, .ofHeader ⟨_, modified⟩ keyword ⟨_, named⟩ ⟨_, headed⟩, ?_⟩
    exact Local.suffix ((local_group _ _).bind fun _ _ _ => local_pure _) passed

/-- The keyword `class` is one token. -/
theorem of_run_typeKeyword (h : (option typeKeyword).run c = .ok (some .ofClass, d)) :
    ∃ w, c.rest = w :: d.rest ∧ w.kind = .kwClass := by
  obtain ⟨l, _ | ⟨t, ts⟩⟩ := c
  · cases h
  · rw [option_typeKeyword, run_bind, run_look, ok_bind] at h
    dsimp only [List.head?_cons] at h
    split at h
    · next ht => cases h; exact ⟨t, rfl, ht⟩
    · cases h
    · cases h
    · rw [run_bind, run_look, ok_bind] at h
      split at h <;> cases h
    · rw [run_bind, run_look, ok_bind] at h
      split at h <;> cases h
    · cases h

/-- A header ends before a brace. -/
theorem brace_of_run_headerTail {v : Unit} (h : (onward headerTail).run c = .ok (v, d)) :
    d.kind? = some .lbrace := by
  rw [onward_headerTail, run_bind] at h
  obtain ⟨⟨_, e⟩, _, h⟩ := bind_eq_ok_iff.mp h
  rw [run_bind, run_look, ok_bind] at h
  split at h
  · next brace => cases h; exact brace
  · cases h

/-- Before the end of a head of a declaration stands a token that stops the lookahead, and
round brackets are matched before that. -/
theorem stop_of_headLeads (h : HeadLeads c d) :
    ∃ p w r, c.rest = p ++ w :: r ∧ Round [] p ∧ d.rest <:+ w :: r ∧
      (w.kind ≠ .identifier ∧ w.kind ≠ .dot ∧ w.kind ≠ .lparen ∧ w.kind ≠ .atSign) := by
  cases h with
  | ofClass modified keyword =>
    obtain ⟨_, modified⟩ := modified
    obtain ⟨p, split, round⟩ := takes_modifiers _ _ modified
    obtain ⟨w, split', hw⟩ := of_run_typeKeyword keyword
    refine ⟨p, w, d.rest, by rw [split, split'], round, List.suffix_cons .., ?_⟩
    rw [hw]
    decide
  | ofHeader modified keyword named headed =>
    obtain ⟨_, modified⟩ := modified
    obtain ⟨_, named⟩ := named
    obtain ⟨_, headed⟩ := headed
    obtain ⟨p₁, split₁, round₁⟩ := takes_modifiers _ _ modified
    obtain ⟨p₂, split₂, round₂⟩ := takes_typeKeyword _ _ keyword
    obtain ⟨p₃, split₃, round₃⟩ := takes_identifier _ _ named
    obtain ⟨p₄, split₄, round₄⟩ := takes_headerTail _ _ headed
    have brace := brace_of_run_headerTail headed
    obtain ⟨l, _ | ⟨w, r⟩⟩ := d
    · cases brace
    have hw : w.kind = .lbrace := Option.some.inj brace
    -- the header of any other type is its modifiers, the keyword, the name and the tail behind them
    have round : Round [] (p₁ ++ (p₂ ++ (p₃ ++ p₄))) := by
      refine round_additive.append _ _ round₁ (round_additive.append _ _ round₂ ?_)
      exact round_additive.append _ _ round₃.round (round₄.mono (List.nil_subset _))
    refine ⟨p₁ ++ (p₂ ++ (p₃ ++ p₄)), w, r, ?_, round, List.suffix_rfl, ?_⟩
    · rw [split₁, split₂, split₃, split₄]
      simp only [List.append_assoc]
    · rw [hw]
      decide

/-- The lookahead does not see what a group behind the head of a declaration encloses. -/
theorem packageAhead_of_headLeads (h : HeadLeads c d) (behind : g.rest <:+ d.rest)
    (b : BraceGroup c.rest g) (inner after : List Token) :
    packageAhead (b.tokens inner after) = packageAhead c.rest := by
  obtain ⟨p, w, r, split, round, suffix, stops⟩ := stop_of_headLeads h
  have whole : p ++ w :: r = b.before ++ g.rest := split.symm.trans b.whole
  refine Eq.trans ?_ (congrArg packageAhead split.symm)
  unfold BraceGroup.tokens
  rcases List.suffix_cons_iff.mp (behind.trans suffix) with here | ⟨q, rfl⟩
  · -- the group opens where the lookahead stops
    rw [here] at whole
    obtain rfl := List.append_cancel_right whole
    have opening : w = b.opening := by
      have := here.symm.trans b.here
      exact (List.cons.inj this).1
    rw [← opening]
    exact packageAhead_congr round stops _ _
  · have before : b.before = p ++ w :: q := by
      refine ((List.append_left_inj g.rest).mp ?_).symm
      rw [← whole, List.append_assoc, List.cons_append]
    rw [before, List.append_assoc, List.cons_append]
    exact packageAhead_congr round stops _ _

/-- Imports do not start with the sign of an annotation. -/
theorem imports_decline {found : List Import} (annotated : c.kind? = some .atSign)
    (h : (onward imports).run c = .ok (found, d)) : d = c := by
  obtain ⟨l, _ | ⟨t, ts⟩⟩ := c
  · cases annotated
  have ht : t.kind = .atSign := Option.some.inj annotated
  have declines : importOrSemicolon? ⟨l, t :: ts⟩ = .ok none := by
    unfold importOrSemicolon? first?
    rw [next?_cons, if_pos rfl]
    simp [ht]
    rfl
  rw [onward_imports, run_bind, run_onward, many_of_declined declines] at h
  cases h
  rfl

/-- Where type declarations start with an annotation, what follows the first of them lies behind
its head. -/
theorem headLeads_of_first {found : Option TypeDeclaration} (annotated : c.kind? = some .atSign)
    (first : (step typeOrSemicolon?).run c = .ok (some found, d)) :
    ∃ e, HeadLeads c e ∧ d.rest <:+ e.rest := by
  rw [step_typeOrSemicolon?, run_bind, run_look, ok_bind] at first
  obtain ⟨l, _ | ⟨u, us⟩⟩ := c
  · cases annotated
  have hu : u.kind = .atSign := Option.some.inj annotated
  have first : (if u.kind = .semicolon then _ else _ : Reading _).run ⟨l, u :: us⟩ = _ := first
  rw [if_neg (by rw [hu]; decide), run_bind] at first
  obtain ⟨⟨declaration, e⟩, read, done⟩ := bind_eq_ok_iff.mp first
  cases done
  exact headLeads_of_run read

/-- Where type declarations start with an annotation, a group that they pass lies behind the
head of the first of them. -/
theorem headLeads_of_typeDeclarations (annotated : c.kind? = some .atSign)
    (h : TypeDeclarationsPasses c g) : ∃ d, HeadLeads c d ∧ g.rest <:+ d.rest := by
  obtain @⟨l, _, _, t, ts, rounds, _, passes⟩ := h
  cases rounds with
  | refl => exact headLeads_of_passes passes
  | round first rounds =>
    obtain ⟨d, leads, behind⟩ := headLeads_of_first annotated first
    refine ⟨d, leads, (suffix_typeDeclaration passes).trans ?_⟩
    exact (rounds.suffix local_typeOrSemicolon?).trans behind

/-- Where no annotation is next, the lookahead sees the next token only. -/
theorem packageAhead_of_alike {ts : List Token} (annotated : c.atAnnotation = false)
    (alike : Alike c.rest ts) : packageAhead ts = packageAhead c.rest := by
  have same := (atAnnotation_of_alike (l := c.last) alike).trans annotated
  obtain ⟨l, _ | ⟨t, us⟩⟩ := c
  · rw [Alike.nil alike]
  · obtain ⟨vs, rfl, _⟩ := Alike.cons alike
    rw [packageAhead_of_not same, packageAhead_of_not annotated]

/-- Without a package the lookahead does not see what a group that is passed encloses. -/
theorem packageAhead_tokens {found : List Import} (h : (onward imports).run c = .ok (found, d))
    (passes : TypeDeclarationsPasses d g) (b : BraceGroup c.rest g) (inner behind : List Token) :
    packageAhead (b.tokens inner behind) = packageAhead c.rest := by
  cases annotated : c.atAnnotation with
  | true =>
    have sign := sign_of_atAnnotation annotated
    obtain rfl := imports_decline sign h
    obtain ⟨e, leads, ahead⟩ := headLeads_of_typeDeclarations sign passes
    exact packageAhead_of_headLeads leads ahead b inner behind
  | false => exact packageAhead_of_alike annotated (alike_tokens b inner behind)

/-! ## Units -/

/-- The annotations and the keyword of a package declaration, and the declaration. -/
def declared : Reading (Option Package) := do
  let _ ← onward annotations
  let found ← past package
  return some found

theorem local_declared : Local c declared :=
  local_annotations.bind fun _ _ _ => local_package.bind fun _ _ _ => local_pure _

/-- A package that is declared starts with its keyword. -/
theorem keyword_of_run_package {found : Package} (h : (past package).run c = .ok (found, d)) :
    c.kind? = some .kwPackage := by
  rw [past_package, run_bind, run_look, ok_bind] at h
  obtain ⟨t, e, opened, _⟩ := run_bind_eq_ok_iff.mp h
  obtain ⟨hk, split, _⟩ := of_run_expect opened
  unfold kind?
  rw [split]
  exact congrArg some hk

/-- The lookahead finds a package that is declared. -/
theorem packageAhead_of_declared {package : Option Package}
    (h : declared.run c = .ok (package, d)) : packageAhead c.rest = true := by
  unfold declared at h
  obtain ⟨_, c₁, annotated, h⟩ := run_bind_eq_ok_iff.mp h
  obtain ⟨found, c₂, read, _⟩ := run_bind_eq_ok_iff.mp h
  exact packageAhead_of_keyword annotated (keyword_of_run_package read)

theorem run_package?_of_ahead (h : packageAhead c.rest = true) :
    (onward package?).run c = declared.run c := by
  rw [onward_package?, run_bind, run_look, ok_bind, if_pos h]
  rfl

theorem run_package?_of_not (h : packageAhead c.rest = false) :
    (onward package?).run c = .ok (none, c) := by
  rw [onward_package?, run_bind, run_look, ok_bind, if_neg (by simp [h])]
  rfl

/-- The lookahead for a package is local where there is one. -/
theorem local_package?_of_ahead (ahead : packageAhead c.rest = true) :
    Local c (onward package?) := by
  intro package d h
  rw [run_package?_of_ahead ahead] at h
  obtain ⟨pre, split, same⟩ := local_declared package d h
  refine ⟨pre, split, fun r alike => ?_⟩
  have read := same r alike
  rw [run_package?_of_ahead (packageAhead_of_declared read)]
  exact read

/-- The rest of a unit behind its package. -/
def afterPackage (l : Location) (package : Option Package) : Reading CompilationUnit := do
  let imports ← onward imports
  let types ← onward typeDeclarations
  let span ← look (spanFrom l)
  return ⟨package, imports, types, span⟩

theorem swaps_afterPackage (l : Location) (package : Option Package) {found : List Import}
    (h : (onward imports).run c = .ok (found, d)) (passes : TypeDeclarationsPasses d g) :
    Swaps c g (afterPackage l package) :=
  .behind local_imports h ((swaps_typeDeclarations passes).before fun _ _ _ =>
    (local_span l).bind fun _ _ _ => local_pure _)

/-- Every group that is passed in a unit can be swapped. -/
theorem swaps_unit (h : UnitPasses c g) : Swaps c g unit := by
  obtain ⟨d, e, ⟨package, read⟩, ⟨found, listed⟩, passes⟩ := h
  show Swaps c g (look location >>= fun l => onward package? >>= afterPackage l)
  refine .behind local_location (run_look _ _) ?_
  have rest : ∀ l, Swaps d g (afterPackage l package) := fun l =>
    swaps_afterPackage l package listed passes
  cases ahead : packageAhead c.rest with
  | true => exact .behind (local_package?_of_ahead ahead) read (rest c.location)
  | false =>
    rw [run_package?_of_not ahead] at read
    cases read
    intro v f hv
    rw [run_bind, run_package?_of_not ahead] at hv
    obtain ⟨b, more, split, swap⟩ := rest c.location v f hv
    refine ⟨b, more, split, fun inner enclosed r alike => ?_⟩
    have ahead' : packageAhead (b.tokens inner (more ++ r)) = false :=
      (packageAhead_tokens listed passes b inner _).trans ahead
    rw [run_bind, run_package?_of_not (c := ⟨c.last, b.tokens inner (more ++ r)⟩) ahead']
    exact swap inner enclosed r alike

end Reading

/-! ## Stubs -/

namespace CompilationUnit

open Reading

/-- With other tokens in a brace group that is passed, and all others kept with their places,
the very same unit is read. -/
theorem ofTokens_tokens {ts : List Token} {u : CompilationUnit} {g : Cursor}
    (h : ofTokens ts = .ok u) (passes : UnitPasses (Cursor.start ts) g) :
    ∃ b : BraceGroup ts g, ∀ inner, Balanced .lbrace .rbrace (inner.map Token.kind) →
      ofTokens (b.tokens inner b.behind) = .ok u := by
  unfold ofTokens at h
  rw [← map_run_unit] at h
  cases hv : Reading.unit.run (Cursor.start ts) with
  | error e => rw [hv] at h; cases h
  | ok p =>
    obtain ⟨v, e⟩ := p
    rw [hv] at h
    obtain rfl : v = u := Except.ok.inj h
    obtain ⟨b, more, split, swap⟩ := swaps_unit passes v e hv
    refine ⟨b, fun inner enclosed => ?_⟩
    unfold ofTokens
    rw [← map_run_unit, split]
    exact congrArg (Except.map Prod.fst) (swap inner enclosed e.rest (.refl _))

/-- What a brace group that is passed encloses may be replaced by anything balanced: tokens with
the words that result are read as the same unit up to spans, and the stub of the unit has the
same text, or its refusal the same message up to the number of a line. -/
theorem ofTokens_of_passes {ts : List Token} {u : CompilationUnit} {g : Cursor}
    (h : ofTokens ts = .ok u) (passes : UnitPasses (Cursor.start ts) g) :
    ∃ b : BraceGroup ts g, ∀ inner, Balanced .lbrace .rbrace (inner.map Token.kind) →
      ∀ ts', ts'.map Token.word = (b.tokens inner b.behind).map Token.word →
        ∃ u', ofTokens ts' = .ok u' ∧ relocate unplaced u' = relocate unplaced u ∧
          ∀ banner, (u'.strip banner).mapError StubError.cause =
            (u.strip banner).mapError StubError.cause := by
  obtain ⟨b, swap⟩ := ofTokens_tokens h passes
  refine ⟨b, fun inner enclosed ts' words => ?_⟩
  have same := ofTokens_congr words
  rw [swap inner enclosed] at same
  cases hu : ofTokens ts' with
  | error e => rw [hu] at same; cases same
  | ok u' =>
    rw [hu] at same
    have units : relocate unplaced u' = relocate unplaced u := Except.ok.inj same
    refine ⟨u', rfl, units, fun banner => ?_⟩
    refine StubError.mapError_cause_congr (σ := unplaced) ?_
    rw [strip_relocate, strip_relocate, units]

/-- The tokens of a class with one method, whose body is empty. -/
def emptyMethod : List Token :=
  [⟨.kwClass, "class", .start⟩, ⟨.identifier, "C", .start⟩, ⟨.lbrace, "\x7b", .start⟩,
   ⟨.kwVoid, "void", .start⟩, ⟨.identifier, "f", .start⟩, ⟨.lparen, "(", .start⟩,
   ⟨.rparen, ")", .start⟩, ⟨.lbrace, "\x7b", .start⟩, ⟨.rbrace, "\x7d", .start⟩,
   ⟨.rbrace, "\x7d", .start⟩]

/-- The unit that `emptyMethod` is read as. -/
def emptyMethodUnit : CompilationUnit :=
  ⟨none, [], [.ofClass ⟨[], "C", [], [⟨[], [], none, "f", [], ⟨.start, .start⟩⟩],
    ⟨.start, .start⟩⟩], ⟨.start, .start⟩⟩

/-- The cursor before the token of `emptyMethod` with the given number. -/
def atEmptyMethod (n : Nat) : Cursor := Cursor.start (emptyMethod.drop n)

theorem emptyMethod_passes : UnitPasses (Cursor.start emptyMethod) (atEmptyMethod 7) := by
  have method : MethodTailPasses (atEmptyMethod 6) (atEmptyMethod 7) :=
    ⟨atEmptyMethod 7, atEmptyMethod 7, by decide +kernel, by decide +kernel, by decide +kernel, rfl⟩
  have bracket : (option (Cursor.accept .lparen)).run (atEmptyMethod 5) =
      .ok (some ⟨.lparen, "(", .start⟩, atEmptyMethod 6) := by decide +kernel
  have member : MemberPasses (atEmptyMethod 3) (atEmptyMethod 7) := by
    refine .plain (d := atEmptyMethod 3) (e := atEmptyMethod 3) (by decide +kernel) (by decide)
      (by decide +kernel) (.fieldOrMethod (d := atEmptyMethod 3) (by decide +kernel) rfl ?_)
    exact .method (d := atEmptyMethod 4) (e := atEmptyMethod 5) (by decide +kernel)
      (by decide +kernel) bracket method
  have members : MembersPasses (atEmptyMethod 3) (atEmptyMethod 7) :=
    .member (.refl (atEmptyMethod 3)) (by decide) (by decide) member
  have tail : ClassTailPasses (atEmptyMethod 1) (atEmptyMethod 7) :=
    ⟨atEmptyMethod 2, atEmptyMethod 2, atEmptyMethod 2, atEmptyMethod 3, by decide +kernel,
      by decide +kernel, by decide +kernel, by decide +kernel, members⟩
  have declaration : TypeDeclarationPasses (atEmptyMethod 0) (atEmptyMethod 7) :=
    .ofClass (d := atEmptyMethod 0) (e := atEmptyMethod 1) (by decide +kernel) (by decide +kernel)
      tail
  exact ⟨atEmptyMethod 0, atEmptyMethod 0, by decide +kernel, by decide +kernel,
    .typeDeclaration (.refl (atEmptyMethod 0)) (by decide) declaration⟩

theorem ofTokens_emptyMethod_of_passes :
    ∃ b : BraceGroup emptyMethod (atEmptyMethod 7),
      ∀ inner, Balanced .lbrace .rbrace (inner.map Token.kind) →
        ∀ ts', ts'.map Token.word = (b.tokens inner b.behind).map Token.word →
          ∃ u', ofTokens ts' = .ok u' ∧ relocate unplaced u' = relocate unplaced emptyMethodUnit ∧
            ∀ banner, (u'.strip banner).mapError StubError.cause =
              (emptyMethodUnit.strip banner).mapError StubError.cause :=
  ofTokens_of_passes (by decide +kernel) emptyMethod_passes

end CompilationUnit

end JavaStub
