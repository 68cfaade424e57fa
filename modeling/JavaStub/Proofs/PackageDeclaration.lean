import JavaStub.Proofs.Bodies
import JavaStub.Proofs.Completeness.Units
import JavaStub.Proofs.Spans.Laid

/-!
# Where a package is declared

Annotations in front of a package are passed twice: by a look ahead, which takes any identifiers and dots
for the name of an annotation, and then by the reader of annotations. The two may disagree where a name
follows the annotations, but then no unit is read. So a unit that is read has a package if and only if the
keyword stands where the reader of annotations stops.

Main facts:

1. `exists_name_of_qualifiedName`: a name that is read is spelled by the tokens that were taken.
2. `exists_annotations_of_modifiers`: where modifiers are read, so are the annotations in front of them.
3. `package_exact`: what the look ahead sees, and which units have a package.
-/

namespace JavaStub

open Token (Kind)

namespace Reading

open Cursor Grammar

variable {c d : Cursor} {ts : List Token}

/-! ## The name of a package -/

theorem of_run_joinedName {n : String} (h : (step joinedName).run c = .ok (some n, d)) :
    ∃ dot t, c.rest = dot :: t :: d.rest ∧ dot.kind = .dot ∧ t.kind = .identifier ∧ n = t.lexeme := by
  rw [step_joinedName] at h
  obtain ⟨dot, e, joins, h⟩ := run_bind_eq_ok_iff.mp h
  cases dot with
  | none => cases h
  | some dot =>
    obtain ⟨name, e', named, done⟩ := run_bind_eq_ok_iff.mp h
    cases done
    obtain ⟨hdot, split, _⟩ := of_run_joiningDot joins
    obtain ⟨t, split', ht, rfl⟩ := of_run_identifier named
    exact ⟨dot, t, by rw [split, split'], hdot, ht, rfl⟩

/-- The names that dots join to a name are spelled by the tokens that were taken. -/
theorem exists_nameTail {c d : Cursor} {ns : List String}
    (h : (onward (many joinedName)).run c = .ok (ns, d)) :
    ∃ m, c.rest = m ++ d.rest ∧ NameTail ns (m.map Token.word) := by
  rw [onward_many] at h
  obtain ⟨first, e, joined, h⟩ := run_bind_eq_ok_iff.mp h
  cases first with
  | none =>
    cases h
    exact ⟨[], by rw [step_none joined]; rfl, .nil⟩
  | some n =>
    obtain ⟨more, e', others, done⟩ := run_bind_eq_ok_iff.mp h
    cases done
    obtain ⟨dot, t, split, hdot, ht, rfl⟩ := of_run_joinedName joined
    have := step_lt joined
    obtain ⟨m, split', tail⟩ := exists_nameTail others
    have joins : dot.word.kind = .dot := hdot
    have name : t.word.kind = .identifier := ht
    exact ⟨dot :: t :: m, by rw [split, split']; rfl, .cons joins name tail⟩
termination_by c.rest.length

/-- A name that is read is spelled by the tokens that were taken. -/
theorem exists_name_of_qualifiedName {n : String} (h : (past qualifiedName).run c = .ok (n, d)) :
    ∃ m, c.rest = m ++ d.rest ∧ Name n (m.map Token.word) := by
  rw [past_qualifiedName] at h
  obtain ⟨first, e, named, h⟩ := run_bind_eq_ok_iff.mp h
  obtain ⟨more, e', others, done⟩ := run_bind_eq_ok_iff.mp h
  cases done
  obtain ⟨t, split, ht, rfl⟩ := of_run_identifier named
  obtain ⟨m, split', tail⟩ := exists_nameTail others
  have name : t.word.kind = .identifier := ht
  exact ⟨t :: m, by rw [split, split']; rfl, .mk name tail⟩

/-- The tokens start with the keyword of a package, its name and a semicolon. -/
def DeclaresPackage (n : String) (ts : List Token) : Prop :=
  ∃ k name s behind, ts = k :: (name ++ s :: behind) ∧ k.kind = .kwPackage ∧
    Name n (name.map Token.word) ∧ s.kind = .semicolon

theorem declaresPackage_of_run {found : Package} (h : (past package).run c = .ok (found, d)) :
    DeclaresPackage found.name c.rest := by
  rw [past_package, run_bind, run_look, ok_bind] at h
  obtain ⟨k, c₁, opened, h⟩ := run_bind_eq_ok_iff.mp h
  obtain ⟨n, c₂, named, h⟩ := run_bind_eq_ok_iff.mp h
  obtain ⟨s, c₃, ended, done⟩ := run_bind_eq_ok_iff.mp h
  cases done
  obtain ⟨hk, split, _⟩ := of_run_expect opened
  obtain ⟨name, split', spelled⟩ := exists_name_of_qualifiedName named
  obtain ⟨hs, split'', _⟩ := of_run_expect ended
  exact ⟨k, name, s, c₃.rest, by rw [split, split', split''], hk, spelled, hs⟩

/-! ## The annotations in front of a unit -/

/-- Annotations that start at the first token end between the tokens `before` and the tokens `rest`. -/
def AnnotationsEnd (ts before rest : List Token) : Prop :=
  ts = before ++ rest ∧ (annotations (.start ts)).map (·.next) = .ok (between before rest)

theorem AnnotationsEnd.run {before rest : List Token} (h : AnnotationsEnd ts before rest) :
    (onward annotations).run (.start ts) = .ok ((), between before rest) := by
  obtain ⟨_, stops⟩ := h
  rw [map_next_onward annotations] at stops
  obtain ⟨⟨_, d⟩, run, rfl⟩ := map_eq_ok_iff.mp stops
  exact run

theorem exists_annotationsEnd (h : (onward annotations).run (.start ts) = .ok ((), d)) :
    ∃ before, AnnotationsEnd ts before d.rest := by
  obtain ⟨m, split, place⟩ := Laid.exists_between (goes_annotations (c := between [] ts) _ _ h)
  refine ⟨m, split, ?_⟩
  rw [map_next_onward annotations, h]
  exact congrArg Except.ok place

/-- Annotations end where none can be passed. -/
theorem run_annotations_of_none (h : (step annotation?).run c = .ok (none, d)) :
    (onward annotations).run c = .ok ((), c) := by
  obtain rfl := step_none h
  rw [onward_annotations, onward_many, run_bind, run_bind, h]
  rfl

/-- Where no annotation starts there are none. -/
theorem run_annotations_of_not (h : c.atAnnotation = false) :
    (onward annotations).run c = .ok ((), c) := by
  refine run_annotations_of_none (d := c) ?_
  rw [step_annotation?, run_bind, run_look, ok_bind, h]
  rfl

/-- Behind an annotation the others are passed. -/
theorem run_annotations_of_some {v : Unit} (h : (step annotation?).run c = .ok (some v, d)) :
    (onward annotations).run c = (onward annotations).run d := by
  rw [onward_annotations, onward_many, run_bind, run_bind, h, ok_bind, ← onward_many]
  show ((onward (many annotation?)).run d >>= fun p => _) >>= _ = (onward (many annotation?)).run d >>= _
  cases (onward (many annotation?)).run d <;> rfl

/-- Where modifiers are read, so are the annotations in front of them. -/
theorem exists_annotations_of_modifiers {ms : List Modifier}
    (h : (onward modifiers).run c = .ok (ms, d)) : ∃ e, (onward annotations).run c = .ok ((), e) := by
  rw [onward_modifiers] at h
  obtain ⟨found, e, passed, -⟩ := run_bind_eq_ok_iff.mp h
  obtain ⟨rounds, last⟩ := rounds_of_many passed
  clear h passed
  -- the modifiers start with the annotations, so these are a front part of the rounds
  induction rounds with
  | refl c =>
    rw [step_modifierOrAnnotation?] at last
    obtain ⟨passed, e, annotated, rest⟩ := run_bind_eq_ok_iff.mp last
    cases passed with
    | some _ => cases rest
    | none => exact ⟨c, run_annotations_of_none annotated⟩
  | @round c₁ c₂ _ _ first _ ih =>
    rw [step_modifierOrAnnotation?] at first
    obtain ⟨passed, e, annotated, rest⟩ := run_bind_eq_ok_iff.mp first
    cases passed with
    | none => exact ⟨c₁, run_annotations_of_none annotated⟩
    | some _ =>
      cases rest
      obtain ⟨e, behind⟩ := ih last
      exact ⟨e, (run_annotations_of_some annotated).trans behind⟩

/-- Where type declarations are read behind the sign of an annotation, so are modifiers. -/
theorem exists_modifiers_of_typeDeclarations {found : List TypeDeclaration}
    (sign : c.kind? = some .atSign) (h : (onward typeDeclarations).run c = .ok (found, d)) :
    ∃ ms e, (onward modifiers).run c = .ok (ms, e) := by
  rw [onward_typeDeclarations] at h
  obtain ⟨_, _, listed, _⟩ := run_bind_eq_ok_iff.mp h
  rw [onward_many] at listed
  obtain ⟨_, _, first, _⟩ := run_bind_eq_ok_iff.mp listed
  obtain ⟨l, _ | ⟨t, ts⟩⟩ := c
  · cases sign
  have ht : t.kind = .atSign := Option.some.inj sign
  have noSemicolon : t.kind ≠ .semicolon := by
    rw [ht]
    decide
  rw [step_typeOrSemicolon?, run_bind, run_look, ok_bind] at first
  have first : (if t.kind = .semicolon then _ else _ : Reading _).run ⟨l, t :: ts⟩ = _ := first
  rw [if_neg noSemicolon] at first
  obtain ⟨_, _, declared, _⟩ := run_bind_eq_ok_iff.mp first
  rw [past_typeDeclaration, run_bind, run_look, ok_bind] at declared
  obtain ⟨ms, e, modified, _⟩ := run_bind_eq_ok_iff.mp declared
  exact ⟨ms, e, modified⟩

/-- Where a unit is read, so are the annotations in front of it, and its package behind them. -/
theorem exists_annotations_of_unit {u : CompilationUnit} (h : unit.run c = .ok (u, d)) :
    ∃ e, (onward annotations).run c = .ok ((), e) ∧
      (u.package.isSome = true ↔ e.kind? = some .kwPackage) ∧
      ∀ p ∈ u.package, DeclaresPackage p.name e.rest := by
  unfold unit at h
  rw [run_bind, run_look, ok_bind] at h
  obtain ⟨package, c₁, read, h⟩ := run_bind_eq_ok_iff.mp h
  obtain ⟨imports, c₂, listed, h⟩ := run_bind_eq_ok_iff.mp h
  obtain ⟨types, c₃, typed, done⟩ := run_bind_eq_ok_iff.mp h
  cases done
  cases ahead : packageAhead c.rest with
  | true =>
    rw [run_package?_of_ahead ahead] at read
    unfold declared at read
    obtain ⟨_, e, annotated, read⟩ := run_bind_eq_ok_iff.mp read
    obtain ⟨found, _, opened, done⟩ := run_bind_eq_ok_iff.mp read
    cases done
    refine ⟨e, annotated, iff_of_true rfl (keyword_of_run_package opened), ?_⟩
    rintro p ⟨⟩
    exact declaresPackage_of_run opened
  | false =>
    rw [run_package?_of_not ahead] at read
    cases read
    obtain ⟨e, annotated⟩ : ∃ e, (onward annotations).run c = .ok ((), e) := by
      cases starts : c.atAnnotation with
      | false => exact ⟨c, run_annotations_of_not starts⟩
      | true =>
        have sign := sign_of_atAnnotation starts
        obtain rfl := imports_decline sign listed
        obtain ⟨ms, e, modified⟩ := exists_modifiers_of_typeDeclarations sign typed
        exact exists_annotations_of_modifiers modified
    refine ⟨e, annotated, iff_of_false nofun fun keyword => ?_, nofun⟩
    rw [packageAhead_of_keyword annotated keyword] at ahead
    cases ahead

/-! ## What the look ahead sees -/

/-- The keyword is seen behind annotations with any names and arguments. -/
theorem packageAhead_of_annotated {as : List Token} {k : Token}
    (h : Annotations (as.map Token.word)) (keyword : k.kind = .kwPackage) :
    packageAhead (as ++ k :: ts) = true := by
  have word : k.word.kind = .kwPackage := keyword
  have seen : packageAhead ((as.map Token.word ++ k.word :: ts.map Token.word).map Word.token) =
      true := packageAhead_annotations h word
  rw [← packageAhead_relocate (σ := unplaced), relocate_unplaced, List.map_append, List.map_cons]
  exact seen

/-- The tokens start with the keyword of a class, or with those of an annotation type. -/
inductive StartsClassOrAnnotationType : List Token → Prop
  | ofClass {t : Token} {ts : List Token} (h : t.kind = .kwClass) :
      StartsClassOrAnnotationType (t :: ts)
  | ofAnnotationType {a t : Token} {ts : List Token} (sign : a.kind = .atSign)
      (h : t.kind = .kwInterface) : StartsClassOrAnnotationType (a :: t :: ts)

/-- No package is seen in front of a class or annotation type, whatever annotations it has. -/
theorem packageAhead_of_startsType {ms : List Modifier} {as : List Token}
    (h : Modifiers ms (as.map Token.word)) (starts : StartsClassOrAnnotationType ts) :
    packageAhead (as ++ ts) = false := by
  have round : Round [.kwPackage] as := by
    have shielded := h.shielded
    rw [List.map_map] at shielded
    exact shielded
  cases starts with
  | @ofClass t ts ht =>
    refine packageAhead_of_shielded round (by rw [ht]; decide) ?_
    simp [kind?, atAnnotation, ht]
  | @ofAnnotationType a t ts sign ht =>
    refine packageAhead_of_shielded round (by rw [sign]; decide) ?_
    simp [kind?, atAnnotation, secondKind?, ht]

/-- Annotations never hide the keyword of a package, nor does a class or annotation type behind them pass
for one. In front of every unit that is read annotations can be passed; the unit has a package if and only
if the keyword stands where they end, and then the package has the name behind the keyword. -/
theorem package_exact (ts : List Token) :
    (∀ before rest, AnnotationsEnd ts before rest →
      rest.head?.map Token.kind = some .kwPackage → packageAhead ts = true) ∧
    (∀ u, CompilationUnit.ofTokens ts = .ok u → ∃ before rest, AnnotationsEnd ts before rest ∧
      (u.package.isSome = true ↔ rest.head?.map Token.kind = some .kwPackage) ∧
      ∀ p ∈ u.package, DeclaresPackage p.name rest) ∧
    (∀ as k behind, ts = as ++ k :: behind → Annotations (as.map Token.word) → k.kind = .kwPackage →
      packageAhead ts = true) ∧
    (∀ ms as behind, ts = as ++ behind → Modifiers ms (as.map Token.word) →
      StartsClassOrAnnotationType behind → packageAhead ts = false) := by
  refine ⟨fun before rest ends keyword => ?_, fun u read => ?_, ?_, ?_⟩
  · exact packageAhead_of_keyword ends.run keyword
  · unfold CompilationUnit.ofTokens at read
    rw [← map_run_unit] at read
    obtain ⟨⟨_, d⟩, run, rfl⟩ := map_eq_ok_iff.mp read
    obtain ⟨e, annotated, package, named⟩ := exists_annotations_of_unit run
    obtain ⟨before, ends⟩ := exists_annotationsEnd annotated
    exact ⟨before, e.rest, ends, package, named⟩
  · rintro as k behind rfl annotated keyword
    exact packageAhead_of_annotated annotated keyword
  · rintro ms as behind rfl modified starts
    exact packageAhead_of_startsType modified starts

/-- A name behind an annotation is taken for a part of its name, so the keyword is seen behind it. -/
example : packageAhead [⟨.atSign, "@", .start⟩, ⟨.identifier, "A", .start⟩,
    ⟨.identifier, "b", .start⟩, ⟨.kwPackage, "package", .start⟩] = true := by decide +kernel

/-- The tokens of a package with two annotations, one of which has arguments, and of a class. -/
def annotatedPackage : List Token :=
  [⟨.atSign, "@", .start⟩, ⟨.identifier, "A", .start⟩, ⟨.lparen, "(", .start⟩,
   ⟨.lparen, "(", .start⟩, ⟨.rparen, ")", .start⟩, ⟨.rparen, ")", .start⟩,
   ⟨.atSign, "@", .start⟩, ⟨.identifier, "B", .start⟩, ⟨.kwPackage, "package", .start⟩,
   ⟨.identifier, "p", .start⟩, ⟨.dot, ".", .start⟩, ⟨.identifier, "q", .start⟩,
   ⟨.semicolon, ";", .start⟩, ⟨.kwClass, "class", .start⟩, ⟨.identifier, "C", .start⟩,
   ⟨.lbrace, "\x7b", .start⟩, ⟨.rbrace, "\x7d", .start⟩]

/-- The unit of `annotatedPackage`. -/
def annotatedPackageUnit : CompilationUnit :=
  ⟨some ⟨"p.q", noSpan⟩, [], [.ofClass ⟨[], "C", [], [], noSpan⟩], noSpan⟩

theorem package_annotatedPackage :
    CompilationUnit.ofTokens annotatedPackage = .ok annotatedPackageUnit ∧
      ∃ before rest, AnnotationsEnd annotatedPackage before rest ∧
        rest.head?.map Token.kind = some .kwPackage ∧ DeclaresPackage "p.q" rest := by
  have read : CompilationUnit.ofTokens annotatedPackage = .ok annotatedPackageUnit := by
    decide +kernel
  obtain ⟨before, rest, ends, package, named⟩ :=
    (package_exact annotatedPackage).2.1 annotatedPackageUnit read
  exact ⟨read, before, rest, ends, package.mp rfl, named _ rfl⟩

end Reading

end JavaStub
