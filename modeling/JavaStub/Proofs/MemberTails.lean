import Mathlib.Data.List.TakeWhile
import JavaStub.Proofs.Bodies
import JavaStub.Proofs.Grammar.Types
import JavaStub.Proofs.Reading.Methods

/-!
# Tails of members

Between the parameters of a method or constructor and its body or semicolon stands a `throws`
clause, or nothing. Whatever stands there is passed and never looked at, up to the next brace that
opens or the next semicolon. So a member without a body or semicolon is no error when another one
follows: its tail then takes the header of that one, which is in no unit.

A reading that comes to a tail goes on from there in one way, whatever the tokens are (`Resumes`),
unless a bracket is the first of them, which is a dimension of a method.

Main facts:

1. `resumes_unit`: a unit goes on so at every tail of a method or constructor of a class.
2. `unitMember_of_mem`: every method of a unit is one of these members.
3. `ofTokens_of_tail`: other tokens in a tail give the same unit.
-/

namespace JavaStub

open Token (Kind)

/-- Does the tail of a member pass this token? It ends at a brace that opens and at a semicolon. -/
def Token.inTail (t : Token) : Bool := t.kind ≠ .lbrace && t.kind ≠ .semicolon

/-- The tail of a member that stands at the cursor `e` in a list of tokens. -/
structure PassedTail (ts : List Token) (e : Cursor) where
  /-- The tokens before the tail. -/
  before : List Token
  passed : List Token
  /-- The token at which the tail ends. -/
  stop : Token
  behind : List Token
  inside : ∀ t ∈ passed, t.inTail = true
  stops : stop.inTail = false
  here : e.rest = passed ++ stop :: behind
  whole : ts = before ++ e.rest

/-- The tokens with others in the tail. -/
def PassedTail.tokens {ts : List Token} {e : Cursor} (p : PassedTail ts e) (passed : List Token) :
    List Token :=
  p.before ++ (passed ++ p.stop :: p.behind)

namespace Grammar

/-- A name, perhaps qualified, with annotations before it. -/
inductive AnnotatedName : String → List Word → Prop
  | mk {n : String} {as ws : List Word} (annotations : Annotations as) (name : Name n ws) :
      AnnotatedName n (as ++ ws)

/-- The keyword `throws`, and the names of types behind it. -/
inductive ThrowsClause : List Word → Prop
  | mk {w : Word} {ns : List String} {ws : List Word} (keyword : w.kind = .kwThrows)
      (names : Separated .comma AnnotatedName ns ws) : ThrowsClause (w :: ws)

end Grammar

/-- The token at which a tail ends is no bracket. -/
theorem PassedTail.head_ne_lbracket {ts : List Token} {e : Cursor} (p : PassedTail ts e)
    {passed : List Token} (away : passed.head?.map Token.kind ≠ some .lbracket) :
    (passed ++ p.stop :: p.behind).head?.map Token.kind ≠ some .lbracket := by
  cases passed with
  | nil =>
    intro bracket
    have inside : p.stop.inTail = true := by
      rw [Token.inTail, show p.stop.kind = .lbracket from Option.some.inj bracket]
      decide
    exact absurd inside (by simp [p.stops])
  | cons t passed => exact away

namespace Reading

open Cursor

variable {α β : Type} {c d e : Cursor} {m n : Nat} {R S : List Token → List Token → Prop}

/-! ## Places -/

/-- A member that is no initializer and no type is a method or constructor, and behind its
modifiers it is read up to its tail: behind its parameters and the dimensions after them. -/
inductive PlainMemberTail : Cursor → Cursor → Prop
  | constructor {c c₁ c₂ e : Cursor} (generic : Leads (onward typeParameters) c c₁)
      (starts : c₁.atConstructor = true) (named : Leads (past identifier) c₁ c₂)
      (listed : Leads (past (group .lparen .rparen)) c₂ e) : PlainMemberTail c e
  | method {c c₁ c₂ c₃ c₄ c₅ e : Cursor} {result type : Option JavaType} {t : Token} {dims : Nat}
      (generic : Leads (onward typeParameters) c c₁) (starts : c₁.atConstructor = false)
      (typed : (past resultType).run c₁ = .ok (result, c₂)) (named : Leads (past identifier) c₂ c₃)
      (bracket : (option (accept .lparen)).run c₃ = .ok (some t, c₄))
      (listed : Leads (past parameters) c₄ c₅)
      (counted : (onward dimensions).run c₅ = .ok (dims, e))
      (checked : (dimensioned result dims).run e = .ok (type, e)) : PlainMemberTail c e

/-- The member at `m` is a method or constructor, and it is read up to its tail. -/
inductive HasTail : Cursor → Cursor → Prop
  | mk {m c d e : Cursor} (modified : Leads (onward modifiers) m c)
      (noBrace : c.kind? ≠ some .lbrace) (noKeyword : (option typeKeyword).run c = .ok (none, d))
      (tail : PlainMemberTail d e) : HasTail m e

/-- A class that is read from its name comes to a member that is no lone semicolon. -/
inductive ClassTailMember : Cursor → Cursor → Prop
  | mk {c d₁ d₂ d₃ d₄ m : Cursor} {t : Token}
      (named : Leads (past identifier) c d₁) (generic : Leads (onward typeParameters) d₁ d₂)
      (headed : Leads (onward headerTail) d₂ d₃)
      (opened : Leads (past (expect .lbrace .body)) d₃ d₄)
      (rounds : Rounds memberOrSemicolon? d₄ m) (next : m.rest.head? = some t)
      (goesOn : t.kind ≠ .rbrace) (notAlone : t.kind ≠ .semicolon) : ClassTailMember c m

/-- Type declarations in a row come to a member of a class. -/
inductive TypeDeclarationsMember : Cursor → Cursor → Prop
  | mk {c d₁ d₂ d₃ m : Cursor} {t : Token} (rounds : Rounds typeOrSemicolon? c d₁)
      (next : d₁.rest.head? = some t) (notAlone : t.kind ≠ .semicolon)
      (modified : Leads (onward modifiers) d₁ d₂)
      (keyword : (option typeKeyword).run d₂ = .ok (some .ofClass, d₃))
      (members : ClassTailMember d₃ m) : TypeDeclarationsMember c m

/-- A compilation unit comes to a member of a class. -/
def UnitMember (c m : Cursor) : Prop :=
  ∃ d₁ d₂, Leads (onward package?) c d₁ ∧ Leads (onward imports) d₁ d₂ ∧
    TypeDeclarationsMember d₂ m

/-! ## Reading on at a tail -/

/-- What `x` reads at `c`, it reads by `n` tokens or more up to `e`, then the tail of a member
there, and then in a way that only depends on what comes before `e`: with other tokens from `e`
on, which `S` relates to those there, it goes on with these. -/
def Resumes (n : Nat) (S : List Token → List Token → Prop) (c e : Cursor) (x : Reading α) : Prop :=
  ∃ pre, c.rest = pre ++ e.rest ∧ n ≤ pre.length ∧ ∃ k : Reading α, ∀ r, S e.rest r →
    x.run ⟨c.last, pre ++ r⟩ = (past memberTail >>= fun _ => k).run ⟨e.last, r⟩

theorem resumes_memberTail : Resumes 0 S e e (past memberTail) := by
  refine ⟨[], rfl, Nat.le_refl _, pure (), fun r _ => ?_⟩
  rw [run_bind, List.nil_append]
  cases (past memberTail).run ⟨e.last, r⟩ <;> rfl

theorem Resumes.mono {x : Reading α} (hx : Resumes m S c e x) (h : n ≤ m) : Resumes n S c e x :=
  let ⟨pre, split, long, goesOn⟩ := hx
  ⟨pre, split, h.trans long, goesOn⟩

/-- A tail in the first stage. -/
theorem Resumes.bind {x : Reading α} (hx : Resumes n S c e x) (f : α → Reading β) :
    Resumes n S c e (x >>= f) := by
  obtain ⟨pre, split, long, k, goesOn⟩ := hx
  refine ⟨pre, split, long, k >>= f, fun r related => ?_⟩
  rw [run_bind, goesOn r related, run_bind, run_bind]
  cases (past memberTail).run ⟨e.last, r⟩ <;> rfl

/-- A tail in the second stage. -/
theorem Resumes.behind {x : Reading α} {f : α → Reading β} {a : α} (hx : Kept m R c x)
    (ha : x.run c = .ok (a, d)) (carries : Carries n S R) (h : Resumes n S d e (f a)) :
    Resumes (m + n) S c e (x >>= f) := by
  obtain ⟨pre₁, split₁, long₁, same⟩ := hx a d ha
  obtain ⟨pre₂, split₂, long₂, k, goesOn⟩ := h
  refine ⟨pre₁ ++ pre₂, by rw [split₁, split₂, List.append_assoc], ?_, k, fun r related => ?_⟩
  · rw [List.length_append]
    omega
  · have ahead : R d.rest (pre₂ ++ r) := split₂ ▸ carries pre₂ _ _ long₂ related
    rw [run_bind, List.append_assoc, same _ ahead]
    exact goesOn r related

/-- A tail in the second stage, behind a local stage. -/
theorem Resumes.behind_local {x : Reading α} {f : α → Reading β} {a : α} (hx : Local c x)
    (ha : x.run c = .ok (a, d)) (h : Resumes (n + 2) S d e (f a)) :
    Resumes (n + 2) S c e (x >>= f) :=
  (Resumes.behind hx.kept ha carries_alike h).mono (Nat.le_add_left ..)

theorem Resumes.suffix {x : Reading α} (h : Resumes (n + 1) S c e x) :
    e.rest <:+ c.rest ∧ e.rest.length < c.rest.length := by
  obtain ⟨pre, split, long, -⟩ := h
  rw [split]
  refine ⟨List.suffix_append .., ?_⟩
  rw [List.length_append]
  omega

/-- A tail in one round of a loop. -/
theorem Resumes.round {f : (c : Cursor) → Except ParseError (Option (Past c α))}
    (local_step : ∀ c, Local c (step f)) (rounds : Rounds f c d)
    (h : Resumes (n + 2) S d e (step f)) : Resumes (n + 2) S c e (onward (many f)) := by
  induction rounds with
  | refl c =>
    rw [onward_many]
    exact h.bind _
  | round first _ ih =>
    rw [onward_many]
    exact .behind_local (local_step _) first ((ih h).bind _)

/-! ## Members -/

theorem resumes_constructor (named : Leads (past identifier) c d)
    (listed : Leads (past (group .lparen .rparen)) d e) :
    Resumes 3 NoNewBracket c e (past constructor) := by
  obtain ⟨_, named⟩ := named
  obtain ⟨_, listed⟩ := listed
  rw [past_constructor]
  refine .behind (n := 2) kept_identifier named carries_any ?_
  exact .behind (n := 0) (kept_group (by decide)) listed carries_any resumes_memberTail

/-- The dimensions behind the parameters of a method are checked where nothing is read. -/
theorem resumes_dimensions {result type : Option JavaType} {dims : Nat}
    (counted : (onward dimensions).run c = .ok (dims, e))
    (checked : (dimensioned result dims).run e = .ok (type, e)) (parameters : List Parameter) :
    Resumes 0 NoNewBracket c e (do
      let dims ← onward dimensions
      let type ← dimensioned result dims
      let _ ← past memberTail
      return (parameters, type)) := by
  obtain ⟨pre, split, -, same⟩ := kept_dimensions dims e counted
  refine ⟨pre, split, Nat.zero_le _, pure (parameters, type), fun r away => ?_⟩
  rw [run_bind, same r away, ok_bind, run_bind]
  exact (congrArg (· >>= _) (run_dimensioned_rest checked r)).trans rfl

theorem resumes_methodTail {result type : Option JavaType} {dims : Nat}
    (listed : Leads (past parameters) c d) (counted : (onward dimensions).run d = .ok (dims, e))
    (checked : (dimensioned result dims).run e = .ok (type, e)) :
    Resumes 1 NoNewBracket c e (past (methodTail result)) := by
  obtain ⟨parameters, listed⟩ := listed
  rw [past_methodTail]
  exact .behind (n := 0) kept_parameters listed carries_any
    (resumes_dimensions counted checked parameters)

theorem resumes_plainMember (l : Location) (modifiers : List Modifier) (h : PlainMemberTail c e) :
    Resumes 2 NoNewBracket c e (past (plainMember l modifiers)) := by
  rw [past_plainMember]
  cases h with
  | constructor generic starts named listed =>
    obtain ⟨typeParameters, generic⟩ := generic
    refine .behind_local local_typeParameters generic ?_
    refine .behind_local local_atConstructor (run_look _ _) ?_
    rw [if_pos starts]
    exact ((resumes_constructor named listed).bind _).mono (by decide)
  | method generic starts typed named bracket listed counted checked =>
    obtain ⟨typeParameters, generic⟩ := generic
    obtain ⟨name, named⟩ := named
    refine .behind_local local_typeParameters generic ?_
    refine .behind_local local_atConstructor (run_look _ _) ?_
    rw [if_neg (by simp [starts]), past_fieldOrMethod]
    refine .behind_local local_resultType typed ?_
    refine .behind (n := 1) kept_identifier named carries_any ?_
    refine .behind (n := 1) (kept_accept _) bracket carries_head_of_pos ?_
    exact (resumes_methodTail listed counted checked).bind _

/-- A method or constructor reads on at its tail. -/
theorem resumes_member (h : HasTail c e) : Resumes 2 NoNewBracket c e (past member) := by
  obtain ⟨⟨modifiers, modified⟩, noBrace, noKeyword, tail⟩ := h
  rw [past_member]
  refine .behind_local local_location (run_look _ _) ?_
  refine .behind_local local_modifiers modified (.behind_local local_kind (run_look _ _) ?_)
  rw [if_neg noBrace]
  exact .behind_local local_typeKeyword noKeyword (resumes_plainMember _ modifiers tail)

/-! ## Classes and units -/

theorem resumes_classTail (l : Location) (modifiers : List Modifier) (h : ClassTailMember c d)
    (tail : HasTail d e) : Resumes 2 NoNewBracket c e (past (classTail l modifiers)) := by
  obtain ⟨⟨_, named⟩, ⟨_, generic⟩, ⟨_, headed⟩, ⟨_, opened⟩, rounds, next, goesOn, notAlone⟩ := h
  have round : Resumes 2 NoNewBracket d e (step memberOrSemicolon?) := by
    rw [step_memberOrSemicolon?]
    refine .behind_local local_head (run_look _ _) ?_
    rw [next]
    dsimp only
    rw [if_neg goesOn, if_neg notAlone]
    exact (resumes_member tail).bind _
  rw [past_classTail]
  refine .behind_local local_identifier named (.behind_local local_typeParameters generic ?_)
  refine .behind_local local_headerTail headed (.behind_local (local_expect _ _) opened ?_)
  rw [past_members]
  exact ((Resumes.round local_memberOrSemicolon? rounds round).bind _).bind _

theorem resumes_typeDeclarations (h : TypeDeclarationsMember c d) (tail : HasTail d e) :
    Resumes 2 NoNewBracket c e (onward typeDeclarations) := by
  obtain @⟨f, _, _, _, _, rounds, next, notAlone, ⟨modifiers, modified⟩, keyword, members⟩ := h
  have declaration : Resumes 2 NoNewBracket f e (past typeDeclaration) := by
    rw [past_typeDeclaration]
    refine .behind_local local_location (run_look _ _) ?_
    refine .behind_local local_modifiers modified (.behind_local local_typeKeyword keyword ?_)
    exact (resumes_classTail _ modifiers members tail).bind _
  have round : Resumes 2 NoNewBracket f e (step typeOrSemicolon?) := by
    rw [step_typeOrSemicolon?]
    refine .behind_local local_head (run_look _ _) ?_
    rw [next]
    dsimp only
    rw [if_neg notAlone]
    exact declaration.bind _
  rw [onward_typeDeclarations]
  exact (Resumes.round local_typeOrSemicolon? rounds round).bind _

/-- Where type declarations start with an annotation, the tail of a member in one of them lies
behind the head of the first. -/
theorem headLeads_of_tail (annotated : c.kind? = some .atSign)
    (h : TypeDeclarationsMember c d) (tail : HasTail d e) :
    ∃ f, HeadLeads c f ∧ e.rest <:+ f.rest ∧ e.rest.length < f.rest.length := by
  obtain ⟨rounds, next, notAlone, modified, keyword, members⟩ := h
  cases rounds with
  | refl => exact ⟨_, .ofClass modified keyword, (resumes_classTail .start [] members tail).suffix⟩
  | round first rounds =>
    obtain ⟨f, leads, behind⟩ := headLeads_of_first annotated first
    have ahead := (rounds.suffix local_typeOrSemicolon?).trans behind
    have later :=
      resumes_typeDeclarations (.mk (.refl _) next notAlone modified keyword members) tail
    refine ⟨f, leads, later.suffix.1.trans ahead, ?_⟩
    exact Nat.lt_of_lt_of_le later.suffix.2 ahead.length_le

/-- Without a package the lookahead sees nothing of the tail of a member. -/
theorem packageAhead_of_tail {found : List Import} {m : Cursor} {pre : List Token}
    (h : (onward imports).run c = .ok (found, d)) (member : TypeDeclarationsMember d m)
    (tail : HasTail m e) (split : c.rest = pre ++ e.rest) (long : 2 ≤ pre.length) (r : List Token) :
    packageAhead (pre ++ r) = packageAhead c.rest := by
  cases annotated : c.atAnnotation with
  | true =>
    have sign := sign_of_atAnnotation annotated
    obtain rfl := imports_decline sign h
    obtain ⟨f, leads, suffix, shorter⟩ := headLeads_of_tail sign member tail
    obtain ⟨p, w, r', split', round, behind, stops⟩ := stop_of_headLeads leads
    rcases List.suffix_cons_iff.mp (suffix.trans behind) with here | ⟨q, rfl⟩
    · -- the tail would start where the lookahead stops, which is before the name of the class
      have := behind.length_le
      rw [here] at shorter
      omega
    · have before : pre = p ++ w :: q := by
        have whole : pre ++ e.rest = (p ++ w :: q) ++ e.rest := by
          rw [← split, split', List.append_assoc, List.cons_append]
        exact List.append_cancel_right whole
      rw [split', before, List.append_assoc, List.cons_append]
      exact packageAhead_congr round stops _ _
  | false =>
    have alike : Alike c.rest (pre ++ r) :=
      split ▸ carries_alike (S := AnyTokens) pre _ r long trivial
    exact packageAhead_of_alike annotated alike

theorem resumes_afterPackage (l : Location) (package : Option Package) {found : List Import}
    {m : Cursor} (h : (onward imports).run c = .ok (found, d))
    (member : TypeDeclarationsMember d m) (tail : HasTail m e) :
    Resumes 2 NoNewBracket c e (afterPackage l package) :=
  .behind_local local_imports h ((resumes_typeDeclarations member tail).bind _)

/-- A unit reads on at every tail of a member of a class. -/
theorem resumes_unit (h : UnitMember c d) (tail : HasTail d e) :
    Resumes 2 NoNewBracket c e unit := by
  obtain ⟨d₁, d₂, ⟨package, read⟩, ⟨found, listed⟩, member⟩ := h
  show Resumes _ _ c e (look location >>= fun l => onward package? >>= afterPackage l)
  refine .behind_local local_location (run_look _ _) ?_
  have rest := resumes_afterPackage c.location package listed member tail
  cases ahead : packageAhead c.rest with
  | true => exact .behind_local (local_package?_of_ahead ahead) read rest
  | false =>
    rw [run_package?_of_not ahead] at read
    cases read
    obtain ⟨pre, split, long, k, goesOn⟩ := rest
    refine ⟨pre, split, long, k, fun r away => ?_⟩
    have ahead' : packageAhead (pre ++ r) = false :=
      (packageAhead_of_tail listed member tail split long r).trans ahead
    rw [run_bind, run_package?_of_not (c := ⟨c.last, pre ++ r⟩) ahead']
    exact goesOn r away

/-! ## Every method has a tail -/

/-- Every value of a loop is read in one of its rounds. -/
theorem exists_round_of_mem {f : (c : Cursor) → Except ParseError (Option (Past c α))}
    {c d : Cursor} {as : List α} {a : α} (h : (onward (many f)).run c = .ok (as, d)) (ha : a ∈ as) :
    ∃ c' d', Rounds f c c' ∧ (step f).run c' = .ok (some a, d') := by
  rw [onward_many] at h
  obtain ⟨_ | first, c₁, read, h⟩ := run_bind_eq_ok_iff.mp h
  · cases h
    cases ha
  · have := step_lt read
    obtain ⟨more, c₂, rounds, h⟩ := run_bind_eq_ok_iff.mp h
    cases h
    rcases List.mem_cons.mp ha with rfl | ha
    · exact ⟨c, c₁, .refl c, read⟩
    · obtain ⟨c', d', more, found⟩ := exists_round_of_mem rounds ha
      exact ⟨c', d', .round read more, found⟩
termination_by c.rest.length

/-- A method is read up to its tail, and then its tail is read. -/
theorem hasTail_of_method {method : Method} (h : (past member).run c = .ok (some method, d)) :
    ∃ e, HasTail c e ∧ (past memberTail).run e = .ok ((), d) := by
  obtain ⟨written, p, dims, e, stages, tail⟩ := readsMethod_of_member h
  obtain ⟨modified, noBrace, noKeyword, generic, starts, typed, named, bracket, listed, counted,
    checked⟩ := stages
  refine ⟨e, .mk ⟨_, modified⟩ noBrace noKeyword ?_, tail⟩
  exact .method ⟨_, generic⟩ starts typed ⟨_, named⟩ bracket ⟨_, listed⟩ counted checked

/-- A round that reads a method reads a member. -/
theorem of_run_memberOrSemicolon? {method : Method}
    (h : (step memberOrSemicolon?).run c = .ok (some (some method), d)) :
    ∃ t, c.rest.head? = some t ∧ t.kind ≠ .rbrace ∧ t.kind ≠ .semicolon ∧
      (past member).run c = .ok (some method, d) := by
  rw [step_memberOrSemicolon?, run_bind, run_look, ok_bind] at h
  dsimp only at h
  split at h
  · cases h
  · next t next =>
    split at h
    · cases h
    · next goesOn =>
      split at h
      · obtain ⟨_, _, _, h⟩ := run_bind_eq_ok_iff.mp h
        cases h
      · next notAlone =>
        obtain ⟨_, _, read, h⟩ := run_bind_eq_ok_iff.mp h
        cases h
        exact ⟨t, next, goesOn, notAlone, read⟩

/-- A round that reads a type declaration starts with one. -/
theorem of_run_typeOrSemicolon? {declaration : TypeDeclaration}
    (h : (step typeOrSemicolon?).run c = .ok (some (some declaration), d)) :
    ∃ t, c.rest.head? = some t ∧ t.kind ≠ .semicolon ∧
      (past typeDeclaration).run c = .ok (declaration, d) := by
  rw [step_typeOrSemicolon?, run_bind, run_look, ok_bind] at h
  dsimp only at h
  split at h
  · cases h
  · next t next =>
    split at h
    · obtain ⟨_, _, _, h⟩ := run_bind_eq_ok_iff.mp h
      cases h
    · next notAlone =>
      obtain ⟨_, _, read, h⟩ := run_bind_eq_ok_iff.mp h
      cases h
      exact ⟨t, next, notAlone, read⟩

theorem classTailMember_of_mem {l : Location} {modifiers : List Modifier}
    {declaration : ClassDeclaration} {method : Method}
    (h : (past (classTail l modifiers)).run c = .ok (declaration, d))
    (ha : method ∈ declaration.methods) :
    ∃ m e, ClassTailMember c m ∧ (past member).run m = .ok (some method, e) := by
  rw [past_classTail] at h
  obtain ⟨name, d₁, named, h⟩ := run_bind_eq_ok_iff.mp h
  obtain ⟨typeParameters, d₂, generic, h⟩ := run_bind_eq_ok_iff.mp h
  obtain ⟨_, d₃, headed, h⟩ := run_bind_eq_ok_iff.mp h
  obtain ⟨_, d₄, opened, h⟩ := run_bind_eq_ok_iff.mp h
  obtain ⟨methods, d₅, read, h⟩ := run_bind_eq_ok_iff.mp h
  cases h
  rw [past_members] at read
  obtain ⟨found, d₆, rounds, read⟩ := run_bind_eq_ok_iff.mp read
  obtain ⟨_, d₇, _, read⟩ := run_bind_eq_ok_iff.mp read
  cases read
  obtain ⟨_, member, rfl⟩ := List.mem_filterMap.mp ha
  obtain ⟨m, e, before, round⟩ := exists_round_of_mem rounds member
  obtain ⟨t, next, goesOn, notAlone, read⟩ := of_run_memberOrSemicolon? round
  refine ⟨m, e, ?_, read⟩
  exact .mk ⟨_, named⟩ ⟨_, generic⟩ ⟨_, headed⟩ ⟨_, opened⟩ before next goesOn notAlone

theorem typeDeclarationsMember_of_mem {types : List TypeDeclaration}
    {declaration : ClassDeclaration} {method : Method}
    (h : (onward typeDeclarations).run c = .ok (types, d)) (hd : .ofClass declaration ∈ types)
    (ha : method ∈ declaration.methods) :
    ∃ m e, TypeDeclarationsMember c m ∧ (past member).run m = .ok (some method, e) := by
  rw [onward_typeDeclarations] at h
  obtain ⟨found, d₁, rounds, h⟩ := run_bind_eq_ok_iff.mp h
  cases h
  obtain ⟨_, member, rfl⟩ := List.mem_filterMap.mp hd
  obtain ⟨c₁, d₂, before, round⟩ := exists_round_of_mem rounds member
  obtain ⟨t, next, notAlone, read⟩ := of_run_typeOrSemicolon? round
  rw [past_typeDeclaration, run_bind, run_look, ok_bind] at read
  obtain ⟨modifiers, c₂, modified, read⟩ := run_bind_eq_ok_iff.mp read
  obtain ⟨introduced, c₃, keyword, read⟩ := run_bind_eq_ok_iff.mp read
  rcases introduced with _ | _ | kind
  · cases read
  · obtain ⟨_, c₄, tail, read⟩ := run_bind_eq_ok_iff.mp read
    cases read
    obtain ⟨m, e, members, read⟩ := classTailMember_of_mem tail ha
    exact ⟨m, e, .mk before next notAlone ⟨_, modified⟩ keyword members, read⟩
  · obtain ⟨_, _, _, read⟩ := run_bind_eq_ok_iff.mp read
    cases read

/-- Every method of a unit is read from one of the members that the unit comes to. -/
theorem unitMember_of_mem {u : CompilationUnit} {declaration : ClassDeclaration} {method : Method}
    (h : unit.run c = .ok (u, d)) (hd : .ofClass declaration ∈ u.types)
    (ha : method ∈ declaration.methods) :
    ∃ m e, UnitMember c m ∧ (past member).run m = .ok (some method, e) := by
  unfold unit at h
  rw [run_bind, run_look, ok_bind] at h
  obtain ⟨package, d₁, read, h⟩ := run_bind_eq_ok_iff.mp h
  obtain ⟨imports, d₂, listed, h⟩ := run_bind_eq_ok_iff.mp h
  obtain ⟨types, d₃, declared, h⟩ := run_bind_eq_ok_iff.mp h
  cases h
  obtain ⟨m, e, members, read'⟩ := typeDeclarationsMember_of_mem declared hd ha
  exact ⟨m, e, ⟨d₁, d₂, ⟨_, read⟩, ⟨_, listed⟩, members⟩, read'⟩

/-! ## What a tail passes -/

/-- Parts of a tail are passed one by one up to where it ends. -/
theorem run_memberParts (l : Location) {passed : List Token} (behind : List Token)
    (inside : ∀ t ∈ passed, t.inTail = true) (stops : ∀ t ∈ behind.head?, t.inTail = false) :
    ∃ l', (onward (many memberPart?)).run ⟨l, passed ++ behind⟩ =
      .ok (List.replicate passed.length (), ⟨l', behind⟩) := by
  induction passed generalizing l with
  | nil =>
    refine ⟨l, ?_⟩
    rw [onward_many, run_bind, step_memberPart?, run_bind, run_look, ok_bind, List.nil_append]
    cases behind with
    | nil => rfl
    | cons t behind =>
      have ends := stops t rfl
      by_cases brace : t.kind = .lbrace
      · simp only [List.head?_cons, if_pos brace]
        rfl
      · have semicolon : t.kind = .semicolon := by simpa [Token.inTail, brace] using ends
        simp only [List.head?_cons, if_neg brace, if_pos semicolon]
        rfl
  | cons t passed ih =>
    have goesOn := inside t List.mem_cons_self
    rw [Token.inTail, Bool.and_eq_true, decide_eq_true_eq, decide_eq_true_eq] at goesOn
    obtain ⟨l', rounds⟩ := ih t.location fun u hu => inside u (List.mem_cons_of_mem _ hu)
    refine ⟨l', ?_⟩
    have first : (step memberPart?).run ⟨l, t :: (passed ++ behind)⟩ =
        .ok (some (), ⟨t.location, passed ++ behind⟩) := by
      rw [step_memberPart?, run_bind, run_look, ok_bind]
      simp only [List.head?_cons, if_neg goesOn.1, if_neg goesOn.2]
      rfl
    rw [onward_many, run_bind, List.cons_append, first, ok_bind, run_bind, rounds]
    rfl

/-- A token that is asked for is asked for in one way wherever the cursor comes from. -/
theorem run_expect_last {kind : Kind} {expected : Expectation} (l l' : Location) (t : Token)
    (ts : List Token) : (past (expect kind expected)).run ⟨l, t :: ts⟩ =
      (past (expect kind expected)).run ⟨l', t :: ts⟩ := by
  rw [past_expect, run_bind, run_bind, run_accept_cons, run_accept_cons]
  split <;> rfl

/-- What a tail passes has no influence on how it ends. -/
theorem run_memberTail_of_passed {l : Location} {passed behind : List Token} {stop : Token}
    (inside : ∀ t ∈ passed, t.inTail = true) (stops : stop.inTail = false) (l' : Location) :
    (past memberTail).run ⟨l, passed ++ stop :: behind⟩ =
      (past memberTail).run ⟨l', stop :: behind⟩ := by
  have ends : ∀ t ∈ (stop :: behind).head?, t.inTail = false := by
    rintro _ ⟨⟩
    exact stops
  obtain ⟨l₁, parts⟩ := run_memberParts l _ inside ends
  obtain ⟨l₂, none⟩ := run_memberParts l' _ (List.forall_mem_nil _) ends
  rw [List.nil_append] at none
  rw [past_memberTail, run_bind, run_bind, parts, none, ok_bind, ok_bind, run_bind, run_bind,
    run_look, run_look, ok_bind, ok_bind]
  by_cases brace : stop.kind = .lbrace
  · have kind : ∀ l, kind? ⟨l, stop :: behind⟩ = some .lbrace := fun _ => congrArg some brace
    rw [if_pos (kind l₁), if_pos (kind l₂), past_group, run_bind, run_bind,
      run_expect_last l₁ l₂]
  · have kind : ∀ l, kind? ⟨l, stop :: behind⟩ ≠ some .lbrace := fun _ h =>
      brace (Option.some.inj h)
    rw [if_neg (kind l₁), if_neg (kind l₂), run_bind, run_bind, run_expect_last l₁ l₂]

/-- A tail that is read ends somewhere. -/
theorem exists_passedTail {ts before : List Token} {v : Unit}
    (h : (past memberTail).run e = .ok (v, d)) (whole : ts = before ++ e.rest) :
    ∃ p : PassedTail ts e, p.before = before := by
  have split := List.takeWhile_append_dropWhile (p := Token.inTail) (l := e.rest)
  have inside : ∀ t ∈ e.rest.takeWhile Token.inTail, t.inTail = true := fun t =>
    List.mem_takeWhile_imp
  cases rest : e.rest.dropWhile Token.inTail with
  | nil =>
    rw [rest, List.append_nil] at split
    obtain ⟨l, parts⟩ := run_memberParts e.last [] inside fun _ h => nomatch h
    rw [List.append_nil, split] at parts
    rw [past_memberTail, run_bind, show (onward (many memberPart?)).run e = _ from parts] at h
    cases h
  | cons stop behind =>
    rw [rest] at split
    have stops : stop.inTail = false := by
      have head := List.head?_dropWhile_not Token.inTail e.rest
      rw [rest] at head
      simpa using head
    exact ⟨⟨before, _, stop, behind, inside, stops, split.symm, whole⟩, rfl⟩

/-- Where a reading comes to a tail, other tokens in the tail are passed in the same way. -/
theorem Resumes.passed {x : Reading α} {v : α} (h : Resumes n NoNewBracket c e x)
    (hv : x.run c = .ok (v, d)) :
    ∃ p : PassedTail c.rest e, ∀ passed, (∀ t ∈ passed, t.inTail = true) →
      passed.head?.map Token.kind ≠ some .lbracket →
        x.run ⟨c.last, p.tokens passed⟩ = .ok (v, d) := by
  obtain ⟨pre, split, -, k, goesOn⟩ := h
  have here : (past memberTail >>= fun _ => k).run e = .ok (v, d) := by
    refine (goesOn e.rest id).symm.trans ?_
    rw [← split]
    exact hv
  obtain ⟨_, _, ends, _⟩ := run_bind_eq_ok_iff.mp here
  obtain ⟨p, rfl⟩ := exists_passedTail ends split
  refine ⟨p, fun passed inside away => ?_⟩
  have same : (past memberTail).run ⟨e.last, passed ++ p.stop :: p.behind⟩ =
      (past memberTail).run e := by
    rw [run_memberTail_of_passed inside p.stops e.last,
      ← run_memberTail_of_passed p.inside p.stops e.last, ← p.here]
  have other := goesOn (passed ++ p.stop :: p.behind) fun bracket =>
    absurd bracket (p.head_ne_lbracket away)
  rw [run_bind, same] at other
  exact other.trans here

end Reading

/-! ## Other tails -/

namespace CompilationUnit

open Reading

/-- Every method of a unit is read from a member with a tail, and what stands in the tail of a
member is never looked at: with any other tokens in it that do not end it, the very same unit is
read, unless the first of them is a bracket, which is a dimension. -/
theorem ofTokens_of_tail {ts : List Token} {u : CompilationUnit} (h : ofTokens ts = .ok u) :
    (∀ declaration method, .ofClass declaration ∈ u.types → method ∈ declaration.methods →
      ∃ m e d, UnitMember (Cursor.start ts) m ∧ HasTail m e ∧
        (past Cursor.member).run m = .ok (some method, d)) ∧
    ∀ m e, UnitMember (Cursor.start ts) m → HasTail m e →
      ∃ p : PassedTail ts e, ∀ passed, (∀ t ∈ passed, t.inTail = true) →
        passed.head?.map Token.kind ≠ some .lbracket → ofTokens (p.tokens passed) = .ok u := by
  unfold ofTokens at h
  rw [← map_run_unit] at h
  obtain ⟨⟨v, d⟩, hv, rfl⟩ := map_eq_ok_iff.mp h
  refine ⟨fun declaration method hd ha => ?_, fun m e member tail => ?_⟩
  · obtain ⟨m, d', member, read⟩ := unitMember_of_mem hv hd ha
    obtain ⟨e, tail, _⟩ := hasTail_of_method read
    exact ⟨m, e, d', member, tail, read⟩
  · obtain ⟨p, same⟩ := (resumes_unit member tail).passed hv
    refine ⟨p, fun passed inside away => ?_⟩
    unfold ofTokens
    rw [← map_run_unit]
    exact congrArg (Except.map Prod.fst) (same passed inside away)

/-- The tokens of a class with two methods, the first of which has neither body nor semicolon. -/
def openMethod : List Token :=
  [⟨.kwClass, "class", .start⟩, ⟨.identifier, "C", .start⟩, ⟨.lbrace, "\x7b", .start⟩,
   ⟨.kwVoid, "void", .start⟩, ⟨.identifier, "f", .start⟩, ⟨.lparen, "(", .start⟩,
   ⟨.rparen, ")", .start⟩, ⟨.kwPublic, "public", .start⟩, ⟨.kwVoid, "void", .start⟩,
   ⟨.identifier, "g", .start⟩, ⟨.lparen, "(", .start⟩, ⟨.rparen, ")", .start⟩,
   ⟨.lbrace, "\x7b", .start⟩, ⟨.rbrace, "\x7d", .start⟩, ⟨.rbrace, "\x7d", .start⟩]

/-- The cursor before the token of `openMethod` with the given number. -/
def atOpenMethod (n : Nat) : Cursor := Cursor.start (openMethod.drop n)

/-- Of the two methods only the first is read. -/
theorem ofTokens_openMethod : ofTokens openMethod = .ok emptyMethodUnit := by decide +kernel

theorem unitMember_openMethod : UnitMember (Cursor.start openMethod) (atOpenMethod 3) := by
  have named : Leads (past Cursor.identifier) (atOpenMethod 1) (atOpenMethod 2) := by
    decide +kernel
  have generic : Leads (onward Cursor.typeParameters) (atOpenMethod 2) (atOpenMethod 2) := by
    decide +kernel
  have headed : Leads (onward Cursor.headerTail) (atOpenMethod 2) (atOpenMethod 2) := by
    decide +kernel
  have opened : Leads (past (Cursor.expect .lbrace .body)) (atOpenMethod 2) (atOpenMethod 3) := by
    decide +kernel
  have members : ClassTailMember (atOpenMethod 1) (atOpenMethod 3) :=
    .mk named generic headed opened (.refl _) rfl (by decide) (by decide)
  have modified : Leads (onward Cursor.modifiers) (atOpenMethod 0) (atOpenMethod 0) := by
    decide +kernel
  exact ⟨atOpenMethod 0, atOpenMethod 0, by decide +kernel, by decide +kernel,
    .mk (.refl _) rfl (by decide) modified (by decide +kernel) members⟩

theorem hasTail_openMethod : HasTail (atOpenMethod 3) (atOpenMethod 7) := by
  have modified : Leads (onward Cursor.modifiers) (atOpenMethod 3) (atOpenMethod 3) := by
    decide +kernel
  have noKeyword : (option Cursor.typeKeyword).run (atOpenMethod 3) =
      .ok (none, atOpenMethod 3) := by decide +kernel
  have generic : Leads (onward Cursor.typeParameters) (atOpenMethod 3) (atOpenMethod 3) := by
    decide +kernel
  have typed : (past Cursor.resultType).run (atOpenMethod 3) = .ok (none, atOpenMethod 4) := by
    decide +kernel
  have named : Leads (past Cursor.identifier) (atOpenMethod 4) (atOpenMethod 5) := by
    decide +kernel
  have bracket : (option (Cursor.accept .lparen)).run (atOpenMethod 5) =
      .ok (some ⟨.lparen, "(", .start⟩, atOpenMethod 6) := by decide +kernel
  have listed : Leads (past Cursor.parameters) (atOpenMethod 6) (atOpenMethod 7) := by
    decide +kernel
  have counted : (onward Cursor.dimensions).run (atOpenMethod 7) = .ok (0, atOpenMethod 7) := by
    decide +kernel
  have checked : (dimensioned none 0).run (atOpenMethod 7) = .ok (none, atOpenMethod 7) := by
    decide +kernel
  exact .mk modified (by decide) noKeyword
    (.method generic rfl typed named bracket listed counted checked)

theorem ofTokens_openMethod_of_tail :
    ∃ p : PassedTail openMethod (atOpenMethod 7),
      ∀ passed, (∀ t ∈ passed, t.inTail = true) → passed.head?.map Token.kind ≠ some .lbracket →
        ofTokens (p.tokens passed) = .ok emptyMethodUnit :=
  (ofTokens_of_tail ofTokens_openMethod).2 _ _ unitMember_openMethod hasTail_openMethod

/-- A tail is not always empty or a `throws` clause. -/
theorem not_throwsClause_of_tail :
    ¬∀ ts u m e, ofTokens ts = .ok u → UnitMember (Cursor.start ts) m → HasTail m e →
      ∀ p : PassedTail ts e, p.passed = [] ∨ Grammar.ThrowsClause (p.passed.map Token.word) := by
  intro claim
  have tail := claim _ _ _ _ ofTokens_openMethod unitMember_openMethod hasTail_openMethod
    ⟨openMethod.take 7, (openMethod.drop 7).take 5, ⟨.lbrace, "\x7b", .start⟩, openMethod.drop 13,
      by decide, by decide, rfl, rfl⟩
  rcases tail with none | ⟨throws, _⟩
  · cases none
  · cases throws

end CompilationUnit

end JavaStub
