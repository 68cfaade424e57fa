import JavaStub.Proofs.Completeness.Members
import JavaStub.Proofs.Grammar.Brackets
import JavaStub.Proofs.Printing.Types
import JavaStub.Stub.MethodStub
import JavaStub.Stub.StubFile

/-!
# The words of rendered members

The line of a method stub is spelled by words that have the form of this method. Everything is
spelled from its end: a piece is put in front of a text whose words are known, and the words of the
piece have its form.

Main facts:

1. `writes_lines`: lines that have the forms of items in a row.
2. `spells_parameters`: the parameters of a method through the closing bracket.
3. `writes_body`: the body that returns a placeholder is a group.
4. `writes_method`: the line of a method stub has the form of the method, up to places.
5. `writes_record`: where the result is the bare name `record`, it has the form of a nested record.
-/

namespace JavaStub

open Token (Kind IsWord EndsWord EndsAngles)

open Grammar

variable {rest : List Char} {ws vs : List Word} {n : String}

/-! ## Pieces of text -/

/-- The names and keywords that stubs are written with, beyond those of their sources. -/
def stubWords : List (Kind × String) :=
  [(.kwPackage, "package"), (.kwImport, "import"), (.kwClass, "class"), (.kwVoid, "void"),
   (.identifier, "return"), (.identifier, "false"), (.identifier, "null"),
   (.kwPublic, "public"), (.kwProtected, "protected"), (.kwPrivate, "private"),
   (.kwAbstract, "abstract"), (.kwStatic, "static"), (.kwFinal, "final"), (.kwNative, "native"),
   (.kwSynchronized, "synchronized"), (.kwTransient, "transient"), (.kwVolatile, "volatile"),
   (.kwStrictfp, "strictfp"), (.kwDefault, "default")]

theorem isWord_of_mem {k : Kind} (h : (k, n) ∈ stubWords) : IsWord k n.toList := by
  have check : ∀ p ∈ stubWords, IsWord p.1 p.2.toList := by decide +kernel
  exact check _ h

/-- A name in front of a character that is no part of it. -/
theorem spells_name (h : IsName n) (ends : EndsWord rest) (more : Spells rest ws) :
    Spells (n.toList ++ rest) (⟨.identifier, n⟩ :: ws) := by
  have first := Spells.word h rfl ends more
  rw [String.ofList_toList] at first
  exact first

/-- A keyword, or a word that is written like one, in front of a blank. -/
theorem spells_keyword {k : Kind} (h : IsWord k n.toList) (kept : k.isTrivia = false)
    (more : Spells rest ws) : Spells (n.toList ++ ' ' :: rest) (⟨k, n⟩ :: ws) := by
  have blank : Spells (' ' :: rest) ws := .blank (by decide) more
  have first := Spells.word h kept (endsWord_cons (by decide)) blank
  rw [String.ofList_toList] at first
  exact first

/-- Whatever follows it, the text is spelled by words that have the form. -/
def Writes (Form : List Word → Prop) (text : String) : Prop :=
  ∀ {rest : List Char} {ws : List Word}, Spells rest ws →
    ∃ us, Form us ∧ Spells (text.toList ++ rest) (us ++ ws)

/-- Lines that have the forms of items in a row, in front of a line feed. -/
theorem writes_lines {α : Type} {Item : α → List Word → Prop} {as : List α} {lines : List String}
    (h : List.Forall₂ (fun a line => Writes (Item a) line) as lines) (more : Spells rest ws) :
    ∃ us, Many Item as us ∧
      Spells (("\n".intercalate lines).toList ++ '\n' :: rest) (us ++ ws) := by
  induction h with
  | nil => exact ⟨[], .nil, .blank (by decide) more⟩
  | @cons a line as lines first others ih =>
    obtain ⟨us', forms, spelled⟩ := ih
    cases others with
    | nil =>
      obtain ⟨us, form, all⟩ := first spelled
      rw [String.intercalate_singleton]
      refine ⟨us ++ us', .cons form forms, ?_⟩
      simpa using all
    | cons second others =>
      have behind : Spells ('\n' :: _) _ := .blank (by decide) spelled
      obtain ⟨us, form, all⟩ := first behind
      refine ⟨us ++ us', .cons form forms, ?_⟩
      simpa [String.intercalate_cons_cons] using all

/-! ## Modifiers -/

/-- The kind of the keyword of a modifier. -/
def Modifier.kind : Modifier → Kind
  | .publicAccess => .kwPublic
  | .protectedAccess => .kwProtected
  | .privateAccess => .kwPrivate
  | .abstract => .kwAbstract
  | .static => .kwStatic
  | .final => .kwFinal
  | .native => .kwNative
  | .synchronized => .kwSynchronized
  | .transient => .kwTransient
  | .volatile => .kwVolatile
  | .strictfp => .kwStrictfp
  | .default => .kwDefault

theorem modifierOf?_kind (m : Modifier) : Cursor.modifierOf? m.kind = some m := by
  cases m <;> rfl

theorem isWord_keyword (m : Modifier) : IsWord m.kind m.keyword.toList :=
  isWord_of_mem (by cases m <;> decide)

/-- Modifiers in front of a blank. -/
theorem spells_modifiers (ms : List Modifier) (more : Spells rest ws) :
    ∃ us, Modifiers ms us ∧ Spells ((Modifier.listText ms).toList ++ ' ' :: rest) (us ++ ws) := by
  have items : ∃ us, Many ModifierOrAnnotation (ms.map some) us ∧
      Spells ((Modifier.listText ms).toList ++ ' ' :: rest) (us ++ ws) := by
    induction ms with
    | nil => exact ⟨[], .nil, .blank (by decide) more⟩
    | cons m ms ih =>
      have kept : m.kind.isTrivia = false := by cases m <;> rfl
      obtain ⟨us, form, spelled⟩ := ih
      have first : ModifierOrAnnotation (some m) [⟨m.kind, m.keyword⟩] :=
        .modifier (modifierOf?_kind m)
      refine ⟨⟨m.kind, m.keyword⟩ :: us, Many.cons first form, ?_⟩
      cases ms with
      | nil =>
        cases form
        exact spells_keyword (isWord_keyword m) kept more
      | cons m' ms =>
        have first := spells_keyword (isWord_keyword m) kept spelled
        simpa [Modifier.listText, String.intercalate_cons_cons] using first
  obtain ⟨us, form, spelled⟩ := items
  have listed := Modifiers.mk form
  rw [List.filterMap_map, Function.id_comp, List.filterMap_some] at listed
  exact ⟨us, listed, spelled⟩

/-! ## Parameters -/

theorem isParameter_relocate {p : Parameter} {us es : List Word}
    (type : BareType (relocate unplaced p.type) (unfused us))
    (ellipsis : Optional .ellipsis p.varargs es) :
    IsParameter (relocate unplaced p) (us ++ (es ++ [⟨.identifier, p.name⟩])) := by
  have form : IsParameter ⟨(relocate unplaced p.type).addDimensions 0, p.name, p.varargs, noSpan⟩
      ([] ++ (us ++ ([] ++ (es ++ [⟨.identifier, p.name⟩])))) :=
    .mk (.mk .nil) (.mk .nil type) .nil ellipsis (w := ⟨.identifier, p.name⟩) rfl .nil
  rw [JavaType.addDimensions_zero] at form
  exact form

/-- A parameter in front of a character that is no part of its name. -/
theorem spells_parameter {p : Parameter} {text : String} (named : p.WellNamed)
    (rendered : p.render = .ok text) (ends : EndsWord rest) (more : Spells rest ws) :
    ∃ us, IsParameter (relocate unplaced p) us ∧ Spells (text.toList ++ rest) (us ++ ws) := by
  unfold Parameter.render at rendered
  cases printed : p.type.render with
  | error e => rw [printed] at rendered; cases rendered
  | ok typeText =>
    rw [printed] at rendered
    cases rendered
    obtain ⟨V, form, prints⟩ := prints_type p.type named.type printed
    have name : Spells (' ' :: (p.name.toList ++ rest)) (⟨.identifier, p.name⟩ :: ws) :=
      .blank (by decide) (spells_name named.name ends more)
    cases varargs : p.varargs with
    | false =>
      obtain ⟨us, rfl, all⟩ := prints.plain (endsWord_cons (by decide)) (endsAngles_cons (by decide)) name
      refine ⟨_, isParameter_relocate form (by rw [varargs]; exact .absent), ?_⟩
      simpa using all
    | true =>
      obtain ⟨us, rfl, all⟩ :=
        prints.plain (endsWord_cons (by decide)) (endsAngles_cons (by decide)) name.ellipsis
      have ellipsis : Optional .ellipsis p.varargs [⟨.ellipsis, "..."⟩] := by
        rw [varargs]
        exact .present rfl
      refine ⟨_, isParameter_relocate form ellipsis, ?_⟩
      simpa using all

/-- The parameters of a method through the closing bracket. -/
theorem spells_parameters {ps : List Parameter} {texts : List String}
    (named : ∀ p ∈ ps, p.WellNamed)
    (rendered : List.Forall₂ (fun p text => p.render = .ok text) ps texts) (more : Spells rest ws) :
    ∃ us, Parameters (relocate unplaced ps) us ∧
      Spells ((", ".intercalate texts).toList ++ ')' :: rest) (us ++ ⟨.rparen, ")"⟩ :: ws) := by
  have closed : Spells (')' :: rest) (⟨.rparen, ")"⟩ :: ws) :=
    .mark (k := .rparen) (by decide) more
  -- the list without parameters is a form of its own, so the induction is over the others
  have separated : ps ≠ [] → ∃ us, Separated .comma IsParameter (relocate unplaced ps) us ∧
      Spells ((", ".intercalate texts).toList ++ ')' :: rest) (us ++ ⟨.rparen, ")"⟩ :: ws) := by
    intro ne
    induction rendered with
    | nil => exact absurd rfl ne
    | @cons p text ps texts first others ih =>
      have ⟨name, names⟩ := List.forall_mem_cons.mp named
      cases others with
      | nil =>
        obtain ⟨us, form, spelled⟩ := spells_parameter name first (endsWord_cons (by decide)) closed
        rw [String.intercalate_singleton]
        exact ⟨us, .one form, spelled⟩
      | @cons p' text' ps texts second others =>
        obtain ⟨us', forms, spelled⟩ := ih names (List.cons_ne_nil p' ps)
        have comma := Spells.mark (k := .comma) (c := ',') (by decide)
          (.blank (c := ' ') (by decide) spelled)
        obtain ⟨us, form, all⟩ := spells_parameter name first (endsWord_cons (by decide)) comma
        refine ⟨_, .cons (s := ⟨.comma, ","⟩) form rfl forms, ?_⟩
        simpa [String.intercalate_cons_cons] using all
  cases rendered with
  | nil => exact ⟨[], .none, closed⟩
  | @cons p text ps texts first others =>
    obtain ⟨us, form, spelled⟩ := separated (List.cons_ne_nil p ps)
    exact ⟨us, .some form, spelled⟩

/-! ## Bodies -/

theorem balanced_of_free {opening closing : Kind} {ks : List Kind}
    (h : ∀ k ∈ ks, k ≠ opening ∧ k ≠ closing) : Balanced opening closing ks := by
  have none : ∀ p, p <+: ks → p.count closing = 0 := fun p hp =>
    List.count_eq_zero.mpr fun hk => (h _ (hp.mem hk)).2 rfl
  have total : ks.count opening = 0 := List.count_eq_zero.mpr fun hk => (h _ hk).1 rfl
  exact ⟨by rw [none ks List.prefix_rfl, total], fun p hp => by rw [none p hp]; exact Nat.zero_le _⟩

/-- The placeholder of a result in front of a semicolon. -/
theorem spells_placeholder (result : String) (more : Spells (';' :: rest) ws) :
    ∃ us, (∀ w ∈ us, w.kind ≠ .lbrace ∧ w.kind ≠ .rbrace) ∧
      Spells ((placeholder result).toList ++ ';' :: rest) (us ++ ws) := by
  unfold placeholder
  split
  · exact ⟨[⟨.integerLiteral, "0"⟩], by decide, .zero more⟩
  · split
    · have word : IsName "false" := isWord_of_mem (by decide)
      exact ⟨[⟨.identifier, "false"⟩], by decide, spells_name word (endsWord_cons (by decide)) more⟩
    · split
      · exact ⟨[], by decide, more⟩
      · have word : IsName "null" := isWord_of_mem (by decide)
        exact ⟨[⟨.identifier, "null"⟩], by decide, spells_name word (endsWord_cons (by decide)) more⟩

/-- The body of a method stub is a group. -/
theorem writes_body (result : String) :
    Writes (Group .lbrace .rbrace) ("\x7b return " ++ placeholder result ++ "; \x7d") := by
  intro rest ws more
  have word : IsName "return" := isWord_of_mem (by decide)
  have closed := Spells.mark (k := .semicolon) (c := ';') (by decide)
    (.blank (c := ' ') (by decide) (.mark (k := .rbrace) (c := '\x7d') (by decide) more))
  obtain ⟨us, free, spelled⟩ := spells_placeholder result closed
  have opened := Spells.mark (k := .lbrace) (c := '\x7b') (by decide)
    (.blank (c := ' ') (by decide) (spells_keyword word rfl spelled))
  have inside : ∀ k ∈ (⟨.identifier, "return"⟩ :: (us ++ [⟨.semicolon, ";"⟩])).map Word.kind,
      k ≠ .lbrace ∧ k ≠ .rbrace := by
    intro k hk
    obtain ⟨w, hw, rfl⟩ := List.mem_map.mp hk
    rcases List.mem_cons.mp hw with rfl | hw
    · decide
    · rcases List.mem_append.mp hw with hw | hw
      · exact free w hw
      · rw [List.mem_singleton.mp hw]
        decide
  have body : Group .lbrace .rbrace (⟨.lbrace, "\x7b"⟩ ::
      ((⟨.identifier, "return"⟩ :: (us ++ [⟨.semicolon, ";"⟩])) ++ [⟨.rbrace, "\x7d"⟩])) :=
    .mk rfl rfl (balanced_of_free inside)
  refine ⟨_, body, ?_⟩
  simpa using opened

/-! ## Methods -/

/-- The type of a result in front of a blank. -/
theorem spells_result {result : Option JavaType} {text : String}
    (named : ∀ t ∈ result, t.WellNamed) (rendered : renderResult result = .ok text)
    (more : Spells rest ws) :
    ∃ us, Result (relocate unplaced result) us ∧ Spells (text.toList ++ ' ' :: rest) (us ++ ws) := by
  cases result with
  | none =>
    cases rendered
    have word : IsWord .kwVoid "void".toList := isWord_of_mem (by decide)
    exact ⟨[⟨.kwVoid, "void"⟩], .void rfl, spells_keyword word rfl more⟩
  | some t =>
    obtain ⟨V, form, prints⟩ := prints_type t (named t rfl) rendered
    have blank : Spells (' ' :: rest) ws := .blank (by decide) more
    obtain ⟨us, rfl, spelled⟩ :=
      prints.plain (endsWord_cons (by decide)) (endsAngles_cons (by decide)) blank
    exact ⟨us, .type (.mk .nil form), spelled⟩

/-- A method stub behind the type of its result: the name, the parameters and the body. -/
theorem spells_signature {m : Method} {parameters : List String} (named : m.WellNamed)
    (printed : m.parameters.mapM Parameter.render = .ok parameters) (result : String)
    (more : Spells rest ws) :
    ∃ qs bs, Parameters (relocate unplaced m.parameters) qs ∧ Group .lbrace .rbrace bs ∧
      Spells (m.name.toList ++ ' ' :: '(' :: ((", ".intercalate parameters).toList ++ ')' :: ' ' ::
          (("\x7b return " ++ placeholder result ++ "; \x7d").toList ++ rest)))
        (⟨.identifier, m.name⟩ :: ⟨.lparen, "("⟩ :: (qs ++ ⟨.rparen, ")"⟩ :: (bs ++ ws))) := by
  obtain ⟨bs, body, spelled⟩ := writes_body result more
  have blank := Spells.blank (c := ' ') (by decide) spelled
  obtain ⟨qs, listed, spelled⟩ := spells_parameters named.parameters (forall₂_of_mapM printed) blank
  have opened := Spells.blank (c := ' ') (by decide)
    (.mark (k := .lparen) (c := '(') (by decide) spelled)
  exact ⟨qs, bs, listed, body, spells_name named.name (endsWord_cons (by decide)) opened⟩

/-- The line of a method stub has the form of the method. -/
theorem writes_method {Leading : JavaType → Prop} {m : Method} {text : String} (named : m.WellNamed)
    (plain : m.typeParameters = []) (leading : ∀ t ∈ relocate unplaced m.result, Leading t)
    (rendered : m.stub = .ok text) :
    Writes (Member Leading (some (relocate unplaced m))) text := by
  intro rest ws more
  obtain ⟨parameters, printed, rendered⟩ := bind_eq_ok_iff.mp rendered
  obtain ⟨result, printedResult, rendered⟩ := bind_eq_ok_iff.mp rendered
  cases rendered
  obtain ⟨qs, bs, listed, body, spelled⟩ := spells_signature named printed result more
  obtain ⟨rs, returned, spelled⟩ := spells_result named.result printedResult spelled
  obtain ⟨ms, modified, spelled⟩ := spells_modifiers m.modifiers spelled
  have tail : MemberTail ([] ++ bs) := .body (fun _ h => absurd h List.not_mem_nil) body
  have allowed : ([] : List Word) = [] → ∀ t ∈ relocate unplaced m.result, Leading t :=
    fun _ => leading
  have form := Member.method modified .none returned
    allowed (w := ⟨.identifier, m.name⟩) rfl (l := ⟨.lparen, "("⟩) rfl listed
    (r := ⟨.rparen, ")"⟩) rfl (n := 0) .nil (fun _ => rfl) tail (by
      obtain ⟨opens, _, _⟩ := body
      exact notAt_cons.mpr (by rw [opens]; decide))
  have undimensioned : (relocate unplaced m.result).map (·.addDimensions 0) =
      relocate unplaced m.result := by
    cases relocate unplaced m.result <;> simp
  have same : relocate unplaced m =
      ⟨m.modifiers, [], relocate unplaced m.result, m.name, relocate unplaced m.parameters, noSpan⟩ := by
    rw [← plain]
    rfl
  rw [undimensioned, ← same] at form
  refine ⟨_, form, ?_⟩
  simpa [Method.line] using spelled

/-- With the bare name `record` as its result, the line of a method stub has the form of a nested
record, whose header are the parameters of the method. -/
theorem writes_record {Leading : JavaType → Prop} {m : Method} {text : String} {span : Span}
    (named : m.WellNamed) (bare : m.result = some (.reference (.mk "record" [] 0 span)))
    (rendered : m.stub = .ok text) : Writes (Member Leading none) text := by
  intro rest ws more
  obtain ⟨parameters, printed, rendered⟩ := bind_eq_ok_iff.mp rendered
  obtain ⟨result, printedResult, rendered⟩ := bind_eq_ok_iff.mp rendered
  cases rendered
  have record : IsName "record" := by
    have type := named.result _ bare
    cases type
    assumption
  obtain rfl : result = "record" := by
    rw [bare] at printedResult
    exact (Except.ok.inj printedResult).symm
  obtain ⟨qs, bs, listed, body, spelled⟩ := spells_signature named printed "record" more
  obtain ⟨ms, modified, spelled⟩ := spells_modifiers m.modifiers (spells_keyword record rfl spelled)
  have header : HeaderTail (⟨.lparen, "("⟩ :: (qs ++ [⟨.rparen, ")"⟩])) := by
    have group : Shielded roundGroups [.lbrace, .kwPackage]
        (.lparen :: (qs.map Word.kind ++ .rparen :: [])) :=
      .group (g := (.lparen, .rparen)) (List.mem_singleton.mpr rfl) listed.bracketed .nil
    unfold HeaderTail
    simpa using group
  have form : Member Leading none _ := .nestedType modified
    (.ofHeader (.record (w := ⟨.identifier, "record"⟩) rfl rfl))
    (.mk (w := ⟨.identifier, m.name⟩) rfl header body)
  refine ⟨_, form, ?_⟩
  simpa [Method.line] using spelled

theorem Writes.indent {Form : List Word → Prop} {text : String} (h : Writes Form text) :
    Writes Form (StubFile.indent ++ text) := by
  intro rest ws more
  obtain ⟨us, form, spelled⟩ := h more
  refine ⟨us, form, ?_⟩
  rw [String.toList_append, List.append_assoc]
  exact .blank (by decide) (.blank (by decide) (.blank (by decide) (.blank (by decide) spelled)))

end JavaStub
