import JavaStub.Proofs.Completeness.Members
import JavaStub.Proofs.PackageAhead

/-!
# Reading compilation units

Words that have the form of a compilation unit are read as this unit, with exactly the methods
that are among the members of its classes.

Main facts:

1. `packageAhead_of_shielded`: no package is seen ahead of a type.
2. `reads_unit`: a unit is read to the end of its words.
3. `ofTokens_of_isUnit`: tokens with such words are read as the unit, up to places.
-/

namespace JavaStub

open Token (Kind)

open Cursor

variable {ws vs us : List Word}

namespace Grammar

/-! ## Round brackets around types -/

theorem NameTail.shielded {ns : List String} (h : NameTail ns ws) :
    Shielded roundGroups [.kwPackage] (ws.map Word.kind) := by
  induction h with
  | nil => exact .nil
  | cons joins name _ ih =>
    refine .token (by rw [joins]; decide) (by rw [joins]; decide) ?_
    exact .token (by rw [name]; decide) (by rw [name]; decide) ih

theorem Name.shielded {n : String} (h : Name n ws) :
    Shielded roundGroups [.kwPackage] (ws.map Word.kind) := by
  obtain ⟨name, more⟩ := h
  exact .token (by rw [name]; decide) (by rw [name]; decide) more.shielded

theorem Annotation.shielded (h : Annotation ws) :
    Shielded roundGroups [.kwPackage] (ws.map Word.kind) := by
  cases h with
  | plain sign name => exact .token (by rw [sign]; decide) (by rw [sign]; decide) name.shielded
  | withArguments sign name arguments =>
    obtain ⟨opens, closes, enclosed⟩ := arguments
    refine .token (by rw [sign]; decide) (by rw [sign]; decide) ?_
    rw [List.map_append]
    refine name.shielded.append ?_
    rw [List.map_cons, List.map_append, opens, List.map_singleton, closes]
    exact .group (g := (.lparen, .rparen)) (List.mem_singleton.mpr rfl) enclosed .nil

theorem Modifiers.shielded {ms : List Modifier} (h : Modifiers ms ws) :
    Shielded roundGroups [.kwPackage] (ws.map Word.kind) := by
  obtain ⟨items⟩ := h
  induction items with
  | nil => exact .nil
  | cons first _ ih =>
    rw [List.map_append]
    refine Shielded.append ?_ ih
    cases first with
    | passed h => exact h.shielded
    | @modifier w m stands =>
      -- `w` is the keyword of a modifier, so it has no other kind
      have other : ∀ k, modifierOf? k = none → w.kind ≠ k := fun k hk hw => by
        rw [hw, hk] at stands
        cases stands
      refine .token (fun hw => other .kwPackage rfl (List.mem_singleton.mp hw)) ?_ .nil
      intro g hg
      rw [List.mem_singleton.mp hg]
      exact other .lparen rfl

/-! ## Where units go on -/

/-- A type starts with a modifier or with its keyword. -/
theorem TopLevel.notAt {Leading : JavaType → Prop} {d : TypeDeclaration}
    (h : TopLevel Leading d ws) : NotAt [.semicolon, .kwImport] (ws ++ vs) := by
  cases h with
  | ofClass modifiers keyword =>
    rw [List.append_assoc]
    exact modifiers.notAt (by decide) (by decide) (notAt_cons.mpr (by rw [keyword]; decide))
  | ofHeader modifiers keyword =>
    rw [List.append_assoc, List.append_assoc]
    exact modifiers.notAt (by decide) (by decide) (TypeKeyword.notAt (.ofHeader keyword) (by decide))

/-- Semicolons before the first type may as well follow the imports. -/
theorem Many.split {Leading : JavaType → Prop} {ds : List (Option TypeDeclaration)}
    (h : Many (TypeOrSemicolon Leading) ds ws) :
    ∃ n us vs ds', ws = us ++ vs ∧ Many ImportOrSemicolon (List.replicate n none) us ∧
      Many (TypeOrSemicolon Leading) ds' vs ∧ ds.filterMap id = ds'.filterMap id ∧
        NotAt [.semicolon, .kwImport] vs := by
  induction h with
  | nil => exact ⟨0, [], [], [], rfl, .nil, .nil, rfl, notAt_nil _⟩
  | @cons d ds ws vs first more ih =>
    -- the loop over the imports takes semicolons too, so it takes those in front of the first type
    cases first with
    | @semicolon s h =>
      obtain ⟨n, us, vs, ds', rfl, semicolons, types, same, starts⟩ := ih
      have more : Many ImportOrSemicolon (none :: List.replicate n none) ([s] ++ us) :=
        .cons (.semicolon h) semicolons
      exact ⟨n + 1, [s] ++ us, vs, ds', rfl, more, types, same, starts⟩
    | @ofType d _ h =>
      exact ⟨0, [], _, some d :: ds, rfl, .nil, .cons (.ofType h) more, rfl, h.notAt⟩

end Grammar

namespace Reading

open Grammar

/-! ## The package -/

/-- Ahead of matched round brackets and a stop no package is seen. -/
theorem packageAhead_of_shielded {p : List Token} {w : Token} {r : List Token}
    (h : Round [.kwPackage] p)
    (hw : w.kind ≠ .identifier ∧ w.kind ≠ .dot ∧ w.kind ≠ .lparen ∧ w.kind ≠ .kwPackage)
    (stop : atAnnotation ⟨.start, w :: r⟩ = false) :
    packageAhead (p ++ w :: r) = false := by
  obtain ⟨notName, notDot, notRound, notPackage⟩ := hw
  cases p with
  | nil =>
    rw [List.nil_append, packageAhead_of_not stop]
    exact decide_eq_false notPackage
  | cons t p =>
    rw [List.cons_append]
    cases starts : atAnnotation ⟨.start, t :: (p ++ w :: r)⟩ with
    | false =>
      rw [packageAhead_of_not starts]
      refine decide_eq_false fun ht => ?_
      unfold Round at h
      rw [List.map_cons, ht] at h
      rcases h.head with free | ⟨g, known, opens⟩
      · exact free (List.mem_singleton.mpr rfl)
      · rw [List.mem_singleton.mp known] at opens
        cases opens
    | true =>
      have sign : t.kind = .atSign := Option.some.inj <| sign_of_atAnnotation starts
      obtain ⟨q, short, shielded, behind⟩ :=
        exists_packageAhead_behind h ⟨notName, notDot, notRound⟩ sign
      rw [behind r starts]
      exact packageAhead_of_shielded shielded ⟨notName, notDot, notRound, notPackage⟩ stop
termination_by p.length
decreasing_by
  subst_vars
  rw [List.length_cons]
  omega

theorem packageAhead_of_shielded_words {p r : List Word} {w : Word}
    (h : Shielded roundGroups [.kwPackage] (p.map Word.kind))
    (hw : w.kind ≠ .identifier ∧ w.kind ≠ .dot ∧ w.kind ≠ .lparen ∧ w.kind ≠ .kwPackage)
    (stop : atAnnotation (ofWords (w :: r)) = false) :
    packageAhead ((p ++ w :: r).map Word.token) = false := by
  rw [List.map_append]
  refine packageAhead_of_shielded ?_ hw stop
  unfold Round
  rw [map_kind_token]
  exact h

/-- No package is seen ahead of a type. -/
theorem packageAhead_topLevel {Leading : JavaType → Prop} {d : TypeDeclaration}
    (h : TopLevel Leading d ws) : packageAhead ((ws ++ vs).map Word.token) = false := by
  cases h with
  | ofClass modifiers keyword =>
    rw [List.append_assoc]
    exact packageAhead_of_shielded_words modifiers.shielded (by rw [keyword]; decide)
      (noSign_of_ne (by rw [keyword]; decide))
  | ofHeader modifiers keyword declared =>
    rw [List.append_assoc, List.append_assoc]
    cases keyword with
    | interface h | enum h =>
      exact packageAhead_of_shielded_words modifiers.shielded (by rw [h]; decide)
        (noSign_of_ne (by rw [h]; decide))
    | annotationType sign h =>
      refine packageAhead_of_shielded_words modifiers.shielded (by rw [sign]; decide) ?_
      unfold atAnnotation
      rw [kind?_ofWords, secondKind?_ofWords]
      simp [h]
    | @record k h spelled =>
      -- the name of a record is taken for a part of the annotation before it
      obtain ⟨name, header, body⟩ := declared
      rename_i ms ws w hs bs
      obtain ⟨l, bs, rfl, opens⟩ := body.starts
      have same : ws ++ ([k] ++ (w :: (hs ++ l :: bs) ++ vs)) =
          (ws ++ (k :: w :: hs)) ++ l :: (bs ++ vs) := by simp
      rw [same]
      refine packageAhead_of_shielded_words ?_ (by rw [opens]; decide)
        (noSign_of_ne (by rw [opens]; decide))
      rw [List.map_append]
      refine modifiers.shielded.append (.token (by rw [h]; decide) (by rw [h]; decide) ?_)
      exact .token (by rw [name]; decide) (by rw [name]; decide) (header.mono (by decide))

/-- The package is seen ahead of its annotations. -/
theorem packageAhead_annotations {k : Word} (h : Annotations ws) (keyword : k.kind = .kwPackage) :
    packageAhead ((ws ++ k :: vs).map Word.token) = true := by
  have stops : NotAt (.atSign :: annotationEnds) (k :: vs) :=
    notAt_cons.mpr (by rw [keyword]; decide)
  have next : (ofWords (k :: vs)).kind? = some .kwPackage := by
    rw [kind?_ofWords]
    exact congrArg some keyword
  exact packageAhead_of_keyword (reads_annotations h stops) next

theorem reads_package {p : Option Package} (h : PackageClause p ws)
    (ahead : p = none → packageAhead (vs.map Word.token) = false) :
    Reads (onward package?) (ws ++ vs) p vs := by
  rw [onward_package?]
  cases h with
  | none => exact (reads_look (ahead rfl)).bind (reads_pure _)
  | @some k s n as ws annotations keyword name ends =>
    have stops : NotAt (.atSign :: annotationEnds) (k :: (ws ++ s :: vs)) :=
      notAt_cons.mpr (by rw [keyword]; decide)
    have read := reads_annotations annotations stops
    have same : (as ++ k :: (ws ++ [s])) ++ vs = as ++ k :: (ws ++ s :: vs) := by simp
    rw [same]
    refine (reads_look (packageAhead_annotations annotations keyword)).bind ?_
    refine read.bind ?_
    refine Reads.bind ?_ (reads_pure _)
    rw [past_package]
    have joins : NotAt [.dot] (s :: vs) := notAt_cons.mpr (by rw [ends]; decide)
    refine (reads_look (location_ofWords _)).bind ?_
    refine (reads_expect keyword).bind ?_
    refine (reads_qualifiedName name (notJoined_of_notAt joins (by decide))).bind ?_
    exact (reads_expect ends).bind ((reads_look (a := noSpan) rfl).bind (reads_pure _))

/-! ## Imports -/

theorem reads_importStar {isWildcard : Bool} (h : Star isWildcard ws) (behind : NotAt [.dot] vs) :
    Reads (onward importStar) (ws ++ vs) isWildcard vs := by
  rw [onward_importStar]
  cases h with
  | absent => exact (reads_accept_none behind (List.mem_singleton.mpr rfl)).bind (reads_pure _)
  | present joins h => exact (reads_accept joins).bind ((reads_expect h).bind (reads_pure _))

theorem reads_importOrSemicolon {i : Option Import} (h : ImportOrSemicolon i ws) :
    Reads (step importOrSemicolon?) (ws ++ vs) (some i) vs := by
  rw [step_importOrSemicolon?]
  cases h with
  | semicolon h =>
    refine reads_byHead ?_
    rw [Word.token_kind, if_pos h]
    exact reads_first.bind (reads_pure _)
  | @ofImport i s n isStatic isWildcard es ws ss keyword optional name star ends =>
    refine reads_byHead ?_
    rw [Word.token_kind, if_neg (by rw [keyword]; decide), if_pos keyword]
    refine reads_first.bind (Reads.bind ?_ (reads_pure _))
    have same : (es ++ (ws ++ (ss ++ [s]))) ++ vs = es ++ (ws ++ (ss ++ s :: vs)) := by simp
    have ended : NotAt [.dot] (s :: vs) := notAt_cons.mpr (by rw [ends]; decide)
    have joins : NotJoined (ss ++ s :: vs) := by
      cases star with
      | absent => exact notJoined_of_notAt ended (List.mem_singleton.mpr rfl)
      | present _ h =>
        rintro _ _ _ ⟨⟩ _ h'
        rw [h] at h'
        cases h'
    have named : NotAt [.kwStatic] (ws ++ (ss ++ s :: vs)) := by
      obtain ⟨name, _⟩ := name
      exact notAt_cons.mpr (by rw [name]; decide)
    show Reads (past (importTail .start)) ((es ++ (ws ++ (ss ++ [s]))) ++ vs) _ vs
    rw [same, past_importTail]
    refine (reads_optional optional named (List.mem_singleton.mpr rfl)).bind ?_
    refine (reads_qualifiedName name joins).bind ?_
    refine (reads_importStar star ended).bind ?_
    exact (reads_expect ends).bind ((reads_look (a := noSpan) rfl).bind (reads_pure _))

theorem reads_imports {is : List (Option Import)} (h : Many ImportOrSemicolon is ws)
    (behind : NotAt [.semicolon, .kwImport] vs) :
    Reads (onward imports) (ws ++ vs) (is.filterMap id) vs := by
  have last : Reads (step importOrSemicolon?) vs none vs := by
    rw [step_importOrSemicolon?]
    cases vs with
    | nil => exact reads_byHead_nil
    | cons w vs =>
      have other := notAt_cons.mp behind
      refine reads_byHead ?_
      rw [Word.token_kind, if_neg (fun hw => other (by rw [hw]; decide)),
        if_neg (fun hw => other (by rw [hw]; decide))]
      exact reads_pure _
  rw [onward_imports]
  refine Reads.bind ?_ (reads_pure _)
  exact reads_many (fun _ => True) h (fun _ _ _ h _ => reads_importOrSemicolon h)
    (fun _ _ _ _ => trivial) trivial last

/-! ## Types -/

theorem reads_class {ms : List Modifier} {w l r : Word} {ns : List String}
    {found : List (Option Method)} {hs bs : List Word} (name : w.kind = .identifier)
    (typeParameters : TypeParameters ns us) (header : HeaderTail hs) (initial : NotAt [.lt] hs)
    (opens : l.kind = .lbrace) (members : Many (Member NotBareRecord) found bs)
    (closes : r.kind = .rbrace) :
    Reads (past (classTail .start ms)) (w :: (us ++ (hs ++ l :: (bs ++ r :: vs))))
      ⟨ms, w.lexeme, ns, found.filterMap id, noSpan⟩ vs := by
  have next : NotAt [.lt] (hs ++ l :: (bs ++ r :: vs)) :=
    notAt_append initial (notAt_cons.mpr (by rw [opens]; decide))
  rw [past_classTail]
  refine (reads_identifier name).bind ?_
  refine (reads_typeParameters typeParameters fun _ => next).bind ?_
  refine (reads_headerTail header opens).bind ?_
  refine (reads_expect opens).bind ?_
  refine (reads_members members closes).bind ?_
  exact (reads_look (a := noSpan) rfl).bind (reads_pure _)

theorem reads_typeDeclaration {d : TypeDeclaration} (h : TopLevel NotBareRecord d ws) :
    Reads (past typeDeclaration) (ws ++ vs) d vs := by
  rw [past_typeDeclaration]
  refine (reads_look (location_ofWords _)).bind ?_
  cases h with
  | @ofClass ms c w l r ns found ws us hs bs modifiers keyword name typeParameters header initial
      opens members closes =>
    have same : (ws ++ c :: w :: (us ++ (hs ++ l :: (bs ++ [r])))) ++ vs =
        ws ++ c :: w :: (us ++ (hs ++ l :: (bs ++ r :: vs))) := by simp
    rw [same]
    refine (reads_modifiers modifiers (.of_kind keyword (by decide) rfl)).bind ?_
    refine (reads_typeKeyword_class keyword).bind ?_
    exact (reads_class name typeParameters header initial opens members closes).bind (reads_pure _)
  | @ofHeader kind ms n ws ks us modifiers keyword declared =>
    rw [List.append_assoc, List.append_assoc]
    refine (reads_modifiers modifiers (TypeKeyword.ofHeader keyword).endsModifiers).bind ?_
    have introduces : Reads (option typeKeyword) (ks ++ (us ++ vs)) (some (.ofHeader kind))
        (us ++ vs) := by
      obtain ⟨name, _, _⟩ := declared
      exact reads_typeKeyword_header keyword name
    refine introduces.bind ?_
    have header : Reads (past (headerOfType kind .start ms)) (us ++ vs) ⟨kind, ms, n, noSpan⟩ vs := by
      rw [past_headerOfType]
      exact (reads_passedType declared).bind ((reads_look (a := noSpan) rfl).bind (reads_pure _))
    exact header.bind (reads_pure _)

theorem reads_typeOrSemicolon {d : Option TypeDeclaration} (h : TypeOrSemicolon NotBareRecord d ws) :
    Reads (step typeOrSemicolon?) (ws ++ vs) (some d) vs := by
  rw [step_typeOrSemicolon?]
  cases h with
  | semicolon h =>
    refine reads_byHead ?_
    rw [Word.token_kind, if_pos h]
    exact reads_first.bind (reads_pure _)
  | ofType h =>
    have starts : NotAt [.semicolon, .kwImport] (ws ++ vs) := h.notAt
    have read : Reads (past typeDeclaration) (ws ++ vs) _ vs := reads_typeDeclaration h
    cases same : ws ++ vs with
    | nil =>
      rw [same] at read
      exact absurd (past_lt read) (Nat.not_lt_zero _)
    | cons w us =>
      rw [same] at starts read
      refine reads_byHead ?_
      rw [Word.token_kind, if_neg (fun hw => notAt_cons.mp starts (by rw [hw]; decide))]
      exact read.bind (reads_pure _)

theorem reads_typeDeclarations {ds : List (Option TypeDeclaration)}
    (h : Many (TypeOrSemicolon NotBareRecord) ds ws) :
    Reads (onward typeDeclarations) ws (ds.filterMap id) [] := by
  have last : Reads (step typeOrSemicolon?) [] none [] := by
    rw [step_typeOrSemicolon?]
    exact reads_byHead_nil
  have loop := reads_many (fun _ => True) h (fun _ _ _ h _ => reads_typeOrSemicolon h)
    (fun _ _ _ _ => trivial) trivial last
  rw [List.append_nil] at loop
  rw [onward_typeDeclarations]
  exact loop.bind (reads_pure _)

/-! ## Units -/

/-- Without a package declaration no package is seen ahead. -/
theorem packageAhead_unit {Leading : JavaType → Prop} {is : List (Option Import)}
    {ds : List (Option TypeDeclaration)} (imports : Many ImportOrSemicolon is ws)
    (types : Many (TypeOrSemicolon Leading) ds vs) :
    packageAhead ((ws ++ vs).map Word.token) = false := by
  have other : ∀ {w : Word} {us : List Word} {k : Kind}, w.kind = k → k ≠ .atSign →
      k ≠ .kwPackage → packageAhead ((w :: us).map Word.token) = false := by
    rintro w us k rfl noSign noPackage
    have stop : atAnnotation (ofWords (w :: us)) = false := noSign_of_ne noSign
    exact (packageAhead_of_not stop).trans (decide_eq_false noPackage)
  cases imports with
  | nil =>
    rw [List.nil_append]
    cases types with
    | nil => exact packageAhead_nil
    | cons first more =>
      cases first with
      | semicolon h => exact other h (by decide) (by decide)
      | ofType h => exact packageAhead_topLevel h
  | cons first more =>
    cases first with
    | semicolon h => exact other h (by decide) (by decide)
    | ofImport keyword => exact other keyword (by decide) (by decide)

theorem reads_unit {u : CompilationUnit} (h : IsUnit NotBareRecord u ws) : Reads unit ws u [] := by
  obtain ⟨package, imports, types⟩ := h
  rename_i p is ds as bs cs
  have ahead := packageAhead_unit imports types
  obtain ⟨n, us, vs, ds', rfl, semicolons, types', same, starts⟩ := types.split
  have all : Many ImportOrSemicolon (is ++ List.replicate n none) (bs ++ us) :=
    imports.append semicolons
  have kept : (is ++ List.replicate n none).filterMap id = is.filterMap id := by simp
  have read := reads_imports all starts
  rw [kept, List.append_assoc] at read
  unfold unit
  refine (reads_look (location_ofWords _)).bind ?_
  refine (reads_package package fun _ => ahead).bind ?_
  refine read.bind ?_
  refine (reads_typeDeclarations types').bind ?_
  rw [← same]
  exact (reads_look (a := noSpan) rfl).bind (reads_pure _)

end Reading

namespace CompilationUnit

open Grammar

/-- Words that have the form of a unit are read as this unit. -/
theorem ofTokens_words {ws : List Word} {u : CompilationUnit} (h : IsUnit NotBareRecord u ws) :
    ofTokens (ws.map Word.token) = .ok u := by
  unfold ofTokens
  rw [← Reading.map_run_unit]
  exact congrArg (Except.map (·.1)) (Reading.reads_unit h)

/-- Places do not matter for it. -/
theorem relocate_ofTokens {ts : List Token} {u : CompilationUnit}
    (h : IsUnit NotBareRecord u (ts.map Token.word)) : relocate unplaced (ofTokens ts) = .ok u := by
  rw [← ofTokens_relocate rfl, relocate_unplaced, ofTokens_words h]

/-- Tokens whose words have the form of a unit are read as this unit, up to places, if the type
that directly follows the modifiers of a field or method is never the bare name `record`. -/
theorem ofTokens_of_isUnit {ts : List Token} {u : CompilationUnit}
    (h : IsUnit NotBareRecord u (ts.map Token.word)) :
    ∃ u', ofTokens ts = .ok u' ∧ relocate unplaced u' = u := by
  have words := ofTokens_words h
  rw [← relocate_unplaced, ofTokens_relocate rfl] at words
  exact exists_of_relocate_ok words

/-- The tokens of a class with one method, `List<List<E>> f() \x7b\x7d`. -/
def nestedArguments : List Token :=
  [⟨.kwClass, "class", .start⟩, ⟨.identifier, "C", .start⟩, ⟨.lbrace, "\x7b", .start⟩,
   ⟨.identifier, "List", .start⟩, ⟨.lt, "<", .start⟩, ⟨.identifier, "List", .start⟩,
   ⟨.lt, "<", .start⟩, ⟨.identifier, "E", .start⟩, ⟨.rshift, ">>", .start⟩,
   ⟨.identifier, "f", .start⟩, ⟨.lparen, "(", .start⟩, ⟨.rparen, ")", .start⟩,
   ⟨.lbrace, "\x7b", .start⟩, ⟨.rbrace, "\x7d", .start⟩, ⟨.rbrace, "\x7d", .start⟩]

/-- The type `List<List<E>>`. -/
def listOfLists : JavaType :=
  .reference (.mk "List"
    [.argument (.reference (.mk "List"
      [.argument (.reference (.mk "E" [] 0 noSpan)) noSpan] 0 noSpan)) noSpan] 0 noSpan)

/-- The unit that `nestedArguments` has the form of. -/
def nestedArgumentsUnit : CompilationUnit :=
  ⟨none, [], [.ofClass ⟨[], "C", [], [⟨[], [], some listOfLists, "f", [], noSpan⟩], noSpan⟩], noSpan⟩

theorem isUnit_nestedArguments :
    IsUnit NotBareRecord nestedArgumentsUnit (nestedArguments.map Token.word) := by
  have element : Argument _ [⟨.identifier, "E"⟩] :=
    .type .nil (.named (.plain rfl) .nil (n := 0) .nil)
  have opens : (⟨.lt, "<"⟩ : Word).kind = .lt := rfl
  have list : Argument _ _ := .type .nil
    (.named (.generic (w := ⟨.identifier, "List"⟩) rfl opens (.one element)) .nil (n := 0) .nil)
  have type : IsType listOfLists _ := .mk .nil
    (.named (.generic (w := ⟨.identifier, "List"⟩) rfl opens (.one list)) .nil (n := 0) .nil)
  have result : Result (some listOfLists) [⟨.identifier, "List"⟩, ⟨.lt, "<"⟩,
      ⟨.identifier, "List"⟩, ⟨.lt, "<"⟩, ⟨.identifier, "E"⟩, ⟨.rshift, ">>"⟩] := .type type
  have enclosed : Balanced .lbrace .rbrace (([] : List Word).map Word.kind) :=
    balanced_iff_closes.mpr (closes_nil_iff.mpr rfl)
  have body : Group .lbrace .rbrace (⟨.lbrace, "\x7b"⟩ :: ([] ++ [⟨.rbrace, "\x7d"⟩])) :=
    .mk rfl rfl enclosed
  have tail : MemberTail ([] ++ [⟨.lbrace, "\x7b"⟩, ⟨.rbrace, "\x7d"⟩]) :=
    .body (fun _ h => absurd h List.not_mem_nil) body
  have other : NotBareRecord listOfLists := fun h => by simp [listOfLists] at h
  have method : Member NotBareRecord _ _ :=
    .method (.mk .nil) .none result (fun _ _ h => by cases h; exact other)
      (w := ⟨.identifier, "f"⟩) rfl (l := ⟨.lparen, "("⟩) rfl .none (r := ⟨.rparen, ")"⟩) rfl
      (n := 0) .nil (fun _ => rfl) tail (notAt_cons.mpr (by decide))
  have header : HeaderTail [] := Shielded.nil
  have declaration : TopLevel NotBareRecord _ _ :=
    .ofClass (.mk .nil) (c := ⟨.kwClass, "class"⟩) rfl (w := ⟨.identifier, "C"⟩) rfl .none
      header (notAt_nil _) (l := ⟨.lbrace, "\x7b"⟩) rfl (.cons method .nil)
      (r := ⟨.rbrace, "\x7d"⟩) rfl
  exact .mk .none .nil (.cons (.ofType declaration) .nil)

/-- For instance, a lexeme `>>` closes two lists of type arguments. -/
theorem ofTokens_nestedArguments :
    ∃ u', ofTokens nestedArguments = .ok u' ∧ relocate unplaced u' = nestedArgumentsUnit :=
  ofTokens_of_isUnit isUnit_nestedArguments

/-- The tokens of a class with a field `record x;`. -/
def recordField : List Token :=
  [⟨.kwClass, "class", .start⟩, ⟨.identifier, "C", .start⟩, ⟨.lbrace, "\x7b", .start⟩,
   ⟨.identifier, "record", .start⟩, ⟨.identifier, "x", .start⟩, ⟨.semicolon, ";", .start⟩,
   ⟨.rbrace, "\x7d", .start⟩]

/-- The unit that `recordField` has the form of. -/
def recordFieldUnit : CompilationUnit :=
  ⟨none, [], [.ofClass ⟨[], "C", [], [], noSpan⟩], noSpan⟩

theorem isUnit_recordField :
    IsUnit (fun _ => True) recordFieldUnit (recordField.map Token.word) := by
  have bare : IsType _ [⟨.identifier, "record"⟩] :=
    .mk .nil (.named (.plain rfl) .nil (n := 0) .nil)
  have type : IsType _ (unfused [⟨.identifier, "record"⟩]) := bare
  have tail : FieldTail ([] ++ [⟨.semicolon, ";"⟩]) := .mk .nil rfl
  have field : Member (fun _ => True) _ _ :=
    .field (.mk .nil) type trivial (w := ⟨.identifier, "x"⟩) rfl tail
      (notAt_cons.mpr (by decide))
  have header : HeaderTail [] := Shielded.nil
  have declaration : TopLevel (fun _ => True) _ _ :=
    .ofClass (.mk .nil) (c := ⟨.kwClass, "class"⟩) rfl (w := ⟨.identifier, "C"⟩) rfl .none
      header (notAt_nil _) (l := ⟨.lbrace, "\x7b"⟩) rfl (.cons field .nil)
      (r := ⟨.rbrace, "\x7d"⟩) rfl
  exact .mk .none .nil (.cons (.ofType declaration) .nil)

/-- Without the restriction a unit need not be read: where the name `x` follows the name `record`,
a record is read. -/
theorem not_ofTokens_of_isUnit :
    ¬∀ (ts : List Token) (u : CompilationUnit),
      IsUnit (fun _ => True) u (ts.map Token.word) →
        ∃ u', ofTokens ts = .ok u' ∧ relocate unplaced u' = u := by
  intro all
  obtain ⟨u', read, _⟩ := all recordField recordFieldUnit isUnit_recordField
  have refused : ofTokens recordField = .error (.unexpectedEnd .body .start) := by decide +kernel
  rw [refused] at read
  cases read

end CompilationUnit

end JavaStub
