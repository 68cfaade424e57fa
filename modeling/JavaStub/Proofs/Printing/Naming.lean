import JavaStub.Proofs.Fidelity

/-!
# Names and texts of types

The namer and the renderer of types walk them on their own. They refuse the same types, and of a type
that is read from a source the namer lists what stands in its text: the identifiers and the keywords
of primitive types, in their order. What else stands there are marks.

Main facts:

1. `prints_names`: the text of a type is spelled by words that hold the names of the type.
2. `JavaType.Part.agrees`: namer and renderer agree on every part of a type.
3. `neededNames_exact`: the needed names of a class are those in the texts of its stub.
-/

namespace JavaStub

open Token (Kind)

variable {V : List Word} {names : List String}

/-! ## Names in a text -/

/-- Is the kind one of names, or the keyword of a primitive type? -/
def Token.Kind.isTypeName (k : Kind) : Bool := k = .identifier || k.isPrimitive

theorem angleCount_of_isTypeName {k : Kind} (h : k.isTypeName = true) :
    Cursor.angleCount k = 0 :=
  Grammar.angleCount_of_startsType ((Bool.or_comm _ _).trans h)

/-- The names among words. -/
def nameLexemes (ws : List Word) : List String := (ws.filter (·.kind.isTypeName)).map Word.lexeme

/-- The identifiers and the keywords of primitive types in a text, in their order. -/
def namesInText (text : String) : Except ParseError (List String) :=
  (Source.tokens text).map fun ts => nameLexemes (ts.map Token.word)

theorem nameLexemes_append (V W : List Word) : nameLexemes (V ++ W) = nameLexemes V ++ nameLexemes W := by
  simp [nameLexemes]

theorem nameLexemes_cons (w : Word) (ws : List Word) :
    nameLexemes (w :: ws) = nameLexemes [w] ++ nameLexemes ws :=
  nameLexemes_append [w] ws

theorem nameLexemes_name {w : Word} (h : w.kind.isTypeName = true) : nameLexemes [w] = [w.lexeme] := by
  simp [nameLexemes, h]

theorem nameLexemes_mark {w : Word} (h : w.kind.isTypeName = false) : nameLexemes [w] = [] := by
  simp [nameLexemes, h]

/-- Angles are no names, fused or not. -/
theorem nameLexemes_unfused (ws : List Word) : nameLexemes (unfused ws) = nameLexemes ws := by
  induction ws with
  | nil => rfl
  | cons w ws ih =>
    rw [unfused_cons, nameLexemes_append, nameLexemes_cons, ih]
    by_cases single : Cursor.angleCount w.kind = 0
    · rw [Word.unfused_of_count single]
    · have mark : w.kind.isTypeName = false :=
        eq_false_of_ne_true fun name => single (angleCount_of_isTypeName name)
      rw [Word.unfused_eq_replicate single, nameLexemes_mark mark]
      simp [nameLexemes, Word.closing, Token.Kind.isTypeName, Token.Kind.isPrimitive]

theorem nameLexemes_bracketWords (n : Nat) : nameLexemes (bracketWords n) = [] := by
  induction n with
  | zero => rfl
  | succ n ih => exact ih

/-- A text that is spelled by words has their names in it. -/
theorem namesInText_of_prints {text : String} (h : Prints text.toList V) :
    namesInText text = .ok (nameLexemes V) := by
  obtain ⟨ts, cuts, rfl⟩ := h.exists_tokens
  rw [namesInText, cuts, nameLexemes_unfused]
  rfl

/-! ## Types -/

/-- The text is spelled by words with these names. -/
def PrintsNames (text : String) (names : List String) : Prop :=
  ∃ V, Prints text.toList V ∧ nameLexemes V = names

/-- A text with empty brackets behind it has the same names in it. -/
theorem PrintsNames.brackets {text : String} (h : PrintsNames text names) (dims : Nat) :
    PrintsNames (text ++ brackets dims) names := by
  obtain ⟨V, printed, rfl⟩ := h
  refine ⟨_, (printed.brackets dims).congr (String.toList_append ..) rfl, ?_⟩
  rw [nameLexemes_append, nameLexemes_bracketWords, List.append_nil]

/-- A name with type arguments in angles has its name and then those of the arguments in it. -/
theorem PrintsNames.angled {n : String} {text : String} (name : IsName n)
    (h : PrintsNames text names) :
    PrintsNames (n ++ ("<" ++ text ++ ">")) (n :: names) := by
  obtain ⟨V, printed, rfl⟩ := h
  refine ⟨_, (printed.generic name).congr (by simp) rfl, ?_⟩
  rw [nameLexemes_cons, nameLexemes_cons _ (V ++ _), nameLexemes_append, nameLexemes_name rfl,
    nameLexemes_mark rfl, nameLexemes_mark rfl, List.append_nil]
  rfl

/-- Two texts with a comma between them. -/
theorem PrintsNames.comma {first second : String} {names' : List String}
    (h : PrintsNames first names) (h' : PrintsNames second names') :
    PrintsNames (first ++ "," ++ second) (names ++ names') := by
  obtain ⟨V, printed, rfl⟩ := h
  obtain ⟨W, printed', rfl⟩ := h'
  have commaed := printed.comma printed' (List.mem_cons_self : "," ∈ [",", ", "])
  refine ⟨_, commaed.congr (by simp) rfl, ?_⟩
  rw [nameLexemes_append, nameLexemes_cons, nameLexemes_mark rfl, List.nil_append]

theorem exists_of_namesOfArguments {t : JavaType} {ts : List JavaType}
    (h : namesOfArguments (t :: ts) = .ok names) :
    ∃ first others, t.names = .ok first ∧ namesOfArguments ts = .ok others ∧
      names = first ++ others := by
  rw [namesOfArguments] at h
  split at h
  · cases h
  · next first found =>
    obtain ⟨others, below, rfl⟩ := map_eq_ok_iff.mp h
    exact ⟨first, others, found, below, rfl⟩

theorem renderArguments_cons {t : JavaType} {ts : List JavaType} {text : String}
    {texts : List String} (h : t.render = .ok text) (h' : renderArguments ts = .ok texts) :
    renderArguments (t :: ts) = .ok (text :: texts) := by
  rw [renderArguments, h, h']
  rfl

mutual

/-- The text of a type is spelled by words that hold the names of the type. -/
theorem prints_names : ∀ t : JavaType, t.WellNamed → ∀ {names : List String}, t.names = .ok names →
    ∃ text, t.render = .ok text ∧ PrintsNames text names
  | .reference (.mk n [] dims span), .reference name _, names, h => by
    cases h
    refine ⟨_, rfl, .brackets ?_ dims⟩
    exact ⟨_, (Prints.ofWord name rfl rfl).congr (by simp [angled]) rfl, nameLexemes_name rfl⟩
  | .reference (.mk n (t :: ts) dims span), .reference name arguments, names, h => by
    obtain ⟨below, found, rfl⟩ := map_eq_ok_iff.mp h
    obtain ⟨first, others, rendered, printed⟩ :=
      prints_namesOfArguments (t :: ts) (List.cons_ne_nil t ts) arguments found
    refine ⟨_, ?_, (printed.angled name).brackets dims⟩
    rw [JavaType.render, ReferenceType.render, rendered]
    rfl
  | .basic n dims span, .basic name, names, h => by
    cases h
    obtain ⟨k, primitive, word⟩ := name
    have printed := Prints.ofPrimitive primitive word
    refine ⟨_, rfl, .brackets ⟨_, printed, nameLexemes_name ?_⟩ dims⟩
    rw [Token.Kind.isTypeName, primitive, Bool.or_true]

/-- So is that of a type argument. -/
theorem prints_namesOfArgument : ∀ t : JavaType, t.WellNamedArgument → ∀ {names : List String},
    t.names = .ok names → ∃ text, t.render = .ok text ∧ PrintsNames text names
  | .argument inner _, .argument type, _, h => prints_names inner type h

/-- The texts of type arguments with commas between them are spelled by words that hold their names. -/
theorem prints_namesOfArguments : ∀ ts : List JavaType, ts ≠ [] → (∀ t ∈ ts, t.WellNamedArgument) →
    ∀ {names : List String}, namesOfArguments ts = .ok names →
      ∃ text texts, renderArguments ts = .ok (text :: texts) ∧
        PrintsNames (",".intercalate (text :: texts)) names
  | [], ne, _, _, _ => absurd rfl ne
  | [t], _, h, names, named => by
    obtain ⟨first, others, found, below, rfl⟩ := exists_of_namesOfArguments named
    cases below
    obtain ⟨text, rendered, printed⟩ := prints_namesOfArgument t (h t List.mem_cons_self) found
    refine ⟨text, [], renderArguments_cons rendered rfl, ?_⟩
    rw [String.intercalate_singleton, List.append_nil]
    exact printed
  | t :: u :: ts, _, h, names, named => by
    obtain ⟨head, tail⟩ := List.forall_mem_cons.mp h
    obtain ⟨first, others, found, below, rfl⟩ := exists_of_namesOfArguments named
    obtain ⟨text, rendered, printed⟩ := prints_namesOfArgument t head found
    obtain ⟨text', texts, rendered', printed'⟩ :=
      prints_namesOfArguments (u :: ts) (List.cons_ne_nil u ts) tail below
    refine ⟨text, text' :: texts, renderArguments_cons rendered rendered', ?_⟩
    rw [String.intercalate_cons_cons]
    exact printed.comma printed'

end

/-! ## Parts of types -/

/-- A type has itself as a part, and the parts of its arguments, bounds and qualified names. -/
inductive JavaType.Part : JavaType → JavaType → Prop
  | refl (t : JavaType) : Part t t
  | ofArguments {type : ReferenceType} {t v : JavaType} (mem : t ∈ type.arguments)
      (below : Part t v) : Part (.reference type) v
  | argument {inner v : JavaType} {span : Span} (below : Part inner v) : Part (.argument inner span) v
  | bound {kind : BoundKind} {bound v : JavaType} {span : Span} (below : Part bound v) :
      Part (.boundedWildcard kind bound span) v
  | nested {segments : List ReferenceType} {dims : Nat} {span : Span} {type : ReferenceType}
      {v : JavaType} (mem : type ∈ segments) (below : Part (.reference type) v) :
      Part (.nested segments dims span) v

/-- The namer and the renderer agree on a type: they refuse it for the same reason, or the namer lists
the names in the text. -/
structure JavaType.Agrees (t : JavaType) : Prop where
  refusal : ∀ e, t.names = .error e ↔ t.render = .error e
  names : ∀ ns, t.names = .ok ns ↔ ∃ text, t.render = .ok text ∧ namesInText text = .ok ns

namespace JavaType

variable {t v : JavaType}

theorem agrees (h : t.WellNamed ∨ t.WellNamedArgument) : t.Agrees := by
  -- both fail at the same node, so a type whose names are collected is also rendered
  have same : ∀ e, t.names = .error e ↔ t.render = .error e := by
    intro e
    rw [← failure?_eq_some_iff, ← failure?_eq_some_iff, t.failure?_names, t.failure?_render]
  have named : ∀ ns, t.names = .ok ns → ∃ text, t.render = .ok text ∧ namesInText text = .ok ns := by
    intro ns found
    have printed : ∃ text, t.render = .ok text ∧ PrintsNames text ns := by
      rcases h with type | argument
      · exact prints_names t type found
      · exact prints_namesOfArgument t argument found
    obtain ⟨text, rendered, V, spelled, rfl⟩ := printed
    exact ⟨text, rendered, namesInText_of_prints spelled⟩
  refine ⟨same, fun ns => ⟨named ns, ?_⟩⟩
  rintro ⟨text, rendered, found⟩
  cases result : t.names with
  | error e =>
    rw [(same e).mp result] at rendered
    cases rendered
  | ok ns' =>
    obtain ⟨text', rendered', found'⟩ := named ns' result
    rw [rendered] at rendered'
    cases rendered'
    rw [found] at found'
    cases found'
    rfl

/-- The names in a part of a type are names. -/
theorem Part.wellNamed (h : t.Part v) (named : t.WellNamed ∨ t.WellNamedArgument) :
    v.WellNamed ∨ v.WellNamedArgument := by
  -- a node that is an argument is well-named as an argument only, and any other as a type only
  induction h with
  | refl => exact named
  | ofArguments mem _ ih =>
    rcases named with type | argument
    · cases type with
      | reference _ arguments => exact ih (.inr (arguments _ mem))
    · cases argument
  | argument _ ih =>
    rcases named with type | argument
    · cases type
    · cases argument with
      | argument type => exact ih (.inl type)
  | bound _ ih =>
    rcases named with type | argument
    · cases type
    · cases argument with
      | bounded bound => exact ih (.inl bound)
  | nested mem _ ih =>
    rcases named with type | argument
    · cases type with
      | nested segments =>
        cases segments _ mem with
        | mk name arguments => exact ih (.inl (.reference name arguments))
    · cases argument

/-- The namer and the renderer agree on every part of a type whose names are names. -/
theorem Part.agrees (h : t.Part v) (named : t.WellNamed) : v.Agrees :=
  JavaType.agrees (h.wellNamed (.inl named))

end JavaType

/-! ## Classes -/

theorem namesInText_void : namesInText "void" = .ok [] := by decide +kernel

/-- What is paired with an element of a list is an element of the other list. -/
theorem exists_mem_of_forall₂ {α β : Type} {R : α → β → Prop} {xs : List α} {ys : List β} {x : α}
    (h : List.Forall₂ R xs ys) (hx : x ∈ xs) : ∃ y ∈ ys, R x y := by
  induction h with
  | nil => cases hx
  | cons first _ ih =>
    rcases List.mem_cons.mp hx with rfl | hx
    · exact ⟨_, List.mem_cons_self, first⟩
    · obtain ⟨y, hy, related⟩ := ih hx
      exact ⟨y, List.mem_cons_of_mem _ hy, related⟩

/-- What a stub writes for the types of a signature: those of the parameters, then the result. -/
def Method.typeTexts (m : Method) : List (Except StubError String) :=
  m.parameters.map (·.type.render) ++ [renderResult m.result]

/-- The namer lists the names in what a stub writes for the types of a method. -/
theorem Method.typeNames_agrees {m : Method} (named : m.WellNamed) {ns : List String}
    (h : m.typeNames = .ok ns) :
    ∃ lists, List.Forall₂ (fun r ns => ∃ text, r = .ok text ∧ namesInText text = .ok ns)
      m.typeTexts lists ∧ ns = lists.flatten := by
  obtain ⟨parameters, found, h⟩ := bind_eq_ok_iff.mp h
  obtain ⟨result, found', h⟩ := bind_eq_ok_iff.mp h
  cases h
  refine ⟨parameters ++ [result], ?_, by simp⟩
  have first : List.Forall₂ (fun r ns => ∃ text, r = .ok text ∧ namesInText text = .ok ns)
      (m.parameters.map (·.type.render)) parameters := by
    rw [List.forall₂_map_left_iff]
    -- each of the types stands at a parameter of `m`, whose names are well formed
    have pairs := (List.forall₂_and_left m.parameters parameters).mpr
      ⟨fun _ hp => hp, forall₂_of_mapM found⟩
    refine pairs.imp fun p ns ⟨hp, listed⟩ => ?_
    exact ((JavaType.agrees (.inl (named.parameters p hp).type)).names ns).mp listed
  have last : ∃ text, renderResult m.result = .ok text ∧ namesInText text = .ok result := by
    cases returned : m.result with
    | none =>
      rw [returned] at found'
      cases found'
      exact ⟨"void", rfl, namesInText_void⟩
    | some t =>
      rw [returned] at found'
      exact ((JavaType.agrees (.inl (named.result t returned))).names result).mp found'
  exact List.rel_append first (.cons last .nil)

namespace ClassDeclaration

variable {c : ClassDeclaration} {needed : List String}

/-- The namer and the renderer of a class fail for the same reason. -/
theorem neededNames_eq_error_iff (c : ClassDeclaration) (e : StubError) :
    c.neededNames = .error e ↔ c.methodStubs = .error e := by
  rw [← failure?_eq_some_iff, ← failure?_eq_some_iff, failure?_neededNames, failure?_methodStubs]

theorem exists_neededNames_iff (c : ClassDeclaration) :
    (∃ needed, c.neededNames = .ok needed) ↔ ∃ stubs, c.methodStubs = .ok stubs := by
  rw [← failure?_eq_none_iff, ← failure?_eq_none_iff, failure?_neededNames, failure?_methodStubs]

/-- The names are those in what the stubs of the public methods of a class write for types. -/
structure NamesWritten (c : ClassDeclaration) (needed : List String) : Prop where
  ascending : needed.Pairwise (· < ·)
  /-- All types are written, and the names in their texts are among the names; -/
  written : ∀ m ∈ c.methods, m.isPublic = true → ∀ r ∈ m.typeTexts,
    ∃ text ns, r = .ok text ∧ namesInText text = .ok ns ∧ ∀ n ∈ ns, n ∈ needed
  /-- and there are no others. -/
  named : ∀ n ∈ needed, ∃ m ∈ c.methods, m.isPublic = true ∧ ∃ r ∈ m.typeTexts,
    ∃ text ns, r = .ok text ∧ namesInText text = .ok ns ∧ n ∈ ns

theorem namesWritten (named : c.WellNamed) (h : c.neededNames = .ok needed) :
    c.NamesWritten needed := by
  obtain ⟨methods, exposed, h⟩ := bind_eq_ok_iff.mp h
  obtain ⟨lists, found, h⟩ := bind_eq_ok_iff.mp h
  cases h
  obtain rfl := publicMethods_eq exposed
  have pairs := forall₂_of_mapM found
  refine ⟨pairwise_ascending _, fun m hm isPublic r hr => ?_, fun n hn => ?_⟩
  · obtain ⟨ns, hns, listed⟩ := exists_mem_of_forall₂ pairs (List.mem_filter.mpr ⟨hm, isPublic⟩)
    obtain ⟨parts, texts, rfl⟩ := Method.typeNames_agrees (named.methods m hm) listed
    obtain ⟨part, hpart, text, rendered, found⟩ := exists_mem_of_forall₂ texts hr
    refine ⟨text, part, rendered, found, fun n hn => mem_ascending.mpr ?_⟩
    exact List.mem_flatten.mpr ⟨_, hns, List.mem_flatten.mpr ⟨part, hpart, hn⟩⟩
  · obtain ⟨ns, hns, member⟩ := List.mem_flatten.mp (mem_ascending.mp hn)
    obtain ⟨m, hm, listed⟩ := exists_mem_of_forall₂ pairs.flip hns
    obtain ⟨hm, isPublic⟩ := List.mem_filter.mp hm
    obtain ⟨parts, texts, rfl⟩ := Method.typeNames_agrees (named.methods m hm) listed
    obtain ⟨part, hpart, member⟩ := List.mem_flatten.mp member
    obtain ⟨r, hr, text, rendered, found⟩ := exists_mem_of_forall₂ texts.flip hpart
    exact ⟨m, hm, isPublic, r, hr, text, part, rendered, found, member⟩

end ClassDeclaration

/-- The needed names and the method stubs of a class fail for the same reason. In a class that is read
from a source the needed names are those in what its stubs write for types, and of every type in it
the names are those in its text, in their order. -/
theorem neededNames_exact :
    (∀ c : ClassDeclaration, (∀ e, c.neededNames = .error e ↔ c.methodStubs = .error e) ∧
      ((∃ needed, c.neededNames = .ok needed) ↔ ∃ stubs, c.methodStubs = .ok stubs)) ∧
    ∀ source u c, CompilationUnit.ofSource source = .ok u → .ofClass c ∈ u.types →
      (∀ needed, c.neededNames = .ok needed → c.NamesWritten needed) ∧
        ∀ m ∈ c.methods, ∀ t ∈ m.signatureTypes, ∀ v, t.Part v → v.Agrees := by
  refine ⟨fun c => ⟨c.neededNames_eq_error_iff, c.exists_neededNames_iff⟩, ?_⟩
  intro source u c read declared
  have named : c.WellNamed := (CompilationUnit.wellNamed_of_ofSource read).types _ declared
  refine ⟨fun needed => ClassDeclaration.namesWritten named, fun m hm t ht v part => ?_⟩
  have method := named.methods m hm
  rcases List.mem_append.mp ht with parameter | result
  · obtain ⟨p, hp, rfl⟩ := List.mem_map.mp parameter
    exact part.agrees (method.parameters p hp).type
  · exact part.agrees (method.result t (Option.mem_toList.mp result))

open CompilationUnit in
/-- The names in the signature `public E<E<E>> f(int...x)`. -/
theorem neededNames_genericResult :
    ∃ c, genericResultUnit.types = [.ofClass c] ∧ c.neededNames = .ok ["E", "int"] ∧
      c.NamesWritten ["E", "int"] ∧ genericResultType.Agrees := by
  have exact := neededNames_exact.2 genericResult _ _ ofSource_genericResult List.mem_cons_self
  refine ⟨_, rfl, by decide +kernel, exact.1 _ (by decide +kernel), ?_⟩
  exact exact.2 _ List.mem_cons_self genericResultType (List.mem_cons_of_mem _ List.mem_cons_self) _
    (.refl _)

end JavaStub
