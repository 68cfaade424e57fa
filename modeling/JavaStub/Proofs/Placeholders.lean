import JavaStub.Proofs.MemberTails
import JavaStub.Proofs.Refusal
import JavaStub.Proofs.WellNamed

/-!
# Placeholders and types

A placeholder is chosen by the text of a type, and yet it follows the type itself. The texts that
have a placeholder of their own are keywords. A name is no keyword, and arguments and dimensions
leave angles and brackets in a text, so only a primitive type without dimensions is written as one
of them.

Main facts:

1. `eq_basic_of_render`: a text that is a keyword is that of a primitive type.
2. `followsType_placeholder`: the placeholder of the text of a type follows the type.
3. `placeholder_exact`: so it is for every method of a source, whichever of its dimensions stand
   behind its parameters.
-/

namespace JavaStub

open Token (Kind IsWord)

/-- The primitive types of numbers, except `char`. -/
def numericTypes : List String := ["byte", "short", "int", "long", "float", "double"]

/-- The placeholder of a result follows its type. -/
structure FollowsType (result : Option JavaType) (value : String) : Prop where
  nothing : value = "" ↔ result = none
  truth : value = "false" ↔ ∃ span, result = some (.basic "boolean" 0 span)
  number : value = "0" ↔ ∃ name ∈ numericTypes, ∃ span, result = some (.basic name 0 span)
  /-- Every other type is one of references, `char` among them. -/
  reference : value = "null" ↔
    ∃ t, result = some t ∧ ∀ name ∈ "boolean" :: numericTypes, ∀ span, t ≠ .basic name 0 span

/-! ## Texts that are keywords -/

/-- A text without brackets ends in no dimensions. -/
theorem eq_zero_of_brackets {text : String} {dims : Nat}
    (h : '[' ∉ (text ++ brackets dims).toList) : dims = 0 := by
  cases dims with
  | zero => rfl
  | succ dims =>
    refine absurd ?_ h
    rw [String.toList_append, toList_brackets_succ]
    exact List.mem_append_right _ List.mem_cons_self

/-- A text without angles holds no arguments. -/
theorem eq_nil_of_angled {separator : String} {arguments : List String} {text rest : String}
    (h : '<' ∉ (text ++ angled separator arguments ++ rest).toList) : arguments = [] := by
  cases arguments with
  | nil => rfl
  | cons first more =>
    refine absurd ?_ h
    simp [angled]

/-- A type whose text is no name, and has neither angles nor brackets in it, is a primitive type
without dimensions that is written as this text. -/
theorem eq_basic_of_render {t : JavaType} {text : String} (named : t.WellNamed)
    (rendered : t.render = .ok text) (noName : ¬IsName text) (noAngle : '<' ∉ text.toList)
    (noBracket : '[' ∉ text.toList) : ∃ span, t = .basic text 0 span ∧ IsPrimitiveName text := by
  cases named with
  | @reference n ts dims span name arguments =>
    rw [JavaType.render, ReferenceType.render] at rendered
    obtain ⟨texts, _, rfl⟩ := map_eq_ok_iff.mp rendered
    obtain rfl := eq_zero_of_brackets noBracket
    obtain rfl := eq_nil_of_angled noAngle
    refine absurd ?_ noName
    simpa [angled, brackets] using name
  | @basic n dims span name =>
    cases rendered
    obtain rfl := eq_zero_of_brackets noBracket
    have same : n ++ brackets 0 = n := by simp [brackets]
    rw [same]
    exact ⟨span, rfl, name⟩
  | nested => cases rendered

/-- The texts that have a placeholder of their own. -/
def placeholderTexts : List String := "void" :: "boolean" :: numericTypes

theorem not_isName_of_mem {text : String} (h : text ∈ placeholderTexts) : ¬IsName text := by
  have check : ∀ text ∈ placeholderTexts, ¬IsWord .identifier text.toList := by decide +kernel
  exact check text h

theorem not_isPrimitiveName_void : ¬IsPrimitiveName "void" := by
  rintro ⟨k, primitive, word⟩
  have check : ∀ k ∈ [Kind.kwBoolean, .kwByte, .kwShort, .kwInt, .kwLong, .kwChar, .kwFloat,
      .kwDouble], ¬IsWord k "void".toList := by decide +kernel
  refine check k ?_ word
  cases k <;> first | decide | cases primitive

variable {result : Option JavaType} {text name : String}

/-- The text of a result is `void` if there is none. -/
theorem eq_void_iff (named : ∀ t ∈ result, t.WellNamed) (rendered : renderResult result = .ok text) :
    text = "void" ↔ result = none := by
  cases result with
  | none =>
    cases rendered
    simp
  | some t =>
    refine iff_of_false ?_ (Option.some_ne_none t)
    rintro rfl
    obtain ⟨_, _, primitive⟩ := eq_basic_of_render (named t rfl) rendered
      (not_isName_of_mem (by decide)) (by decide) (by decide)
    exact not_isPrimitiveName_void primitive

/-- The text of a result is the keyword of a primitive type if the result is of this type, without
dimensions. -/
theorem eq_name_iff (named : ∀ t ∈ result, t.WellNamed) (rendered : renderResult result = .ok text)
    (h : name ∈ "boolean" :: numericTypes) :
    text = name ↔ ∃ span, result = some (.basic name 0 span) := by
  constructor
  · rintro rfl
    have plain : '<' ∉ text.toList ∧ '[' ∉ text.toList ∧ text ≠ "void" := by
      have check : ∀ name ∈ "boolean" :: numericTypes,
          '<' ∉ name.toList ∧ '[' ∉ name.toList ∧ name ≠ "void" := by decide
      exact check text h
    cases result with
    | none =>
      cases rendered
      exact absurd rfl plain.2.2
    | some t =>
      obtain ⟨span, rfl, _⟩ := eq_basic_of_render (named t rfl) rendered
        (not_isName_of_mem (List.mem_cons_of_mem _ h)) plain.1 plain.2.1
      exact ⟨span, rfl⟩
  · rintro ⟨span, rfl⟩
    cases rendered
    simp [brackets]

/-! ## Placeholders of results -/

/-- Which texts have which placeholder. -/
theorem placeholder_iff (text : String) :
    (placeholder text = "" ↔ text = "void") ∧ (placeholder text = "false" ↔ text = "boolean") ∧
      (placeholder text = "0" ↔ text ∈ numericTypes) ∧
      (placeholder text = "null" ↔ text ∉ placeholderTexts) := by
  by_cases number : text ∈ numericTypes
  · have check : ∀ text ∈ numericTypes, placeholder text = "0" ∧ text ≠ "void" ∧
        text ≠ "boolean" := by decide
    obtain ⟨value, noVoid, noBoolean⟩ := check text number
    simp [value, noVoid, noBoolean, number, placeholderTexts]
  · have noNumber : numericTypes.contains text = false := by simpa using number
    have value : placeholder text =
        if text = "boolean" then "false" else if text = "void" then "" else "null" := by
      unfold placeholder
      exact if_neg (ne_true_of_eq_false noNumber)
    rw [value]
    by_cases truth : text = "boolean"
    · subst truth
      decide
    · by_cases nothing : text = "void"
      · subst nothing
        decide
      · simp [truth, nothing, number, placeholderTexts]

/-- The placeholder of the text of a result follows its type. -/
theorem followsType_placeholder (named : ∀ t ∈ result, t.WellNamed)
    (rendered : renderResult result = .ok text) : FollowsType result (placeholder text) := by
  obtain ⟨nothing, truth, number, reference⟩ := placeholder_iff text
  have void := eq_void_iff named rendered
  -- a text of the table is the rendering of one type: the primitive type of that name
  have basic : ∀ name ∈ "boolean" :: numericTypes,
      (text = name ↔ ∃ span, result = some (.basic name 0 span)) :=
    fun _ => eq_name_iff named rendered
  refine ⟨nothing.trans void, truth.trans (basic _ List.mem_cons_self), ?_, ?_⟩
  · rw [number]
    constructor
    · intro h
      exact ⟨text, h, (basic text (List.mem_cons_of_mem _ h)).mp rfl⟩
    · rintro ⟨name, h, typed⟩
      rw [(basic name (List.mem_cons_of_mem _ h)).mpr typed]
      exact h
  · rw [reference, placeholderTexts, List.mem_cons, not_or, void]
    constructor
    · rintro ⟨some, other⟩
      obtain ⟨t, rfl⟩ := Option.ne_none_iff_exists'.mp some
      refine ⟨t, rfl, ?_⟩
      rintro name h span rfl
      exact other ((basic name h).mpr ⟨span, rfl⟩ ▸ h)
    · rintro ⟨t, rfl, other⟩
      refine ⟨Option.some_ne_none t, fun h => ?_⟩
      obtain ⟨span, typed⟩ := (basic text h).mp rfl
      exact other text h span (Option.some.inj typed)

/-- A result with dimensions behind the parameters has the placeholder of references. -/
theorem FollowsType.eq_null {written : Option JavaType} {value : String} {dims : Nat}
    (h : FollowsType (written.map (·.addDimensions dims)) value) (some : written ≠ none)
    (positive : 0 < dims) : value = "null" := by
  obtain ⟨t, rfl⟩ := Option.ne_none_iff_exists'.mp some
  refine h.reference.mpr ⟨_, rfl, ?_⟩
  intro name _ span same
  cases t with
  | reference type =>
    cases type
    cases same
  | basic n written span' =>
    have none : written + dims = 0 := (JavaType.basic.inj same).2.1
    omega
  | argument | wildcard | boundedWildcard | nested => cases same

/-! ## Methods of a source -/

open CompilationUnit Reading

/-- A method is read from a member of a class, with the type `written` of its result before its name,
and with `dims` pairs of brackets between its parameters and its tail. -/
inductive ResultAt (ts : List Token) (m : Method) (written : Option JavaType) (dims : Nat) : Prop
  | mk {s p e : Cursor} {brackets : List Token} (member : UnitMember (Cursor.start ts) s)
      (stages : ReadsMethod s m written p dims e) (split : p.rest = brackets ++ e.rest)
      (pairs : brackets.map Token.kind = bracketKinds dims) (ends : e.kind? ≠ some .lbracket)

/-- Where the type of a method of a source is rendered, the placeholder of the text follows the type.
This has the dimensions that stand with it and those that stand behind the parameters. -/
theorem placeholder_exact {source text : String} {u : CompilationUnit} {c : ClassDeclaration}
    {m : Method} (read : ofSource source = .ok u) (declared : .ofClass c ∈ u.types)
    (member : m ∈ c.methods) (rendered : renderResult m.result = .ok text) :
    FollowsType m.result (placeholder text) ∧
    ∃ ts written dims, Source.tokens source = .ok ts ∧ ResultAt ts m written dims ∧
      m.result = written.map (·.addDimensions dims) ∧ (0 < dims → placeholder text = "null") := by
  have named := (wellNamed_of_ofSource read).types _ declared
  have follows := followsType_placeholder (named.methods m member).result rendered
  obtain ⟨ts, cuts, unit⟩ := bind_eq_ok_iff.mp read
  unfold ofTokens at unit
  rw [← map_run_unit] at unit
  obtain ⟨⟨_, d⟩, found, rfl⟩ := map_eq_ok_iff.mp unit
  obtain ⟨s, d', before, stages⟩ := unitMember_of_mem found declared member
  obtain ⟨written, p, dims, e, stages, _⟩ := readsMethod_of_member stages
  obtain ⟨brackets, split, pairs, ends⟩ := stages.brackets
  obtain ⟨result, none⟩ := stages.result
  refine ⟨follows, ts, written, dims, cuts, ⟨before, stages, split, pairs, ends⟩, result, ?_⟩
  intro positive
  rw [result] at follows
  exact follows.eq_null (fun void => Nat.ne_of_gt positive (none void)) positive

/-- A class with a method that has a dimension behind its parameters. -/
def trailingDimension : String := "class A\x7bint f()[];\x7d"

/-- The method in `trailingDimension`. -/
def trailingDimensionMethod : Method :=
  ⟨[], [], some (.basic "int" 1 (.inLine 8 8)), "f", [], .inLine 8 17⟩

/-- The class in `trailingDimension`. -/
def trailingDimensionClass : ClassDeclaration :=
  ⟨[], "A", [], [trailingDimensionMethod], .inLine 0 18⟩

theorem ofSource_trailingDimension : ofSource trailingDimension =
    .ok ⟨none, [], [.ofClass trailingDimensionClass], .inLine 0 18⟩ := by decide +kernel

theorem placeholder_trailingDimension :
    FollowsType trailingDimensionMethod.result (placeholder "int[]") ∧
    ∃ ts written dims, Source.tokens trailingDimension = .ok ts ∧
      ResultAt ts trailingDimensionMethod written dims ∧
      trailingDimensionMethod.result = written.map (·.addDimensions dims) ∧
      (0 < dims → placeholder "int[]" = "null") :=
  placeholder_exact (c := trailingDimensionClass) ofSource_trailingDimension List.mem_cons_self
    List.mem_cons_self (by decide +kernel)

end JavaStub
