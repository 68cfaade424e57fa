import JavaStub.Proofs.UnsupportedTypes
import JavaStub.Stub.Basic

/-!
# Which units have a stub

The conditions on a unit are checked one after the other, and a unit that violates some of
them is refused for the first. The conditions that hold so far are a chain of structures, from
`IsPlainClass` to `IsStrippable`; a refusal (`Refuses`) says that one link is missing and that
all links before it are there.

Main facts:

1. `failure?_strip_of_packaged`: the failure of a unit with a packaged class, as the first of its
violations.
2. `strip_decides`: a unit has a stub exactly when all conditions hold, and otherwise it is
   refused for the first one that does not.
-/

namespace JavaStub

variable {α β γ : Type}

/-! ## Items that are checked one after the other -/

section Checks

variable {refusal? : α → Option StubError} {Accepted : α → Prop} {items : List α} {e : StubError}

theorem findSome?_refusal_eq_none_iff (accepts : ∀ a, refusal? a = none ↔ Accepted a) :
    items.findSome? refusal? = none ↔ ∀ a ∈ items, Accepted a := by
  simp only [List.findSome?_eq_none_iff, accepts]

/-- What is refused is the first item that is not accepted. -/
theorem findSome?_refusal_eq_some_iff (accepts : ∀ a, refusal? a = none ↔ Accepted a) :
    items.findSome? refusal? = some e ↔ ∃ earlier a later, items = earlier ++ a :: later ∧
      refusal? a = some e ∧ ∀ b ∈ earlier, Accepted b := by
  simp only [List.findSome?_eq_some_iff, accepts]

end Checks

/-! ## Signatures -/

/-- The types of the parameters of a method from left to right, then that of its result. -/
def Method.signatureTypes (m : Method) : List JavaType :=
  m.parameters.map (·.type) ++ m.result.toList

/-- The types that the signature of a method consists of, in the order they are read in. -/
def Method.signatureNodes (m : Method) : List JavaType :=
  m.signatureTypes.flatMap JavaType.nodes

namespace ClassDeclaration

/-- The methods of a class that are public. -/
def exposed (c : ClassDeclaration) : List Method := c.methods.filter Method.isPublic

/-- The types that the public signatures of a class consist of. -/
def exposedNodes (c : ClassDeclaration) : List JavaType :=
  c.exposed.flatMap Method.signatureNodes

end ClassDeclaration

/-- An import of a single type by its name. -/
def Import.IsSingle (i : Import) : Prop := i.isStatic = false ∧ i.isWildcard = false

theorem ImportIndex.refusal?_eq_none_iff {i : Import} : refusal? i = none ↔ i.IsSingle := by
  unfold refusal? Import.IsSingle
  cases i.isStatic <;> cases i.isWildcard <;> simp

/-! ## The conditions -/

/-- The unit has the class as its only type, and the class is not generic. -/
structure IsPlainClass (u : CompilationUnit) (c : ClassDeclaration) : Prop where
  single : u.types = [.ofClass c]
  plain : c.typeParameters = []

/-- What is more, the unit belongs to a package. -/
structure IsPackagedClass (u : CompilationUnit) (c : ClassDeclaration) : Prop
    extends IsPlainClass u c where
  packaged : u.package ≠ none

/-- What is more, every import of the unit names a single type. -/
structure HasSingleImports (u : CompilationUnit) (c : ClassDeclaration) : Prop
    extends IsPackagedClass u c where
  imports : ∀ i ∈ u.imports, i.IsSingle

/-- What is more, no public method of the class is generic. -/
structure HasPlainMethods (u : CompilationUnit) (c : ClassDeclaration) : Prop
    extends HasSingleImports u c where
  methods : ∀ m ∈ c.methods, m.isPublic = true → m.typeParameters = []

/-- All conditions on a unit with a stub: what is more, a stub can repeat every type that the
public signatures of the class reach. -/
structure IsStrippable (u : CompilationUnit) (c : ClassDeclaration) : Prop
    extends HasPlainMethods u c where
  types : ∀ m ∈ c.methods, m.isPublic = true → ∀ t ∈ m.signatureTypes, ∀ v, t.Reaches v →
    ¬ v.IsUnsupported

/-- The refusals of a unit: the first condition that it violates. -/
inductive Refuses (u : CompilationUnit) : StubError → Prop
  | typeCount (count : u.types.length ≠ 1) : Refuses u (.typeCount u.types.length)
  | notAClass {h : Header} (single : u.types = [.ofHeader h]) :
      Refuses u (.notAClass h.kind h.name)
  | genericClass {c : ClassDeclaration} (single : u.types = [.ofClass c])
      (generic : c.typeParameters ≠ []) : Refuses u (.genericClass c.typeParameters c.name)
  | missingPackage {c : ClassDeclaration} (holds : IsPlainClass u c)
      (missing : u.package = none) : Refuses u .missingPackage
  | staticImport {c : ClassDeclaration} {earlier later : List Import} {i : Import}
      (holds : IsPackagedClass u c) (split : u.imports = earlier ++ i :: later)
      (before : ∀ j ∈ earlier, j.IsSingle) (static : i.isStatic = true) :
      Refuses u (.unsupportedImport .static i.name)
  | wildcardImport {c : ClassDeclaration} {earlier later : List Import} {i : Import}
      (holds : IsPackagedClass u c) (split : u.imports = earlier ++ i :: later)
      (before : ∀ j ∈ earlier, j.IsSingle) (notStatic : i.isStatic = false)
      (wildcard : i.isWildcard = true) :
      Refuses u (.unsupportedImport .wildcard (i.name ++ ".*"))
  | genericMethod {c : ClassDeclaration} {earlier later : List Method} {m : Method}
      (holds : HasSingleImports u c) (split : c.exposed = earlier ++ m :: later)
      (before : ∀ n ∈ earlier, n.typeParameters = []) (generic : m.typeParameters ≠ []) :
      Refuses u (.genericMethod m.typeParameters m.name)
  | unsupportedType {c : ClassDeclaration} {earlier later : List JavaType} {t : JavaType}
      (holds : HasPlainMethods u c) (split : c.exposedNodes = earlier ++ t :: later)
      (before : ∀ v ∈ earlier, ¬ v.IsUnsupported) (unsupported : t.IsUnsupported) :
      Refuses u (.unsupportedType t)

/-! ## The failure of each stage -/

theorem ImportIndex.failure?_extend (imports : List Import) (index : ImportIndex) :
    failure? (index.extend imports) = imports.findSome? refusal? := by
  induction imports generalizing index with
  | nil => rfl
  | cons i rest ih =>
    rw [extend, List.findSome?_cons]
    cases refusal? i with
    | some e => rfl
    | none => exact ih _

theorem ImportIndex.failure?_ofImports (imports : List Import) :
    failure? (ofImports imports) = imports.findSome? refusal? :=
  failure?_extend imports _

namespace Method

/-- Whatever is made of the types of a signature, parameters first, it fails at the first type
that a stub cannot repeat, if it does so for each type alone. -/
theorem failure?_ofSignature {f : Parameter → Except StubError α}
    {g : Option JavaType → Except StubError β} (k : List α → β → γ)
    (hf : ∀ p, failure? (f p) = p.type.nodes.findSome? JavaType.refusal?)
    (hg : ∀ r, failure? (g r) = (r.toList.flatMap JavaType.nodes).findSome? JavaType.refusal?)
    (m : Method) :
    failure? (do let ps ← m.parameters.mapM f; let r ← g m.result; return k ps r) =
      m.signatureNodes.findSome? JavaType.refusal? := by
  have parameters : failure? (m.parameters.mapM f) =
      ((m.parameters.map (·.type)).flatMap JavaType.nodes).findSome? JavaType.refusal? := by
    rw [failure?_mapM, findSome?_flatMap, List.findSome?_map]
    exact congrArg (m.parameters.findSome? ·) (funext hf)
  rw [signatureNodes, signatureTypes, List.flatMap_append, List.findSome?_append, ← parameters,
    ← hg m.result]
  apply failure?_bind
  intro ps _
  cases g m.result <;> rfl

theorem failure?_typeNames (m : Method) :
    failure? m.typeNames = m.signatureNodes.findSome? JavaType.refusal? := by
  refine failure?_ofSignature (fun ps r => ps.flatten ++ r) (fun p => p.type.failure?_names) ?_ m
  intro r
  cases r with
  | none => rfl
  | some t => simpa [namesOfResult] using t.failure?_names

theorem failure?_stub (m : Method) :
    failure? m.stub = m.signatureNodes.findSome? JavaType.refusal? := by
  refine failure?_ofSignature m.line (fun p => ?_) ?_ m
  · rw [Parameter.render, failure?_map, p.type.failure?_render]
  · intro r
    cases r with
    | none => rfl
    | some t => simpa [renderResult] using t.failure?_render

/-- The refusal of a method for its own type parameters. -/
def refusal? (m : Method) : Option StubError :=
  if m.typeParameters = [] then none else some (.genericMethod m.typeParameters m.name)

theorem failure?_plain (m : Method) : failure? m.plain = m.refusal? := by
  unfold plain refusal?
  cases m.typeParameters <;> rfl

theorem refusal?_eq_none_iff {m : Method} : m.refusal? = none ↔ m.typeParameters = [] := by
  unfold refusal?
  split <;> simp_all

theorem refusal?_eq_some_iff {m : Method} {e : StubError} :
    m.refusal? = some e ↔ m.typeParameters ≠ [] ∧ e = .genericMethod m.typeParameters m.name := by
  unfold refusal?
  split <;> simp_all [eq_comm]

end Method

namespace ClassDeclaration

/-- The refusal of a class for its public methods: generic methods come first, wherever they
stand, and then the types in the signatures. -/
def refusal? (c : ClassDeclaration) : Option StubError :=
  (c.exposed.findSome? Method.refusal?).or (c.exposedNodes.findSome? JavaType.refusal?)

theorem eq_of_plain {m n : Method} (h : m.plain = .ok n) : n = m := by
  unfold Method.plain at h
  split at h
  · exact (Except.ok.inj h).symm
  · cases h

theorem publicMethods_eq {c : ClassDeclaration} {ms : List Method} (h : c.publicMethods = .ok ms) :
    ms = c.exposed :=
  mapM_eq_self h fun _ _ => eq_of_plain

theorem failure?_publicMethods (c : ClassDeclaration) :
    failure? c.publicMethods = c.exposed.findSome? Method.refusal? := by
  rw [publicMethods, failure?_mapM]
  exact congrArg (c.exposed.findSome? ·) (funext Method.failure?_plain)

/-- Whatever is made of the public methods of a class fails for the first violation among them,
if it does so for each method alone. -/
theorem failure?_ofMethods {f : Method → Except StubError α} (k : List α → β)
    (h : ∀ m, failure? (f m) = m.signatureNodes.findSome? JavaType.refusal?)
    (c : ClassDeclaration) :
    failure? (do let ms ← c.publicMethods; let rs ← ms.mapM f; return k rs) = c.refusal? := by
  rw [refusal?, ← failure?_publicMethods]
  apply failure?_bind
  intro ms hms
  obtain rfl := publicMethods_eq hms
  have each : failure? (c.exposed.mapM f) = c.exposedNodes.findSome? JavaType.refusal? := by
    rw [failure?_mapM, exposedNodes, findSome?_flatMap]
    exact congrArg (c.exposed.findSome? ·) (funext h)
  rw [← each]
  cases c.exposed.mapM f <;> rfl

theorem failure?_neededNames (c : ClassDeclaration) : failure? c.neededNames = c.refusal? :=
  failure?_ofMethods (fun names => ascending names.flatten) Method.failure?_typeNames c

theorem failure?_methodStubs (c : ClassDeclaration) : failure? c.methodStubs = c.refusal? := by
  rw [← failure?_ofMethods id Method.failure?_stub c, methodStubs]
  cases c.publicMethods with
  | error e => rfl
  | ok ms => cases hms : ms.mapM Method.stub <;> simp [bind, Except.bind, hms]

end ClassDeclaration

/-! ## The failure of a unit -/

namespace CompilationUnit

theorem failure?_strip_eq (u : CompilationUnit) (banner : Banner) :
    failure? (u.strip banner) = failure? (u.stubFile banner) :=
  failure?_map _ _

theorem stubFile_of_singleClass_error {u : CompilationUnit} {e : StubError} (banner : Banner)
    (h : u.singleClass = .error e) : u.stubFile banner = .error e := by
  rw [stubFile, h]
  rfl

theorem singleClass_of_count {u : CompilationUnit} (h : u.types.length ≠ 1) :
    u.singleClass = .error (.typeCount u.types.length) := by
  unfold singleClass
  split
  · next hu => simp [hu] at h
  · next hu => simp [hu] at h
  · rfl

theorem singleClass_of_header {u : CompilationUnit} {h : Header} (single : u.types = [.ofHeader h]) :
    u.singleClass = .error (.notAClass h.kind h.name) := by
  rw [singleClass, single]

theorem singleClass_of_class {u : CompilationUnit} {c : ClassDeclaration}
    (single : u.types = [.ofClass c]) : u.singleClass = .ok c := by
  rw [singleClass, single]

theorem failure?_strip_of_generic {u : CompilationUnit} {c : ClassDeclaration} (banner : Banner)
    (single : u.types = [.ofClass c]) (generic : c.typeParameters ≠ []) :
    failure? (u.strip banner) = some (.genericClass c.typeParameters c.name) := by
  have some : c.typeParameters.isEmpty = false := by simpa using generic
  rw [failure?_strip_eq, stubFile, singleClass_of_class single]
  simp only [bind, Except.bind, some]
  rfl

theorem failure?_strip_of_missing {u : CompilationUnit} {c : ClassDeclaration} (banner : Banner)
    (h : IsPlainClass u c) (missing : u.package = none) :
    failure? (u.strip banner) = some .missingPackage := by
  rw [failure?_strip_eq, stubFile, singleClass_of_class h.single]
  simp only [bind, Except.bind, h.plain, packageName, missing]
  rfl

/-- A unit with a package and a class that is not generic fails for its imports, or else for
the methods of the class. -/
theorem failure?_strip_of_packaged {u : CompilationUnit} {c : ClassDeclaration} (banner : Banner)
    (h : IsPackagedClass u c) :
    failure? (u.strip banner) = (u.imports.findSome? ImportIndex.refusal?).or c.refusal? := by
  obtain ⟨p, hp⟩ := Option.ne_none_iff_exists'.mp h.packaged
  have stages : u.stubFile banner = (do
      let index ← ImportIndex.ofImports u.imports
      let needed ← c.neededNames
      let stubs ← c.methodStubs
      return ⟨p.name, Modifier.listText c.modifiers, c.name, index.lines needed, stubs, banner⟩) := by
    simp [stubFile, singleClass_of_class h.single, packageName, hp, h.plain]
  have class_or : c.refusal? = (failure? c.neededNames).or (failure? c.methodStubs) := by
    rw [c.failure?_neededNames, c.failure?_methodStubs, Option.or_self]
  rw [failure?_strip_eq, stages, ← ImportIndex.failure?_ofImports, class_or]
  apply failure?_bind
  intro index _
  apply failure?_bind
  intro needed _
  cases c.methodStubs <;> rfl

/-! ## The decision -/

theorem exposedNodes_supported_iff {c : ClassDeclaration} :
    (∀ t ∈ c.exposedNodes, ¬ t.IsUnsupported) ↔
      ∀ m ∈ c.methods, m.isPublic = true → ∀ t ∈ m.signatureTypes, ∀ v, t.Reaches v →
        ¬ v.IsUnsupported := by
  simp only [ClassDeclaration.exposedNodes, ClassDeclaration.exposed, Method.signatureNodes,
    List.mem_flatMap, List.mem_filter, JavaType.mem_nodes_iff]
  constructor
  · intro h m hm hp t ht v hv
    exact h v ⟨m, ⟨hm, hp⟩, t, ht, hv⟩
  · rintro h v ⟨m, ⟨hm, hp⟩, t, ht, hv⟩
    exact h m hm hp t ht v hv

theorem exposed_plain_iff {c : ClassDeclaration} :
    (∀ m ∈ c.exposed, m.typeParameters = []) ↔
      ∀ m ∈ c.methods, m.isPublic = true → m.typeParameters = [] := by
  simp [ClassDeclaration.exposed]

theorem class_refusal?_eq_none_iff {c : ClassDeclaration} :
    c.refusal? = none ↔ (∀ m ∈ c.exposed, m.typeParameters = []) ∧
      ∀ t ∈ c.exposedNodes, ¬ t.IsUnsupported := by
  simp [ClassDeclaration.refusal?, Method.refusal?_eq_none_iff, JavaType.refusal?_eq_none_iff]

/-- A unit with imports of single types only fails for the methods of the class. -/
theorem failure?_strip_of_singleImports {u : CompilationUnit} {c : ClassDeclaration}
    (banner : Banner) (h : HasSingleImports u c) : failure? (u.strip banner) = c.refusal? := by
  have imports : u.imports.findSome? ImportIndex.refusal? = none :=
    (findSome?_refusal_eq_none_iff fun _ => ImportIndex.refusal?_eq_none_iff).mpr h.imports
  rw [failure?_strip_of_packaged banner h.toIsPackagedClass, imports, Option.none_or]

/-- A unit without generic methods in the stub fails for the types of these methods. -/
theorem failure?_strip_of_plainMethods {u : CompilationUnit} {c : ClassDeclaration}
    (banner : Banner) (h : HasPlainMethods u c) :
    failure? (u.strip banner) = c.exposedNodes.findSome? JavaType.refusal? := by
  have methods : c.exposed.findSome? Method.refusal? = none :=
    (findSome?_refusal_eq_none_iff fun _ => Method.refusal?_eq_none_iff).mpr
      (exposed_plain_iff.mpr h.methods)
  rw [failure?_strip_of_singleImports banner h.toHasSingleImports, ClassDeclaration.refusal?, methods,
    Option.none_or]

/-- A unit whose conditions all hold does not fail. -/
theorem failure?_strip_of_strippable {u : CompilationUnit} {c : ClassDeclaration}
    (banner : Banner) (h : IsStrippable u c) : failure? (u.strip banner) = none := by
  rw [failure?_strip_of_plainMethods banner h.toHasPlainMethods]
  exact (findSome?_refusal_eq_none_iff fun _ => JavaType.refusal?_eq_none_iff).mpr
    (exposedNodes_supported_iff.mpr h.types)

theorem failure?_strip_of_refuses {u : CompilationUnit} {e : StubError} (banner : Banner)
    (h : Refuses u e) : failure? (u.strip banner) = some e := by
  cases h with
  | typeCount count =>
    rw [failure?_strip_eq, stubFile_of_singleClass_error banner (singleClass_of_count count)]
    rfl
  | notAClass single =>
    rw [failure?_strip_eq, stubFile_of_singleClass_error banner (singleClass_of_header single)]
    rfl
  | genericClass single generic => exact failure?_strip_of_generic banner single generic
  | missingPackage holds missing => exact failure?_strip_of_missing banner holds missing
  | @staticImport c earlier later i holds split before static =>
    have refused : ImportIndex.refusal? i = some (.unsupportedImport .static i.name) := by
      simp [ImportIndex.refusal?, static]
    have first : u.imports.findSome? ImportIndex.refusal? = some _ :=
      (findSome?_refusal_eq_some_iff fun _ => ImportIndex.refusal?_eq_none_iff).mpr
        ⟨earlier, i, later, split, refused, before⟩
    rw [failure?_strip_of_packaged banner holds, first, Option.some_or]
  | @wildcardImport c earlier later i holds split before notStatic wildcard =>
    have refused : ImportIndex.refusal? i = some (.unsupportedImport .wildcard (i.name ++ ".*")) := by
      simp [ImportIndex.refusal?, notStatic, wildcard]
    have first : u.imports.findSome? ImportIndex.refusal? = some _ :=
      (findSome?_refusal_eq_some_iff fun _ => ImportIndex.refusal?_eq_none_iff).mpr
        ⟨earlier, i, later, split, refused, before⟩
    rw [failure?_strip_of_packaged banner holds, first, Option.some_or]
  | @genericMethod c earlier later m holds split before generic =>
    have refused := Method.refusal?_eq_some_iff.mpr ⟨generic, rfl⟩
    have first : c.exposed.findSome? Method.refusal? = some _ :=
      (findSome?_refusal_eq_some_iff fun _ => Method.refusal?_eq_none_iff).mpr
        ⟨earlier, m, later, split, refused, before⟩
    rw [failure?_strip_of_singleImports banner holds, ClassDeclaration.refusal?, first,
      Option.some_or]
  | @unsupportedType c earlier later t holds split before unsupported =>
    rw [failure?_strip_of_plainMethods banner holds]
    exact (findSome?_refusal_eq_some_iff fun _ => JavaType.refusal?_eq_none_iff).mpr
      ⟨earlier, t, later, split, JavaType.refusal?_eq_some_iff.mpr ⟨unsupported, rfl⟩, before⟩

/-- A unit that is refused for its imports is refused for the first one that is not single. -/
theorem refuses_of_imports {u : CompilationUnit} {c : ClassDeclaration} {e : StubError}
    (holds : IsPackagedClass u c) (h : u.imports.findSome? ImportIndex.refusal? = some e) :
    Refuses u e := by
  obtain ⟨earlier, i, later, split, hi, before⟩ :=
    (findSome?_refusal_eq_some_iff fun _ => ImportIndex.refusal?_eq_none_iff).mp h
  unfold ImportIndex.refusal? at hi
  split at hi
  · next static =>
    obtain rfl := Option.some.inj hi
    exact .staticImport holds split before static
  · next notStatic =>
    split at hi
    · next wildcard =>
      obtain rfl := Option.some.inj hi
      exact .wildcardImport holds split before (by simpa using notStatic) wildcard
    · cases hi

/-- One that is refused for its methods is refused for the first one that is generic. -/
theorem refuses_of_methods {u : CompilationUnit} {c : ClassDeclaration} {e : StubError}
    (holds : HasSingleImports u c) (h : c.exposed.findSome? Method.refusal? = some e) :
    Refuses u e := by
  obtain ⟨earlier, m, later, split, hm, before⟩ :=
    (findSome?_refusal_eq_some_iff fun _ => Method.refusal?_eq_none_iff).mp h
  obtain ⟨generic, rfl⟩ := Method.refusal?_eq_some_iff.mp hm
  exact .genericMethod holds split before generic

/-- One that is refused for the types of its methods is refused for the first unsupported one. -/
theorem refuses_of_types {u : CompilationUnit} {c : ClassDeclaration} {e : StubError}
    (holds : HasPlainMethods u c) (h : c.exposedNodes.findSome? JavaType.refusal? = some e) :
    Refuses u e := by
  obtain ⟨earlier, t, later, split, ht, before⟩ :=
    (findSome?_refusal_eq_some_iff fun _ => JavaType.refusal?_eq_none_iff).mp h
  obtain ⟨unsupported, rfl⟩ := JavaType.refusal?_eq_some_iff.mp ht
  exact .unsupportedType holds split before unsupported

/-- A unit either has a class whose conditions all hold, or it is refused. -/
theorem strippable_or_refuses (u : CompilationUnit) :
    (∃ c, IsStrippable u c) ∨ ∃ e, Refuses u e := by
  match single : u.types with
  | [] => exact .inr ⟨_, .typeCount (by simp [single])⟩
  | _ :: _ :: _ => exact .inr ⟨_, .typeCount (by simp [single])⟩
  | [.ofHeader h] => exact .inr ⟨_, .notAClass single⟩
  | [.ofClass c] =>
    by_cases plain : c.typeParameters = []
    case neg => exact .inr ⟨_, .genericClass single plain⟩
    by_cases packaged : u.package = none
    case pos => exact .inr ⟨_, .missingPackage ⟨single, plain⟩ packaged⟩
    have holds : IsPackagedClass u c := ⟨⟨single, plain⟩, packaged⟩
    cases imports : u.imports.findSome? ImportIndex.refusal? with
    | some e => exact .inr ⟨e, refuses_of_imports holds imports⟩
    | none =>
      have holds : HasSingleImports u c :=
        ⟨holds, (findSome?_refusal_eq_none_iff fun _ => ImportIndex.refusal?_eq_none_iff).mp imports⟩
      cases methods : c.exposed.findSome? Method.refusal? with
      | some e => exact .inr ⟨e, refuses_of_methods holds methods⟩
      | none =>
        have accepted :=
          (findSome?_refusal_eq_none_iff fun _ => Method.refusal?_eq_none_iff).mp methods
        have holds : HasPlainMethods u c := ⟨holds, exposed_plain_iff.mp accepted⟩
        cases types : c.exposedNodes.findSome? JavaType.refusal? with
        | some e => exact .inr ⟨e, refuses_of_types holds types⟩
        | none =>
          have accepted :=
            (findSome?_refusal_eq_none_iff fun _ => JavaType.refusal?_eq_none_iff).mp types
          exact .inl ⟨c, holds, exposedNodes_supported_iff.mp accepted⟩

/-- A unit has a stub exactly when all conditions hold, and it fails with an error exactly when
it is refused with it. -/
theorem strip_decides (u : CompilationUnit) (banner : Banner) :
    ((∃ text, u.strip banner = .ok text) ↔ ∃ c, IsStrippable u c) ∧
      ∀ e, u.strip banner = .error e ↔ Refuses u e := by
  constructor
  · rw [← failure?_eq_none_iff]
    constructor
    · intro h
      rcases u.strippable_or_refuses with strippable | ⟨e, refused⟩
      · exact strippable
      · simp [failure?_strip_of_refuses banner refused] at h
    · rintro ⟨c, h⟩
      exact failure?_strip_of_strippable banner h
  · intro e
    rw [← failure?_eq_some_iff]
    constructor
    · intro h
      rcases u.strippable_or_refuses with ⟨c, strippable⟩ | ⟨e', refused⟩
      · simp [failure?_strip_of_strippable banner strippable] at h
      · rw [failure?_strip_of_refuses banner refused] at h
        obtain rfl := Option.some.inj h
        exact refused
    · exact failure?_strip_of_refuses banner

end CompilationUnit

end JavaStub
