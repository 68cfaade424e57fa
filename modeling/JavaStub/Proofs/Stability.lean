import JavaStub.Generation
import JavaStub.Proofs.Fidelity

/-!
# Stubs of stubs

A stub is its own stub. It repeats the signatures of its source, so the same names are needed of its
imports, and among the imports that it keeps each needed name finds the path that it found before:
an import binds the last part of its path, so no other kept import binds the same name.

Main facts:

1. `ImportIndex.get?_of_kept`: a needed name finds the same path among the imports that are kept.
2. `stubFile_of_repeats`: a unit that repeats the signatures of another has the same stub file.
3. `generate_generate`: a stub is generated from itself.
-/

namespace JavaStub

namespace ImportIndex

variable {index index' : ImportIndex} {imports : List Import} {n path : String}

/-- The index of single-type imports binds the name of each. -/
theorem extend_eq_ok (h : ∀ i ∈ imports, i.IsSingle) :
    index.extend imports =
      .ok ⟨(imports.map fun i => (i.simpleName, i.name)).reverse ++ index.bindings⟩ := by
  induction imports generalizing index with
  | nil => rfl
  | cons i imports ih =>
    obtain ⟨single, others⟩ := List.forall_mem_cons.mp h
    rw [extend, refusal?_eq_none_iff.mpr single]
    dsimp only
    rw [ih others, add]
    simp

theorem bindings_of_extend (h : index.extend imports = .ok index') :
    index'.bindings = (imports.map fun i => (i.simpleName, i.name)).reverse ++ index.bindings := by
  have single : ∀ i ∈ imports, i.IsSingle := by
    intro i hi
    have none : failure? (index.extend imports) = none := by rw [h]; rfl
    rw [failure?_extend, List.findSome?_eq_none_iff] at none
    exact refusal?_eq_none_iff.mp (none i hi)
  rw [extend_eq_ok single] at h
  exact congrArg bindings (Except.ok.inj h).symm

/-- What a name finds is a path that ends in it. -/
theorem simpleName_of_get? (h : ofImports imports = .ok index) (found : index.get? n = some path) :
    simpleName path = n := by
  obtain ⟨before, behind, split, _⟩ := List.lookup_eq_some_iff.mp found
  have bound : (n, path) ∈ index.bindings := by rw [split]; simp
  rw [bindings_of_extend h] at bound
  simp only [List.append_nil, List.mem_reverse, List.mem_map, Prod.mk.injEq] at bound
  obtain ⟨i, _, rfl, rfl⟩ := bound
  rfl

/-- The last part of an import that is indexed finds some path. -/
theorem isSome_get? (h : ofImports imports = .ok index) {i : Import} (hi : i ∈ imports) :
    (index.get? i.simpleName).isSome = true := by
  have bound : (i.simpleName, i.name) ∈ index.bindings := by
    rw [bindings_of_extend h]
    simpa using ⟨i, hi, rfl, rfl⟩
  rw [get?, Option.isSome_iff_ne_none]
  intro none
  have other := List.lookup_eq_none_iff.mp none _ bound
  simp at other

/-- Among imports whose paths are those that the needed names find, each needed name finds the same
path. -/
theorem get?_of_kept {kept : List Import} {needed : List String}
    (h : ofImports imports = .ok index) (h' : ofImports kept = .ok index')
    (paths : ∀ p, (∃ i ∈ kept, i.name = p) ↔ ∃ n ∈ needed, index.get? n = some p)
    (hn : n ∈ needed) : index'.get? n = index.get? n := by
  cases found : index'.get? n with
  | some q =>
    obtain ⟨i, hi, rfl⟩ := exists_import_of_get? h' found
    obtain ⟨m, _, same⟩ := (paths i.name).mp ⟨i, hi, rfl⟩
    have left := simpleName_of_get? h' found
    rw [simpleName_of_get? h same] at left
    rw [← left, same]
  | none =>
    cases missed : index.get? n with
    | none => rfl
    | some p =>
      obtain ⟨i, hi, rfl⟩ := (paths p).mpr ⟨n, hn, missed⟩
      have some := isSome_get? h' hi
      rw [Import.simpleName, simpleName_of_get? h missed, found] at some
      cases some

theorem line_injective {p q : String} (h : line p = line q) : p = q := by
  unfold line at h
  have texts := congrArg String.toList h
  simp only [String.toList_append, List.append_cancel_left_eq, List.append_cancel_right_eq] at texts
  exact String.toList_injective texts

/-- The imports that are kept give the same lines again. -/
theorem lines_of_kept {kept : List Import} {needed : List String}
    (h : ofImports imports = .ok index) (h' : ofImports kept = .ok index')
    (lines : kept.map (fun i => line i.name) = index.lines needed) :
    index'.lines needed = index.lines needed := by
  have paths : ∀ p, (∃ i ∈ kept, i.name = p) ↔ ∃ n ∈ needed, index.get? n = some p := by
    intro p
    have member : line p ∈ kept.map (fun i => line i.name) ↔ line p ∈ index.lines needed := by
      rw [lines]
    simp only [ImportIndex.lines, mem_ascending, List.mem_map, List.mem_filterMap] at member
    constructor
    · rintro ⟨i, hi, rfl⟩
      obtain ⟨q, found, same⟩ := member.mp ⟨i, hi, rfl⟩
      rwa [line_injective same] at found
    · intro found
      obtain ⟨i, hi, same⟩ := member.mpr ⟨p, found, rfl⟩
      exact ⟨i, hi, line_injective same⟩
  unfold ImportIndex.lines
  rw [List.filterMap_congr fun n hn => get?_of_kept h h' paths hn]

end ImportIndex

namespace ClassDeclaration

variable {c c' : ClassDeclaration} {σ : Location → Location}

/-- A class that has the public methods of another, up to places, has them as its public methods. -/
theorem publicMethods_congr
    (h : relocate σ c'.methods = relocate σ (c.methods.filter Method.isPublic)) :
    (relocate σ c').publicMethods = (relocate σ c).publicMethods := by
  have swap : ∀ ms : List Method,
      relocate σ (ms.filter Method.isPublic) = (relocate σ ms).filter Method.isPublic := by
    intro ms
    rw [relocate_list, relocate_list, List.filter_map]
    rfl
  show ((relocate σ c'.methods).filter Method.isPublic).mapM Method.plain =
    ((relocate σ c.methods).filter Method.isPublic).mapM Method.plain
  rw [h, swap, List.filter_filter]
  simp only [Bool.and_self]

/-- Such a class needs the same names. -/
theorem neededNames_congr
    (h : relocate σ c'.methods = relocate σ (c.methods.filter Method.isPublic)) {names : List String}
    (named : c.neededNames = .ok names) : c'.neededNames = .ok names := by
  have same : relocate σ c'.neededNames = relocate σ c.neededNames := by
    rw [neededNames_relocate, neededNames_relocate, neededNames, neededNames, publicMethods_congr h]
  exact eq_ok_of_relocate_eq same named

/-- Such a class has the same method stubs. -/
theorem methodStubs_congr
    (h : relocate σ c'.methods = relocate σ (c.methods.filter Method.isPublic)) {stubs : List String}
    (stubbed : c.methodStubs = .ok stubs) : c'.methodStubs = .ok stubs := by
  have same : relocate σ c'.methodStubs = relocate σ c.methodStubs := by
    rw [methodStubs_relocate, methodStubs_relocate, methodStubs, methodStubs, publicMethods_congr h]
  exact eq_ok_of_relocate_eq same stubbed

end ClassDeclaration

namespace CompilationUnit

variable {u u' : CompilationUnit} {banner : Banner} {file : StubFile}

theorem packageName_congr {package : String} (h : u'.package.map Package.name = u.package.map Package.name)
    (packaged : u.packageName = .ok package) : u'.packageName = .ok package := by
  unfold packageName at packaged ⊢
  cases found : u.package with
  | none => rw [found] at packaged; cases packaged
  | some p =>
    rw [found] at packaged h
    cases packaged
    obtain ⟨p', found', same⟩ := Option.map_eq_some_iff.mp h
    rw [found', ← same]

/-- A unit that repeats the signatures of another has the same stub file. -/
theorem stubFile_of_repeats (made : u.stubFile banner = .ok file) (h : Repeats u file u') :
    u'.stubFile banner = .ok file := by
  obtain ⟨c, package, index, needed, stubs, stages, rfl⟩ := exists_stages made
  obtain ⟨c₁, c', single, single', name, modifiers, plain, methods⟩ := h.signatures
  obtain rfl : c₁ = c := by
    have types := single.symm.trans stages.single
    simpa using types
  have indexed : ImportIndex.ofImports u'.imports = .ok _ := ImportIndex.extend_eq_ok h.single
  have again : Stages u' c' package _ needed stubs :=
    ⟨single', plain, packageName_congr h.package stages.packaged, indexed,
      ClassDeclaration.neededNames_congr methods stages.named,
      ClassDeclaration.methodStubs_congr methods stages.stubbed⟩
  rw [again.stubFile banner, modifiers, name]
  rw [ImportIndex.lines_of_kept stages.indexed indexed h.imports]

end CompilationUnit

theorem generate_eq_ok_iff {source text : String} {banner : Banner} :
    generate source banner = .ok text ↔
      ∃ u file, CompilationUnit.ofSource source = .ok u ∧ u.stubFile banner = .ok file ∧
        text = file.render := by
  rw [generate_eq]
  unfold CompilationUnit.strip
  cases CompilationUnit.ofSource source with
  | error e => simp [Except.mapError, bind, Except.bind]
  | ok u =>
    cases made : u.stubFile banner with
    | error e => simp [Except.mapError, bind, Except.bind, Except.map, made]
    | ok file => simp [Except.mapError, bind, Except.bind, Except.map, made, eq_comm]

/-- A stub is generated from itself, under any configuration that fixes the year and a program name
without a line feed. -/
theorem generate_generate {source text script executable executable' : String}
    {c : Configuration} {year now now' : Int} (fixedScript : c.script = some script)
    (fixedYear : c.year = some year) (single : '\n' ∉ script.toList)
    (results : ∀ u cls, CompilationUnit.ofSource source = .ok u → u.types = [.ofClass cls] →
      ∀ m ∈ cls.methods, m.isPublic = true → ¬CompilationUnit.IsBareRecord m.result)
    (generated : generate source (c.banner executable now) = .ok text) :
    generate text (c.banner executable' now') = .ok text := by
  have banner : ∀ exe now, c.banner exe now = ⟨script, year⟩ := by
    intro exe now
    rw [Configuration.banner, fixedScript, fixedYear]
    rfl
  rw [banner] at generated ⊢
  obtain ⟨u, file, read, made, rfl⟩ := generate_eq_ok_iff.mp generated
  obtain ⟨u', again, repeats⟩ :=
    CompilationUnit.exists_repeats_of_stubFile read made single fun cls => results u cls read
  exact generate_eq_ok_iff.mpr
    ⟨u', file, again, CompilationUnit.stubFile_of_repeats made repeats, rfl⟩

/-- A configuration that fixes the year and the name of the program. -/
def fixedConfiguration : Configuration := ⟨"chrome", some "jstub", some 2019, true⟩

open CompilationUnit in
theorem generate_genericResult : ∀ executable now,
    generate genericResult (fixedConfiguration.banner executable now) = .ok genericResultFile.render :=
  fun _ _ => generate_eq_ok_iff.mpr
    ⟨genericResultUnit, genericResultFile, ofSource_genericResult, stubFile_genericResult, rfl⟩

open CompilationUnit in
theorem generate_generate_genericResult :
    generate genericResultFile.render (fixedConfiguration.banner "bin/jstub" 2025) =
      .ok genericResultFile.render := by
  have results : ∀ u cls, ofSource genericResult = .ok u → u.types = [.ofClass cls] →
      ∀ m ∈ cls.methods, m.isPublic = true → ¬IsBareRecord m.result := by
    intro u cls read
    rw [ofSource_genericResult] at read
    obtain rfl := Except.ok.inj read
    exact genericResult_notBareRecord cls
  have single : '\n' ∉ "jstub".toList := by decide
  exact generate_generate (c := fixedConfiguration) rfl rfl single results
    (generate_genericResult "bin/jstub" 2024)

end JavaStub
