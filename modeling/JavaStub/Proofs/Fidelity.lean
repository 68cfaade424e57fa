import JavaStub.Proofs.Completeness.Units
import JavaStub.Proofs.Printing.Units
import JavaStub.Proofs.Refusal

/-!
# Fidelity of stubs

The stub of a source is itself a source. It is read as a unit with the package of the first one,
the imports that the stub keeps, and one class with the public methods of the first class in their
order, each with the same signature. Only a result of the bare type `record` is excluded: a name
behind it makes it the keyword of a record. A source has such a result when it writes `record<>`.

Main facts:

1. `exists_isStubFile`: what a stub file is made of.
2. `exists_rereads`: what a text is read as that spells the code of a stub file.
3. `exists_repeats_of_stubFile`: what a stub file is read as.
4. `ofSource_of_strip`: what the text of a stub is read as.
-/

namespace JavaStub

open Grammar

/-! ## The parts of a stub file -/

namespace ImportIndex

/-- What an index binds are the names of imports. -/
theorem exists_import_of_extend {index extended : ImportIndex} {imports : List Import}
    (h : index.extend imports = .ok extended) {b : String × String} (hb : b ∈ extended.bindings) :
    b ∈ index.bindings ∨ ∃ i ∈ imports, b.2 = i.name := by
  induction imports generalizing index with
  | nil =>
    obtain rfl := Except.ok.inj h
    exact .inl hb
  | cons i imports ih =>
    rw [extend] at h
    cases refused : refusal? i with
    | some e => rw [refused] at h; cases h
    | none =>
      rw [refused] at h
      rcases ih h with before | ⟨j, hj, same⟩
      · rcases List.mem_cons.mp before with rfl | before
        · exact .inr ⟨i, List.mem_cons_self, rfl⟩
        · exact .inl before
      · exact .inr ⟨j, List.mem_cons_of_mem i hj, same⟩

/-- An import that is found is one of those of the unit. -/
theorem exists_import_of_get? {imports : List Import} {index : ImportIndex} {n path : String}
    (h : ofImports imports = .ok index) (found : index.get? n = some path) :
    ∃ i ∈ imports, path = i.name := by
  obtain ⟨before, behind, split, _⟩ := List.lookup_eq_some_iff.mp found
  have bound : (n, path) ∈ index.bindings := by rw [split]; simp
  rcases exists_import_of_extend h bound with none | ⟨i, hi, same⟩
  · cases none
  · exact ⟨i, hi, same⟩

/-- Import lines are those of imports of the unit. -/
theorem exists_names_of_lines {imports : List Import} {index : ImportIndex}
    (h : ofImports imports = .ok index) (needed : List String) :
    ∃ names : List String, index.lines needed = names.map line ∧
      ∀ n ∈ names, ∃ i ∈ imports, n = i.name := by
  have each : ∀ text ∈ index.lines needed, ∃ n, text = line n ∧ ∃ i ∈ imports, n = i.name := by
    intro text ht
    obtain ⟨path, hp, rfl⟩ := List.mem_map.mp (mem_ascending.mp ht)
    obtain ⟨n, _, found⟩ := List.mem_filterMap.mp hp
    exact ⟨path, rfl, exists_import_of_get? h found⟩
  generalize index.lines needed = lines at each
  induction lines with
  | nil => exact ⟨[], rfl, fun n hn => absurd hn List.not_mem_nil⟩
  | cons text lines ih =>
    obtain ⟨⟨n, rfl, known⟩, others⟩ := List.forall_mem_cons.mp each
    obtain ⟨names, rfl, all⟩ := ih others
    exact ⟨n :: names, rfl, List.forall_mem_cons.mpr ⟨known, all⟩⟩

end ImportIndex

namespace CompilationUnit

variable {u : CompilationUnit} {banner : Banner} {file : StubFile}

/-- What the stages of making a stub file come to. -/
structure Stages (u : CompilationUnit) (c : ClassDeclaration) (package : String)
    (index : ImportIndex) (needed stubs : List String) : Prop where
  single : u.types = [.ofClass c]
  plain : c.typeParameters = []
  packaged : u.packageName = .ok package
  indexed : ImportIndex.ofImports u.imports = .ok index
  named : c.neededNames = .ok needed
  stubbed : c.methodStubs = .ok stubs

theorem Stages.stubFile {c : ClassDeclaration} {package : String} {index : ImportIndex}
    {needed stubs : List String} (h : Stages u c package index needed stubs) (banner : Banner) :
    u.stubFile banner =
      .ok ⟨package, Modifier.listText c.modifiers, c.name, index.lines needed, stubs, banner⟩ := by
  simp [CompilationUnit.stubFile, singleClass_of_class h.single, h.plain, h.packaged, h.indexed,
    h.named, h.stubbed]

theorem types_of_singleClass {c : ClassDeclaration} (h : u.singleClass = .ok c) :
    u.types = [.ofClass c] := by
  unfold singleClass at h
  split at h
  · next single =>
    cases h
    exact single
  · cases h
  · cases h

theorem exists_stages (h : u.stubFile banner = .ok file) :
    ∃ c package index needed stubs, Stages u c package index needed stubs ∧
      file = ⟨package, Modifier.listText c.modifiers, c.name, index.lines needed, stubs, banner⟩ := by
  obtain ⟨c, single, h⟩ := bind_eq_ok_iff.mp h
  split at h
  · cases h
  next plain =>
  obtain ⟨package, packaged, h⟩ := bind_eq_ok_iff.mp h
  obtain ⟨index, indexed, h⟩ := bind_eq_ok_iff.mp h
  obtain ⟨needed, named, h⟩ := bind_eq_ok_iff.mp h
  obtain ⟨stubs, stubbed, h⟩ := bind_eq_ok_iff.mp h
  cases h
  exact ⟨c, package, index, needed, stubs,
    ⟨types_of_singleClass single, by simpa using plain, packaged, indexed, named, stubbed⟩, rfl⟩

/-- What the stub file of a unit is made of. -/
structure IsStubFile (u : CompilationUnit) (banner : Banner) (c : ClassDeclaration)
    (file : StubFile) : Prop where
  single : u.types = [.ofClass c]
  package : ∃ p, u.package = some p ∧ file.package = p.name
  modifiers : file.modifiers = Modifier.listText c.modifiers
  name : file.name = c.name
  imports : ∃ names : List String, file.imports = names.map ImportIndex.line ∧
    ∀ n ∈ names, ∃ i ∈ u.imports, n = i.name
  plain : ∀ m ∈ c.exposed, m.typeParameters = []
  stubs : List.Forall₂ (fun m text => m.stub = .ok text) c.exposed file.stubs
  banner : file.banner = banner

theorem Stages.isStubFile {c : ClassDeclaration} {package : String} {index : ImportIndex}
    {needed stubs : List String} (h : Stages u c package index needed stubs) (banner : Banner) :
    IsStubFile u banner c
      ⟨package, Modifier.listText c.modifiers, c.name, index.lines needed, stubs, banner⟩ := by
  obtain ⟨methods, exposed, each⟩ := bind_eq_ok_iff.mp h.stubbed
  obtain rfl := ClassDeclaration.publicMethods_eq exposed
  have accepted : c.refusal? = none := by
    rw [← ClassDeclaration.failure?_methodStubs, failure?_eq_none_iff]
    exact ⟨stubs, h.stubbed⟩
  have named : ∃ p, u.package = some p ∧ package = p.name := by
    have packaged := h.packaged
    unfold packageName at packaged
    cases found : u.package with
    | none => rw [found] at packaged; cases packaged
    | some p =>
      rw [found] at packaged
      cases packaged
      exact ⟨p, rfl, rfl⟩
  exact ⟨h.single, named, rfl, rfl, ImportIndex.exists_names_of_lines h.indexed needed,
    (class_refusal?_eq_none_iff.mp accepted).1, forall₂_of_mapM each, rfl⟩

theorem exists_isStubFile (h : u.stubFile banner = .ok file) : ∃ c, IsStubFile u banner c file := by
  obtain ⟨c, package, index, needed, stubs, stages, rfl⟩ := exists_stages h
  exact ⟨c, stages.isStubFile banner⟩

/-- Is this the bare name `record` as the type of a result? -/
def IsBareRecord (result : Option JavaType) : Prop :=
  ∃ span, result = some (.reference (.mk "record" [] 0 span))

theorem notBareRecord_relocate {result : Option JavaType} (h : ¬IsBareRecord result) :
    ∀ t ∈ relocate unplaced result, NotBareRecord t := by
  intro t ht bare
  obtain ⟨s, rfl, rfl⟩ := Option.map_eq_some_iff.mp ht
  cases s with
  | reference type =>
    obtain ⟨n, ts, dims, span⟩ := type
    have same : JavaType.reference (.mk n (relocatedArguments unplaced ts) dims noSpan) =
        .reference (.mk "record" [] 0 noSpan) := bare
    simp only [JavaType.reference.injEq, ReferenceType.mk.injEq] at same
    obtain ⟨rfl, arguments, rfl, _⟩ := same
    cases ts with
    | nil => exact h ⟨span, rfl⟩
    | cons t ts => cases arguments
  | _ => cases bare

instance : DecidablePred IsBareRecord
  | none => isFalse fun ⟨_, same⟩ => nomatch same
  | some (.reference (.mk n ts dims span)) =>
    decidable_of_iff (n = "record" ∧ ts.isEmpty ∧ dims = 0) (by
      simp only [IsBareRecord, Option.some.injEq, JavaType.reference.injEq, ReferenceType.mk.injEq,
        List.isEmpty_iff]
      exact ⟨fun ⟨h, h', h''⟩ => ⟨span, h, h', h'', rfl⟩, fun ⟨_, h, h', h'', _⟩ => ⟨h, h', h''⟩⟩)
  | some (.argument ..) | some (.basic ..) | some (.wildcard _) | some (.boundedWildcard ..)
  | some (.nested ..) => isFalse fun ⟨_, same⟩ => nomatch same

/-- The method that the stub of a method is read as, of no particular place. There is none where the
result is the bare name `record`, as the stub is read as a nested record then. -/
def reread (m : Method) : Option Method :=
  if IsBareRecord m.result then none else some (relocate unplaced m)

theorem eq_of_mem_reread {m m' : Method} (h : m' ∈ reread m) : m' = relocate unplaced m := by
  unfold reread at h
  split at h
  · cases h
  · exact (Option.some.inj h).symm

theorem writes_reread {m : Method} {text : String} (named : m.WellNamed)
    (plain : m.typeParameters = []) (rendered : m.stub = .ok text) :
    Writes (Member NotBareRecord (reread m)) text := by
  unfold reread
  split
  · next bare =>
    obtain ⟨span, bare⟩ := bare
    exact writes_record named bare rendered
  · next other => exact writes_method named plain (notBareRecord_relocate other) rendered

/-- A unit that has the package and the imports of a stub file and one class, with the methods that
the stubs of the public methods of a class are read as. -/
structure Rereads (c : ClassDeclaration) (file : StubFile) (u' : CompilationUnit) : Prop where
  package : u'.package.map Package.name = some file.package
  imports : u'.imports.map (fun i => ImportIndex.line i.name) = file.imports
  single : ∀ i ∈ u'.imports, i.isStatic = false ∧ i.isWildcard = false
  declared : ∃ c' : ClassDeclaration, u'.types = [.ofClass c'] ∧ c'.name = file.name ∧
    c'.modifiers = c.modifiers ∧ c'.typeParameters = [] ∧
      relocate unplaced c'.methods = c.exposed.filterMap reread

/-- The unit of a stub repeats the signatures of the first unit: it has the same package, the
imports of the stub file, and one class with the public methods of the first one. -/
structure Repeats (u : CompilationUnit) (file : StubFile) (u' : CompilationUnit) : Prop where
  package : u'.package.map Package.name = u.package.map Package.name
  imports : u'.imports.map (fun i => ImportIndex.line i.name) = file.imports
  single : ∀ i ∈ u'.imports, i.isStatic = false ∧ i.isWildcard = false
  signatures : ∃ c c' : ClassDeclaration, u.types = [.ofClass c] ∧ u'.types = [.ofClass c'] ∧
    c'.name = c.name ∧ c'.modifiers = c.modifiers ∧ c'.typeParameters = [] ∧
      relocate unplaced c'.methods = relocate unplaced (c.methods.filter Method.isPublic)

/-- A unit that is equal up to places to the one that a stub file has the form of has its parts. -/
theorem rereads_of_relocate {c : ClassDeclaration} {names : List String} {u' : CompilationUnit}
    (lines : file.imports = names.map ImportIndex.line)
    (h : relocate unplaced u' = ⟨some ⟨file.package, noSpan⟩, names.map .ofName,
      [.ofClass ⟨c.modifiers, file.name, [], c.exposed.filterMap reread, noSpan⟩], noSpan⟩) :
    Rereads c file u' := by
  obtain ⟨package', imports', types', span'⟩ := u'
  obtain ⟨package, imports, types, _⟩ := CompilationUnit.mk.inj h
  refine ⟨?_, ?_, ?_, ?_⟩
  · cases package' with
    | none => cases package
    | some p' =>
      have same : p'.name = file.package := congrArg Package.name (Option.some.inj package)
      exact congrArg some same
  · have texts := congrArg (List.map fun i : Import => ImportIndex.line i.name) imports
    rw [relocate_list, List.map_map, List.map_map] at texts
    rw [lines]
    exact texts
  · intro i hi
    have member : relocate unplaced i ∈ names.map Import.ofName := by
      rw [← imports]
      exact List.mem_map_of_mem hi
    obtain ⟨n, _, same⟩ := List.mem_map.mp member
    exact ⟨(congrArg Import.isStatic same).symm, (congrArg Import.isWildcard same).symm⟩
  · obtain ⟨d, rest, rfl⟩ : ∃ d rest, types' = d :: rest := by
      cases types' with
      | nil => cases types
      | cons d rest => exact ⟨d, rest, rfl⟩
    obtain ⟨declared, none⟩ := List.cons.inj types
    obtain rfl : rest = [] := List.map_eq_nil_iff.mp none
    cases d with
    | ofHeader header => cases declared
    | ofClass c' =>
      obtain ⟨modifiers, name, typeParameters, methods, _⟩ :=
        ClassDeclaration.mk.inj (TypeDeclaration.ofClass.inj declared)
      exact ⟨c', rfl, name, modifiers, typeParameters, methods⟩

/-- Where no result is the bare name `record`, the signatures are repeated. -/
theorem Rereads.repeats {c : ClassDeclaration} {u' : CompilationUnit} (h : Rereads c file u')
    (parts : IsStubFile u banner c file) (results : ∀ m ∈ c.exposed, ¬IsBareRecord m.result) :
    Repeats u file u' := by
  obtain ⟨p, packaged, named⟩ := parts.package
  obtain ⟨c', single, name, modifiers, typeParameters, methods⟩ := h.declared
  have each : ∀ m ∈ c.exposed, reread m = (some ∘ relocate unplaced) m :=
    fun m hm => if_neg (results m hm)
  have all : c.exposed.filterMap reread = relocate unplaced c.exposed := by
    rw [List.filterMap_congr each, List.filterMap_eq_map, relocate_list]
  refine ⟨?_, h.imports, h.single, c, c', parts.single, single, name.trans parts.name, modifiers,
    typeParameters, methods.trans all⟩
  rw [h.package, packaged, named]
  rfl

/-- The code of a stub file that is made for the unit of a source has the form of a unit with the
parts of the file. -/
theorem spells_code_of_stubFile {source : String} {c : ClassDeclaration} {names : List String}
    (read : ofSource source = .ok u) (parts : IsStubFile u banner c file)
    (lines : file.imports = names.map ImportIndex.line)
    (known : ∀ n ∈ names, ∃ i ∈ u.imports, n = i.name) :
    ∃ ws, IsUnit NotBareRecord ⟨some ⟨file.package, noSpan⟩, names.map .ofName,
      [.ofClass ⟨c.modifiers, file.name, [], c.exposed.filterMap reread, noSpan⟩], noSpan⟩ ws ∧
        Spells file.code.toList ws := by
  have named := wellNamed_of_ofSource read
  have declared : c.WellNamed := named.types (.ofClass c) (by rw [parts.single]; simp)
  have imported : ∀ n ∈ names, IsQualifiedName n := by
    intro n hn
    obtain ⟨i, hi, rfl⟩ := known n hn
    exact named.imports i hi
  have package : IsQualifiedName file.package := by
    obtain ⟨p, packaged, same⟩ := parts.package
    rw [same]
    exact named.package p packaged
  have stubs : List.Forall₂ (fun m stub => Writes (Member NotBareRecord m) stub)
      (c.exposed.map reread) file.stubs := by
    rw [List.forall₂_map_left_iff]
    have pairs := (List.forall₂_and_left c.exposed file.stubs).mpr ⟨fun _ hm => hm, parts.stubs⟩
    refine pairs.imp fun m stub ⟨hm, stubbed⟩ => ?_
    exact writes_reread (declared.methods m (List.mem_filter.mp hm).1) (parts.plain m hm) stubbed
  have form := spells_code package lines imported parts.modifiers
    (by rw [parts.name]; exact declared.name) stubs
  rwa [List.filterMap_map, Function.id_comp] at form

/-- A text that spells what the code of a stub file spells is read as a unit with its parts. -/
theorem exists_rereads {source text : String} {c : ClassDeclaration}
    (read : ofSource source = .ok u) (parts : IsStubFile u banner c file)
    (spells : ∀ ws, Spells file.code.toList ws → Spells text.toList ws) :
    ∃ u', ofSource text = .ok u' ∧ Rereads c file u' := by
  obtain ⟨names, lines, known⟩ := parts.imports
  obtain ⟨ws, form, spelled⟩ := spells_code_of_stubFile read parts lines known
  obtain ⟨ts, cuts, rfl⟩ := (spells ws spelled).tokens
  obtain ⟨u', unit, same⟩ := exists_of_relocate_ok (relocate_ofTokens form)
  have again : ofSource text = .ok u' := by
    unfold ofSource
    rw [cuts]
    exact unit
  exact ⟨u', again, rereads_of_relocate lines same⟩

/-- A stub file that is made for the unit of a source is read as a unit that repeats the signatures. -/
theorem exists_repeats_of_stubFile {source : String} (read : ofSource source = .ok u)
    (made : u.stubFile banner = .ok file) (script : '\n' ∉ banner.script.toList)
    (results : ∀ c, u.types = [.ofClass c] → ∀ m ∈ c.methods, m.isPublic = true →
      ¬IsBareRecord m.result) :
    ∃ u', ofSource file.render = .ok u' ∧ Repeats u file u' := by
  obtain ⟨c, parts⟩ := exists_isStubFile made
  have script' : '\n' ∉ file.banner.script.toList := by
    rw [parts.banner]
    exact script
  obtain ⟨u', again, rereads⟩ := exists_rereads read parts fun _ => spells_render script'
  refine ⟨u', again, rereads.repeats parts fun m hm => ?_⟩
  obtain ⟨hm', isPublic⟩ := List.mem_filter.mp hm
  exact results c parts.single m hm' isPublic

/-- The stub of a source is read as a unit that repeats its signatures, if the program it names has
no line feed in its name and no public method has the bare type `record` as its result. -/
theorem ofSource_of_strip {source text : String} {u : CompilationUnit} {banner : Banner}
    (read : ofSource source = .ok u) (stripped : u.strip banner = .ok text)
    (script : '\n' ∉ banner.script.toList)
    (results : ∀ c, u.types = [.ofClass c] → ∀ m ∈ c.methods, m.isPublic = true →
      ¬IsBareRecord m.result) :
    ∃ file u', u.stubFile banner = .ok file ∧ text = file.render ∧ ofSource text = .ok u' ∧
      Repeats u file u' := by
  cases made : u.stubFile banner with
  | error e => rw [strip, made] at stripped; cases stripped
  | ok file =>
    rw [strip, made] at stripped
    obtain rfl : file.render = text := Except.ok.inj stripped
    obtain ⟨u', again, repeats⟩ := exists_repeats_of_stubFile read made script results
    exact ⟨file, u', rfl, rfl, again, repeats⟩

end CompilationUnit

namespace CompilationUnit

/-- A source with nested type arguments, a variable number of arguments, and a method and an import
that a stub leaves out. -/
def genericResult : String :=
  "package a;import b.E;import b.F;public class D\x7bpublic E<E<E>>f(int...x)\x7b\x7dF g()\x7b\x7d\x7d"

/-- The type `E<E<E>>` in `genericResult`. -/
def genericResultType : JavaType :=
  .reference (.mk "E"
    [.argument (.reference (.mk "E"
      [.argument (.reference (.mk "E" [] 0 (.inLine 58 58))) (.inLine 58 58)] 0 (.inLine 56 59)))
        (.inLine 56 59)] 0 (.inLine 54 59))

/-- The unit that `genericResult` is read as. -/
def genericResultUnit : CompilationUnit :=
  ⟨some ⟨"a", .inLine 0 9⟩,
   [⟨"b.E", false, false, .inLine 10 20⟩, ⟨"b.F", false, false, .inLine 21 31⟩],
   [.ofClass ⟨[.publicAccess], "D", [],
     [⟨[.publicAccess], [], some genericResultType, "f",
       [⟨.basic "int" 0 (.inLine 63 63), "x", true, .inLine 63 69⟩], .inLine 47 72⟩,
      ⟨[], [], some (.reference (.mk "F" [] 0 (.inLine 73 73))), "g", [], .inLine 73 79⟩],
     .inLine 32 80⟩], .inLine 0 80⟩

theorem ofSource_genericResult : ofSource genericResult = .ok genericResultUnit := by decide +kernel

/-- The parts of the stub of `genericResult`. -/
def genericResultFile : StubFile :=
  ⟨"a", "public", "D", ["import b.E;"], ["public E<E<E>> f (int... x) \x7b return null; \x7d"],
   ⟨"jstub", 2019⟩⟩

theorem stubFile_genericResult :
    genericResultUnit.stubFile ⟨"jstub", 2019⟩ = .ok genericResultFile := by decide +kernel

theorem strip_genericResult :
    genericResultUnit.strip ⟨"jstub", 2019⟩ = .ok genericResultFile.render := by
  rw [strip, stubFile_genericResult]
  rfl

theorem genericResult_notBareRecord (c : ClassDeclaration)
    (single : genericResultUnit.types = [.ofClass c]) :
    ∀ m ∈ c.methods, m.isPublic = true → ¬IsBareRecord m.result := by
  cases single
  rintro m hm _ ⟨span, same⟩
  simp only [List.mem_cons, List.not_mem_nil, or_false] at hm
  rcases hm with rfl | rfl <;> simp [genericResultType] at same

theorem ofSource_strip_genericResult :
    ∃ file u', genericResultUnit.stubFile ⟨"jstub", 2019⟩ = .ok file ∧
      genericResultFile.render = file.render ∧ ofSource genericResultFile.render = .ok u' ∧
        Repeats genericResultUnit file u' :=
  ofSource_of_strip ofSource_genericResult strip_genericResult (by decide)
    genericResult_notBareRecord

end CompilationUnit

end JavaStub
