import Mathlib.Data.List.DropRight
import JavaStub.Proofs.ByteOrder
import JavaStub.Proofs.Stability

/-!
# The import block of a stub

Of the imports of a source a stub keeps those that its signatures use. A name means the last import
that ends in it, and it means the same import in the stub: each import that is kept ends in one name
only, so no other kept import takes the name over.

Main facts:

1. `ImportIndex.get?_eq_some_iff`: what an index finds is what a name is bound to.
2. `ClassDeclaration.mem_neededNames_iff`: the needed names are those that the signatures mention.
3. `binds_kept_iff`: a needed name is bound to the same path among the imports that are kept.
4. `keepsBindings`: what names mean in the unit that a stub is read as.
5. `importBlock_exact`: which lines the import block has, and what names mean in a stub.
-/

namespace JavaStub

variable {α β : Type} {n p path : String} {paths kept : List String}

/-! ## What a name is bound to -/

/-- Is the name the part of a path behind its last dot? -/
def IsLastSegment (n path : String) : Prop :=
  '.' ∉ n.toList ∧ (path = n ∨ ∃ front, path = front ++ "." ++ n)

/-- A name is bound to the last path that ends in it. -/
def Binds (paths : List String) (n path : String) : Prop :=
  ∃ earlier later, paths = earlier ++ path :: later ∧ IsLastSegment n path ∧
    ∀ q ∈ later, ¬IsLastSegment n q

theorem simpleName_eq_iff : simpleName path = n ↔ IsLastSegment n path := by
  unfold simpleName IsLastSegment
  constructor
  · rintro rfl
    rw [String.toList_ofList]
    refine ⟨fun dot => by simpa using List.mem_takeWhile_imp (List.mem_reverse.mp dot), ?_⟩
    have parts := List.takeWhile_append_dropWhile (p := (· ≠ '.')) (l := path.toList.reverse)
    have stop := List.head?_dropWhile_not (· ≠ '.') path.toList.reverse
    generalize path.toList.reverse.takeWhile (· ≠ '.') = last at parts
    have whole : path = String.ofList path.toList.reverse.reverse := by simp
    rw [whole, ← parts]
    cases front : path.toList.reverse.dropWhile (· ≠ '.') with
    | nil => exact .inl (by rw [List.append_nil])
    | cons c cs =>
      rw [front] at stop
      obtain rfl : c = '.' := by simpa using stop
      refine .inr ⟨String.ofList cs.reverse, ?_⟩
      rw [List.reverse_append, List.reverse_cons, String.ofList_append, String.ofList_append]
  · have undot : '.' ∉ n.toList → ∀ c ∈ n.toList.reverse, decide (c ≠ '.') = true := by
      intro undotted c hc
      refine decide_eq_true fun dot => undotted ?_
      rwa [← dot, ← List.mem_reverse]
    rintro ⟨undotted, rfl | ⟨front, rfl⟩⟩
    · rw [List.takeWhile_eq_self_iff.mpr (undot undotted), List.reverse_reverse, String.ofList_toList]
    · rw [String.toList_append, String.toList_append, List.reverse_append, List.reverse_append,
        List.takeWhile_append_of_pos (undot undotted)]
      show String.ofList (n.toList.reverse ++ ('.' :: front.toList.reverse).takeWhile _).reverse = n
      rw [List.takeWhile_cons_of_neg (by decide), List.append_nil, List.reverse_reverse,
        String.ofList_toList]

/-- A path ends in one name. -/
theorem IsLastSegment.unique {m n : String} (h : IsLastSegment m path) (h' : IsLastSegment n path) :
    m = n :=
  (simpleName_eq_iff.mpr h).symm.trans (simpleName_eq_iff.mpr h')

namespace Binds

theorem mem (h : Binds paths n p) : p ∈ paths := by
  obtain ⟨earlier, later, rfl, -, -⟩ := h
  simp

theorem segment (h : Binds paths n p) : IsLastSegment n p := by
  obtain ⟨_, _, _, segment, _⟩ := h
  exact segment

theorem unique {q : String} (h : Binds paths n p) (h' : Binds paths n q) : p = q := by
  obtain ⟨earlier, later, rfl, segment, last⟩ := h
  obtain ⟨earlier', later', same, segment', last'⟩ := h'
  rcases List.append_eq_append_iff.mp same with ⟨between, -, rest⟩ | ⟨between, -, rest⟩
  · cases between with
    | nil => exact (List.cons.inj rest).1
    | cons r between =>
      obtain ⟨-, rfl⟩ := List.cons.inj rest
      exact absurd segment' (last q (List.mem_append_right _ List.mem_cons_self))
  · cases between with
    | nil => exact (List.cons.inj rest).1.symm
    | cons r between =>
      obtain ⟨-, rfl⟩ := List.cons.inj rest
      exact absurd segment (last' p (List.mem_append_right _ List.mem_cons_self))

/-- A path is bound if it is the only one that ends in its name. -/
theorem of_only (h : p ∈ paths) (segment : IsLastSegment n p)
    (only : ∀ q ∈ paths, IsLastSegment n q → q = p) : Binds paths n p := by
  obtain ⟨newer, older, turned, away⟩ := List.eq_append_cons_of_mem (List.mem_reverse.mpr h)
  have split : paths = older.reverse ++ p :: newer.reverse := by
    rw [← List.reverse_reverse paths, turned]
    simp
  refine ⟨older.reverse, newer.reverse, split, segment, fun q hq ends => away ?_⟩
  rw [← only q (split ▸ List.mem_append_right _ (List.mem_cons_of_mem p hq)) ends]
  exact List.mem_reverse.mp hq

end Binds

/-- A needed name is bound to the same path among the paths that needed names are bound to. -/
theorem binds_kept_iff {Needed : String → Prop}
    (h : ∀ q, q ∈ kept ↔ ∃ n, Needed n ∧ Binds paths n q) (needed : Needed n) :
    Binds kept n p ↔ Binds paths n p := by
  have found : ∀ q ∈ kept, IsLastSegment n q → Binds paths n q := by
    intro q hq ends
    obtain ⟨m, _, bound⟩ := (h q).mp hq
    rwa [← bound.segment.unique ends]
  constructor
  · intro bound
    exact found p bound.mem bound.segment
  · intro bound
    exact .of_only ((h p).mpr ⟨n, needed, bound⟩) bound.segment fun q hq ends =>
      (found q hq ends).unique bound

namespace ImportIndex

variable {imports : List Import} {index : ImportIndex}

/-- A path under the name that it ends in. -/
def entry (path : String) : String × String := (simpleName path, path)

theorem bindings_ofImports (h : ofImports imports = .ok index) :
    index.bindings = ((imports.map Import.name).map entry).reverse := by
  rw [bindings_of_extend h, List.map_map]
  exact List.append_nil _

/-- What an index finds is what a name is bound to. -/
theorem get?_eq_some_iff (h : ofImports imports = .ok index) :
    index.get? n = some p ↔ Binds (imports.map Import.name) n p := by
  unfold get? Binds
  rw [bindings_ofImports h, List.lookup_eq_some_iff]
  generalize imports.map Import.name = paths
  constructor
  · rintro ⟨newer, older, split, other⟩
    -- the latest binding stands first in an index and last in the source
    have turned := congrArg List.reverse split
    rw [List.reverse_reverse, List.reverse_append, List.reverse_cons, List.append_assoc,
      List.singleton_append] at turned
    obtain ⟨earlier, rest, rfl, -, front⟩ := List.map_eq_append_iff.mp turned
    obtain ⟨q, later, rfl, found, behind⟩ := List.map_eq_cons_iff.mp front
    obtain ⟨rfl, rfl⟩ := Prod.mk.inj found
    refine ⟨earlier, later, rfl, simpleName_eq_iff.mp rfl, fun q hq segment => ?_⟩
    have member : entry q ∈ newer := by
      rw [← List.mem_reverse, ← behind]
      exact List.mem_map_of_mem hq
    have differs := other _ member
    rw [entry, simpleName_eq_iff.mpr segment, bne_self_eq_false] at differs
    cases differs
  · rintro ⟨earlier, later, rfl, segment, other⟩
    refine ⟨(later.map entry).reverse, (earlier.map entry).reverse, ?_, fun b hb => ?_⟩
    · rw [List.map_append, List.map_cons, List.reverse_append, List.reverse_cons, List.append_assoc,
        entry, simpleName_eq_iff.mpr segment]
      rfl
    · obtain ⟨q, hq, rfl⟩ := List.mem_map.mp (List.mem_reverse.mp hb)
      exact bne_iff_ne.mpr fun same => other q hq (simpleName_eq_iff.mp same.symm)

/-- The lines of the needed names are those of the paths that they are bound to. -/
theorem mem_lines_iff (h : ofImports imports = .ok index) {needed : List String} {text : String} :
    text ∈ index.lines needed ↔
      ∃ n ∈ needed, ∃ p, Binds (imports.map Import.name) n p ∧ text = line p := by
  simp only [lines, mem_ascending, List.mem_map, List.mem_filterMap, get?_eq_some_iff h]
  constructor
  · rintro ⟨p, ⟨n, hn, bound⟩, rfl⟩
    exact ⟨n, hn, p, bound, rfl⟩
  · rintro ⟨n, hn, p, bound, rfl⟩
    exact ⟨p, ⟨n, hn, bound⟩, rfl⟩

end ImportIndex

/-! ## Names in signatures -/

/-- A type mentions its own name and those in its arguments, bounds and qualified parts. -/
inductive JavaType.Mentions : JavaType → String → Prop
  | reference (type : ReferenceType) : Mentions (.reference type) type.name
  | ofArguments {type : ReferenceType} {t : JavaType} {n : String} (mem : t ∈ type.arguments)
      (below : Mentions t n) : Mentions (.reference type) n
  | argument {inner : JavaType} {span : Span} {n : String} (below : Mentions inner n) :
      Mentions (.argument inner span) n
  | basic (name : String) (dims : Nat) (span : Span) : Mentions (.basic name dims span) name
  | bound {kind : BoundKind} {bound : JavaType} {span : Span} {n : String}
      (below : Mentions bound n) : Mentions (.boundedWildcard kind bound span) n
  | nested {segments : List ReferenceType} {dims : Nat} {span : Span} {type : ReferenceType}
      {n : String} (mem : type ∈ segments) (below : Mentions (.reference type) n) :
      Mentions (.nested segments dims span) n

/-- Does a signature that a stub keeps mention the name? -/
def ClassDeclaration.Mentions (c : ClassDeclaration) (n : String) : Prop :=
  ∃ m ∈ c.methods, m.isPublic = true ∧ ∃ t ∈ m.signatureTypes, t.Mentions n

mutual

theorem JavaType.mem_names_iff : ∀ (t : JavaType) {names : List String}, t.names = .ok names →
    (n ∈ names ↔ t.Mentions n)
  | .reference type, names, h => by
    obtain ⟨name, arguments, dims, span⟩ := type
    obtain ⟨rest, found, rfl⟩ := map_eq_ok_iff.mp h
    rw [List.mem_cons, mem_namesOfArguments_iff arguments found]
    constructor
    · rintro (rfl | ⟨t, ht, below⟩)
      · exact .reference _
      · exact .ofArguments ht below
    · intro mentions
      cases mentions with
      | reference => exact .inl rfl
      | ofArguments mem below => exact .inr ⟨_, mem, below⟩
  | .argument inner span, names, h => by
    rw [inner.mem_names_iff h]
    constructor
    · exact .argument
    · intro mentions
      cases mentions
      assumption
  | .basic name dims span, names, h => by
    cases h
    rw [List.mem_singleton]
    constructor
    · rintro rfl
      exact .basic _ _ _
    · intro mentions
      cases mentions
      rfl
  | .wildcard _, _, h => nomatch h
  | .boundedWildcard _ _ _, _, h => nomatch h
  | .nested _ _ _, _, h => nomatch h

theorem mem_namesOfArguments_iff : ∀ (ts : List JavaType) {names : List String},
    namesOfArguments ts = .ok names → (n ∈ names ↔ ∃ t ∈ ts, t.Mentions n)
  | [], names, h => by
    cases h
    simp
  | t :: ts, names, h => by
    rw [namesOfArguments] at h
    split at h
    · cases h
    · next first found =>
      obtain ⟨rest, others, rfl⟩ := map_eq_ok_iff.mp h
      rw [List.mem_append, t.mem_names_iff found, mem_namesOfArguments_iff ts others,
        List.exists_mem_cons_iff]

end

/-- What a traversal collects in lists. -/
theorem mem_flatten_of_mapM {ε : Type} {f : α → Except ε (List β)} {P : α → Prop} {xs : List α}
    {ys : List (List β)} {y : β} (h : xs.mapM f = .ok ys)
    (each : ∀ x zs, f x = .ok zs → (y ∈ zs ↔ P x)) : y ∈ ys.flatten ↔ ∃ x ∈ xs, P x := by
  have pairs := forall₂_of_mapM h
  clear h
  induction pairs with
  | nil => simp
  | cons found _ ih =>
    rw [List.flatten_cons, List.mem_append, each _ _ found, List.exists_mem_cons_iff]
    exact or_congr_right ih

theorem Method.mem_typeNames_iff {m : Method} {names : List String} (h : m.typeNames = .ok names) :
    n ∈ names ↔ ∃ t ∈ m.signatureTypes, t.Mentions n := by
  obtain ⟨parameters, found, h⟩ := bind_eq_ok_iff.mp h
  obtain ⟨result, found', h⟩ := bind_eq_ok_iff.mp h
  cases h
  have first : n ∈ parameters.flatten ↔ ∃ p ∈ m.parameters, p.type.Mentions n :=
    mem_flatten_of_mapM found fun p _ named => p.type.mem_names_iff named
  have last : n ∈ result ↔ ∃ t ∈ m.result.toList, t.Mentions n := by
    cases returned : m.result with
    | none =>
      rw [returned] at found'
      cases found'
      simp
    | some t =>
      rw [returned] at found'
      simp [t.mem_names_iff found']
  rw [List.mem_append, first, last, Method.signatureTypes]
  simp only [List.mem_append, List.mem_map, or_and_right, exists_or, exists_exists_and_eq_and]

/-- The needed names are those that the signatures mention. -/
theorem ClassDeclaration.mem_neededNames_iff {c : ClassDeclaration} {needed : List String}
    (h : c.neededNames = .ok needed) : n ∈ needed ↔ c.Mentions n := by
  obtain ⟨methods, exposed, h⟩ := bind_eq_ok_iff.mp h
  obtain ⟨names, found, h⟩ := bind_eq_ok_iff.mp h
  cases h
  obtain rfl := publicMethods_eq exposed
  rw [mem_ascending, mem_flatten_of_mapM found fun m _ named => m.mem_typeNames_iff named]
  simp only [ClassDeclaration.exposed, List.mem_filter, and_assoc, Mentions]

/-! ## The block -/

/-- The import lines of a list of paths, for the names that are needed. -/
structure IsImportBlock (paths : List String) (Needed : String → Prop) (lines : List String) :
    Prop where
  /-- Each line is less than those after it, byte by byte, so none is repeated. -/
  ascending : lines.Pairwise fun s t => utf8Bytes s < utf8Bytes t
  imports : ∀ text ∈ lines, ∃ p, text = ImportIndex.line p
  exact : ∀ p, ImportIndex.line p ∈ lines ↔ ∃ n, Needed n ∧ Binds paths n p

theorem ImportIndex.isImportBlock {imports : List Import} {index : ImportIndex}
    (h : ofImports imports = .ok index) {Needed : String → Prop} {needed : List String}
    (same : ∀ n, n ∈ needed ↔ Needed n) :
    IsImportBlock (imports.map Import.name) Needed (index.lines needed) where
  ascending := (pairwise_ascending _).imp utf8Bytes_lt_iff.mpr
  imports := by
    intro text member
    obtain ⟨_, _, p, _, rfl⟩ := (mem_lines_iff h).mp member
    exact ⟨p, rfl⟩
  exact := by
    intro p
    rw [mem_lines_iff h]
    constructor
    · rintro ⟨n, hn, q, bound, line⟩
      obtain rfl := line_injective line
      exact ⟨n, (same n).mp hn, bound⟩
    · rintro ⟨n, hn, bound⟩
      exact ⟨n, (same n).mpr hn, p, bound, rfl⟩

-- the semicolon is greater than the dot, so lines are not in the order of their paths
example : (ImportIndex.mk [("C", "a.b.C"), ("b", "a.b")]).lines ["C", "b"] =
    ["import a.b.C;", "import a.b;"] := by
  decide +kernel

/-! ## The block in the text of a stub -/

section

open CompilationUnit (IsBareRecord Rereads reread)

variable {u u' : CompilationUnit} {c c' : ClassDeclaration} {needed : List String}

/-- What names mean in the unit `u'` that a stub of the class `c` in the unit `u` is read as. A kept
signature is that of a public method of `c`. -/
structure KeepsBindings (u : CompilationUnit) (c : ClassDeclaration) (u' : CompilationUnit) :
    Prop where
  single : ∀ i ∈ u'.imports, i.IsSingle
  block : IsImportBlock (u.imports.map Import.name) c.Mentions
    (u'.imports.map fun i => ImportIndex.line i.name)
  /-- A name that a kept signature mentions is bound to the same path as in the source. -/
  same : ∀ n, c.Mentions n → ∀ p,
    Binds (u'.imports.map Import.name) n p ↔ Binds (u.imports.map Import.name) n p
  /-- Every import is one that a kept signature uses. -/
  used : ∀ i ∈ u'.imports, ∃ n, c.Mentions n ∧ Binds (u'.imports.map Import.name) n i.name
  /-- The class of the stub mentions no other names, and all of these but for methods that are read
  as nested records. -/
  mentions : ∃ c', u'.types = [.ofClass c'] ∧ (∀ n, c'.Mentions n → c.Mentions n) ∧
    ((∀ m ∈ c.methods, m.isPublic = true → ¬IsBareRecord m.result) →
      ∀ n, c.Mentions n → c'.Mentions n)

/-- Is the text read as a unit in which the names of kept signatures mean what they mean in `u`? -/
def ReadsAsStub (u : CompilationUnit) (c : ClassDeclaration) (text : String) : Prop :=
  ∃ u', CompilationUnit.ofSource text = .ok u' ∧ KeepsBindings u c u'

/-- What needed names are bound to is settled by the block. -/
theorem same_and_used {Needed : String → Prop}
    (h : IsImportBlock paths Needed (kept.map ImportIndex.line)) :
    (∀ n, Needed n → ∀ p, Binds kept n p ↔ Binds paths n p) ∧
      ∀ p ∈ kept, ∃ n, Needed n ∧ Binds kept n p := by
  have member : ∀ p, p ∈ kept ↔ ∃ n, Needed n ∧ Binds paths n p := by
    intro p
    rw [← h.exact, List.mem_map_of_injective fun _ _ => ImportIndex.line_injective]
  refine ⟨fun n mentioned p => binds_kept_iff member mentioned, fun p hp => ?_⟩
  obtain ⟨n, mentioned, bound⟩ := (member p).mp hp
  exact ⟨n, mentioned, (binds_kept_iff member mentioned).mpr bound⟩

/-- Methods that are the same up to places mention the same names. -/
theorem Method.mentions_congr {m m' : Method} {names : List String}
    (same : relocate unplaced m' = relocate unplaced m) (named : m.typeNames = .ok names) :
    (∃ t ∈ m'.signatureTypes, t.Mentions n) ↔ ∃ t ∈ m.signatureTypes, t.Mentions n := by
  have moved : relocate unplaced m'.typeNames = relocate unplaced m.typeNames := by
    rw [typeNames_relocate, typeNames_relocate, same]
  rw [← mem_typeNames_iff (eq_ok_of_relocate_eq moved named), mem_typeNames_iff named]

theorem exists_typeNames (named : c.neededNames = .ok needed) {m : Method} (hm : m ∈ c.exposed) :
    ∃ names, m.typeNames = .ok names := by
  obtain ⟨methods, exposed, named⟩ := bind_eq_ok_iff.mp named
  obtain rfl := ClassDeclaration.publicMethods_eq exposed
  obtain ⟨names, found, _⟩ := bind_eq_ok_iff.mp named
  have none := failure?_eq_none_iff.mpr ⟨names, found⟩
  rw [failure?_mapM, List.findSome?_eq_none_iff] at none
  exact failure?_eq_none_iff.mp (none m hm)

theorem mentions_of_reread (named : c.neededNames = .ok needed)
    (methods : relocate unplaced c'.methods = c.exposed.filterMap reread) (h : c'.Mentions n) :
    c.Mentions n := by
  obtain ⟨m', hm', _, mentioned⟩ := h
  have kept : relocate unplaced m' ∈ c.exposed.filterMap reread := by
    rw [← methods]
    exact List.mem_map_of_mem hm'
  obtain ⟨m, hm, found⟩ := List.mem_filterMap.mp kept
  obtain ⟨names, named⟩ := exists_typeNames named hm
  have same := CompilationUnit.eq_of_mem_reread found
  obtain ⟨hm, isPublic⟩ := List.mem_filter.mp hm
  exact ⟨m, hm, isPublic, (Method.mentions_congr same named).mp mentioned⟩

theorem mentions_reread (named : c.neededNames = .ok needed)
    (methods : relocate unplaced c'.methods = c.exposed.filterMap reread)
    (results : ∀ m ∈ c.methods, m.isPublic = true → ¬IsBareRecord m.result) (h : c.Mentions n) :
    c'.Mentions n := by
  obtain ⟨m, hm, isPublic, mentioned⟩ := h
  have exposed : m ∈ c.exposed := List.mem_filter.mpr ⟨hm, isPublic⟩
  have kept : relocate unplaced m ∈ relocate unplaced c'.methods := by
    rw [methods]
    exact List.mem_filterMap.mpr ⟨m, exposed, if_neg (results m hm isPublic)⟩
  obtain ⟨m', hm', same⟩ := List.mem_map.mp kept
  obtain ⟨names, named⟩ := exists_typeNames named exposed
  refine ⟨m', hm', ?_, (Method.mentions_congr same named).mpr mentioned⟩
  show (relocate unplaced m').isPublic = true
  rw [same]
  exact isPublic

theorem keepsBindings {package : String} {index : ImportIndex} {stubs : List String}
    {file : StubFile} (stages : CompilationUnit.Stages u c package index needed stubs)
    (lines : file.imports = index.lines needed) (h : Rereads c file u') : KeepsBindings u c u' := by
  obtain ⟨c', single, _, _, _, methods⟩ := h.declared
  have block : IsImportBlock (u.imports.map Import.name) c.Mentions
      (u'.imports.map fun i => ImportIndex.line i.name) := by
    rw [h.imports, lines]
    exact ImportIndex.isImportBlock stages.indexed fun _ =>
      ClassDeclaration.mem_neededNames_iff stages.named
  have texts : u'.imports.map (fun i => ImportIndex.line i.name) =
      (u'.imports.map Import.name).map ImportIndex.line := by
    rw [List.map_map]
    rfl
  obtain ⟨same, used⟩ := same_and_used (texts ▸ block)
  refine ⟨h.single, block, same, fun i hi => used i.name (List.mem_map_of_mem hi), c', single, ?_, ?_⟩
  · exact fun _ => mentions_of_reread stages.named methods
  · exact fun results _ => mentions_reread stages.named methods results

end

/-- The comment at the head of a stub file, with the empty line behind it. -/
def StubFile.head (banner : Banner) : String :=
  String.join ((StubFile.bannerLines banner).map (· ++ "\n")) ++ "\n"

theorem StubFile.render_eq (f : StubFile) : f.render = head f.banner ++ f.code := by
  apply String.toList_injective
  rw [toList_render]
  simp [head, String.toList_join, List.flatMap_map]

/-- Single-type imports give the lines of the paths that needed names are bound to. So in a generated
stub, as it is read, a name that a kept signature mentions means what it means in the source, and
every import is used. The text behind the comment at its head is read so whatever the comment names,
and the whole text if the name of the program has no line feed. -/
theorem importBlock_exact :
    (∀ (imports : List Import) (needed : List String), (∀ i ∈ imports, i.IsSingle) →
      ∃ index, ImportIndex.ofImports imports = .ok index ∧
        IsImportBlock (imports.map Import.name) (· ∈ needed) (index.lines needed)) ∧
    ∀ source banner text, generate source banner = .ok text →
      ∃ u c code, CompilationUnit.ofSource source = .ok u ∧ u.types = [.ofClass c] ∧
        text = StubFile.head banner ++ code ∧ ReadsAsStub u c code ∧
        ('\n' ∉ banner.script.toList → ReadsAsStub u c text) := by
  constructor
  · intro imports needed single
    have indexed : ImportIndex.ofImports imports = .ok _ := ImportIndex.extend_eq_ok single
    exact ⟨_, indexed, ImportIndex.isImportBlock indexed fun _ => Iff.rfl⟩
  · intro source banner text generated
    obtain ⟨u, file, read, made, rfl⟩ := generate_eq_ok_iff.mp generated
    obtain ⟨c, package, index, needed, stubs, stages, rfl⟩ := CompilationUnit.exists_stages made
    have parts := stages.isStubFile banner
    refine ⟨u, c, _, read, stages.single, StubFile.render_eq _, ?_, fun script => ?_⟩
    · obtain ⟨u', again, rereads⟩ := CompilationUnit.exists_rereads read parts fun _ => id
      exact ⟨u', again, keepsBindings stages rfl rereads⟩
    · obtain ⟨u', again, rereads⟩ :=
        CompilationUnit.exists_rereads read parts fun _ => spells_render script
      exact ⟨u', again, keepsBindings stages rfl rereads⟩

open CompilationUnit in
/-- Of two imports of one name the last one counts, and a stub drops an import that it does not use. -/
theorem importBlock_thing :
    (∃ index, ImportIndex.ofImports [.ofName "a.Thing", .ofName "b.Thing"] = .ok index ∧
      IsImportBlock ["a.Thing", "b.Thing"] (· ∈ ["Thing"]) (index.lines ["Thing"])) ∧
    ∃ c, genericResultUnit.types = [.ofClass c] ∧
      ReadsAsStub genericResultUnit c genericResultFile.render := by
  have single : ∀ i ∈ [Import.ofName "a.Thing", .ofName "b.Thing"], i.IsSingle := by
    simp [Import.ofName, Import.IsSingle]
  refine ⟨importBlock_exact.1 _ ["Thing"] single, ?_⟩
  have generated : generate genericResult ⟨"jstub", 2019⟩ = .ok genericResultFile.render :=
    generate_genericResult "bin/jstub" 2024
  obtain ⟨u, c, code, read, declared, -, -, whole⟩ := importBlock_exact.2 _ _ _ generated
  rw [ofSource_genericResult] at read
  cases read
  exact ⟨c, declared, whole (by decide)⟩

end JavaStub
