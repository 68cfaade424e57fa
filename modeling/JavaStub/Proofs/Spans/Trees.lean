import JavaStub.Declaration
import JavaStub.Token.Basic

/-!
# Trees of spans

What is kept of a source has spans within spans: a unit has those of its package, imports and
types, a class those of its methods, a method those of its result and its parameters, and a type
those of its names, arguments and bounds. They make up a tree, the parts of a span in the order of
the source.

A tree `Covers` tokens when its span goes from the first of them to the last and its parts cover
tokens among them, one after the other. Where tokens stand one behind the other the spans of such a
tree are nested.

Main facts:

1. `InRow.append`: parts of tokens that follow each other.
2. `InRow.apart`: parts in a row are apart from each other.
3. `Covers.nested`: the spans of a tree that covers tokens are nested.
-/

namespace JavaStub

/-- A span with the trees of its parts, in the order of the source. -/
inductive SpanTree where
  | node (span : Span) (parts : List SpanTree)

/-- The span of the whole tree. -/
def SpanTree.span : SpanTree → Span
  | .node span _ => span

/-! ## The spans of what is kept -/

mutual

/-- The spans in a type: of its names, and of what stands within an argument. -/
def JavaType.spanTree : JavaType → SpanTree
  | .reference type => type.spanTree
  | .argument inner span => .node span [inner.spanTree]
  | .basic _ _ span => .node span []
  | .wildcard span => .node span []
  | .boundedWildcard _ bound span => .node span [bound.spanTree]
  | .nested segments _ span => .node span (spanTreesOfSegments segments)

/-- The spans in a name: of its type arguments. -/
def ReferenceType.spanTree : ReferenceType → SpanTree
  | .mk _ arguments _ span => .node span (spanTreesOfArguments arguments)

def spanTreesOfArguments : List JavaType → List SpanTree
  | [] => []
  | type :: types => type.spanTree :: spanTreesOfArguments types

def spanTreesOfSegments : List ReferenceType → List SpanTree
  | [] => []
  | segment :: segments => segment.spanTree :: spanTreesOfSegments segments

end

theorem spanTreesOfArguments_eq_map (types : List JavaType) :
    spanTreesOfArguments types = types.map JavaType.spanTree := by
  induction types with
  | nil => rw [spanTreesOfArguments, List.map_nil]
  | cons type types ih => rw [spanTreesOfArguments, ih, List.map_cons]

theorem spanTreesOfSegments_eq_map (segments : List ReferenceType) :
    spanTreesOfSegments segments = segments.map ReferenceType.spanTree := by
  induction segments with
  | nil => rw [spanTreesOfSegments, List.map_nil]
  | cons segment segments ih => rw [spanTreesOfSegments, ih, List.map_cons]

/-- Dimensions behind a name leave the spans of its type alone. -/
@[simp] theorem JavaType.spanTree_addDimensions (extra : Nat) (t : JavaType) :
    (t.addDimensions extra).spanTree = t.spanTree := by
  fun_induction addDimensions extra t with
  | case1 name arguments dims span =>
    rw [spanTree, spanTree, ReferenceType.spanTree, ReferenceType.spanTree]
  | case2 inner span ih => rw [spanTree, spanTree, ih]
  | case3 => rw [spanTree, spanTree]
  | case4 => rfl
  | case5 => rfl
  | case6 => rw [spanTree, spanTree]

/-- The spans in a parameter: of its type. -/
def Parameter.spanTree (p : Parameter) : SpanTree := .node p.span [p.type.spanTree]

/-- The spans in a method: of its result and then of its parameters. -/
def Method.spanTree (m : Method) : SpanTree :=
  .node m.span (m.result.toList.map JavaType.spanTree ++ m.parameters.map Parameter.spanTree)

/-- The spans in a class: of its methods. -/
def ClassDeclaration.spanTree (c : ClassDeclaration) : SpanTree :=
  .node c.span (c.methods.map Method.spanTree)

def Header.spanTree (h : Header) : SpanTree := .node h.span []

def TypeDeclaration.spanTree : TypeDeclaration → SpanTree
  | .ofClass declaration => declaration.spanTree
  | .ofHeader header => header.spanTree

def Package.spanTree (p : Package) : SpanTree := .node p.span []

def Import.spanTree (i : Import) : SpanTree := .node i.span []

/-- The spans in a unit: of its package, its imports and its types. -/
def CompilationUnit.spanTree (u : CompilationUnit) : SpanTree :=
  .node u.span (u.package.toList.map Package.spanTree ++ u.imports.map Import.spanTree ++
    u.types.map TypeDeclaration.spanTree)

namespace SpanTree

variable {p q : SpanTree} {ps qs : List SpanTree} {ts m m' : List Token} {t u : Token}
  {span : Span}

/-! ## Nested spans -/

/-- Is this the place of one of the tokens? Without tokens the start of the text is one. -/
def IsPlace (ts : List Token) (l : Location) : Prop :=
  (∃ t ∈ ts, t.location = l) ∨ ts = [] ∧ l = .start

/-- Every span in the tree goes from the place of a token to that of a token that is not before it.
Its parts are within it, and each of them ends at a token before the next one starts. -/
inductive Nested (ts : List Token) : SpanTree → Prop
  | node {span : Span} {parts : List SpanTree} (start : IsPlace ts span.start)
      (stop : IsPlace ts span.stop) (ordered : span.start.offset ≤ span.stop.offset)
      (within : ∀ p ∈ parts, span.start.offset ≤ p.span.start.offset ∧
        p.span.stop.offset ≤ span.stop.offset)
      (apart : parts.Pairwise fun p q => p.span.stop.offset < q.span.start.offset)
      (inside : ∀ p ∈ parts, Nested ts p) : Nested ts (.node span parts)

/-! ## Covered tokens -/

mutual

/-- The span goes from the first of the tokens to the last, and the parts are among them. -/
inductive Covers : SpanTree → List Token → Prop
  | node {first last : Token} {m : List Token} {parts : List SpanTree}
      (head : m.head? = some first) (tail : m.getLast? = some last) (inside : InRow parts m) :
      Covers (.node ⟨first.location, last.location⟩ parts) m

/-- The trees cover some of the tokens, one after the other. -/
inductive InRow : List SpanTree → List Token → Prop
  | nil {m : List Token} : InRow [] m
  | cons {gap mid rest : List Token} {p : SpanTree} {ps : List SpanTree} (first : Covers p mid)
      (more : InRow ps rest) : InRow (p :: ps) (gap ++ (mid ++ rest))

end

theorem InRow.behind (h : InRow ps m) (gap : List Token) : InRow ps (gap ++ m) := by
  cases h with
  | nil => exact .nil
  | @cons gap' mid rest p ps first more =>
    rw [← List.append_assoc]
    exact .cons first more

theorem InRow.append (h : InRow ps m) (h' : InRow qs m') : InRow (ps ++ qs) (m ++ m') := by
  induction ps generalizing m with
  | nil => exact h'.behind m
  | cons p ps ih =>
    cases h with
    | @cons gap mid rest _ _ first more =>
      rw [List.append_assoc, List.append_assoc]
      exact .cons first (ih more)

theorem InRow.before (h : InRow ps m) (rest : List Token) : InRow ps (m ++ rest) := by
  have padded := h.append (.nil (m := rest))
  rw [List.append_nil] at padded
  exact padded

/-- A tree in a row covers some of the tokens. -/
theorem InRow.exists_covers (h : InRow ps m) (hp : p ∈ ps) :
    ∃ mid, p.Covers mid ∧ mid.Sublist m := by
  induction ps generalizing m with
  | nil => cases hp
  | cons q ps ih =>
    cases h with
    | @cons gap mid rest _ _ first more =>
      rcases List.mem_cons.mp hp with rfl | hp
      · exact ⟨mid, first, (List.sublist_append_left mid rest).trans
          (List.sublist_append_right gap _)⟩
      · obtain ⟨inner, covers, part⟩ := ih more hp
        exact ⟨inner, covers, part.trans ((List.sublist_append_right mid rest).trans
          (List.sublist_append_right gap _))⟩

/-- The parts of a tree, without what is around them. -/
theorem InRow.inside (h : InRow [.node span ps] m) : InRow ps m := by
  cases h with
  | @cons gap mid rest _ _ first _ =>
    cases first with
    | node _ _ inside => exact (inside.before rest).behind gap

/-! ## Tokens one behind the other -/

/-- Does each token start behind the ones before it? -/
def Ascending (ts : List Token) : Prop :=
  ts.Pairwise fun t u => t.location.offset < u.location.offset

theorem Ascending.head_le (h : Ascending m) (head : m.head? = some t) (hu : u ∈ m) :
    t.location.offset ≤ u.location.offset := by
  obtain ⟨rest, rfl⟩ := List.head?_eq_some_iff.mp head
  rcases List.mem_cons.mp hu with rfl | hu
  · exact Nat.le_refl _
  · exact Nat.le_of_lt ((List.pairwise_cons.mp h).1 u hu)

theorem Ascending.le_last (h : Ascending m) (last : m.getLast? = some t) (hu : u ∈ m) :
    u.location.offset ≤ t.location.offset := by
  obtain ⟨init, rfl⟩ := List.getLast?_eq_some_iff.mp last
  rcases List.mem_append.mp hu with hu | hu
  · exact Nat.le_of_lt ((List.pairwise_append.mp h).2.2 u hu t List.mem_cons_self)
  · obtain rfl := List.mem_singleton.mp hu
    exact Nat.le_refl _

/-- A tree starts and ends at tokens that it covers. -/
theorem Covers.exists_mem (h : p.Covers m) :
    ∃ t ∈ m, ∃ u ∈ m, p.span.start = t.location ∧ p.span.stop = u.location := by
  cases h with
  | @node first last _ _ head tail _ =>
    exact ⟨first, List.mem_of_mem_head? head, last, List.mem_of_getLast? tail, rfl, rfl⟩

/-- Trees in a row are apart from each other. -/
theorem InRow.apart (h : InRow ps m) (ascending : Ascending m) :
    ps.Pairwise fun p q => p.span.stop.offset < q.span.start.offset := by
  induction ps generalizing m with
  | nil => exact .nil
  | cons p ps ih =>
    cases h with
    | @cons gap mid rest _ _ first more =>
      have inner : Ascending (mid ++ rest) :=
        List.Pairwise.sublist (List.sublist_append_right gap _) ascending
      obtain ⟨_, behind, between⟩ := List.pairwise_append.mp inner
      refine .cons (fun q hq => ?_) (ih more behind)
      -- `u` is the last token of the first part, and `t` the first one of a later part
      obtain ⟨_, _, u, hu, _, stop⟩ := first.exists_mem
      obtain ⟨_, covers, part⟩ := more.exists_covers hq
      obtain ⟨t, ht, _, _, start, _⟩ := covers.exists_mem
      rw [stop, start]
      exact between u hu t (part.mem ht)

/-- The spans of a tree that covers tokens of a source are nested. -/
theorem Covers.nested (ascending : Ascending ts) :
    ∀ (p : SpanTree) {m : List Token}, p.Covers m → m.Sublist ts → p.Nested ts
  | .node _ parts, m, @Covers.node first last _ _ head tail inside, part => by
    have inner : Ascending m := List.Pairwise.sublist part ascending
    have hf : first ∈ m := List.mem_of_mem_head? head
    have hl : last ∈ m := List.mem_of_getLast? tail
    refine .node (.inl ⟨first, part.mem hf, rfl⟩) (.inl ⟨last, part.mem hl, rfl⟩)
      (inner.head_le head hl) (fun p hp => ?_) (inside.apart inner) fun p hp => ?_
    · obtain ⟨_, covers, among⟩ := inside.exists_covers hp
      obtain ⟨t, ht, u, hu, start, stop⟩ := covers.exists_mem
      rw [start, stop]
      exact ⟨inner.head_le head (among.mem ht), inner.le_last tail (among.mem hu)⟩
    · obtain ⟨_, covers, among⟩ := inside.exists_covers hp
      exact Covers.nested ascending p covers (among.trans part)

end SpanTree

end JavaStub
