import JavaStub.JavaType.Names
import JavaStub.JavaType.Render
import JavaStub.Proofs.Pipeline

/-!
# Types that a stub cannot repeat

Wildcards and types qualified by a dot are refused wherever they stand in a signature: as a
type of their own, or below the arguments of another one. The types that a type consists of
are listed by `JavaType.nodes`, each before those of its arguments.

Main facts:

1. `mem_nodes_iff`: the list holds the types that are reached through arguments.
2. `failure?_names` and `failure?_render`: the namer and the renderer both refuse the first
   unsupported type of the list, and nothing else.
-/

namespace JavaStub

namespace JavaType

/-- A type that a stub cannot repeat. -/
inductive IsUnsupported : JavaType → Prop
  | wildcard (span : Span) : IsUnsupported (.wildcard span)
  | boundedWildcard (kind : BoundKind) (bound : JavaType) (span : Span) :
      IsUnsupported (.boundedWildcard kind bound span)
  | nested (segments : List ReferenceType) (dims : Nat) (span : Span) :
      IsUnsupported (.nested segments dims span)

/-- A type reaches itself, and what its arguments reach. -/
inductive Reaches : JavaType → JavaType → Prop
  | refl (t : JavaType) : Reaches t t
  | reference {type : ReferenceType} {t u : JavaType} (mem : t ∈ type.arguments)
      (below : Reaches t u) : Reaches (.reference type) u
  | argument {inner u : JavaType} {span : Span} (below : Reaches inner u) :
      Reaches (.argument inner span) u

/-- The refusal of a type for its own shape, whatever its arguments are. -/
def refusal? : JavaType → Option StubError
  | .reference _ | .argument _ _ | .basic _ _ _ => none
  | .wildcard span => some (.unsupportedType (.wildcard span))
  | .boundedWildcard kind bound span => some (.unsupportedType (.boundedWildcard kind bound span))
  | .nested segments dims span => some (.unsupportedType (.nested segments dims span))

theorem refusal?_eq_none_iff {t : JavaType} : t.refusal? = none ↔ ¬ t.IsUnsupported := by
  constructor
  · rintro h ⟨⟩ <;> cases h
  · intro h
    cases t with
    | reference type => rfl
    | argument inner span => rfl
    | basic name dims span => rfl
    | wildcard span => exact absurd (.wildcard span) h
    | boundedWildcard kind bound span => exact absurd (.boundedWildcard kind bound span) h
    | nested segments dims span => exact absurd (.nested segments dims span) h

theorem refusal?_eq_some_iff {t : JavaType} {e : StubError} :
    t.refusal? = some e ↔ t.IsUnsupported ∧ e = .unsupportedType t := by
  constructor
  · intro h
    cases t with
    | reference type => cases h
    | argument inner span => cases h
    | basic name dims span => cases h
    | wildcard span => exact ⟨.wildcard span, (Option.some.inj h).symm⟩
    | boundedWildcard kind bound span =>
      exact ⟨.boundedWildcard kind bound span, (Option.some.inj h).symm⟩
    | nested segments dims span => exact ⟨.nested segments dims span, (Option.some.inj h).symm⟩
  · rintro ⟨⟨⟩, rfl⟩ <;> rfl

end JavaType

/-! ## The types of a type -/

mutual

/-- The types that a type consists of, itself first. -/
def JavaType.nodes : JavaType → List JavaType
  | .reference type => .reference type :: type.argumentNodes
  | .argument inner span => .argument inner span :: inner.nodes
  | .basic name dims span => [.basic name dims span]
  | .wildcard span => [.wildcard span]
  | .boundedWildcard kind bound span => [.boundedWildcard kind bound span]
  | .nested segments dims span => [.nested segments dims span]

/-- The types that the arguments of a type consist of. -/
def ReferenceType.argumentNodes : ReferenceType → List JavaType
  | .mk _ arguments _ _ => nodesOfArguments arguments

/-- The types that a list of types consists of, from left to right. -/
def nodesOfArguments : List JavaType → List JavaType
  | [] => []
  | t :: ts => t.nodes ++ nodesOfArguments ts

end

theorem nodesOfArguments_eq_flatMap (ts : List JavaType) :
    nodesOfArguments ts = ts.flatMap JavaType.nodes := by
  induction ts with
  | nil => rfl
  | cons t ts ih => rw [nodesOfArguments, ih, List.flatMap_cons]

namespace JavaType

theorem self_mem_nodes (t : JavaType) : t ∈ t.nodes := by
  cases t <;> simp [nodes]

theorem mem_nodes_of_reaches {t u : JavaType} (h : t.Reaches u) : u ∈ t.nodes := by
  induction h with
  | refl t => exact t.self_mem_nodes
  | @reference type t u mem below ih =>
    obtain ⟨name, arguments, dims, span⟩ := type
    rw [nodes, ReferenceType.argumentNodes, nodesOfArguments_eq_flatMap]
    exact List.mem_cons_of_mem _ (List.mem_flatMap.mpr ⟨t, mem, ih⟩)
  | argument below ih => exact List.mem_cons_of_mem _ ih

end JavaType

mutual

theorem JavaType.reaches_of_mem_nodes (u : JavaType) :
    ∀ t : JavaType, u ∈ t.nodes → t.Reaches u
  | .reference (.mk name arguments dims span), h => by
    rcases List.mem_cons.mp h with rfl | h
    · exact .refl _
    · obtain ⟨t, mem, below⟩ := reaches_of_mem_nodesOfArguments u arguments h
      exact .reference mem below
  | .argument inner span, h => by
    rcases List.mem_cons.mp h with rfl | h
    · exact .refl _
    · exact .argument (JavaType.reaches_of_mem_nodes u inner h)
  | .basic _ _ _, h => by obtain rfl := List.mem_singleton.mp h; exact .refl _
  | .wildcard _, h => by obtain rfl := List.mem_singleton.mp h; exact .refl _
  | .boundedWildcard _ _ _, h => by obtain rfl := List.mem_singleton.mp h; exact .refl _
  | .nested _ _ _, h => by obtain rfl := List.mem_singleton.mp h; exact .refl _

theorem reaches_of_mem_nodesOfArguments (u : JavaType) :
    ∀ ts : List JavaType, u ∈ nodesOfArguments ts → ∃ t ∈ ts, t.Reaches u
  | [], h => by cases h
  | t :: ts, h => by
    rcases List.mem_append.mp h with h | h
    · exact ⟨t, List.mem_cons_self, JavaType.reaches_of_mem_nodes u t h⟩
    · obtain ⟨v, mem, below⟩ := reaches_of_mem_nodesOfArguments u ts h
      exact ⟨v, List.mem_cons_of_mem _ mem, below⟩

end

theorem JavaType.mem_nodes_iff {t u : JavaType} : u ∈ t.nodes ↔ t.Reaches u :=
  ⟨reaches_of_mem_nodes u t, mem_nodes_of_reaches⟩

/-! ## The namer and the renderer refuse the same type -/

mutual

theorem JavaType.failure?_names : ∀ t : JavaType,
    failure? t.names = t.nodes.findSome? JavaType.refusal?
  | .reference (.mk name arguments dims span) => by
    rw [JavaType.names, ReferenceType.names, failure?_map, failure?_namesOfArguments arguments]
    rfl
  | .argument inner span => by
    rw [JavaType.names, inner.failure?_names]
    rfl
  | .basic _ _ _ => rfl
  | .wildcard _ => rfl
  | .boundedWildcard _ _ _ => rfl
  | .nested _ _ _ => rfl

theorem failure?_namesOfArguments : ∀ ts : List JavaType,
    failure? (namesOfArguments ts) = (nodesOfArguments ts).findSome? JavaType.refusal?
  | [] => rfl
  | t :: ts => by
    have head := t.failure?_names
    rw [nodesOfArguments, List.findSome?_append, ← head, namesOfArguments]
    cases t.names with
    | error e => rfl
    | ok names =>
      simp only [failure?_map, failure?_namesOfArguments ts, failure?_ok, Option.none_or]

end

mutual

theorem JavaType.failure?_render : ∀ t : JavaType,
    failure? t.render = t.nodes.findSome? JavaType.refusal?
  | .reference (.mk name arguments dims span) => by
    rw [JavaType.render, ReferenceType.render, failure?_map, failure?_renderArguments arguments]
    rfl
  | .argument inner span => by
    rw [JavaType.render, inner.failure?_render]
    rfl
  | .basic _ _ _ => rfl
  | .wildcard _ => rfl
  | .boundedWildcard _ _ _ => rfl
  | .nested _ _ _ => rfl

theorem failure?_renderArguments : ∀ ts : List JavaType,
    failure? (renderArguments ts) = (nodesOfArguments ts).findSome? JavaType.refusal?
  | [] => rfl
  | t :: ts => by
    have head := t.failure?_render
    rw [nodesOfArguments, List.findSome?_append, ← head, renderArguments]
    cases t.render with
    | error e => rfl
    | ok text =>
      simp only [failure?_map, failure?_renderArguments ts, failure?_ok, Option.none_or]

end

end JavaStub
