import JavaStub.JavaType.Basic

/-!
# Equality of types

Whether two types are the same can be decided, place by place. Types hold lists of types, so the
comparison is written out with the recursion of the types.

Main facts:

1. `JavaType.beq_iff` and `ReferenceType.beq_iff`: the comparison decides equality.
-/

namespace JavaStub

mutual

/-- Are two types the same? -/
def JavaType.beq : JavaType → JavaType → Bool
  | .reference s, .reference t => s.beq t
  | .argument s a, .argument t b => s.beq t && a = b
  | .basic m i a, .basic n j b => m = n && i = j && a = b
  | .wildcard a, .wildcard b => a = b
  | .boundedWildcard k s a, .boundedWildcard l t b => k = l && s.beq t && a = b
  | .nested ss i a, .nested ts j b => beqSegments ss ts && i = j && a = b
  | _, _ => false

/-- Are two names with type arguments the same? -/
def ReferenceType.beq : ReferenceType → ReferenceType → Bool
  | .mk m ss i a, .mk n ts j b => m = n && beqArguments ss ts && i = j && a = b

/-- Are two lists of type arguments the same? -/
def beqArguments : List JavaType → List JavaType → Bool
  | [], [] => true
  | s :: ss, t :: ts => s.beq t && beqArguments ss ts
  | _, _ => false

/-- Are two lists of names with type arguments the same? -/
def beqSegments : List ReferenceType → List ReferenceType → Bool
  | [], [] => true
  | s :: ss, t :: ts => s.beq t && beqSegments ss ts
  | _, _ => false

end

mutual

theorem JavaType.beq_iff : ∀ s t : JavaType, s.beq t = true ↔ s = t
  | .reference s, t => by cases t <;> simp [JavaType.beq, s.beq_iff]
  | .argument s a, t => by cases t <;> simp [JavaType.beq, s.beq_iff]
  | .basic m i a, t => by cases t <;> simp [JavaType.beq, and_assoc]
  | .wildcard a, t => by cases t <;> simp [JavaType.beq]
  | .boundedWildcard k s a, t => by cases t <;> simp [JavaType.beq, s.beq_iff, and_assoc]
  | .nested ss i a, t => by cases t <;> simp [JavaType.beq, beqSegments_iff ss, and_assoc]

theorem ReferenceType.beq_iff : ∀ s t : ReferenceType, s.beq t = true ↔ s = t
  | .mk m ss i a, .mk n ts j b => by simp [ReferenceType.beq, beqArguments_iff ss, and_assoc]

theorem beqArguments_iff : ∀ ss ts : List JavaType, beqArguments ss ts = true ↔ ss = ts
  | [], ts => by cases ts <;> simp [beqArguments]
  | s :: ss, ts => by cases ts <;> simp [beqArguments, s.beq_iff, beqArguments_iff ss]

theorem beqSegments_iff : ∀ ss ts : List ReferenceType, beqSegments ss ts = true ↔ ss = ts
  | [], ts => by cases ts <;> simp [beqSegments]
  | s :: ss, ts => by cases ts <;> simp [beqSegments, s.beq_iff, beqSegments_iff ss]

end

instance : DecidableEq JavaType := fun s t => decidable_of_iff _ (s.beq_iff t)

instance : DecidableEq ReferenceType := fun s t => decidable_of_iff _ (s.beq_iff t)

end JavaStub
