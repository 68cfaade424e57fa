import JavaStub.Proofs.Completeness.Angles
import JavaStub.Proofs.Grammar.Declarations

/-!
# Round brackets in signatures

Round brackets only stand in a signature around the arguments of annotations, and there they are
matched. So the parameters of a method in their brackets are a group, whatever they are.

Main facts:

1. `Closes.append`: kinds in a row close what each of them closes.
2. `BareType.bracketed`: round brackets are matched in a type, by recursion on its form.
3. `Parameters.bracketed`: they are matched in the parameters of a method.
-/

namespace JavaStub

open Token (Kind)

section

variable {opening closing : Kind} {depth depth' : Nat} {ks ks' : List Kind}

/-- Kinds in a row close what each of them closes. -/
theorem Closes.append (h : Closes opening closing depth ks)
    (h' : Closes opening closing depth' ks') :
    Closes opening closing (depth + depth') (ks ++ ks') := by
  have first := h.total
  have second := h'.total
  refine ⟨by rw [List.count_append, List.count_append]; omega, fun p hp => ?_⟩
  rcases List.prefix_or_prefix_of_prefix hp (List.prefix_append ks ks') with inside | ⟨q, rfl⟩
  · have := h.among p inside
    omega
  · have := h'.among q ((List.prefix_append_right_inj ks).mp hp)
    rw [List.count_append, List.count_append]
    omega

theorem Balanced.append (h : Balanced opening closing ks) (h' : Balanced opening closing ks') :
    Balanced opening closing (ks ++ ks') :=
  balanced_iff_closes.mpr ((balanced_iff_closes.mp h).append (balanced_iff_closes.mp h'))

theorem Balanced.enclose (distinct : opening ≠ closing) (h : Balanced opening closing ks) :
    Balanced opening closing (opening :: (ks ++ [closing])) := by
  have last : Closes opening closing 1 [closing] :=
    (closes_closing_iff distinct).mpr (closes_nil_iff.mpr rfl)
  have behind := (balanced_iff_closes.mp h).append last
  exact balanced_iff_closes.mpr ((closes_opening_iff distinct).mpr behind)

end

/-- Are round brackets matched in these words? -/
def Bracketed (ws : List Word) : Prop := Balanced .lparen .rparen (ws.map Word.kind)

namespace Bracketed

variable {ws vs : List Word}

theorem nil : Bracketed [] := balanced_iff_closes.mpr (closes_nil_iff.mpr rfl)

theorem append (h : Bracketed ws) (h' : Bracketed vs) : Bracketed (ws ++ vs) := by
  unfold Bracketed
  rw [List.map_append]
  exact Balanced.append h h'

/-- A word that is no round bracket in front. -/
theorem cons {w : Word} (h : w.kind ∉ [.lparen, .rparen]) (more : Bracketed ws) :
    Bracketed (w :: ws) := by
  simp only [List.mem_cons, List.not_mem_nil, or_false, not_or] at h
  exact balanced_iff_closes.mpr ((closes_other_iff h.1 h.2).mpr (balanced_iff_closes.mp more))

/-- A word of a kind that is no round bracket in front. -/
theorem ofKind {w : Word} {k : Kind} (h : w.kind = k) (more : Bracketed ws)
    (other : k ∉ [.lparen, .rparen] := by decide) : Bracketed (w :: ws) :=
  cons (h ▸ other) more

end Bracketed

namespace Grammar

open Bracketed

variable {ws : List Word}

theorem Group.bracketed (h : Group .lparen .rparen ws) : Bracketed ws := by
  obtain ⟨opens, closes, enclosed⟩ := h
  have group := enclosed.enclose (by decide)
  unfold Bracketed
  simpa [opens, closes] using group

section Lists

variable {α : Type} {Item : α → List Word → Prop} {as : List α}

theorem Many.bracketed (h : Many Item as ws) (each : ∀ a vs, Item a vs → Bracketed vs) :
    Bracketed ws := by
  induction h with
  | nil => exact .nil
  | cons first _ ih => exact (each _ _ first).append ih

theorem Separated.bracketed {separator : Kind} (h : Separated separator Item as ws)
    (other : separator ∉ [.lparen, .rparen]) (each : ∀ a vs, Item a vs → Bracketed vs) :
    Bracketed ws := by
  induction h with
  | one last => exact each _ _ last
  | cons first separates _ ih => exact (each _ _ first).append (.ofKind separates ih other)

theorem Optional.bracketed {kind : Kind} {found : Bool} (h : Optional kind found ws)
    (other : kind ∉ [.lparen, .rparen]) : Bracketed ws := by
  cases h with
  | absent => exact .nil
  | present h => exact .ofKind h .nil other

end Lists

theorem NameTail.bracketed {ns : List String} (h : NameTail ns ws) : Bracketed ws := by
  induction h with
  | nil => exact .nil
  | cons joins name _ ih => exact .ofKind joins (.ofKind name ih)

theorem Name.bracketed {n : String} (h : Name n ws) : Bracketed ws := by
  obtain ⟨name, more⟩ := h
  exact .ofKind name more.bracketed

theorem Annotation.bracketed (h : Annotation ws) : Bracketed ws := by
  cases h with
  | plain sign name => exact .ofKind sign name.bracketed
  | withArguments sign name arguments =>
    exact .ofKind sign (name.bracketed.append arguments.bracketed)

theorem Annotations.bracketed (h : Annotations ws) : Bracketed ws := by
  obtain ⟨_, annotations⟩ := h
  exact Many.bracketed annotations fun _ _ => Annotation.bracketed

theorem ModifierOrAnnotation.bracketed {m : Option Modifier} (h : ModifierOrAnnotation m ws) :
    Bracketed ws := by
  cases h with
  | passed h => exact h.bracketed
  | @modifier w m stands =>
    refine .cons (fun bracket => ?_) .nil
    -- no modifier is written as a bracket
    rcases List.mem_pair.mp bracket with h | h <;> rw [h] at stands <;> cases stands

theorem Modifiers.bracketed {ms : List Modifier} (h : Modifiers ms ws) : Bracketed ws := by
  obtain ⟨items⟩ := h
  exact Many.bracketed items fun _ _ => ModifierOrAnnotation.bracketed

theorem Dimensions.bracketed {n : Nat} (h : Dimensions n ws) : Bracketed ws :=
  Many.bracketed h fun _ _ h => by
    obtain ⟨opens, closes⟩ := h
    exact .ofKind opens (.ofKind closes .nil)

/-! ## Types -/

theorem not_bracket_of_isPrimitive {k : Kind} (h : k.isPrimitive = true) :
    k ∉ [.lparen, .rparen] := by
  intro bracket
  rcases List.mem_pair.mp bracket with rfl | rfl <;> cases h

mutual

theorem BareType.bracketed : ∀ {t : JavaType} {ws : List Word}, BareType t ws → Bracketed ws
  | _, _, .primitive keyword dims =>
    .cons (not_bracket_of_isPrimitive keyword) dims.bracketed
  | _, _, .named first more dims =>
    first.bracketed.append (more.bracketed.append dims.bracketed)

theorem Segment.bracketed : ∀ {s : ReferenceType} {ws : List Word}, Segment s ws → Bracketed ws
  | _, _, .plain name => .ofKind name .nil
  | _, _, .generic name opens arguments =>
    .ofKind name (.ofKind opens (arguments.bracketed.append (.ofKind rfl .nil)))

theorem SegmentTail.bracketed :
    ∀ {ss : List ReferenceType} {ws : List Word}, SegmentTail ss ws → Bracketed ws
  | _, _, .nil => .nil
  | _, _, .cons joins first more => .ofKind joins (first.bracketed.append more.bracketed)

theorem Arguments.bracketed :
    ∀ {ts : List JavaType} {ws : List Word}, Arguments ts ws → Bracketed ws
  | _, _, .one last => last.bracketed
  | _, _, .cons first separates more => first.bracketed.append (.ofKind separates more.bracketed)

theorem Argument.bracketed : ∀ {t : JavaType} {ws : List Word}, Argument t ws → Bracketed ws
  | _, _, .type annotations type => annotations.bracketed.append type.bracketed
  | _, _, .wildcard annotations mark => annotations.bracketed.append (.ofKind mark .nil)
  | _, _, .bounded kind annotations mark bounds inner type =>
    have bound : boundWord kind ∉ [.lparen, .rparen] := by cases kind <;> decide
    annotations.bracketed.append
      (.ofKind mark (.ofKind bounds (inner.bracketed.append type.bracketed) bound))

end

/-- A closing angle is no bracket, so it makes no difference whether angles are taken apart. -/
theorem IsType.bracketed {t : JavaType} (h : IsType t (unfused ws)) : Bracketed ws := by
  generalize words : unfused ws = V at h
  obtain ⟨annotations, type⟩ := h
  have all := annotations.bracketed.append type.bracketed
  rw [← words] at all
  exact Balanced.of_unfused all rfl rfl

theorem IsParameter.bracketed {p : Parameter} (h : IsParameter p ws) : Bracketed ws := by
  obtain ⟨modifiers, type, annotations, ellipsis, name, dims⟩ := h
  have last : Bracketed _ := .ofKind name dims.bracketed
  have typed := annotations.bracketed.append ((ellipsis.bracketed (by decide)).append last)
  exact modifiers.bracketed.append (type.bracketed.append typed)

theorem Parameters.bracketed {ps : List Parameter} (h : Parameters ps ws) : Bracketed ws := by
  cases h with
  | none => exact .nil
  | some list => exact list.bracketed (by decide) fun _ _ => IsParameter.bracketed

end Grammar

end JavaStub
