import JavaStub.Proofs.Reading.Declarations

/-!
# The place before the cursor

A cursor knows the place of the token before it. No reading of a unit makes use of that place as
long as tokens are left and none has been taken, so a unit that cannot be read is refused for the
same reason wherever the cursor has come from.

Main facts:

1. `Unaware.bind`: stages that are unaware of that place make a reading that is.
2. `unit_refused_from`: the refusal of a unit is the same from any place.
-/

namespace JavaStub.Reading

open Cursor

variable {α β : Type} {t : Token} {ts : List Token}

/-- Before the tokens `t :: ts`, the reading `x` is unaware of the place before the cursor: what
comes of it is the same from any two places, or a value for which no token is taken. -/
def Unaware (t : Token) (ts : List Token) (x : Reading α) : Prop :=
  ∀ l l', x.run ⟨l, t :: ts⟩ = x.run ⟨l', t :: ts⟩ ∨
    ∃ a, x.run ⟨l, t :: ts⟩ = .ok (a, ⟨l, t :: ts⟩) ∧ x.run ⟨l', t :: ts⟩ = .ok (a, ⟨l', t :: ts⟩)

theorem unaware_pure (a : α) : Unaware t ts (pure a) := fun _ _ => .inr ⟨a, rfl, rfl⟩

theorem unaware_look {f : Cursor → α} (h : ∀ l l', f ⟨l, t :: ts⟩ = f ⟨l', t :: ts⟩) :
    Unaware t ts (look f) :=
  fun l l' => .inr ⟨f ⟨l', t :: ts⟩, by rw [run_look, h l l'], rfl⟩

theorem unaware_unexpected (expected : Expectation) :
    Unaware t ts (fail (unexpected · expected) : Reading α) := fun _ _ => .inl rfl

/-- The later stages count only where the first one takes no token. -/
theorem Unaware.bind {x : Reading α} {f : α → Reading β} (hx : Unaware t ts x)
    (h : ∀ l a, x.run ⟨l, t :: ts⟩ = .ok (a, ⟨l, t :: ts⟩) → Unaware t ts (f a)) :
    Unaware t ts (x >>= f) := by
  intro l l'
  rcases hx l l' with same | ⟨a, here, there⟩
  · exact .inl (by rw [run_bind, run_bind, same])
  · rw [run_bind, run_bind, here, there]
    exact h l a here l l'

/-- A reader that takes tokens decides for all that follows. -/
theorem Unaware.past {f : (c : Cursor) → Except ParseError (Past c α)} {g : α → Reading β}
    (h : Unaware t ts (past f)) : Unaware t ts (past f >>= g) :=
  h.bind fun _ _ taken => absurd (past_lt taken) (Nat.lt_irrefl _)

theorem unaware_next (p : Token → Bool) : Unaware t ts (option (next? p)) := by
  intro l l'
  rw [run_next_cons, run_next_cons]
  split
  · exact .inl rfl
  · exact .inr ⟨none, rfl, rfl⟩

/-- A token that is taken decides for all that follows. -/
theorem unaware_first {g : Option Token → Reading β} : Unaware t ts (option first? >>= g) :=
  (unaware_next _).bind fun l _ taken => by
    cases show Except.ok (some t, (⟨t.location, ts⟩ : Cursor)) = _ from taken

theorem unaware_expect (kind : Token.Kind) (expected : Expectation) :
    Unaware t ts (past (expect kind expected)) := by
  rw [past_expect]
  refine (unaware_next _).bind fun _ found _ => ?_
  cases found with
  | none => exact unaware_unexpected expected
  | some t => exact unaware_pure t

theorem unaware_head {g : Token → Reading (Option α)} (h : Unaware t ts (g t)) :
    Unaware t ts (do
      match ← look (·.rest.head?) with
      | none => return none
      | some t => g t) := by
  refine (unaware_look fun _ _ => rfl).bind fun _ head look => ?_
  cases look
  exact h

theorem unaware_many {f : (c : Cursor) → Except ParseError (Option (Past c α))}
    (h : Unaware t ts (step f)) : Unaware t ts (onward (many f)) := by
  rw [onward_many]
  refine h.bind fun _ first taken => ?_
  cases first with
  | none => exact unaware_pure []
  | some first => exact absurd (step_lt taken) (Nat.lt_irrefl _)

/-! ## Modifiers -/

theorem unaware_annotation? : Unaware t ts (step annotation?) := by
  rw [step_annotation?]
  refine (unaware_look fun _ _ => rfl).bind fun _ starts _ => ?_
  split
  · exact (unaware_expect _ _).past
  · exact unaware_pure none

theorem unaware_annotations : Unaware t ts (onward annotations) := by
  rw [onward_annotations]
  exact (unaware_many unaware_annotation?).bind fun _ _ _ => unaware_pure _

theorem unaware_modifierOrAnnotation? : Unaware t ts (step modifierOrAnnotation?) := by
  rw [step_modifierOrAnnotation?]
  refine unaware_annotation?.bind fun _ passed _ => ?_
  cases passed with
  | some _ => exact unaware_pure _
  | none =>
    refine unaware_head ?_
    split
    · exact unaware_pure none
    · exact unaware_first

theorem unaware_modifiers : Unaware t ts (onward modifiers) := by
  rw [onward_modifiers]
  exact (unaware_many unaware_modifierOrAnnotation?).bind fun _ _ _ => unaware_pure _

/-! ## Units -/

theorem unaware_package? : Unaware t ts (onward package?) := by
  rw [onward_package?]
  refine (unaware_look fun _ _ => rfl).bind fun _ ahead _ => ?_
  split
  · refine unaware_annotations.bind fun _ _ _ => Unaware.past ?_
    rw [past_package]
    exact (unaware_look fun _ _ => rfl).bind fun _ _ _ => (unaware_expect _ _).past
  · exact unaware_pure none

theorem unaware_imports : Unaware t ts (onward imports) := by
  rw [onward_imports]
  refine (unaware_many ?_).bind fun _ _ _ => unaware_pure _
  rw [step_importOrSemicolon?]
  refine unaware_head ?_
  split
  · exact unaware_first
  · split
    · exact unaware_first
    · exact unaware_pure none

theorem unaware_typeKeyword : Unaware t ts (option typeKeyword) := by
  rw [option_typeKeyword]
  refine unaware_head ?_
  split
  · exact unaware_first
  · exact unaware_first
  · exact unaware_first
  · refine (unaware_look fun _ _ => rfl).bind fun _ starts _ => ?_
    split
    · exact unaware_first
    · exact unaware_pure none
  · refine (unaware_look fun _ _ => rfl).bind fun _ starts _ => ?_
    split
    · exact unaware_first
    · exact unaware_pure none
  · exact unaware_pure none

theorem unaware_typeDeclaration : Unaware t ts (past typeDeclaration) := by
  rw [past_typeDeclaration]
  refine (unaware_look fun _ _ => rfl).bind fun _ _ _ => unaware_modifiers.bind fun _ _ _ => ?_
  refine unaware_typeKeyword.bind fun _ introduced taken => ?_
  cases introduced with
  | none => exact unaware_unexpected _
  | some _ => exact absurd (option_lt taken) (Nat.lt_irrefl _)

theorem unaware_typeDeclarations : Unaware t ts (onward typeDeclarations) := by
  rw [onward_typeDeclarations]
  refine (unaware_many ?_).bind fun _ _ _ => unaware_pure _
  rw [step_typeOrSemicolon?]
  refine unaware_head ?_
  split
  · exact unaware_first
  · exact unaware_typeDeclaration.past

/-- The last stage may be aware of the place as long as it refuses nothing. -/
theorem Unaware.refused {x : Reading α} {g : α → Reading β} (hx : Unaware t ts x)
    (total : ∀ a c, ∃ p, (g a).run c = .ok p) {l : Location} {e : ParseError}
    (h : (x >>= g).run ⟨l, t :: ts⟩ = .error e) (l' : Location) :
    (x >>= g).run ⟨l', t :: ts⟩ = .error e := by
  rcases hx l l' with same | ⟨a, here, _⟩
  · rw [run_bind, ← same, ← run_bind]
    exact h
  · obtain ⟨p, read⟩ := total a ⟨l, t :: ts⟩
    rw [run_bind, here, ok_bind, read] at h
    cases h

/-- A unit that is refused is refused for the same reason wherever the cursor has come from. -/
theorem unit_refused_from {l : Location} {e : ParseError}
    (h : unit.run ⟨l, t :: ts⟩ = .error e) (l' : Location) :
    unit.run ⟨l', t :: ts⟩ = .error e := by
  have stages : unit =
      ((look location >>= fun start => onward package? >>= fun package =>
        onward imports >>= fun imports => onward typeDeclarations >>= fun types =>
          pure (start, package, imports, types)) >>= fun read =>
        look (spanFrom read.1) >>= fun span =>
          pure ⟨read.2.1, read.2.2.1, read.2.2.2, span⟩ : Reading CompilationUnit) := by
    refine ext_run fun c => ?_
    unfold unit
    simp only [run_bind, run_look, run_pure, ok_bind, bind_assoc]
  rw [stages] at h ⊢
  refine Unaware.refused ?_ (fun _ _ => ⟨_, rfl⟩) h l'
  refine (unaware_look fun _ _ => rfl).bind fun _ _ _ => unaware_package?.bind fun _ _ _ => ?_
  refine unaware_imports.bind fun _ _ _ => unaware_typeDeclarations.bind fun _ _ _ => ?_
  exact unaware_pure _

end JavaStub.Reading
