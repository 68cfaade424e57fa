import JavaStub.Proofs.Groups
import JavaStub.Proofs.Reading.Declarations

/-!
# What readings take

A property of the tokens that a reading takes, put together from the properties of what its
stages take. It has to hold of no tokens, and of two lists in a row when it holds of both.

Main facts:

1. `Takes.bind` and `takes_many`: stages and loops.
2. `takes_qualifiedName`: names are identifiers and dots.
3. `takes_modifiers` and `takes_headerTail`: round brackets are matched in what is passed
   before a body.
-/

namespace JavaStub.Reading

open Cursor

open Token (Kind)

variable {α β : Type} {c : Cursor}

/-- A property of lists of tokens that lists in a row have when each of them has it. -/
structure Additive (P : List Token → Prop) : Prop where
  nil : P []
  append : ∀ m m', P m → P m' → P (m ++ m')

/-- The tokens that `x` takes at `c` have the property `P`. -/
def Takes (P : List Token → Prop) (c : Cursor) (x : Reading α) : Prop :=
  ∀ v d, x.run c = .ok (v, d) → ∃ m, c.rest = m ++ d.rest ∧ P m

section Stages

variable {P : List Token → Prop}

theorem takes_pure (add : Additive P) (a : α) : Takes P c (pure a) := by
  intro v d h
  cases h
  exact ⟨[], rfl, add.nil⟩

theorem takes_look (add : Additive P) (f : Cursor → α) : Takes P c (look f) := by
  intro v d h
  cases h
  exact ⟨[], rfl, add.nil⟩

theorem takes_fail (f : Cursor → ParseError) : Takes P c (fail f : Reading α) := by
  intro v d h
  cases h

theorem Takes.bind {x : Reading α} {f : α → Reading β} (hx : Takes P c x) (add : Additive P)
    (h : ∀ a d, x.run c = .ok (a, d) → Takes P d (f a)) : Takes P c (x >>= f) := by
  intro v e hv
  rw [run_bind] at hv
  obtain ⟨⟨a, d⟩, ha, hv⟩ := bind_eq_ok_iff.mp hv
  obtain ⟨m, hm, first⟩ := hx a d ha
  obtain ⟨m', hm', second⟩ := h a d ha v e hv
  exact ⟨m ++ m', by rw [hm, hm', List.append_assoc], add.append m m' first second⟩

theorem Takes.mono {Q : List Token → Prop} {x : Reading α} (hx : Takes P c x)
    (h : ∀ m, P m → Q m) : Takes Q c x := by
  intro v d hv
  obtain ⟨m, split, holds⟩ := hx v d hv
  exact ⟨m, split, h m holds⟩

theorem takes_expect {kind : Kind} {expected : Expectation}
    (one : ∀ t : Token, t.kind = kind → P [t]) : Takes P c (past (expect kind expected)) := by
  intro v d h
  obtain ⟨kind, split, _⟩ := of_run_expect h
  exact ⟨[v], split, one v kind⟩

theorem takes_many {f : (c : Cursor) → Except ParseError (Option (Past c α))}
    (add : Additive P) (h : ∀ c, Takes P c (step f)) (c : Cursor) :
    Takes P c (onward (many f)) := by
  intro v d hv
  have rounds := (rounds_of_many hv).1
  clear hv
  induction rounds with
  | refl c => exact ⟨[], rfl, add.nil⟩
  | round first _ ih =>
    obtain ⟨m, hm, holds⟩ := h _ _ _ first
    obtain ⟨m', hm', holds'⟩ := ih
    exact ⟨m ++ m', by rw [hm, hm', List.append_assoc], add.append m m' holds holds'⟩

/-- A step that is decided by the next token takes it when it passes. -/
theorem takes_byHead {x : Token → Reading (Option α)} (add : Additive P)
    (h : ∀ l t ts, Takes P ⟨l, t :: ts⟩ (x t)) :
    Takes P c (do
      match ← look (·.rest.head?) with
      | none => return none
      | some t => x t) := by
  refine (takes_look add _).bind add fun head d look => ?_
  cases look
  obtain ⟨l, _ | ⟨t, ts⟩⟩ := c
  · exact takes_pure add none
  · exact h l t ts

theorem takes_first {l : Location} {t : Token} {ts : List Token} (one : P [t]) :
    Takes P ⟨l, t :: ts⟩ (option first?) := by
  intro v d hv
  cases hv
  exact ⟨[t], rfl, one⟩

end Stages

/-! ## Names -/

/-- Does a list hold identifiers and dots only? -/
def NameRun (m : List Token) : Prop := ∀ t ∈ m, t.kind = .identifier ∨ t.kind = .dot

theorem nameRun_additive : Additive NameRun where
  nil := fun _ ht => absurd ht List.not_mem_nil
  append := fun _ _ h h' t ht => (List.mem_append.mp ht).elim (h t) (h' t)

theorem NameRun.one {t : Token} (h : t.kind = .identifier ∨ t.kind = .dot) : NameRun [t] :=
  fun u hu => by rw [List.mem_singleton.mp hu]; exact h

theorem takes_identifier : Takes NameRun c (past identifier) := by
  rw [past_identifier]
  exact (takes_expect fun t ht => .one (.inl ht)).bind nameRun_additive
    fun t _ _ => takes_pure nameRun_additive _

theorem takes_joiningDot : Takes NameRun c (option joiningDot) := by
  intro v d h
  cases v with
  | none => exact ⟨[], by rw [option_none h]; rfl, nameRun_additive.nil⟩
  | some t =>
    obtain ⟨dot, split, _⟩ := of_run_joiningDot h
    exact ⟨[t], split, .one (.inr dot)⟩

theorem takes_joinedName (c : Cursor) : Takes NameRun c (step joinedName) := by
  rw [step_joinedName]
  refine takes_joiningDot.bind nameRun_additive fun t _ _ => ?_
  cases t with
  | none => exact takes_pure nameRun_additive _
  | some t =>
    exact takes_identifier.bind nameRun_additive fun name _ _ => takes_pure nameRun_additive _

theorem takes_qualifiedName : Takes NameRun c (past qualifiedName) := by
  rw [past_qualifiedName]
  refine takes_identifier.bind nameRun_additive fun first d _ => ?_
  exact (takes_many nameRun_additive takes_joinedName d).bind nameRun_additive
    fun more _ _ => takes_pure nameRun_additive _

/-! ## Round brackets -/

/-- Are round brackets matched in a list, and barred kinds only inside of them? -/
def Round (barred : List Kind) (m : List Token) : Prop :=
  Shielded roundGroups barred (m.map Token.kind)

variable {barred : List Kind}

theorem round_additive : Additive (Round barred) where
  nil := Shielded.nil
  append := fun m m' h h' => by
    unfold Round
    rw [List.map_append]
    exact Shielded.append h h'

theorem Round.one {t : Token} (free : t.kind ∉ barred) (single : t.kind ≠ .lparen) :
    Round barred [t] :=
  .token free (fun g hg => by rw [List.mem_singleton.mp hg]; exact single) .nil

theorem Round.mono {fewer : List Kind} {m : List Token} (h : Round barred m)
    (sub : fewer ⊆ barred) : Round fewer m := Shielded.mono h sub

/-- Names are no delimiters. -/
theorem NameRun.round {m : List Token} (h : NameRun m) : Round [] m := by
  induction m with
  | nil => exact round_additive.nil
  | cons t m ih =>
    have first : Round [] [t] := by
      refine .one List.not_mem_nil ?_
      rcases h t (List.mem_cons_self ..) with ht | ht <;> rw [ht] <;> decide
    exact round_additive.append [t] m first (ih fun u hu => h u (List.mem_cons_of_mem _ hu))

theorem takes_roundGroup : Takes (Round barred) c (past (group .lparen .rparen)) := by
  intro v d h
  obtain ⟨first, inner, last, split, hfirst, hlast, _, enclosed⟩ := of_run_group (by decide) h
  refine ⟨first :: (inner ++ [last]), by rw [split]; simp, ?_⟩
  have group : Shielded roundGroups barred (.lparen :: (inner.map Token.kind ++ [.rparen])) :=
    .group (g := (.lparen, .rparen)) (List.mem_singleton.mpr rfl) enclosed .nil
  unfold Round
  simpa [hfirst, hlast] using group

theorem takes_annotation? (c : Cursor) : Takes (Round []) c (step annotation?) := by
  rw [step_annotation?]
  refine (takes_look round_additive _).bind round_additive fun starts _ _ => ?_
  split
  · refine (takes_expect fun t ht => .one List.not_mem_nil (by rw [ht]; decide)).bind
      round_additive fun _ _ _ => ?_
    refine (takes_qualifiedName.mono fun m => NameRun.round).bind round_additive fun _ _ _ => ?_
    refine Takes.bind ?_ round_additive fun _ _ _ => takes_pure round_additive _
    rw [onward_annotationArguments]
    refine (takes_look round_additive _).bind round_additive fun kind _ _ => ?_
    split
    · exact takes_roundGroup
    · exact takes_pure round_additive _
  · exact takes_pure round_additive _

/-- A round bracket is no modifier. -/
theorem modifierOf?_ne {kind : Kind} {modifier : Modifier}
    (h : modifierOf? kind = some modifier) : kind ≠ .lparen := by
  rintro rfl
  cases h

theorem takes_modifierOrAnnotation? (c : Cursor) :
    Takes (Round []) c (step modifierOrAnnotation?) := by
  rw [step_modifierOrAnnotation?]
  refine (takes_annotation? c).bind round_additive fun passed _ _ => ?_
  cases passed with
  | some _ => exact takes_pure round_additive _
  | none =>
    refine takes_byHead round_additive fun l t ts => ?_
    split
    · exact takes_pure round_additive _
    · next modifier h =>
      exact (takes_first (.one List.not_mem_nil (modifierOf?_ne h))).bind round_additive
        fun _ _ _ => takes_pure round_additive _

theorem takes_modifiers : Takes (Round []) c (onward modifiers) := by
  rw [onward_modifiers]
  exact (takes_many round_additive takes_modifierOrAnnotation? c).bind round_additive
    fun _ _ _ => takes_pure round_additive _

theorem takes_headerPart? (c : Cursor) : Takes (Round [.lbrace]) c (step headerPart?) := by
  rw [step_headerPart?]
  refine takes_byHead round_additive fun l t ts => ?_
  split
  · exact takes_pure round_additive _
  · split
    · exact takes_roundGroup.bind round_additive fun _ _ _ => takes_pure round_additive _
    · next free single =>
      refine Takes.bind (takes_first (.one ?_ single)) round_additive
        fun _ _ _ => takes_pure round_additive _
      simpa using free

theorem takes_headerTail : Takes (Round [.lbrace]) c (onward headerTail) := by
  rw [onward_headerTail]
  refine (takes_many round_additive takes_headerPart? c).bind round_additive fun _ _ _ => ?_
  refine (takes_look round_additive _).bind round_additive fun kind _ _ => ?_
  split
  · exact takes_pure round_additive _
  · exact takes_fail _

theorem takes_keyword {l : Location} {t : Token} {ts : List Token} (single : t.kind ≠ .lparen)
    (introduced : Introduced) : Takes (Round []) ⟨l, t :: ts⟩ (keyword introduced) :=
  (takes_first (.one List.not_mem_nil single)).bind round_additive fun _ _ _ =>
    takes_pure round_additive _

theorem takes_typeKeyword : Takes (Round []) c (option typeKeyword) := by
  rw [option_typeKeyword]
  refine takes_byHead round_additive fun l t ts => ?_
  split
  · next h => exact takes_keyword (by rw [h]; decide) _
  · next h => exact takes_keyword (by rw [h]; decide) _
  · next h => exact takes_keyword (by rw [h]; decide) _
  · next h =>
    refine (takes_look round_additive _).bind round_additive fun starts d look => ?_
    cases look
    split
    · next starts =>
      -- the sign is taken as it stands, and the keyword behind it was seen by the look-ahead
      refine (takes_first (.one List.not_mem_nil (by rw [h]; decide))).bind round_additive
        fun _ d first => ?_
      cases first
      cases ts with
      | nil => simp [atPair, secondKind?] at starts
      | cons u us =>
        refine takes_keyword ?_ _
        have hu : u.kind = .kwInterface := by simpa [atPair, kind?, secondKind?, h] using starts
        rw [hu]
        decide
    · exact takes_pure round_additive _
  · next h =>
    refine (takes_look round_additive _).bind round_additive fun starts d look => ?_
    cases look
    split
    · exact takes_keyword (by rw [h]; decide) _
    · exact takes_pure round_additive _
  · exact takes_pure round_additive _

end JavaStub.Reading
