import JavaStub.Proofs.Grammar.Types
import JavaStub.Proofs.Reading.Declarations

/-!
# Reading what a grammar describes

A reading of words without places (`Reads`), with a rule for each way to put readings together.
From these rules every form of the grammar is read as the value that it stands for, up to the
word behind it. This module has the forms that hold no types.

Main facts:

1. `reads_many` and `reads_separated`: lists are read item by item.
2. `reads_annotations` and `reads_modifiers`.
-/

namespace JavaStub

open Token (Kind)

namespace Cursor

/-- The cursor before words of no particular place. -/
def ofWords (ws : List Word) : Cursor := ⟨.start, ws.map Word.token⟩

/-- Without its places, a cursor stands before the words that are left. -/
theorem relocate_unplaced_cursor (c : Cursor) :
    relocate unplaced c = ofWords (c.rest.map Token.word) := by
  obtain ⟨l, ts⟩ := c
  rw [relocate_cursor, relocate_unplaced]
  rfl

theorem ofWords_injective : Function.Injective ofWords := by
  intro ws vs same
  have words := congrArg (fun c => c.rest.map Token.word) same
  simpa [ofWords, Function.comp_def] using words

theorem kind?_ofWords (ws : List Word) : (ofWords ws).kind? = ws.head?.map Word.kind := by
  cases ws <;> rfl

theorem secondKind?_ofWords (ws : List Word) :
    (ofWords ws).secondKind? = ws.tail.head?.map Word.kind := by
  rcases ws with _ | ⟨w, _ | ⟨v, vs⟩⟩ <;> rfl

theorem location_ofWords (ws : List Word) : (ofWords ws).location = .start := by
  cases ws <;> rfl

end Cursor

namespace Grammar

open Cursor

variable {ws vs : List Word}

/-! ## What is next -/

@[simp] theorem notAt_nil (ks : List Kind) : NotAt ks [] := fun _ h => by cases h

@[simp] theorem notAt_cons {ks : List Kind} {w : Word} : NotAt ks (w :: ws) ↔ w.kind ∉ ks := by
  simp [NotAt]

theorem notAt_append {ks : List Kind} (first : NotAt ks ws) (more : NotAt ks vs) :
    NotAt ks (ws ++ vs) := by
  cases ws with
  | nil => exact more
  | cons w ws => exact first

theorem NotAt.append {ks : List Kind} (first : NotAt ks ws) (nonempty : ws ≠ []) :
    NotAt ks (ws ++ vs) := by
  cases ws with
  | nil => exact absurd rfl nonempty
  | cons w ws => exact first

theorem NotAt.mono {ks ks' : List Kind} (h : NotAt ks ws) (sub : ks' ⊆ ks) : NotAt ks' ws :=
  fun w hw hk => h w hw (sub hk)

/-- What is not at a kind has another kind next, or none. -/
theorem NotAt.kind?_ne {k : Kind} {ks : List Kind} (h : NotAt ks ws) (mem : k ∈ ks) :
    (ofWords ws).kind? ≠ some k := by
  rw [kind?_ofWords]
  intro hk
  obtain ⟨w, hw, rfl⟩ := Option.map_eq_some_iff.mp hk
  exact h w hw mem

theorem Group.starts {opening closing : Kind} (h : Group opening closing ws) :
    ∃ w us, ws = w :: us ∧ w.kind = opening := by
  obtain ⟨opens, _, _⟩ := h
  exact ⟨_, _, rfl, opens⟩

theorem Group.kind? {opening closing : Kind} (h : Group opening closing ws) :
    (ofWords (ws ++ vs)).kind? = some opening := by
  obtain ⟨w, us, rfl, opens⟩ := h.starts
  rw [kind?_ofWords]
  exact congrArg some opens

theorem Group.notAt {opening closing : Kind} {ks : List Kind} (h : Group opening closing ws)
    (other : opening ∉ ks) : NotAt ks (ws ++ vs) := by
  obtain ⟨w, us, rfl, opens⟩ := h.starts
  exact notAt_cons.mpr (by rw [opens]; exact other)

/-- What may stand behind annotations and modifiers. -/
def annotationEnds : List Kind := [.lparen, .dot]

theorem Annotation.starts (h : Annotation ws) :
    ∃ a us, ws = a :: us ∧ a.kind = .atSign := by
  cases h with
  | plain sign _ => exact ⟨_, _, rfl, sign⟩
  | withArguments sign _ _ => exact ⟨_, _, rfl, sign⟩

theorem ModifierOrAnnotation.notAt {found : Option Modifier} (h : ModifierOrAnnotation found ws) :
    NotAt annotationEnds (ws ++ vs) := by
  cases h with
  | @modifier w m stands =>
    refine notAt_cons.mpr fun hw => ?_
    rcases List.mem_pair.mp hw with hw | hw <;> rw [hw] at stands <;> cases stands
  | passed h =>
    obtain ⟨a, us, rfl, sign⟩ := h.starts
    exact notAt_cons.mpr (by rw [sign]; decide)

theorem Name.behindSign {a : Word} {n : String} (h : Name n ws) (sign : a.kind = .atSign) :
    atAnnotation (ofWords (a :: (ws ++ vs))) = true := by
  obtain ⟨name, _⟩ := h
  unfold atAnnotation
  rw [kind?_ofWords, secondKind?_ofWords]
  simp [sign, name]

theorem NotAt.noSign {ks : List Kind} (h : NotAt ks ws) (mem : Kind.atSign ∈ ks) :
    atAnnotation (ofWords ws) = false := by
  unfold atAnnotation
  rw [decide_eq_false (h.kind?_ne mem)]
  rfl

theorem noSign_of_ne {w : Word} (h : w.kind ≠ .atSign) :
    atAnnotation (ofWords (w :: ws)) = false := by
  have other : NotAt [.atSign] (w :: ws) := notAt_cons.mpr fun hw => h (List.mem_singleton.mp hw)
  exact other.noSign (List.mem_singleton.mpr rfl)

/-- What may stand behind modifiers and annotations: no other of them, and nothing that goes on
with an annotation. -/
structure EndsModifiers (ws : List Word) : Prop where
  ends : NotAt annotationEnds ws
  noModifier : ∀ w ∈ ws.head?, modifierOf? w.kind = none
  noSign : atAnnotation (ofWords ws) = false

theorem EndsModifiers.of_kind {w : Word} {k : Kind} (h : w.kind = k)
    (ends : k ∉ Kind.atSign :: annotationEnds) (noModifier : modifierOf? k = none) :
    EndsModifiers (w :: ws) := by
  subst h
  refine ⟨notAt_cons.mpr fun hk => ends (List.mem_cons_of_mem _ hk), ?_, ?_⟩
  · rintro _ ⟨⟩
    exact noModifier
  · exact NotAt.noSign (notAt_cons.mpr ends) (List.mem_cons_self ..)

end Grammar

namespace Reading

open Cursor Grammar

variable {α β : Type} {ws vs us : List Word}

/-- The value `a` is read from the words `ws`, and the words `vs` are left. -/
def Reads (x : Reading α) (ws : List Word) (a : α) (vs : List Word) : Prop :=
  x.run (.ofWords ws) = .ok (a, .ofWords vs)

theorem reads_pure (a : α) : Reads (pure a) ws a ws := rfl

theorem Reads.bind {x : Reading α} {f : α → Reading β} {a : α} {b : β} (hx : Reads x ws a vs)
    (hf : Reads (f a) vs b us) : Reads (x >>= f) ws b us := by
  unfold Reads at hx
  unfold Reads
  rw [run_bind, hx, ok_bind]
  exact hf

theorem reads_look {f : Cursor → α} {a : α} (h : f (.ofWords ws) = a) : Reads (look f) ws a ws := by
  unfold Reads
  rw [run_look, h]

/-! ## Single words -/

theorem reads_next {p : Token → Bool} {w : Word} (h : p w.token = true) :
    Reads (option (next? p)) (w :: ws) (some w.token) ws := by
  unfold Reads ofWords
  rw [List.map_cons, run_next_cons, if_pos h]
  rfl

theorem reads_next_none {p : Token → Bool} (h : ∀ w ∈ ws.head?, p w.token = false) :
    Reads (option (next? p)) ws none ws := by
  unfold Reads ofWords
  cases ws with
  | nil => rfl
  | cons w ws =>
    rw [List.map_cons, run_next_cons, h w rfl]
    rfl

theorem reads_first {w : Word} : Reads (option first?) (w :: ws) (some w.token) ws :=
  reads_next rfl

theorem reads_accept {k : Kind} {w : Word} (h : w.kind = k) :
    Reads (option (accept k)) (w :: ws) (some w.token) ws :=
  reads_next (decide_eq_true h)

theorem reads_accept_none {k : Kind} {ks : List Kind} (h : NotAt ks ws) (mem : k ∈ ks) :
    Reads (option (accept k)) ws none ws :=
  reads_next_none fun w hw => decide_eq_false fun hk => h w hw (by rw [← hk] at mem; exact mem)

theorem reads_expect {k : Kind} {expected : Expectation} {w : Word} (h : w.kind = k) :
    Reads (past (expect k expected)) (w :: ws) w.token ws := by
  rw [past_expect]
  exact (reads_accept h).bind (reads_pure _)

theorem reads_optional {k : Kind} {found : Bool} (h : Optional k found ws) {ks : List Kind}
    (behind : NotAt ks vs) (mem : k ∈ ks) :
    Reads (sure (Cursor.optional k)) (ws ++ vs) found vs := by
  rw [sure_optional]
  cases h with
  | absent => exact (reads_accept_none behind mem).bind (reads_pure _)
  | present h => exact (reads_accept h).bind (reads_pure _)

theorem reads_identifier {w : Word} (h : w.kind = .identifier) :
    Reads (past identifier) (w :: ws) w.lexeme ws := by
  rw [past_identifier]
  exact (reads_expect h).bind (reads_pure _)

/-- A choice by the next word. -/
theorem reads_byHead {x : Token → Reading (Option α)} {w : Word} {a : Option α}
    (h : Reads (x w.token) (w :: ws) a vs) :
    Reads (do
      match ← look (·.rest.head?) with
      | none => return none
      | some t => x t) (w :: ws) a vs :=
  (reads_look (a := some w.token) rfl).bind h

theorem reads_byHead_nil {x : Token → Reading (Option α)} :
    Reads (do
      match ← look (·.rest.head?) with
      | none => return none
      | some t => x t) [] none [] :=
  (reads_look (a := none) rfl).bind (reads_pure _)

/-! ## Lists -/

section Lists

variable {f : (c : Cursor) → Except ParseError (Option (Past c α))}

theorem reads_many_nil (h : Reads (step f) ws none ws) : Reads (onward (many f)) ws [] ws := by
  rw [onward_many]
  exact h.bind (reads_pure _)

theorem reads_many_cons {a : α} {as : List α} (first : Reads (step f) ws (some a) vs)
    (more : Reads (onward (many f)) vs as us) : Reads (onward (many f)) ws (a :: as) us := by
  rw [onward_many]
  exact first.bind (more.bind (reads_pure _))

/-- Items in a row are read one after the other, when every item is read before what may stand
behind it. -/
theorem reads_many {Item : α → List Word → Prop} (Behind : List Word → Prop) {as : List α}
    (items : Many Item as ws)
    (item : ∀ a ws vs, Item a ws → Behind vs → Reads (step f) (ws ++ vs) (some a) vs)
    (another : ∀ a ws vs, Item a ws → Behind (ws ++ vs)) (behind : Behind vs)
    (last : Reads (step f) vs none vs) : Reads (onward (many f)) (ws ++ vs) as vs := by
  induction items with
  | nil => exact reads_many_nil last
  | @cons a as ws us first more ih =>
    -- an item is followed by the next one, or by what stands behind them all
    have follows : Behind (us ++ vs) := by
      cases more with
      | nil => exact behind
      | cons next _ =>
        rw [List.append_assoc]
        exact another _ _ _ next
    rw [List.append_assoc]
    exact reads_many_cons (item a ws _ first follows) ih

/-- Items with separators between them are read one after the other. -/
theorem reads_separated {separator : Kind}
    {item : (c : Cursor) → Except ParseError (Past c (α × Nat))} {Item : α → List Word → Prop}
    (Behind : List Word → Prop) {as : List α} (items : Separated separator Item as ws)
    (reads : ∀ a ws vs, Item a ws → Behind vs → Reads (past item) (ws ++ vs) (a, 0) vs)
    (separates : ∀ s vs, s.kind = separator → Behind (s :: vs)) (behind : Behind vs)
    (last : NotAt [separator] vs) :
    Reads (past (separated separator item)) (ws ++ vs) (as, 0) vs := by
  induction items with
  | one h =>
    rw [past_separated]
    refine (reads _ _ _ h behind).bind ?_
    exact (reads_accept_none last (List.mem_singleton.mpr rfl)).bind (reads_pure _)
  | cons first separates' _ ih =>
    rw [past_separated, List.append_assoc, List.cons_append]
    refine (reads _ _ _ first (separates _ _ separates')).bind ?_
    exact (reads_accept separates').bind (ih.bind (reads_pure _))

end Lists

/-! ## Names and groups -/

/-- No dot is next that an identifier follows. -/
def NotJoined (ws : List Word) : Prop :=
  ∀ d w vs, ws = d :: w :: vs → d.kind = .dot → w.kind ≠ .identifier

theorem notJoined_of_notAt {ks : List Kind} (h : NotAt ks ws) (mem : Kind.dot ∈ ks) :
    NotJoined ws := by
  rintro d w vs rfl hd _
  exact notAt_cons.mp h (by rw [hd]; exact mem)

theorem reads_joiningDot {d w : Word} (hd : d.kind = .dot) (hw : w.kind = .identifier) :
    Reads (option joiningDot) (d :: w :: ws) (some d.token) (w :: ws) := by
  have joins : (ofWords (d :: w :: ws)).secondKind? = some .identifier := congrArg some hw
  have accepted : Reads (option (accept .dot)) (d :: w :: ws) (some d.token) (w :: ws) :=
    reads_accept hd
  unfold Reads at accepted ⊢
  rw [run_option] at accepted ⊢
  unfold joiningDot
  rw [if_pos joins]
  exact accepted

theorem reads_joiningDot_none (h : NotJoined ws) : Reads (option joiningDot) ws none ws := by
  unfold Reads
  rw [run_option]
  unfold joiningDot
  split
  · next joins =>
    rcases ws with _ | ⟨d, _ | ⟨w, vs⟩⟩
    · cases joins
    · cases joins
    · have notDot : NotAt [.dot] (d :: w :: vs) :=
        notAt_cons.mpr fun hd => h d w vs rfl (List.mem_singleton.mp hd) (Option.some.inj joins)
      have declined : Reads (option (accept .dot)) (d :: w :: vs) none _ :=
        reads_accept_none notDot (List.mem_singleton.mpr rfl)
      exact declined
  · rfl

theorem reads_nameTail {ns : List String} (h : NameTail ns ws) (behind : NotJoined vs) :
    Reads (onward (many joinedName)) (ws ++ vs) ns vs := by
  induction h with
  | nil =>
    refine reads_many_nil ?_
    rw [step_joinedName]
    exact (reads_joiningDot_none behind).bind (reads_pure _)
  | cons joins name _ ih =>
    refine reads_many_cons ?_ ih
    rw [step_joinedName]
    exact (reads_joiningDot joins name).bind ((reads_identifier name).bind (reads_pure _))

theorem reads_qualifiedName {n : String} (h : Name n ws) (behind : NotJoined vs) :
    Reads (past qualifiedName) (ws ++ vs) n vs := by
  rw [past_qualifiedName]
  obtain ⟨name, more⟩ := h
  exact (reads_identifier name).bind ((reads_nameTail more behind).bind (reads_pure _))

theorem map_kind_token (ws : List Word) : (ws.map Word.token).map Token.kind = ws.map Word.kind := by
  rw [List.map_map]
  rfl

theorem reads_group {opening closing : Kind} (distinct : opening ≠ closing)
    (h : Group opening closing ws) :
    Reads (past (group opening closing)) (ws ++ vs) () vs := by
  obtain ⟨opens, closes, enclosed⟩ := h
  rename_i first last inner
  rw [← map_kind_token] at enclosed
  have same : (ofWords (first :: (inner ++ [last]) ++ vs)) =
      ⟨.start, first.token :: (inner.map Word.token ++ last.token :: vs.map Word.token)⟩ := by
    unfold ofWords
    rw [List.cons_append, List.append_assoc, List.map_cons, List.map_append]
    rfl
  unfold Reads
  rw [same]
  exact run_group distinct opens closes enclosed

/-! ## Annotations and modifiers -/

theorem reads_annotation? (h : Annotation ws) (behind : NotAt annotationEnds vs) :
    Reads (step annotation?) (ws ++ vs) (some ()) vs := by
  rw [step_annotation?]
  cases h with
  | plain sign name =>
    refine (reads_look (name.behindSign sign)).bind ?_
    refine (reads_expect sign).bind ?_
    refine (reads_qualifiedName name (notJoined_of_notAt behind (by decide))).bind ?_
    refine Reads.bind (a := ()) ?_ (reads_pure _)
    rw [onward_annotationArguments]
    refine (reads_look rfl).bind ?_
    rw [if_neg (behind.kind?_ne (by decide))]
    exact reads_pure _
  | withArguments sign name arguments =>
    rw [List.cons_append, List.append_assoc]
    refine (reads_look (name.behindSign sign)).bind ?_
    refine (reads_expect sign).bind ?_
    have stops : NotAt [.dot] (_ ++ vs) := arguments.notAt (by decide)
    refine (reads_qualifiedName name (notJoined_of_notAt stops (by decide))).bind ?_
    refine Reads.bind (a := ()) ?_ (reads_pure _)
    rw [onward_annotationArguments]
    refine (reads_look rfl).bind ?_
    rw [if_pos arguments.kind?]
    exact reads_group (by decide) arguments

theorem reads_annotation_none (h : atAnnotation (ofWords ws) = false) :
    Reads (step annotation?) ws none ws := by
  rw [step_annotation?]
  exact (reads_look h).bind (reads_pure _)

theorem reads_annotations (h : Annotations ws) (behind : NotAt (.atSign :: annotationEnds) vs) :
    Reads (onward annotations) (ws ++ vs) () vs := by
  obtain ⟨n, items⟩ := h
  rw [onward_annotations]
  refine Reads.bind (a := List.replicate n ()) ?_ (reads_pure _)
  refine reads_many (NotAt annotationEnds) items
    (fun _ _ _ h => reads_annotation? h) (fun _ _ _ h => ?_)
    (behind.mono (List.subset_cons_self _ _))
    (reads_annotation_none (behind.noSign (List.mem_cons_self ..)))
  obtain ⟨a, us, rfl, sign⟩ := h.starts
  exact notAt_cons.mpr (by rw [sign]; decide)

theorem reads_modifierOrAnnotation? {found : Option Modifier} (h : ModifierOrAnnotation found ws)
    (behind : NotAt annotationEnds vs) :
    Reads (step modifierOrAnnotation?) (ws ++ vs) (some found) vs := by
  rw [step_modifierOrAnnotation?]
  cases h with
  | @modifier w m stands =>
    have noSign : NotAt [.atSign] (w :: vs) := by
      refine notAt_cons.mpr fun hw => ?_
      rw [List.mem_singleton.mp hw] at stands
      cases stands
    refine (reads_annotation_none (noSign.noSign (List.mem_singleton.mpr rfl))).bind ?_
    refine reads_byHead ?_
    rw [Word.token_kind, stands]
    exact reads_first.bind (reads_pure _)
  | passed h => exact (reads_annotation? h behind).bind (reads_pure _)

theorem reads_modifierOrAnnotation_none (h : EndsModifiers ws) :
    Reads (step modifierOrAnnotation?) ws none ws := by
  rw [step_modifierOrAnnotation?]
  refine (reads_annotation_none h.noSign).bind ?_
  cases ws with
  | nil => exact reads_byHead_nil
  | cons w ws =>
    refine reads_byHead ?_
    rw [Word.token_kind, h.noModifier w rfl]
    exact reads_pure _

theorem reads_modifiers {ms : List Modifier} (h : Modifiers ms ws) (behind : EndsModifiers vs) :
    Reads (onward modifiers) (ws ++ vs) ms vs := by
  obtain ⟨items⟩ := h
  rw [onward_modifiers]
  refine Reads.bind ?_ (reads_pure _)
  exact reads_many (NotAt annotationEnds) items
    (fun _ _ _ h => reads_modifierOrAnnotation? h) (fun _ _ _ h => h.notAt) behind.ends
    (reads_modifierOrAnnotation_none behind)

end Reading

end JavaStub
