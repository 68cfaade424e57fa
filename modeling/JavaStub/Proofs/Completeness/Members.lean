import JavaStub.Proofs.Completeness.Types
import JavaStub.Proofs.Grammar.Declarations

/-!
# Reading members

Parameters, what is passed, and the members of a class are read as the grammar says. Annotations
before a type that follows modifiers are read with the modifiers. A name `record` that another
name follows is read as the start of a record, so the type of a field or method may not be
just that where it follows the modifiers directly (`NotBareRecord`).

Main facts:

1. `reads_parameters`: the parameters of a method are kept.
2. `reads_memberOrSemicolon`: every member is read through its end, and kept if it is a method.
-/

namespace JavaStub

open Token (Kind)

open Cursor

variable {ws vs us rs : List Word}

namespace Grammar

/-! ## Modifiers before a type -/

theorem Many.append {α : Type} {Item : α → List Word → Prop} {as bs : List α}
    (h : Many Item as ws) (h' : Many Item bs vs) : Many Item (as ++ bs) (ws ++ vs) := by
  induction h with
  | nil => exact h'
  | cons first _ ih =>
    rw [List.append_assoc]
    exact .cons first ih

theorem Modifiers.withAnnotations {ms : List Modifier} (h : Modifiers ms ws)
    (annotations : Annotations vs) : Modifiers ms (ws ++ vs) := by
  obtain ⟨items⟩ := h
  rename_i found
  obtain ⟨n, row⟩ := annotations
  -- among the modifiers an annotation is an item without a value
  have more : Many ModifierOrAnnotation (List.replicate n none) vs := by
    induction n generalizing vs with
    | zero =>
      cases row
      exact .nil
    | succ n ih =>
      cases row with
      | cons first more => exact .cons (.passed first) (ih more)
  have same : found.filterMap id = (found ++ List.replicate n none).filterMap id := by simp
  rw [same]
  exact ⟨items.append more⟩

/-- Modifiers start with one of their words, or there are none. -/
theorem Modifiers.notAt {ms : List Modifier} {ks : List Kind} (h : Modifiers ms ws)
    (sign : .atSign ∉ ks) (others : ∀ k ∈ ks, modifierOf? k = none) (behind : NotAt ks vs) :
    NotAt ks (ws ++ vs) := by
  obtain ⟨items⟩ := h
  cases items with
  | nil => exact behind
  | cons first _ =>
    rw [List.append_assoc]
    cases first with
    | modifier stands =>
      refine notAt_cons.mpr fun hk => ?_
      rw [others _ hk] at stands
      cases stands
    | passed h =>
      obtain ⟨a, us, rfl, hsign⟩ := h.starts
      exact notAt_cons.mpr (by rw [hsign]; exact sign)

theorem Annotations.notAt {ks : List Kind} (h : Annotations ws) (sign : .atSign ∉ ks)
    (behind : NotAt ks vs) : NotAt ks (ws ++ vs) := by
  rcases h.starts with rfl | ⟨a, us, rfl, hsign⟩
  · exact behind
  · exact notAt_cons.mpr (by rw [hsign]; exact sign)

/-- A type that is spelled by whole lexemes has its annotations before them. -/
theorem IsType.split {t : JavaType} (h : IsType t (unfused us)) :
    ∃ as vs, us = as ++ vs ∧ Annotations as ∧ BareType t (unfused vs) := by
  generalize spelled : unfused us = V at h
  obtain ⟨annotations, type⟩ := h
  obtain ⟨as, vs, rfl, annotations, left⟩ := annotations.of_unfused spelled
  exact ⟨as, vs, rfl, annotations, by rw [left]; exact type⟩

theorem Dimensions.eq_zero {n : Nat} (h : Dimensions n []) : n = 0 := by
  generalize none : ([] : List Word) = ds at h
  cases n with
  | zero => rfl
  | succ n =>
    cases h with
    | cons first _ =>
      obtain ⟨_, _⟩ := first
      cases none

/-- What a bare type is written with: a primitive keyword or a name, and behind it neither a name
nor a round bracket; and if nothing stands behind a name, then the type is just this name. -/
theorem BareType.shape {t : JavaType} (h : BareType t (unfused us)) :
    ∃ w vs, us = w :: vs ∧ startsType w.kind = true ∧ NotAt [.identifier, .lparen] vs ∧
      (vs = [] → w.kind = .identifier → t = .reference (.mk w.lexeme [] 0 noSpan)) := by
  generalize spelled : unfused us = V at h
  cases h with
  | @primitive w n ds keyword dims =>
    have start : startsType w.kind = true := Bool.or_eq_true_iff.mpr (.inl keyword)
    have other : w.kind ≠ .gt := fun hw => by rw [hw] at keyword; cases keyword
    obtain ⟨vs, rfl, left⟩ := unfused_eq_cons spelled other
    refine ⟨w, vs, rfl, start, NotAt.of_unfused (by rw [left]; exact dims.notAt (by decide))
      (by decide), fun _ name => ?_⟩
    rw [name] at keyword
    cases keyword
  | @named s ss n V₁ V₂ ds first more dims =>
    have behind : NotAt [.identifier, .lparen] (V₂ ++ ds) :=
      notAt_append (more.notAt (by decide)) (dims.notAt (by decide))
    cases first with
    | @plain w name =>
      obtain ⟨vs, rfl, left⟩ := unfused_eq_cons spelled (by rw [name]; decide)
      rw [List.append_eq, List.nil_append] at left
      refine ⟨w, vs, rfl, by rw [name]; rfl, NotAt.of_unfused (by rw [left]; exact behind)
        (by decide), fun none _ => ?_⟩
      rw [none, unfused_nil] at left
      obtain ⟨rfl, rfl⟩ := List.append_eq_nil_iff.mp left.symm
      cases more
      obtain rfl := dims.eq_zero
      rfl
    | @generic w lt ts V name opens arguments =>
      obtain ⟨vs, rfl, left⟩ := unfused_eq_cons spelled (by rw [name]; decide)
      obtain ⟨vs, rfl, _⟩ := unfused_eq_cons left (by rw [opens]; decide)
      exact ⟨w, _, rfl, by rw [name]; rfl, notAt_cons.mpr (by rw [opens]; decide),
        fun none _ => by cases none⟩

theorem BareType.isType {t : JavaType} {V : List Word} (h : BareType t V) : IsType t V :=
  .mk .nil h

theorem EndsModifiers.of_startsType {w : Word} (h : startsType w.kind = true) :
    EndsModifiers (w :: ws) :=
  .of_kind rfl (not_mem_of_starts h (by decide)) (modifierOf?_of_startsType h)

theorem IsParameter.notAt {p : Parameter} (h : IsParameter p ws) : NotAt [.rparen] (ws ++ vs) := by
  obtain ⟨modifiers, type, _, _, _, _⟩ := h
  obtain ⟨bs, us, rfl, inner, bare⟩ := type.split
  obtain ⟨u, us', rfl, start, _, _⟩ := bare.shape
  rw [List.append_assoc, List.append_assoc, List.append_assoc]
  refine modifiers.notAt (by decide) (by decide) (inner.notAt (by decide) ?_)
  exact notAt_cons.mpr (not_mem_of_starts start (by decide))

theorem MemberTail.ne_nil (h : MemberTail ws) : ws ≠ [] := by
  cases h with
  | body _ body =>
    obtain ⟨_, _, rfl, _⟩ := body.starts
    exact List.append_ne_nil_of_right_ne_nil _ (List.cons_ne_nil _ _)
  | semicolon _ _ => exact List.append_ne_nil_of_right_ne_nil _ (List.cons_ne_nil _ _)

theorem FieldTail.ne_nil (h : FieldTail ws) : ws ≠ [] := by
  cases h
  exact List.append_ne_nil_of_right_ne_nil _ (List.cons_ne_nil _ _)

/-- Types and result types start with an annotation, a primitive keyword, a name or `void`. -/
theorem Result.split {τ : Option JavaType} (h : Result τ rs) :
    ∃ as vs, rs = as ++ vs ∧ Annotations as ∧ Result τ vs ∧
      ((∃ w, vs = [w] ∧ w.kind = .kwVoid ∧ τ = none) ∨
        ∃ t, τ = some t ∧ BareType t (unfused vs)) := by
  cases h with
  | @void w keyword => 
    exact ⟨[], [w], rfl, .nil, .void keyword, .inl ⟨w, rfl, keyword, rfl⟩⟩
  | @type t us type =>
    obtain ⟨as, vs, rfl, annotations, bare⟩ := type.split
    exact ⟨as, vs, rfl, annotations, .type bare.isType, .inr ⟨t, rfl, bare⟩⟩

end Grammar

namespace Reading

open Grammar

/-! ## Parameters -/

theorem reads_parameter {p : Parameter} (h : IsParameter p ws) (behind : NotAt [.lbracket] vs) :
    Reads (past parameter) (ws ++ vs) p vs := by
  obtain ⟨modifiers, type, annotations, ellipsis, name, dims⟩ := h
  rename_i ms t varargs w n ws us as es ds
  obtain ⟨bs, us, rfl, inner, bare⟩ := type.split
  obtain ⟨u, us', rfl, start, _, _⟩ := bare.shape
  have named : NotAt (.atSign :: annotationEnds) (w :: (ds ++ vs)) :=
    notAt_cons.mpr (by rw [name]; decide)
  have dotted : NotAt (.atSign :: annotationEnds) (es ++ w :: (ds ++ vs)) := by
    cases ellipsis with
    | absent => exact named
    | present dots => exact notAt_cons.mpr (by rw [dots]; decide)
  have annotated : NotAt typeEnds (as ++ (es ++ w :: (ds ++ vs))) := by
    refine annotations.notAt (by decide) ?_
    cases ellipsis with
    | absent => exact notAt_cons.mpr (by rw [name]; decide)
    | present dots => exact notAt_cons.mpr (by rw [dots]; decide)
  have same : (ws ++ ((bs ++ u :: us') ++ (as ++ (es ++ w :: ds)))) ++ vs =
      (ws ++ bs) ++ ((u :: us') ++ (as ++ (es ++ w :: (ds ++ vs)))) := by simp
  rw [same, past_parameter]
  refine (reads_look (location_ofWords _)).bind ?_
  refine (reads_modifiers (modifiers.withAnnotations inner) (.of_startsType start)).bind ?_
  refine (reads_completeType bare.isType annotated).bind ?_
  refine (reads_annotations annotations dotted).bind ?_
  have noDots : NotAt [.ellipsis] (w :: (ds ++ vs)) := notAt_cons.mpr (by rw [name]; decide)
  refine (reads_optional ellipsis noDots (List.mem_singleton.mpr rfl)).bind ?_
  refine (reads_identifier name).bind ?_
  refine (reads_dimensions dims behind).bind ?_
  exact (reads_look (a := noSpan) rfl).bind (reads_pure _)

theorem reads_parameters {ps : List Parameter} {r : Word} (h : Parameters ps ws)
    (closes : r.kind = .rparen) : Reads (past parameters) (ws ++ r :: vs) ps vs := by
  have closed : NotAt [.lbracket, .comma] (r :: vs) := notAt_cons.mpr (by rw [closes]; decide)
  rw [past_parameters]
  cases h with
  | none => exact (reads_accept closes).bind (reads_pure _)
  | some list =>
    have starts : NotAt [.rparen] (ws ++ r :: vs) := by
      cases list with
      | one last => exact last.notAt
      | cons first _ _ =>
        rw [List.append_assoc]
        exact first.notAt
    refine (reads_accept_none starts (List.mem_singleton.mpr rfl)).bind ?_
    have items : Reads (past (separated .comma parameterItem)) (ws ++ r :: vs) (ps, 0) (r :: vs) := by
      refine reads_separated (NotAt [.lbracket]) list (fun p ws vs h behind => ?_)
        (fun s vs separates => ?_) (closed.mono (by decide)) (closed.mono (by decide))
      · rw [past_parameterItem]
        exact (reads_parameter h behind).bind (reads_pure _)
      · exact notAt_cons.mpr (by rw [separates]; decide)
    exact items.bind ((reads_expect closes).bind (reads_pure _))

/-! ## What is passed -/

/-- Parts of words are passed, each a word that is not barred or a group. -/
theorem reads_shielded {f : (c : Cursor) → Except ParseError (Option (Past c Unit))}
    {groups : List (Kind × Kind)} {barred : List Kind} {ks : List Kind}
    (h : Shielded groups barred ks)
    (token : ∀ w vs, w.kind ∉ barred → (∀ g ∈ groups, w.kind ≠ g.1) →
      Reads (step f) (w :: vs) (some ()) vs)
    (group : ∀ g ∈ groups, ∀ ws vs, Group g.1 g.2 ws → Reads (step f) (ws ++ vs) (some ()) vs)
    (last : Reads (step f) vs none vs) (spelled : ws.map Word.kind = ks) :
    ∃ us, Reads (onward (many f)) (ws ++ vs) us vs := by
  -- one round of the loop for each single token, and one for each group
  induction h generalizing ws with
  | nil =>
    obtain rfl := List.map_eq_nil_iff.mp spelled
    exact ⟨[], reads_many_nil last⟩
  | token free single _ ih =>
    obtain ⟨w, ws, rfl, rfl, others⟩ := List.map_eq_cons_iff.mp spelled
    obtain ⟨us, more⟩ := ih others
    exact ⟨_, reads_many_cons (token w _ free single) more⟩
  | @group g inner ks known enclosed _ ih =>
    obtain ⟨o, ws, rfl, opens, opened⟩ := List.map_eq_cons_iff.mp spelled
    obtain ⟨ws₁, ws, rfl, rfl, inside⟩ := List.map_eq_append_iff.mp opened
    obtain ⟨c, ws₂, rfl, closes, others⟩ := List.map_eq_cons_iff.mp inside
    obtain ⟨us, more⟩ := ih others
    have first := group g known (o :: (ws₁ ++ [c])) (ws₂ ++ vs) ⟨opens, closes, enclosed⟩
    have same : (o :: (ws₁ ++ [c])) ++ (ws₂ ++ vs) = (o :: (ws₁ ++ c :: ws₂)) ++ vs := by simp
    rw [same] at first
    exact ⟨_, reads_many_cons first more⟩

theorem shielded_of_free {barred ks : List Kind} (h : ∀ k ∈ ks, k ∉ barred) :
    Shielded [] barred ks := by
  induction ks with
  | nil => exact .nil
  | cons k ks ih =>
    exact .token (h k (List.mem_cons_self ..)) (fun _ hg => absurd hg List.not_mem_nil)
      (ih fun k hk => h k (List.mem_cons_of_mem _ hk))

theorem reads_pass {w : Word} : Reads pass (w :: ws) (some ()) ws :=
  reads_first.bind (reads_pure _)

theorem reads_headerTail {l : Word} (h : HeaderTail ws) (opens : l.kind = .lbrace) :
    Reads (onward headerTail) (ws ++ l :: vs) () (l :: vs) := by
  have parts : ∃ us, Reads (onward (many headerPart?)) (ws ++ l :: vs) us (l :: vs) := by
    refine reads_shielded h (fun w vs free single => ?_) (fun g known ws vs group => ?_) ?_ rfl
    · rw [step_headerPart?]
      refine reads_byHead ?_
      rw [Word.token_kind, if_neg (fun hw => free (by rw [hw]; decide)),
        if_neg (single _ (List.mem_singleton.mpr rfl))]
      exact reads_pass
    · obtain rfl := List.mem_singleton.mp known
      obtain ⟨w, us, rfl, opens⟩ := group.starts
      rw [step_headerPart?]
      refine reads_byHead ?_
      rw [Word.token_kind, if_neg (by rw [opens]; decide), if_pos opens]
      exact (reads_group (by decide) group).bind (reads_pure _)
    · rw [step_headerPart?]
      refine reads_byHead ?_
      rw [Word.token_kind, if_pos opens]
      exact reads_pure _
  obtain ⟨us, parts⟩ := parts
  rw [onward_headerTail]
  refine parts.bind ((reads_look (a := some Kind.lbrace) ?_).bind (reads_pure _))
  rw [kind?_ofWords]
  exact congrArg some opens

theorem reads_memberPart {w : Word} (free : w.kind ∉ [.lbrace, .semicolon]) :
    Reads (step memberPart?) (w :: ws) (some ()) ws := by
  rw [step_memberPart?]
  refine reads_byHead ?_
  rw [Word.token_kind, if_neg (fun hw => free (by rw [hw]; decide)),
    if_neg (fun hw => free (by rw [hw]; decide))]
  exact reads_pass

theorem reads_memberPart_none {w : Word} (ends : w.kind = .lbrace ∨ w.kind = .semicolon) :
    Reads (step memberPart?) (w :: ws) none (w :: ws) := by
  rw [step_memberPart?]
  refine reads_byHead ?_
  rw [Word.token_kind]
  rcases ends with ends | ends
  · rw [if_pos ends]
    exact reads_pure _
  · rw [if_neg (by rw [ends]; decide), if_pos ends]
    exact reads_pure _

theorem reads_memberTail (h : MemberTail ws) : Reads (past memberTail) (ws ++ vs) () vs := by
  have parts : ∀ {ws : List Word} {w : Word} (us : List Word), (∀ w ∈ ws, w.kind ∉ [.lbrace, .semicolon]) →
      (w.kind = .lbrace ∨ w.kind = .semicolon) →
      ∃ units, Reads (onward (many memberPart?)) (ws ++ w :: us) units (w :: us) := by
    intro ws w us free ends
    have shielded : Shielded [] [.lbrace, .semicolon] (ws.map Word.kind) :=
      shielded_of_free (List.forall_mem_map.mpr free)
    exact reads_shielded shielded (fun w vs free _ => reads_memberPart free)
      (fun g hg => absurd hg List.not_mem_nil) (reads_memberPart_none ends) rfl
  rw [past_memberTail]
  cases h with
  | body free body =>
    obtain ⟨w, us, rfl, opens⟩ := body.starts
    rw [List.append_assoc]
    obtain ⟨units, passed⟩ := parts (us ++ vs) free (.inl opens)
    refine passed.bind ((reads_look (a := some Kind.lbrace) ?_).bind ?_)
    · rw [kind?_ofWords]
      exact congrArg some opens
    · rw [if_pos rfl]
      exact reads_group (by decide) body
  | @semicolon _ s free ends =>
    rw [List.append_assoc]
    obtain ⟨units, passed⟩ := parts vs free (.inr ends)
    refine passed.bind ((reads_look (a := some Kind.semicolon) ?_).bind ?_)
    · rw [kind?_ofWords]
      exact congrArg some ends
    · rw [if_neg (by decide)]
      exact (reads_expect ends).bind (reads_pure _)

theorem reads_fieldTail (h : FieldTail ws) : Reads (past fieldTail) (ws ++ vs) () vs := by
  obtain ⟨shielded, ends⟩ := h
  rename_i ws s
  have parts : ∃ us, Reads (onward (many fieldPart?)) (ws ++ s :: vs) us (s :: vs) := by
    refine reads_shielded shielded (fun w vs free single => ?_) (fun g known ws vs group => ?_) ?_
      rfl
    · rw [step_fieldPart?]
      refine reads_byHead ?_
      rw [Word.token_kind, if_neg (fun hw => free (by rw [hw]; decide)),
        if_neg (single (.lbrace, .rbrace) (by decide)),
        if_neg (single (.lparen, .rparen) (by decide))]
      exact reads_pass
    · obtain ⟨w, us, rfl, opens⟩ := group.starts
      rw [step_fieldPart?]
      refine reads_byHead ?_
      rw [Word.token_kind]
      rcases List.mem_pair.mp known with rfl | rfl
      · rw [if_neg (by rw [opens]; decide), if_pos opens]
        exact (reads_group (by decide) group).bind (reads_pure _)
      · rw [if_neg (by rw [opens]; decide), if_neg (by rw [opens]; decide), if_pos opens]
        exact (reads_group (by decide) group).bind (reads_pure _)
    · rw [step_fieldPart?]
      refine reads_byHead ?_
      rw [Word.token_kind, if_pos ends]
      exact reads_pure _
  obtain ⟨us, parts⟩ := parts
  rw [List.append_assoc, past_fieldTail]
  exact parts.bind ((reads_expect ends).bind (reads_pure _))

/-! ## Nested types -/

theorem reads_typeKeyword_class {w : Word} (h : w.kind = .kwClass) :
    Reads (option typeKeyword) (w :: ws) (some .ofClass) ws := by
  rw [option_typeKeyword]
  refine reads_byHead ?_
  rw [Word.token_kind, h]
  exact reads_first.bind (reads_pure _)

theorem reads_typeKeyword_header {kind : HeaderKind} {w : Word} (h : HeaderKeyword kind ws)
    (name : w.kind = .identifier) :
    Reads (option typeKeyword) (ws ++ w :: vs) (some (.ofHeader kind)) (w :: vs) := by
  rw [option_typeKeyword]
  cases h with
  | interface h =>
    refine reads_byHead ?_
    rw [Word.token_kind, h]
    exact reads_first.bind (reads_pure _)
  | enum h =>
    refine reads_byHead ?_
    rw [Word.token_kind, h]
    exact reads_first.bind (reads_pure _)
  | record h spelled =>
    refine reads_byHead ?_
    rw [Word.token_kind, h]
    refine (reads_look (a := true) ?_).bind ?_
    · simp [atPair, kind?_ofWords, secondKind?_ofWords, h, name]
    · rw [if_pos (by rw [Word.token_lexeme, spelled]; rfl)]
      exact reads_first.bind (reads_pure _)
  | annotationType sign h =>
    refine reads_byHead ?_
    rw [Word.token_kind, sign]
    refine (reads_look (a := true) ?_).bind ?_
    · simp [atPair, kind?_ofWords, secondKind?_ofWords, h, sign]
    · exact reads_first.bind (reads_first.bind (reads_pure _))

theorem reads_typeKeyword {w : Word} (vs : List Word) (h : TypeKeyword ws)
    (name : w.kind = .identifier) :
    ∃ introduced, Reads (option typeKeyword) (ws ++ w :: vs) (some introduced) (w :: vs) := by
  cases h with
  | ofClass h => exact ⟨_, reads_typeKeyword_class h⟩
  | ofHeader h => exact ⟨_, reads_typeKeyword_header h name⟩

theorem reads_passedType {n : String} (h : PassedType n ws) :
    Reads (past passedType) (ws ++ vs) n vs := by
  obtain ⟨name, header, body⟩ := h
  rename_i w hs bs
  obtain ⟨l, bs', rfl, opens⟩ := body.starts
  rw [past_passedType, List.cons_append, List.append_assoc]
  refine (reads_identifier name).bind ?_
  rw [List.cons_append]
  refine (reads_headerTail header opens).bind ?_
  exact (reads_group (by decide) body).bind (reads_pure _)

end Reading

/-! ## Where members start -/

namespace Grammar

/-- Does a member that is no initializer and no type start with a word of this kind, after its
modifiers? -/
def startsPlain (k : Kind) : Bool := startsType k || k = .lt || k = .kwVoid

/-- A member that is no initializer and no type starts here, after its modifiers. -/
structure Plain (ws : List Word) : Prop where
  starts : ∃ w vs, ws = w :: vs ∧ startsPlain w.kind = true
  /-- It is no record either. -/
  noRecord : ∀ w vs, ws = w :: vs → w.kind = .identifier → w.lexeme = "record" →
    NotAt [.identifier] vs

theorem modifierOf?_of_startsPlain {k : Kind} (h : startsPlain k = true) :
    modifierOf? k = none := by
  cases k <;> first | rfl | cases h

theorem Plain.notAt {ks : List Kind} (h : Plain ws) (others : ∀ k ∈ ks, startsPlain k = false) :
    NotAt ks ws := by
  obtain ⟨w, vs, rfl, start⟩ := h.starts
  exact notAt_cons.mpr (not_mem_of_starts start others)

theorem Plain.endsModifiers (h : Plain ws) : EndsModifiers ws := by
  obtain ⟨w, vs, rfl, start⟩ := h.starts
  exact .of_kind rfl (not_mem_of_starts start (by decide)) (modifierOf?_of_startsPlain start)

/-- What starts with something other than a name is no record. -/
theorem Plain.of_kind {w : Word} (start : startsPlain w.kind = true)
    (other : w.kind ≠ .identifier) : Plain (w :: ws) where
  starts := ⟨w, ws, rfl, start⟩
  noRecord := by
    rintro _ _ ⟨⟩ name _
    exact absurd name other

theorem Plain.of_second {w v : Word} (start : startsPlain w.kind = true)
    (other : v.kind ≠ .identifier) : Plain (w :: v :: ws) where
  starts := ⟨w, v :: ws, rfl, start⟩
  noRecord := by
    rintro _ _ ⟨⟩ _ _
    exact notAt_cons.mpr fun h => other (List.mem_singleton.mp h)

theorem TypeKeyword.notAt {ks : List Kind} (h : TypeKeyword ws)
    (other : ∀ k ∈ [Kind.kwClass, .kwInterface, .kwEnum, .identifier, .atSign], k ∉ ks) :
    NotAt ks (ws ++ vs) := by
  obtain ⟨h⟩ | ⟨⟨h⟩ | ⟨h⟩ | ⟨h⟩ | ⟨h, _⟩⟩ := h <;>
    exact notAt_cons.mpr (by rw [h]; exact other _ (by decide))

theorem TypeKeyword.endsModifiers (h : TypeKeyword ws) : EndsModifiers (ws ++ vs) := by
  obtain ⟨h⟩ | ⟨⟨h⟩ | ⟨h⟩ | ⟨h⟩ | ⟨sign, h⟩⟩ := h
  · exact .of_kind h (by decide) rfl
  · exact .of_kind h (by decide) rfl
  · exact .of_kind h (by decide) rfl
  · exact .of_kind h (by decide) rfl
  · refine ⟨notAt_cons.mpr (by rw [sign]; decide), ?_, ?_⟩
    · rintro _ ⟨⟩
      rw [sign]
      rfl
    · unfold atAnnotation
      rw [kind?_ofWords, secondKind?_ofWords]
      simp [h]

theorem TypeParameters.starts {ns : List String} (h : TypeParameters ns us) :
    us = [] ∨ ∃ lt vs, us = lt :: vs ∧ lt.kind = .lt := by
  cases h with
  | none => exact .inl rfl
  | some opens _ spelled =>
    obtain ⟨vs, rfl, _⟩ := unfused_eq_cons spelled (by rw [opens]; decide)
    exact .inr ⟨_, _, rfl, opens⟩

/-- A type other than the bare name `record`. -/
def NotBareRecord (t : JavaType) : Prop := t ≠ .reference (.mk "record" [] 0 noSpan)

/-- A type before a name starts a member, unless it is the bare name `record`. -/
theorem BareType.plain {t : JavaType} {w : Word} (h : BareType t (unfused us))
    (other : NotBareRecord t) : Plain (us ++ w :: vs) := by
  obtain ⟨u, us, rfl, start, behind, single⟩ := h.shape
  refine ⟨⟨u, us ++ w :: vs, rfl, by unfold startsPlain; rw [start]; rfl⟩, ?_⟩
  rintro _ _ ⟨⟩ name spelled
  cases us with
  | nil =>
    have bare := single rfl name
    rw [spelled] at bare
    exact absurd bare other
  | cons v us => exact behind.mono (by decide)

theorem BareType.notAt {t : JavaType} (h : BareType t (unfused us)) {ks : List Kind}
    (others : ∀ k ∈ ks, startsType k = false) : NotAt ks (us ++ vs) := by
  obtain ⟨u, us, rfl, start, _, _⟩ := h.shape
  exact notAt_cons.mpr (not_mem_of_starts start others)

theorem noConstructor_of_notAt (h : NotAt [.identifier] ws) :
    (ofWords ws).atConstructor = false := by
  unfold Cursor.atConstructor
  rw [decide_eq_false (h.kind?_ne (List.mem_singleton.mpr rfl)), Bool.false_and]

/-- A type before a name is no constructor. -/
theorem BareType.atConstructor {t : JavaType} {w : Word} (h : BareType t (unfused us))
    (name : w.kind = .identifier) : (ofWords (us ++ w :: vs)).atConstructor = false := by
  obtain ⟨u, us, rfl, start, behind, _⟩ := h.shape
  have second : (ofWords (u :: us ++ w :: vs)).secondKind? ≠ some .lparen := by
    rw [secondKind?_ofWords]
    cases us with
    | nil => simp [name]
    | cons v us =>
      intro hv
      exact notAt_cons.mp behind (by rw [Option.some.inj hv]; decide)
  unfold Cursor.atConstructor
  rw [decide_eq_false second, Bool.and_false]

theorem Result.atConstructor {τ : Option JavaType} {w : Word} (h : Result τ rs)
    (name : w.kind = .identifier) : (ofWords (rs ++ w :: vs)).atConstructor = false := by
  obtain ⟨as, rs, rfl, annotations, _, bare⟩ := h.split
  rcases annotations.starts with rfl | ⟨a, as, rfl, sign⟩
  · rcases bare with ⟨v, rfl, keyword, _⟩ | ⟨t, rfl, bare⟩
    · exact noConstructor_of_notAt (notAt_cons.mpr (by rw [keyword]; decide))
    · exact bare.atConstructor name
  · exact noConstructor_of_notAt (notAt_cons.mpr (by rw [sign]; decide))

end Grammar

namespace Reading

open Grammar

theorem reads_typeKeyword_none (h : Plain ws) : Reads (option typeKeyword) ws none ws := by
  obtain ⟨w, vs, rfl, start⟩ := h.starts
  rw [option_typeKeyword]
  refine reads_byHead ?_
  have other : ∀ k, startsPlain k = false → w.kind ≠ k := fun k hk hw => by
    rw [hw, hk] at start
    cases start
  rw [Word.token_kind]
  split
  · next hw => exact absurd hw (other _ rfl)
  · next hw => exact absurd hw (other _ rfl)
  · next hw => exact absurd hw (other _ rfl)
  · next hw => exact absurd hw (other _ rfl)
  · next hw =>
    refine (reads_look rfl).bind ?_
    split
    · next both =>
      obtain ⟨spelled, second⟩ := Bool.and_eq_true_iff.mp both
      have behind := h.noRecord w vs rfl hw (of_decide_eq_true spelled)
      unfold atPair at second
      rw [secondKind?_ofWords] at second
      have next : vs.head?.map Word.kind = some .identifier :=
        of_decide_eq_true (Bool.and_eq_true_iff.mp second).2
      obtain ⟨v, hv, name⟩ := Option.map_eq_some_iff.mp next
      exact absurd (List.mem_singleton.mpr name) (behind v hv)
    · exact reads_pure _
  · exact reads_pure _

/-! ## Members -/

theorem reads_resultType {τ : Option JavaType} (h : Result τ rs) (behind : NotAt typeEnds ws) :
    Reads (past resultType) (rs ++ ws) τ ws := by
  rw [past_resultType]
  cases h with
  | void keyword => exact (reads_accept keyword).bind (reads_pure _)
  | type type =>
    have noVoid : NotAt [.kwVoid] (rs ++ ws) := by
      obtain ⟨as, us, rfl, annotations, bare⟩ := type.split
      rw [List.append_assoc]
      exact annotations.notAt (by decide) (bare.notAt (by decide))
    refine (reads_accept_none noVoid (List.mem_singleton.mpr rfl)).bind ?_
    exact (reads_completeType type behind).bind (reads_pure _)

theorem reads_dimensioned {τ : Option JavaType} {n : Nat} (void : τ = none → n = 0) :
    Reads (dimensioned τ n) ws (τ.map (·.addDimensions n)) ws := by
  unfold Reads
  rw [run_dimensioned]
  cases τ with
  | none =>
    rw [void rfl]
    rfl
  | some t => rfl

theorem reads_methodTail {τ : Option JavaType} {ps : List Parameter} {r : Word} {n : Nat}
    {qs ds : List Word} (parameters : Parameters ps qs) (closes : r.kind = .rparen)
    (dims : Dimensions n ds) (void : τ = none → n = 0) (tail : MemberTail ws)
    (behind : NotAt [.lbracket] ws) :
    Reads (past (methodTail τ)) (qs ++ r :: (ds ++ (ws ++ vs)))
      (ps, τ.map (·.addDimensions n)) vs := by
  have next : NotAt [.lbracket] (ws ++ vs) := behind.append tail.ne_nil
  rw [past_methodTail]
  refine (reads_parameters parameters closes).bind ?_
  refine (reads_dimensions dims next).bind ?_
  refine (reads_dimensioned void).bind ?_
  exact (reads_memberTail tail).bind (reads_pure _)

theorem reads_method {ms : List Modifier} {ns : List String} {τ : Option JavaType} {w l : Word}
    {ps : List Parameter} (result : Result τ rs) (name : w.kind = .identifier)
    (opens : l.kind = .lparen) {σ : Option JavaType}
    (tail : Reads (past (methodTail τ)) ws (ps, σ) vs) :
    Reads (past (fieldOrMethod .start ms ns)) (rs ++ w :: l :: ws)
      (some ⟨ms, ns, σ, w.lexeme, ps, noSpan⟩) vs := by
  rw [past_fieldOrMethod]
  refine (reads_resultType result (notAt_cons.mpr (by rw [name]; decide))).bind ?_
  refine (reads_identifier name).bind ?_
  refine (reads_accept opens).bind ?_
  exact tail.bind ((reads_look (a := noSpan) rfl).bind (reads_pure _))

theorem reads_field {ms : List Modifier} {ns : List String} {t : JavaType} {w : Word}
    (type : IsType t (unfused us)) (name : w.kind = .identifier) (tail : FieldTail ws)
    (initial : NotAt [.lparen] ws) :
    Reads (past (fieldOrMethod .start ms ns)) (us ++ w :: (ws ++ vs)) none vs := by
  have next : NotAt [.lparen] (ws ++ vs) := initial.append tail.ne_nil
  rw [past_fieldOrMethod]
  refine (reads_resultType (.type type) (notAt_cons.mpr (by rw [name]; decide))).bind ?_
  refine (reads_identifier name).bind ?_
  refine (reads_accept_none next (List.mem_singleton.mpr rfl)).bind ?_
  exact (reads_fieldTail tail).bind (reads_pure _)

theorem reads_constructor {w : Word} {gs : List Word} (name : w.kind = .identifier)
    (parameters : Group .lparen .rparen gs) (tail : MemberTail ws) :
    Reads (past constructor) (w :: (gs ++ (ws ++ vs))) () vs := by
  rw [past_constructor]
  refine (reads_identifier name).bind ?_
  exact (reads_group (by decide) parameters).bind (reads_memberTail tail)

/-- A member that starts with a type, after its type parameters. -/
theorem reads_plainMember {ms : List Modifier} {ns : List String} {m : Option Method}
    (typeParameters : TypeParameters ns us) (noAngle : us = [] → NotAt [.lt] ws)
    (noConstructor : (ofWords ws).atConstructor = false)
    (h : Reads (past (fieldOrMethod .start ms ns)) ws m vs) :
    Reads (past (plainMember .start ms)) (us ++ ws) m vs := by
  rw [past_plainMember]
  refine (reads_typeParameters typeParameters noAngle).bind ?_
  exact (reads_look noConstructor).bind h

theorem reads_plainConstructor {ms : List Modifier} {ns : List String} {w : Word} {gs : List Word}
    (typeParameters : TypeParameters ns us) (name : w.kind = .identifier)
    (parameters : Group .lparen .rparen gs) (tail : MemberTail ws) :
    Reads (past (plainMember .start ms)) (us ++ w :: (gs ++ (ws ++ vs))) none vs := by
  rw [past_plainMember]
  refine (reads_typeParameters typeParameters fun _ =>
    notAt_cons.mpr (by rw [name]; decide)).bind ?_
  refine (reads_look (a := true) ?_).bind ?_
  · obtain ⟨l, gs, rfl, opens⟩ := parameters.starts
    simp [atConstructor, kind?_ofWords, secondKind?_ofWords, name, opens]
  · exact (reads_constructor name parameters tail).bind (reads_pure _)

/-- A member that is no initializer and no type. -/
theorem reads_member {ms : List Modifier} {m : Option Method} (modifiers : Modifiers ms ws)
    (plain : Plain us) (h : Reads (past (plainMember .start ms)) us m vs) :
    Reads (past member) (ws ++ us) m vs := by
  have noBrace : NotAt [.lbrace] us := plain.notAt (by decide)
  rw [past_member]
  refine (reads_look (location_ofWords _)).bind ?_
  refine (reads_modifiers modifiers plain.endsModifiers).bind ?_
  refine (reads_look rfl).bind ?_
  rw [if_neg (noBrace.kind?_ne (List.mem_singleton.mpr rfl))]
  exact (reads_typeKeyword_none plain).bind h

/-- What is no semicolon and does not end the class is a member. -/
theorem reads_memberStep {m : Option Method} (starts : NotAt [.rbrace, .semicolon] ws)
    (h : Reads (past member) ws m vs) : Reads (step memberOrSemicolon?) ws (some m) vs := by
  rw [step_memberOrSemicolon?]
  cases ws with
  | nil =>
    unfold Reads at h
    have := past_lt h
    exact absurd this (Nat.not_lt_zero _)
  | cons w ws =>
    have other := notAt_cons.mp starts
    refine reads_byHead ?_
    rw [Word.token_kind, if_neg (fun hw => other (by rw [hw]; decide)),
      if_neg (fun hw => other (by rw [hw]; decide))]
    exact h.bind (reads_pure _)

/-- A member that is no initializer and no type, after its modifiers. -/
theorem reads_plainStep {ms : List Modifier} {m : Option Method} (modifiers : Modifiers ms ws)
    (plain : Plain us) (h : Reads (past (plainMember .start ms)) us m vs) :
    Reads (step memberOrSemicolon?) (ws ++ us) (some m) vs :=
  reads_memberStep (modifiers.notAt (by decide) (by decide) (plain.notAt (by decide)))
    (reads_member modifiers plain h)

theorem reads_initializer {ms : List Modifier} (modifiers : Modifiers ms ws)
    (body : Group .lbrace .rbrace us) :
    Reads (step memberOrSemicolon?) (ws ++ (us ++ vs)) (some none) vs := by
  have ends : EndsModifiers (us ++ vs) := by
    obtain ⟨l, us, rfl, opens⟩ := body.starts
    exact .of_kind opens (by decide) rfl
  refine reads_memberStep (modifiers.notAt (by decide) (by decide) (body.notAt (by decide))) ?_
  rw [past_member]
  refine (reads_look (location_ofWords _)).bind ?_
  refine (reads_modifiers modifiers ends).bind ?_
  refine (reads_look body.kind?).bind ?_
  rw [if_pos rfl]
  exact (reads_group (by decide) body).bind (reads_pure _)

theorem reads_nestedType {ms : List Modifier} {n : String} {ks : List Word}
    (modifiers : Modifiers ms ws) (keyword : TypeKeyword ks) (declared : PassedType n us) :
    Reads (step memberOrSemicolon?) (ws ++ (ks ++ (us ++ vs))) (some none) vs := by
  have named : ∃ w us', us = w :: us' ∧ w.kind = .identifier := by
    obtain ⟨name, _, _⟩ := declared
    exact ⟨_, _, rfl, name⟩
  obtain ⟨w, us, rfl, name⟩ := named
  have noBrace : NotAt [.lbrace, .rbrace, .semicolon] (ks ++ (w :: us ++ vs)) :=
    keyword.notAt (by decide)
  refine reads_memberStep (modifiers.notAt (by decide) (by decide) (noBrace.mono (by decide))) ?_
  obtain ⟨introduced, introduces⟩ := reads_typeKeyword (us ++ vs) keyword name
  rw [past_member]
  refine (reads_look (location_ofWords _)).bind ?_
  refine (reads_modifiers modifiers keyword.endsModifiers).bind ?_
  refine (reads_look rfl).bind ?_
  rw [if_neg (noBrace.kind?_ne (by decide))]
  refine introduces.bind ?_
  exact (reads_passedType declared).bind (reads_pure _)

theorem reads_fieldStep {ms : List Modifier} {t : JavaType} {w : Word} {fs : List Word}
    (modifiers : Modifiers ms ws) (type : IsType t (unfused us)) (leading : NotBareRecord t)
    (name : w.kind = .identifier) (tail : FieldTail fs) (initial : NotAt [.lparen] fs) :
    Reads (step memberOrSemicolon?) (ws ++ (us ++ w :: (fs ++ vs))) (some none) vs := by
  obtain ⟨as, us, rfl, annotations, bare⟩ := type.split
  have same : ws ++ ((as ++ us) ++ w :: (fs ++ vs)) =
      (ws ++ as) ++ ([] ++ (us ++ w :: (fs ++ vs))) := by simp
  rw [same]
  refine reads_plainStep (modifiers.withAnnotations annotations) (bare.plain leading) ?_
  exact reads_plainMember .none (fun _ => bare.notAt (by decide)) (bare.atConstructor name)
    (reads_field bare.isType name tail initial)

theorem reads_constructorStep {ms : List Modifier} {ns : List String} {w : Word} {gs fs : List Word}
    (modifiers : Modifiers ms ws) (typeParameters : TypeParameters ns us)
    (name : w.kind = .identifier) (parameters : Group .lparen .rparen gs) (tail : MemberTail fs) :
    Reads (step memberOrSemicolon?) (ws ++ (us ++ w :: (gs ++ (fs ++ vs)))) (some none) vs := by
  refine reads_plainStep modifiers ?_ (reads_plainConstructor typeParameters name parameters tail)
  rcases typeParameters.starts with rfl | ⟨lt, us, rfl, angle⟩
  · obtain ⟨l, gs, rfl, opens⟩ := parameters.starts
    exact .of_second (by rw [name]; rfl) (by rw [opens]; decide)
  · exact .of_kind (by rw [angle]; rfl) (by rw [angle]; decide)

/-- A method is read when what follows its opening bracket is. -/
theorem reads_methodStep {ms : List Modifier} {ns : List String} {τ σ : Option JavaType}
    {w l : Word} {ps : List Parameter} {qs : List Word} (modifiers : Modifiers ms ws)
    (typeParameters : TypeParameters ns us) (result : Result τ rs)
    (leading : us = [] → ∀ t ∈ τ, NotBareRecord t) (name : w.kind = .identifier)
    (opens : l.kind = .lparen) (tail : Reads (past (methodTail τ)) qs (ps, σ) vs) :
    Reads (step memberOrSemicolon?) (ws ++ (us ++ (rs ++ w :: l :: qs)))
      (some (some ⟨ms, ns, σ, w.lexeme, ps, noSpan⟩)) vs := by
  rcases typeParameters.starts with rfl | ⟨lt, us, rfl, angle⟩
  · -- without type parameters the annotations of the result are read with the modifiers
    obtain ⟨as, rs, rfl, annotations, result, bare⟩ := result.split
    have starts : Plain (rs ++ w :: l :: qs) ∧ NotAt [.lt] (rs ++ w :: l :: qs) := by
      rcases bare with ⟨v, rfl, keyword, _⟩ | ⟨t, rfl, bare⟩
      · exact ⟨.of_kind (by rw [keyword]; rfl) (by rw [keyword]; decide),
          notAt_cons.mpr (by rw [keyword]; decide)⟩
      · exact ⟨bare.plain (leading rfl t rfl), bare.notAt (by decide)⟩
    have same : ws ++ ([] ++ ((as ++ rs) ++ w :: l :: qs)) =
        (ws ++ as) ++ ([] ++ (rs ++ w :: l :: qs)) := by simp
    rw [same]
    exact reads_plainStep (modifiers.withAnnotations annotations) starts.1
      (reads_plainMember typeParameters (fun _ => starts.2) (result.atConstructor name)
        (reads_method result name opens tail))
  · refine reads_plainStep modifiers ?_ (reads_plainMember typeParameters
      (fun none => by cases none) (result.atConstructor name) (reads_method result name opens tail))
    exact .of_kind (by rw [angle]; rfl) (by rw [angle]; decide)

/-- Every member is read through its end. -/
theorem reads_memberOrSemicolon {m : Option Method} (h : Member NotBareRecord m ws) :
    Reads (step memberOrSemicolon?) (ws ++ vs) (some m) vs := by
  cases h with
  | semicolon h =>
    rw [step_memberOrSemicolon?]
    refine reads_byHead ?_
    rw [Word.token_kind, if_neg (by rw [h]; decide), if_pos h]
    exact reads_first.bind (reads_pure _)
  | initializer modifiers body =>
    rw [List.append_assoc]
    exact reads_initializer modifiers body
  | nestedType modifiers keyword declared =>
    rw [List.append_assoc, List.append_assoc]
    exact reads_nestedType modifiers keyword declared
  | field modifiers type leading name tail initial =>
    rw [List.append_assoc, List.append_assoc, List.cons_append]
    exact reads_fieldStep modifiers type leading name tail initial
  | constructor modifiers typeParameters name parameters tail =>
    rw [List.append_assoc, List.append_assoc, List.cons_append, List.append_assoc]
    exact reads_constructorStep modifiers typeParameters name parameters tail
  | method modifiers typeParameters result leading name opens parameters closes dims void tail
      behind =>
    simp only [List.append_assoc, List.cons_append]
    exact reads_methodStep modifiers typeParameters result leading name opens
      (reads_methodTail parameters closes dims void tail behind)

theorem reads_members {found : List (Option Method)} {r : Word}
    (h : Many (Member NotBareRecord) found ws) (closes : r.kind = .rbrace) :
    Reads (past members) (ws ++ r :: vs) (found.filterMap id) vs := by
  rw [past_members]
  have last : Reads (step memberOrSemicolon?) (r :: vs) none (r :: vs) := by
    rw [step_memberOrSemicolon?]
    refine reads_byHead ?_
    rw [Word.token_kind, if_pos closes]
    exact reads_pure _
  have loop := reads_many (fun _ => True) h (fun _ _ _ h _ => reads_memberOrSemicolon h)
    (fun _ _ _ _ => trivial) trivial last
  exact loop.bind ((reads_expect closes).bind (reads_pure _))

end Reading

end JavaStub
