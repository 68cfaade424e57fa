import JavaStub.Proofs.Completeness.Angles

/-!
# Reading types

Words that spell a type are read as this type, whatever lexemes their closing angles are written
with. Each form is read from words that spell it, and what is left then spells what stands behind
it (`ReadsOwing`).

Main facts:

1. `reads_openType`: a type is read up to what may stand behind it.
2. `reads_completeType` and `reads_typeParameters`: behind whole lexemes nothing is owed.
-/

namespace JavaStub

open Token (Kind)

open Cursor Grammar

variable {ws vs us as V W : List Word}

/-! ## Where annotations and types start -/

namespace Grammar

theorem Name.others {n : String} (h : Name n ws) : ∀ w ∈ ws, w.kind ≠ .gt := by
  obtain ⟨name, more⟩ := h
  refine List.forall_mem_cons.mpr ⟨by rw [name]; decide, ?_⟩
  clear name
  induction more with
  | nil => exact fun _ h => absurd h List.not_mem_nil
  | cons joins name _ ih =>
    exact List.forall_mem_cons.mpr ⟨by rw [joins]; decide,
      List.forall_mem_cons.mpr ⟨by rw [name]; decide, ih⟩⟩

theorem Dimensions.others {n : Nat} (h : Dimensions n ws) : ∀ w ∈ ws, w.kind ≠ .gt := by
  unfold Dimensions at h
  induction n generalizing ws with
  | zero =>
    cases h
    exact fun _ h => absurd h List.not_mem_nil
  | succ n ih =>
    cases h with
    | cons first more =>
      obtain ⟨opens, closes⟩ := first
      exact List.forall_mem_cons.mpr ⟨by rw [opens]; decide,
        List.forall_mem_cons.mpr ⟨by rw [closes]; decide, ih more⟩⟩

/-- The arguments of an annotation are there with the closing angles in them as lexemes. -/
theorem Group.of_unfused (h : Group .lparen .rparen V) (spelled : unfused us = V ++ W) :
    ∃ ws vs, us = ws ++ vs ∧ Group .lparen .rparen ws ∧ unfused vs = W := by
  obtain ⟨opens, closes, enclosed⟩ := h
  rename_i first last inner
  rw [List.cons_append, List.append_assoc] at spelled
  obtain ⟨us, rfl, left⟩ := unfused_eq_cons spelled (by rw [opens]; decide)
  obtain ⟨inner, vs, rfl, rfl, behind⟩ := unfused_split left (by rw [closes]; decide)
  exact ⟨first :: (inner ++ [last]), vs, by simp, ⟨opens, closes, enclosed.of_unfused rfl rfl⟩,
    behind⟩

theorem Annotation.of_unfused (h : Annotation V) (spelled : unfused us = V ++ W) :
    ∃ ws vs, us = ws ++ vs ∧ Annotation ws ∧ unfused vs = W := by
  cases h with
  | plain sign name =>
    obtain ⟨us, rfl, left⟩ := unfused_eq_cons spelled (by rw [sign]; decide)
    obtain ⟨vs, rfl, behind⟩ := unfused_eq_append left name.others
    exact ⟨_ :: _, vs, rfl, .plain sign name, behind⟩
  | withArguments sign name arguments =>
    rw [List.cons_append, List.append_assoc] at spelled
    obtain ⟨us, rfl, left⟩ := unfused_eq_cons spelled (by rw [sign]; decide)
    obtain ⟨us, rfl, named⟩ := unfused_eq_append left name.others
    obtain ⟨gs, vs, rfl, arguments, behind⟩ := arguments.of_unfused named
    exact ⟨_ :: (_ ++ gs), vs, by simp, .withArguments sign name arguments, behind⟩

theorem Annotations.nil : Annotations [] := ⟨0, .nil⟩

theorem Annotations.of_unfused (h : Annotations V) (spelled : unfused us = V ++ W) :
    ∃ ws vs, us = ws ++ vs ∧ Annotations ws ∧ unfused vs = W := by
  obtain ⟨n, items⟩ := h
  induction n generalizing V us with
  | zero =>
    cases items
    exact ⟨[], us, rfl, .nil, spelled⟩
  | succ n ih =>
    cases items with
    | cons first more =>
      rw [List.append_assoc] at spelled
      obtain ⟨ws, us, rfl, first, left⟩ := first.of_unfused spelled
      obtain ⟨ws', vs, rfl, ⟨m, more⟩, behind⟩ := ih left more
      exact ⟨ws ++ ws', vs, by simp, ⟨m + 1, .cons first more⟩, behind⟩

/-- Does a type without annotations start with a word of this kind? -/
def startsType (k : Kind) : Bool := k.isPrimitive || k = .identifier

theorem not_mem_of_starts {starts : Kind → Bool} {k : Kind} {ks : List Kind}
    (h : starts k = true) (others : ∀ k ∈ ks, starts k = false) : k ∉ ks :=
  fun hk => by rw [others k hk] at h; cases h

theorem angleCount_of_startsType {k : Kind} (h : startsType k = true) : angleCount k = 0 := by
  rcases Bool.or_eq_true_iff.mp h with primitive | identifier
  · exact angleCount_of_isPrimitive primitive
  · rw [of_decide_eq_true identifier]
    rfl

theorem modifierOf?_of_startsType {k : Kind} (h : startsType k = true) : modifierOf? k = none := by
  cases k <;> first | rfl | cases h

theorem Segment.starts {s : ReferenceType} (h : Segment s V) :
    ∃ w U, V = w :: U ∧ w.kind = .identifier := by
  cases h with
  | plain name => exact ⟨_, _, rfl, name⟩
  | generic name _ _ => exact ⟨_, _, rfl, name⟩

theorem BareType.starts {t : JavaType} (h : BareType t V) :
    ∃ w U, V = w :: U ∧ startsType w.kind = true := by
  cases h with
  | primitive keyword _ => exact ⟨_, _, rfl, by unfold startsType; rw [keyword]; rfl⟩
  | named first _ _ =>
    obtain ⟨w, U, rfl, name⟩ := first.starts
    exact ⟨w, _, rfl, by rw [name]; rfl⟩

theorem Segment.next {s : ReferenceType} (h : Segment s V) (spelled : unfused us = V ++ W) :
    ∃ w vs, us = w :: vs ∧ w.kind = .identifier := by
  obtain ⟨w, U, rfl, name⟩ := h.starts
  obtain ⟨vs, rfl, _⟩ := unfused_eq_cons spelled (by rw [name]; decide)
  exact ⟨w, vs, rfl, name⟩

theorem SegmentTail.notAt {ss : List ReferenceType} (h : SegmentTail ss V) {ks : List Kind}
    (other : .dot ∉ ks) : NotAt ks V := by
  cases h with
  | nil => exact notAt_nil ks
  | cons joins _ _ => exact notAt_cons.mpr (by rw [joins]; exact other)

theorem Dimensions.notAt {n : Nat} (h : Dimensions n V) {ks : List Kind} (other : .lbracket ∉ ks) :
    NotAt ks V := by
  cases n with
  | zero =>
    cases h
    exact notAt_nil ks
  | succ n =>
    cases h with
    | cons first _ =>
      obtain ⟨opens, _⟩ := first
      exact notAt_cons.mpr (by rw [opens]; exact other)

/-- What a bare type starts with is next in the words as they are written. -/
theorem BareType.next {t : JavaType} (h : BareType t V) (spelled : unfused us = V ++ W) :
    ∃ w vs, us = w :: vs ∧ startsType w.kind = true := by
  obtain ⟨w, U, rfl, start⟩ := h.starts
  have other : w.kind ≠ .gt := fun hw => by rw [hw] at start; cases start
  obtain ⟨vs, rfl, _⟩ := unfused_eq_cons spelled other
  exact ⟨w, vs, rfl, start⟩

theorem Annotations.starts (h : Annotations V) : V = [] ∨ ∃ a U, V = a :: U ∧ a.kind = .atSign := by
  obtain ⟨n, items⟩ := h
  cases n with
  | zero =>
    cases items
    exact .inl rfl
  | succ n =>
    cases items with
    | cons first _ =>
      obtain ⟨a, U, rfl, sign⟩ := first.starts
      exact .inr ⟨a, _, rfl, sign⟩

theorem Argument.starts {t : JavaType} (h : Argument t V) :
    ∃ w U, V = w :: U ∧ angleCount w.kind = 0 := by
  have behind : ∀ {as U : List Word} {w : Word}, Annotations as → angleCount w.kind = 0 →
      ∃ w' U', as ++ w :: U = w' :: U' ∧ angleCount w'.kind = 0 := by
    intro as U w annotations count
    rcases annotations.starts with rfl | ⟨a, as, rfl, sign⟩
    · exact ⟨w, U, rfl, count⟩
    · exact ⟨a, _, rfl, by rw [sign]; rfl⟩
  cases h with
  | type annotations type =>
    obtain ⟨w, U, rfl, start⟩ := type.starts
    exact behind annotations (angleCount_of_startsType start)
  | wildcard annotations mark => exact behind annotations (by rw [mark]; rfl)
  | bounded kind annotations mark _ _ _ => exact behind annotations (by rw [mark]; rfl)

theorem Arguments.starts {ts : List JavaType} (h : Arguments ts V) :
    ∃ w U, V = w :: U ∧ angleCount w.kind = 0 := by
  cases h with
  | one last => exact last.starts
  | cons first _ _ =>
    obtain ⟨w, U, rfl, count⟩ := first.starts
    exact ⟨w, _, rfl, count⟩

theorem Arguments.next {ts : List JavaType} (h : Arguments ts V) (spelled : unfused us = V ++ W) :
    (ofWords us).atClosingAngle = false := by
  obtain ⟨w, U, rfl, count⟩ := h.starts
  have other : w.kind ≠ .gt := fun hw => by rw [hw] at count; cases count
  obtain ⟨vs, rfl, _⟩ := unfused_eq_cons spelled other
  unfold atClosingAngle
  rw [kind?_ofWords]
  simp [count]

end Grammar

/-! ## Types -/

namespace Reading

variable {owed : Nat}

theorem reads_dimensions {n : Nat} (h : Dimensions n ws) (behind : NotAt [.lbracket] vs) :
    Reads (onward dimensions) (ws ++ vs) n vs := by
  have looped : Reads (onward (many dimension?)) (ws ++ vs) (List.replicate n ()) vs := by
    refine reads_many (fun _ => True) h (fun _ _ _ brackets _ => ?_)
      (fun _ _ _ _ => trivial) trivial ?_
    · obtain ⟨opens, closes⟩ := brackets
      rw [step_dimension?]
      exact (reads_accept opens).bind ((reads_expect closes).bind (reads_pure _))
    · rw [step_dimension?]
      exact (reads_accept_none behind (List.mem_singleton.mpr rfl)).bind (reads_pure _)
  rw [onward_dimensions]
  refine looped.bind ?_
  rw [List.length_replicate]
  exact reads_pure _

theorem reads_dimensionsUnlessOwed {n : Nat} {ds : List Word} (h : Dimensions n ds)
    (leaves : Leaves ws owed us (ds ++ W)) (behind : NotAt [.lbracket] W) :
    ∃ vs, Reads (onward (dimensionsUnlessOwed owed)) us n vs ∧ Leaves ws owed vs W := by
  rw [onward_dimensionsUnlessOwed]
  by_cases none : owed = 0
  · subst none
    obtain ⟨vs, rfl, left⟩ := unfused_eq_append leaves.whole h.others
    have rest := (Leaves.refl left).behind ((List.suffix_append _ _).trans leaves.suffix)
    rw [if_pos rfl]
    exact ⟨vs, reads_dimensions h (rest.notAt behind (by decide)), rest⟩
  · rw [if_neg none]
    have empty : n = 0 := by
      cases n with
      | zero => rfl
      | succ n =>
        cases h with
        | cons first _ =>
          obtain ⟨opens, _⟩ := first
          exact absurd (leaves.settled (notAt_cons.mpr (by rw [opens]; decide))).1 none
    subst empty
    cases h
    exact ⟨us, reads_pure _, leaves⟩

/-- A list of type arguments is read through the angle that closes it. -/
theorem reads_typeArguments {owed' : Nat} {ts : List JavaType}
    (next : (ofWords us).atClosingAngle = false)
    (read : Reads (past argumentList) us (ts, owed) vs)
    (closed : Reads (onward (closeAngle owed)) vs owed' ws) :
    Reads (onward typeArguments) us (ts, owed') ws := by
  rw [onward_typeArguments]
  exact (reads_look next).bind (read.bind (closed.bind (reads_pure _)))

/-- What may not stand behind a type. -/
def typeEnds : List Kind := [.lt, .lbracket, .dot, .kwExtends, .kwSuper]

/-! The three forms of type arguments, from what stands behind their annotations. -/

theorem reads_typeAsArgument {w : Word} {t : JavaType} (annotations : Annotations as)
    (start : startsType w.kind = true) (read : Reads (past openType) (w :: us) (t, owed) vs) :
    Reads (past typeArgument) (as ++ w :: us) (.argument t noSpan, owed) vs := by
  have noMark : NotAt [.question] (w :: us) :=
    notAt_cons.mpr (not_mem_of_starts start (by decide))
  rw [past_typeArgument]
  refine (reads_look (location_ofWords _)).bind ?_
  refine (reads_annotations annotations
    (notAt_cons.mpr (not_mem_of_starts start (by decide)))).bind ?_
  refine (reads_accept_none noMark (List.mem_singleton.mpr rfl)).bind ?_
  exact read.bind ((reads_look (a := noSpan) rfl).bind (reads_pure _))

theorem reads_wildcard {q : Word} (annotations : Annotations as) (mark : q.kind = .question)
    (next : NotAt typeEnds vs) :
    Reads (past typeArgument) (as ++ q :: vs) (.wildcard noSpan, 0) vs := by
  rw [past_typeArgument]
  refine (reads_look (location_ofWords _)).bind ?_
  refine (reads_annotations annotations (notAt_cons.mpr (by rw [mark]; decide))).bind ?_
  refine (reads_accept mark).bind ?_
  refine (reads_accept_none next (by decide)).bind ?_
  refine (reads_accept_none next (by decide)).bind ?_
  exact (reads_look (a := noSpan) rfl).bind (reads_pure _)

theorem reads_boundedWildcard {q b : Word} {t : JavaType} {kind : BoundKind}
    (annotations : Annotations as) (mark : q.kind = .question) (bounds : b.kind = boundWord kind)
    (read : Reads (past openType) us (t, owed) vs) :
    Reads (past typeArgument) (as ++ q :: b :: us) (.boundedWildcard kind t noSpan, owed) vs := by
  rw [past_typeArgument]
  refine (reads_look (location_ofWords _)).bind ?_
  refine (reads_annotations annotations (notAt_cons.mpr (by rw [mark]; decide))).bind ?_
  refine (reads_accept mark).bind ?_
  cases kind with
  | upper =>
    refine (reads_accept bounds).bind ?_
    exact read.bind ((reads_look (a := noSpan) rfl).bind (reads_pure _))
  | lower =>
    have other : NotAt [.kwExtends] (b :: us) := notAt_cons.mpr (by rw [bounds]; decide)
    refine (reads_accept_none other (List.mem_singleton.mpr rfl)).bind ?_
    refine (reads_accept bounds).bind ?_
    exact read.bind ((reads_look (a := noSpan) rfl).bind (reads_pure _))

mutual

/-- A type is read with the annotations before it. -/
theorem reads_openType : ∀ {t : JavaType} {V : List Word}, BareType t V →
    ∀ {as us W : List Word}, Annotations as → unfused us = V ++ W → NotAt typeEnds W →
      ReadsOwing us (past openType) (as ++ us) t W
  | _, _, .primitive keyword dims, as, us, W, annotations, spelled, behind => by
    obtain ⟨us, rfl, left⟩ :=
      unfused_eq_cons spelled fun gt => by rw [gt] at keyword; cases keyword
    obtain ⟨vs, read, leaves⟩ := reads_dimensionsUnlessOwed dims (.refl left)
      (behind.mono (by decide))
    have start : startsType _ = true := Bool.or_eq_true_iff.mpr (.inl keyword)
    refine ⟨0, vs, ?_, leaves.behind (List.suffix_cons _ _)⟩
    rw [past_openType]
    refine (reads_look (location_ofWords _)).bind ?_
    refine (reads_annotations annotations
      (notAt_cons.mpr (not_mem_of_starts start (by decide)))).bind ?_
    refine (reads_next keyword).bind ?_
    exact read.bind ((reads_look (a := noSpan) rfl).bind (reads_pure _))
  | _, _, .named first more dims, as, us, W, annotations, spelled, behind => by
    rw [List.append_assoc, List.append_assoc] at spelled
    obtain ⟨u, us, rfl, name⟩ := first.next spelled
    have between : NotAt [.lt, .dot] (_ ++ W) :=
      notAt_append (dims.notAt (by decide)) (behind.mono (by decide))
    obtain ⟨owed, vs, read, leaves⟩ := reads_segment first spelled
      (notAt_append (more.notAt (by decide)) (between.mono (by decide)))
    obtain ⟨owed₁, vs₁, read₁, leaves₁⟩ := reads_segmentTail more leaves between
    obtain ⟨vs₂, read₂, leaves₂⟩ := reads_dimensionsUnlessOwed dims leaves₁
      (behind.mono (by decide))
    refine ⟨owed₁, vs₂, ?_, leaves₂⟩
    rw [past_openType]
    refine (reads_look (location_ofWords _)).bind ?_
    refine (reads_annotations annotations (notAt_cons.mpr (by rw [name]; decide))).bind ?_
    have noPrimitive : Reads (option (next? fun t => t.kind.isPrimitive)) (u :: us) none (u :: us) :=
      reads_next_none fun _ h => by
        cases h
        exact congrArg Kind.isPrimitive name
    refine noPrimitive.bind ?_
    refine read.bind (read₁.bind (read₂.bind ?_))
    exact (reads_look (a := noSpan) rfl).bind (reads_pure _)

/-- A name is read with its type arguments. -/
theorem reads_segment : ∀ {s : ReferenceType} {V : List Word}, Segment s V →
    ∀ {us W : List Word}, unfused us = V ++ W → NotAt [.lt] W →
      ReadsOwing us (past segment) us s W
  | _, _, .plain name, us, W, spelled, behind => by
    obtain ⟨vs, rfl, left⟩ := unfused_eq_cons spelled (by rw [name]; decide)
    have next : NotAt [.lt] vs := NotAt.of_unfused (by rw [left]; exact behind) (by decide)
    refine ⟨0, vs, ?_, (Leaves.refl left).behind (List.suffix_cons _ _)⟩
    rw [past_segment]
    refine (reads_look (location_ofWords _)).bind ?_
    refine (reads_identifier name).bind ?_
    refine (reads_accept_none next (List.mem_singleton.mpr rfl)).bind ?_
    exact (reads_look (a := noSpan) rfl).bind (reads_pure _)
  | _, _, .generic name opens arguments, us, W, spelled, behind => by
    rw [List.cons_append, List.cons_append, List.append_assoc] at spelled
    obtain ⟨us, rfl, left⟩ := unfused_eq_cons spelled (by rw [name]; decide)
    obtain ⟨us, rfl, inside⟩ := unfused_eq_cons left (by rw [opens]; decide)
    obtain ⟨owed, vs, read, leaves⟩ := reads_arguments arguments inside
      (notAt_cons.mpr (by decide))
    obtain ⟨owed', vs', closed, leaves⟩ := reads_closeAngle leaves
    refine ⟨owed', vs', ?_, leaves.behind ((List.suffix_cons _ _).trans (List.suffix_cons _ _))⟩
    rw [past_segment]
    refine (reads_look (location_ofWords _)).bind ?_
    refine (reads_identifier name).bind ?_
    refine (reads_accept opens).bind ?_
    refine (reads_typeArguments (arguments.next inside) read closed).bind ?_
    exact (reads_look (a := noSpan) rfl).bind (reads_pure _)

/-- Names that dots join are read, from where `owed` closing angles are owed. -/
theorem reads_segmentTail : ∀ {ss : List ReferenceType} {V : List Word}, SegmentTail ss V →
    ∀ {ws us W : List Word} {owed : Nat}, Leaves ws owed us (V ++ W) → NotAt [.lt, .dot] W →
      ReadsOwing ws (onward (segmentTail owed)) us ss W
  | _, _, .nil, ws, us, W, owed, leaves, behind => by
    refine ⟨owed, us, ?_, leaves⟩
    rw [onward_segmentTail]
    by_cases none : owed = 0
    · subst none
      rw [if_pos rfl]
      have next : NotAt [.dot] us := leaves.notAt (behind.mono (by decide)) (by decide)
      exact (reads_joiningDot_none (notJoined_of_notAt next (by decide))).bind (reads_pure _)
    · rw [if_neg none]
      exact reads_pure _
  | _, _, .cons joins first more, ws, us, W, owed, leaves, behind => by
    rw [List.cons_append, List.append_assoc] at leaves
    obtain ⟨rfl, spelled⟩ := leaves.settled (notAt_cons.mpr (by rw [joins]; decide))
    obtain ⟨us, rfl, left⟩ := unfused_eq_cons spelled (by rw [joins]; decide)
    have between : NotAt [.lt] (_ ++ W) := notAt_append (more.notAt (by decide)) (behind.mono (by decide))
    obtain ⟨owed, vs, read, reached⟩ := reads_segment first left between
    have reached := reached.behind ((List.suffix_cons _ _).trans leaves.suffix)
    obtain ⟨owed', vs', read', reached'⟩ := reads_segmentTail more reached behind
    refine ⟨owed', vs', ?_, reached'⟩
    obtain ⟨w, us, rfl, name⟩ := first.next left
    rw [onward_segmentTail, if_pos rfl]
    refine (reads_joiningDot joins name).bind ?_
    exact read.bind (read'.bind (reads_pure _))

/-- Type arguments are read with the commas between them. -/
theorem reads_arguments : ∀ {ts : List JavaType} {V : List Word}, Arguments ts V →
    ∀ {us W : List Word}, unfused us = V ++ W → NotAt (.comma :: typeEnds) W →
      ReadsOwing us (past argumentList) us ts W
  | _, _, .one last, us, W, spelled, behind => by
    obtain ⟨owed, vs, read, leaves⟩ := reads_argument last spelled
      (behind.mono (List.subset_cons_self _ _))
    refine ⟨owed, vs, ?_, leaves⟩
    rw [past_argumentList]
    refine read.bind ?_
    by_cases none : owed = 0
    · subst none
      have next : NotAt [.comma] vs := leaves.notAt (behind.mono (by decide)) (by decide)
      exact (reads_accept_none next (List.mem_singleton.mpr rfl)).bind (reads_pure _)
    · simp only [if_neg none]
      exact reads_pure _
  | _, _, .cons first separates more, us, W, spelled, behind => by
    rw [List.append_assoc, List.cons_append] at spelled
    obtain ⟨owed, vs, read, leaves⟩ := reads_argument first spelled
      (notAt_cons.mpr (by rw [separates]; decide))
    obtain ⟨rfl, left⟩ := leaves.settled (notAt_cons.mpr (by rw [separates]; decide))
    obtain ⟨vs, rfl, others⟩ := unfused_eq_cons left (by rw [separates]; decide)
    obtain ⟨owed', vs', read', leaves'⟩ := reads_arguments more others behind
    refine ⟨owed', vs', ?_, leaves'.behind ((List.suffix_cons _ _).trans leaves.suffix)⟩
    rw [past_argumentList]
    refine read.bind ?_
    exact (reads_accept separates).bind (read'.bind (reads_pure _))

/-- A type argument is read. -/
theorem reads_argument : ∀ {t : JavaType} {V : List Word}, Argument t V →
    ∀ {us W : List Word}, unfused us = V ++ W → NotAt typeEnds W →
      ReadsOwing us (past typeArgument) us t W
  | _, _, .type annotations type, us, W, spelled, behind => by
    rw [List.append_assoc] at spelled
    obtain ⟨as, us, rfl, annotations, left⟩ := annotations.of_unfused spelled
    obtain ⟨owed, vs, read, leaves⟩ := reads_openType type .nil left behind
    obtain ⟨w, us, rfl, start⟩ := type.next left
    exact ⟨owed, vs, reads_typeAsArgument annotations start read,
      leaves.behind (List.suffix_append _ _)⟩
  | _, _, .wildcard annotations mark, us, W, spelled, behind => by
    rw [List.append_assoc] at spelled
    obtain ⟨as, us, rfl, annotations, left⟩ := annotations.of_unfused spelled
    obtain ⟨vs, rfl, rest⟩ := unfused_eq_cons left (by rw [mark]; decide)
    have leaves : Leaves vs 0 vs W := .refl rest
    exact ⟨0, vs, reads_wildcard annotations mark (leaves.notAt behind (by decide)),
      leaves.behind ((List.suffix_cons _ _).trans (List.suffix_append _ _))⟩
  | _, _, .bounded kind annotations mark bounds inner type, us, W, spelled, behind => by
    rw [List.append_assoc, List.cons_append, List.cons_append, List.append_assoc] at spelled
    obtain ⟨as, us, rfl, annotations, left⟩ := annotations.of_unfused spelled
    obtain ⟨us, rfl, marked⟩ := unfused_eq_cons left (by rw [mark]; decide)
    obtain ⟨us, rfl, bound⟩ := unfused_eq_cons marked (by rw [bounds]; cases kind <;> decide)
    obtain ⟨bs, us, rfl, inner, bound⟩ := inner.of_unfused bound
    obtain ⟨owed, vs, read, leaves⟩ := reads_openType type inner bound behind
    refine ⟨owed, vs, reads_boundedWildcard annotations mark bounds read, leaves.behind ?_⟩
    exact ((List.suffix_append _ _).trans (List.suffix_cons _ _)).trans
      ((List.suffix_cons _ _).trans (List.suffix_append _ _))

end

/-- A type is read. -/
theorem reads_type {t : JavaType} (h : IsType t V) (spelled : unfused us = V ++ W)
    (behind : NotAt typeEnds W) : ReadsOwing us (past openType) us t W := by
  obtain ⟨annotations, type⟩ := h
  rw [List.append_assoc] at spelled
  obtain ⟨as, us, rfl, annotations, left⟩ := annotations.of_unfused spelled
  obtain ⟨owed, vs, read, leaves⟩ := reads_openType type annotations left behind
  exact ⟨owed, vs, read, leaves.behind (List.suffix_append _ _)⟩

/-- Whole lexemes that spell a type are read as this type. -/
theorem reads_completeType {t : JavaType} (h : IsType t (unfused us)) (behind : NotAt typeEnds ws) :
    Reads (past completeType) (us ++ ws) t ws := by
  obtain ⟨owed, vs, read, leaves⟩ := reads_type h (unfused_append us ws)
    (behind.unfused (by decide))
  obtain ⟨rfl, rfl⟩ := leaves.exact
  rw [past_completeType]
  exact read.bind (reads_pure _)

/-- Words decide what is read, up to places. -/
theorem run_completeType_ofWords (c : Cursor) :
    (past completeType).run (ofWords (c.rest.map Token.word)) =
      relocate unplaced (c.completeType.map fun r => (r.value, r.next)) := by
  rw [← relocate_unplaced_cursor]
  exact moves_completeType

/-! ## Type parameters -/

/-- Items with separators between them are read when each of them is. -/
theorem reads_separatedOwing {α : Type} {separator : Kind} {ends : List Kind}
    {item : (c : Cursor) → Except ParseError (Past c (α × Nat))} {Item : α → List Word → Prop}
    {as : List α} {V : List Word} (items : Separated separator Item as V)
    (reads : ∀ {a V us W}, Item a V → unfused us = V ++ W → NotAt ends W →
      ReadsOwing us (past item) us a W)
    (whole : angleCount separator = 0) (other : separator ∉ ends)
    (spelled : unfused us = V ++ W) (behind : NotAt (separator :: ends) W) :
    ReadsOwing us (past (separated separator item)) us as W := by
  induction items generalizing us with
  | one last =>
    obtain ⟨owed, vs, read, leaves⟩ := reads last spelled (behind.mono (List.subset_cons_self _ _))
    refine ⟨owed, vs, ?_, leaves⟩
    rw [past_separated]
    refine read.bind ?_
    by_cases none : owed = 0
    · subst none
      have next : NotAt [separator] vs :=
        leaves.notAt (behind.mono (by simp)) (by simpa using whole)
      exact (reads_accept_none next (List.mem_singleton.mpr rfl)).bind (reads_pure _)
    · simp only [if_neg none]
      exact reads_pure _
  | @cons a as s _ _ first separates _ ih =>
    rw [List.append_assoc, List.cons_append] at spelled
    have notGt : s.kind ≠ .gt := fun hs => by
      rw [← separates, hs] at whole
      cases whole
    obtain ⟨owed, vs, read, leaves⟩ := reads first spelled
      (notAt_cons.mpr (by rw [separates]; exact other))
    obtain ⟨rfl, left⟩ := leaves.settled (notAt_cons.mpr (by simpa using notGt))
    obtain ⟨vs, rfl, others⟩ := unfused_eq_cons left notGt
    obtain ⟨owed', vs', read', leaves'⟩ := ih others
    refine ⟨owed', vs', ?_, leaves'.behind ((List.suffix_cons _ _).trans leaves.suffix)⟩
    rw [past_separated]
    refine read.bind ?_
    exact (reads_accept separates).bind (read'.bind (reads_pure _))

theorem reads_bound {u : Unit} (h : Bound u V) (spelled : unfused us = V ++ W)
    (behind : NotAt typeEnds W) : ReadsOwing us (past bound) us u W := by
  obtain ⟨type⟩ := h
  obtain ⟨owed, vs, read, leaves⟩ := reads_type type spelled behind
  refine ⟨owed, vs, ?_, leaves⟩
  rw [past_bound]
  exact read.bind (reads_pure _)

theorem reads_typeParameter {n : String} (h : TypeParameter n V) (spelled : unfused us = V ++ W)
    (behind : NotAt (.amp :: typeEnds) W) : ReadsOwing us (past typeParameter) us n W := by
  cases h with
  | plain annotations name =>
    rw [List.append_assoc] at spelled
    obtain ⟨as, us, rfl, annotations, left⟩ := annotations.of_unfused spelled
    obtain ⟨vs, rfl, rest⟩ := unfused_eq_cons left (by rw [name]; decide)
    rw [List.append_eq, List.nil_append] at rest
    have leaves : Leaves vs 0 vs W := .refl rest
    have next : NotAt typeEnds vs :=
      leaves.notAt (behind.mono (List.subset_cons_self _ _)) (by decide)
    have none : Reads (onward bounds) vs 0 vs := by
      rw [onward_bounds]
      exact (reads_accept_none next (by decide)).bind (reads_pure _)
    refine ⟨0, vs, ?_, leaves.behind ((List.suffix_cons _ _).trans (List.suffix_append _ _))⟩
    rw [past_typeParameter]
    refine (reads_annotations annotations (notAt_cons.mpr (by rw [name]; decide))).bind ?_
    exact (reads_identifier name).bind (none.bind (reads_pure _))
  | @bounded _ e _ _ _ annotations name introduces bounds =>
    rw [List.append_assoc, List.cons_append, List.cons_append] at spelled
    obtain ⟨as, us, rfl, annotations, left⟩ := annotations.of_unfused spelled
    obtain ⟨us, rfl, named⟩ := unfused_eq_cons left (by rw [name]; decide)
    obtain ⟨us, rfl, rest⟩ := unfused_eq_cons named (by rw [introduces]; decide)
    obtain ⟨owed, vs, read, leaves⟩ := reads_separatedOwing bounds reads_bound rfl (by decide)
      rest behind
    have some : Reads (onward Cursor.bounds) (e :: us) owed vs := by
      rw [onward_bounds]
      exact (reads_accept introduces).bind (read.bind (reads_pure _))
    refine ⟨owed, vs, ?_, leaves.behind (((List.suffix_cons _ _).trans (List.suffix_cons _ _)).trans
      (List.suffix_append _ _))⟩
    rw [past_typeParameter]
    refine (reads_annotations annotations (notAt_cons.mpr (by rw [name]; decide))).bind ?_
    exact (reads_identifier name).bind (some.bind (reads_pure _))

/-- Whole lexemes that spell type parameters are read as their names. -/
theorem reads_typeParameters {ns : List String} (h : TypeParameters ns us)
    (behind : us = [] → NotAt [.lt] ws) : Reads (onward typeParameters) (us ++ ws) ns ws := by
  rw [onward_typeParameters]
  cases h with
  | none => exact (reads_accept_none (behind rfl) (List.mem_singleton.mpr rfl)).bind (reads_pure _)
  | @some _ lt list _ opens items spelled =>
    have all : unfused (us ++ ws) = lt :: (list ++ Word.closing :: unfused ws) := by
      rw [unfused_append, spelled, List.cons_append, List.append_assoc]
      rfl
    obtain ⟨vs, same, inside⟩ := unfused_eq_cons all (by rw [opens]; decide)
    obtain ⟨owed, vs₁, read, leaves⟩ := reads_separatedOwing items reads_typeParameter rfl
      (by decide) inside (notAt_cons.mpr (by decide))
    obtain ⟨owed', vs₂, closed, leaves⟩ := reads_closeAngle leaves
    have all' : Leaves (us ++ ws) owed' vs₂ (unfused ws) := by
      rw [same]
      exact leaves.behind (List.suffix_cons _ _)
    obtain ⟨rfl, rfl⟩ := all'.exact
    rw [same]
    refine (reads_accept opens).bind (read.bind (closed.bind ?_))
    exact reads_pure _

end Reading

end JavaStub
