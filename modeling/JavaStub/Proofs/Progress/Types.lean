import JavaStub.Proofs.Progress.Recorders
import JavaStub.Proofs.Reading.Types

/-!
# Recorders of names, groups and types

The recorders below signatures, and that they follow the readings of the same names.

Main facts:

1. `follows_closeFrom`: a group is passed with its depth as a counter.
2. `follows_openTypeFrom`: the mutual recorders of types, by recursion on the tokens that are left.
-/

namespace JavaStub

open Token (Kind)

namespace Recorder

open Cursor (typeOfSegments angleCount)

/-! ## Names -/

def identifier : Recorder String := do
  let t ← expect .identifier .identifier
  return t.lexeme

def joiningDot : Recorder (Option Token) := do
  let second ← look Cursor.secondKind?
  if second = some .identifier then accept .dot else return none

def joinedName : Recorder (Option String) := do
  match ← joiningDot with
  | none => return none
  | some _ => do
    let name ← identifier
    return some name

def qualifiedName : Recorder String := do
  let first ← identifier
  let more ← many (fun _ => .names) joinedName
  return ".".intercalate (first :: more)

/-! ## Groups -/

/-- The depth behind a token, from the depth before it. -/
def depthBehind (opening closing : Kind) (depth : Nat) (t : Token) : Recorded Nat :=
  if t.kind = opening then return depth + 1
  else if t.kind = closing then Recorded.lower .group depth
  else return depth

/-- Goes on until no group is open. -/
def closeFrom (opening closing : Kind) (depth : Nat) (c : Cursor) : Recorded (Onward c Unit) := do
  if depth = 0 then return .stay c ()
  else
    match c.first? with
    | none => ⟨[], .error (c.unexpected (.delimiter closing))⟩
    | some ⟨t, d, h⟩ =>
      let depth ← depthBehind opening closing depth t
      Recorded.mark (.took d.rest)
      Recorded.mark (.round .group c.rest d.rest)
      (closeFrom opening closing depth d).map (·.upon (Nat.le_of_lt h))
termination_by c.rest.length

def group (opening closing : Kind) : Recorder Unit := do
  let _ ← expect opening (.delimiter opening)
  ⟨closeFrom opening closing 1⟩

def annotationArguments : Recorder Unit := do
  let kind ← look Cursor.kind?
  if kind = some .lparen then group .lparen .rparen else return ()

def annotation? : Recorder (Option Unit) := do
  let starts ← look Cursor.atAnnotation
  if starts then do
    let _ ← expect .atSign (.delimiter .atSign)
    let _ ← qualifiedName
    annotationArguments
    return some ()
  else return none

def annotations : Recorder Unit := do
  let _ ← many (fun _ => .annotations) annotation?
  return ()

/-- Takes the next token, which counts for nothing. -/
def pass : Recorder (Option Unit) := do
  let _ ← first?
  return some ()

def headerPart? : Recorder (Option Unit) := do
  match ← look (·.rest.head?) with
  | none => return none
  | some t =>
    if t.kind = .lbrace then return none
    else if t.kind = .lparen then do let _ ← group .lparen .rparen; return some ()
    else pass

def headerTail : Recorder Unit := do
  let _ ← many (fun _ => .header) headerPart?
  let kind ← look Cursor.kind?
  if kind = some .lbrace then return () else fail (·.unexpected .body)

def memberPart? : Recorder (Option Unit) := do
  match ← look (·.rest.head?) with
  | none => return none
  | some t =>
    if t.kind = .lbrace then return none
    else if t.kind = .semicolon then return none
    else pass

def memberTail : Recorder Unit := do
  let _ ← many (fun _ => .memberTail) memberPart?
  let kind ← look Cursor.kind?
  if kind = some .lbrace then group .lbrace .rbrace
  else do
    let _ ← expect .semicolon .memberBody
    return ()

def fieldPart? : Recorder (Option Unit) := do
  match ← look (·.rest.head?) with
  | none => return none
  | some t =>
    if t.kind = .semicolon then return none
    else if t.kind = .lbrace then do let _ ← group .lbrace .rbrace; return some ()
    else if t.kind = .lparen then do let _ ← group .lparen .rparen; return some ()
    else pass

def fieldTail : Recorder Unit := do
  let _ ← many (fun _ => .fieldTail) fieldPart?
  let _ ← expect .semicolon .fieldEnd
  return ()

/-! ## Types -/

def dimension? : Recorder (Option Unit) := do
  match ← accept .lbracket with
  | none => return none
  | some _ => do
    let _ ← expect .rbracket .dimensionEnd
    return some ()

def dimensions : Recorder Nat := do
  let dims ← many (fun _ => .dimensions) dimension?
  return dims.length

def dimensionsUnlessOwed (owed : Nat) : Recorder Nat :=
  if owed = 0 then dimensions else return 0

/-- Closes a list of type arguments; an angle that is owed is one less afterwards. -/
def closeAngle (owed : Nat) : Recorder Nat :=
  if owed = 0 then do
    match ← next? fun t => angleCount t.kind != 0 with
    | some t => return angleCount t.kind - 1
    | none => fail (·.unexpected .closingAngle)
  else still (Recorded.lower .angles owed)

mutual

def openTypeFrom (c : Cursor) : Recorded (Onward c (JavaType × Nat)) := do
  let ⟨_, c₁, h₁⟩ ← annotations.run c
  let ⟨primitive, c₂, h₂⟩ ← ((next? fun t => t.kind.isPrimitive).run c₁).map (·.upon h₁)
  match primitive with
  | some t =>
    let ⟨dims, c₃, h₃⟩ ← (dimensions.run c₂).map (·.upon h₂)
    return ⟨(.basic t.lexeme dims (c₃.spanFrom c.location), 0), c₃, h₃⟩
  | none =>
    let ⟨(first, owed), c₃, h₃⟩ ← (segmentFrom c₂).map (·.upon h₂)
    let ⟨(more, owed), c₄, h₄⟩ ← (segmentTailFrom owed c₃).map (·.upon h₃)
    let ⟨dims, c₅, h₅⟩ ← ((dimensionsUnlessOwed owed).run c₄).map (·.upon h₄)
    return ⟨(typeOfSegments first more dims (c₅.spanFrom c.location), owed), c₅, h₅⟩
termination_by 6 * c.rest.length + 2
decreasing_by all_goals omega

def segmentFrom (c : Cursor) : Recorded (Onward c (ReferenceType × Nat)) := do
  let ⟨name, c₁, h₁⟩ ← identifier.run c
  match c₁.accept .lt with
  | none => return ⟨(.mk name [] 0 (c₁.spanFrom c.location), 0), c₁, h₁⟩
  | some ⟨_, c₂, h₂⟩ =>
    Recorded.mark (.took c₂.rest)
    let ⟨(arguments, owed), c₃, h₃⟩ ←
      (typeArgumentsFrom c₂).map (·.upon (Nat.le_of_lt (Nat.lt_of_lt_of_le h₂ h₁)))
    return ⟨(.mk name arguments 0 (c₃.spanFrom c.location), owed), c₃, h₃⟩
termination_by 6 * c.rest.length + 1
decreasing_by all_goals omega

def segmentTailFrom (owed : Nat) (c : Cursor) :
    Recorded (Onward c (List ReferenceType × Nat)) := do
  if owed = 0 then
    match c.joiningDot with
    | none => return .stay c ([], 0)
    | some ⟨_, c₁, h₁⟩ =>
      Recorded.mark (.took c₁.rest)
      let ⟨(first, owed), c₂, h₂⟩ ← segmentFrom c₁
      Recorded.mark (.round .segments c.rest c₂.rest)
      let ⟨(more, owed), c₃, h₃⟩ ←
        (segmentTailFrom owed c₂).map (·.upon (Nat.le_of_lt (Nat.lt_of_le_of_lt h₂ h₁)))
      return ⟨(first :: more, owed), c₃, h₃⟩
  else return .stay c ([], owed)
termination_by 6 * c.rest.length
decreasing_by all_goals omega

def typeArgumentsFrom (c : Cursor) : Recorded (Onward c (List JavaType × Nat)) := do
  if c.atClosingAngle then
    let ⟨owed, c₁, h₁⟩ ← (closeAngle 0).run c
    return ⟨([], owed), c₁, h₁⟩
  else
    let ⟨(arguments, owed), c₁, h₁⟩ ← argumentListFrom c
    let ⟨owed, c₂, h₂⟩ ← ((closeAngle owed).run c₁).map (·.upon h₁)
    return ⟨(arguments, owed), c₂, h₂⟩
termination_by 6 * c.rest.length + 5
decreasing_by all_goals omega

def argumentListFrom (c : Cursor) : Recorded (Onward c (List JavaType × Nat)) := do
  let ⟨(first, owed), c₁, h₁⟩ ← typeArgumentFrom c
  if owed = 0 then
    match c₁.accept .comma with
    | none => return ⟨([first], 0), c₁, h₁⟩
    | some ⟨_, c₂, h₂⟩ =>
      Recorded.mark (.took c₂.rest)
      Recorded.mark (.round .typeArguments c.rest c₂.rest)
      let ⟨(more, owed), c₃, h₃⟩ ←
        (argumentListFrom c₂).map (·.upon (Nat.le_of_lt (Nat.lt_of_lt_of_le h₂ h₁)))
      return ⟨(first :: more, owed), c₃, h₃⟩
  else return ⟨([first], owed), c₁, h₁⟩
termination_by 6 * c.rest.length + 4
decreasing_by all_goals omega

def typeArgumentFrom (c : Cursor) : Recorded (Onward c (JavaType × Nat)) := do
  let ⟨_, c₁, h₁⟩ ← annotations.run c
  let ⟨question, c₂, h₂⟩ ← ((accept .question).run c₁).map (·.upon h₁)
  match question with
  | none =>
    let ⟨(inner, owed), c₃, h₃⟩ ← (openTypeFrom c₂).map (·.upon h₂)
    return ⟨(.argument inner (c₃.spanFrom c.location), owed), c₃, h₃⟩
  | some _ =>
    let ⟨upper, c₃, h₃⟩ ← ((accept .kwExtends).run c₂).map (·.upon h₂)
    match upper with
    | some _ =>
      let ⟨(bound, owed), c₄, h₄⟩ ← (openTypeFrom c₃).map (·.upon h₃)
      return ⟨(.boundedWildcard .upper bound (c₄.spanFrom c.location), owed), c₄, h₄⟩
    | none =>
      let ⟨lower, c₄, h₄⟩ ← ((accept .kwSuper).run c₃).map (·.upon h₃)
      match lower with
      | some _ =>
        let ⟨(bound, owed), c₅, h₅⟩ ← (openTypeFrom c₄).map (·.upon h₄)
        return ⟨(.boundedWildcard .lower bound (c₅.spanFrom c.location), owed), c₅, h₅⟩
      | none => return ⟨(.wildcard (c₄.spanFrom c.location), 0), c₄, h₄⟩
termination_by 6 * c.rest.length + 3
decreasing_by all_goals omega

end

def openType : Recorder (JavaType × Nat) := ⟨openTypeFrom⟩

def completeType : Recorder JavaType := do
  let read ← openType
  if read.2 = 0 then return read.1 else fail fun c => .unbalancedAngle c.last

end Recorder

variable {k : Nat}

/-! ## Following the readings of names -/

theorem records_identifier :
    Records k (fun _ => k + 1) Recorder.identifier (Reading.past Cursor.identifier) := by
  rw [Reading.past_identifier]
  exact (records_expect _ _).bind fun _ => records_pure (Nat.le_refl _)

theorem option_joiningDot : Reading.option Cursor.joiningDot = (do
    let second ← Reading.look Cursor.secondKind?
    if second = some .identifier then Reading.option (Cursor.accept .dot) else return none) := by
  refine Reading.ext_run fun c => ?_
  show Except.ok (Reading.attempted c.joiningDot) =
    (if c.secondKind? = some .identifier then _ else _ : Reading _).run c
  unfold Cursor.joiningDot
  split <;> rfl

theorem records_joiningDot :
    Records k (fun found => k + worth found) Recorder.joiningDot
      (Reading.option Cursor.joiningDot) := by
  rw [option_joiningDot]
  refine (records_look _).bind fun second => ?_
  split
  · exact records_accept _
  · exact records_pure (Nat.le_refl _)

theorem records_joinedName :
    Records k (fun found => k + worth found) Recorder.joinedName
      (Reading.step Cursor.joinedName) := by
  rw [Reading.step_joinedName]
  refine records_joiningDot.bind fun found => ?_
  cases found with
  | none => exact records_pure (Nat.le_refl _)
  | some t => exact records_identifier.bind fun name => records_pure (Nat.le_succ _)

theorem records_qualifiedName :
    Records k (fun _ => k + 1) Recorder.qualifiedName (Reading.past Cursor.qualifiedName) := by
  rw [Reading.past_qualifiedName]
  refine records_identifier.bind fun first => ?_
  exact (records_many records_joinedName).bind fun more => records_pure (Nat.le_refl _)

/-! ## Following the readings of groups -/

theorem follows_closeFrom {opening closing : Kind} {ts : List Token} (depth : Nat) (last : Location)
    (rest : List Token) (within : rest <:+ ts) :
    Follows ts k (fun _ => k) rest (Recorder.closeFrom opening closing depth ⟨last, rest⟩)
      ((Cursor.closeGroups opening closing depth last rest).map fun d => ((), d)) := by
  induction rest generalizing depth last with
  | nil =>
    rw [Recorder.closeFrom]
    cases depth with
    | zero =>
      rw [if_pos rfl, Cursor.closeGroups]
      exact follows_ok (s := fun _ => k) (r := .stay ⟨last, []⟩ ()) (Nat.le_refl k)
    | succ depth => exact .error (.refl _) (Nat.zero_le _)
  | cons t rest ih =>
    rw [Recorder.closeFrom]
    cases depth with
    | zero =>
      rw [if_pos rfl, Cursor.closeGroups]
      exact follows_ok (s := fun _ => k) (r := .stay ⟨last, t :: rest⟩ ()) (Nat.le_refl k)
    | succ depth =>
      let back (r : Onward ⟨t.location, rest⟩ Unit) : Onward ⟨last, t :: rest⟩ Unit :=
        r.upon (Nat.le_succ rest.length)
      -- the token brings what its round costs
      have go (depth' : Nat) : Follows ts k (fun _ => k) (t :: rest)
          (Recorded.mark (.took rest) >>= fun _ =>
            Recorded.mark (.round .group (t :: rest) rest) >>= fun _ =>
            (Recorder.closeFrom opening closing depth' ⟨t.location, rest⟩).map back)
          ((Cursor.closeGroups opening closing depth' t.location rest).map fun d => ((), d)) := by
        refine follows_took ?_
        refine follows_round .group within (List.suffix_cons t rest) (Nat.lt_succ_self _) ?_
        exact (ih depth' t.location ((List.suffix_cons t rest).trans within)).upon
      rw [if_neg (Nat.succ_ne_zero depth)]
      show Follows ts k _ (t :: rest)
        (Recorder.depthBehind opening closing (depth + 1) t >>= fun depth' => _)
        (Except.map _ (if t.kind = opening then _ else if t.kind = closing then _ else _))
      unfold Recorder.depthBehind
      split
      · exact go (depth + 2)
      · split
        · refine follows_lower (Nat.succ_pos depth) ?_
          exact go depth
        · exact go (depth + 1)

theorem records_group (opening closing : Kind) :
    Records k (fun _ => k + 1) (Recorder.group opening closing)
      (Reading.past (Cursor.group opening closing)) := by
  rw [Reading.past_group]
  refine (records_expect _ _).bind fun _ ts c within => ?_
  rw [Reading.run_restOfGroup]
  exact follows_closeFrom 1 c.last c.rest within

theorem records_annotationArguments :
    Records k (fun _ => k) Recorder.annotationArguments
      (Reading.onward Cursor.annotationArguments) := by
  rw [Reading.onward_annotationArguments]
  refine (records_look _).bind fun kind => ?_
  split
  · exact (records_group _ _).loosen fun _ => Nat.le_succ k
  · exact records_pure (Nat.le_refl k)

theorem records_annotation? :
    Records k (fun found => k + worth found) Recorder.annotation?
      (Reading.step Cursor.annotation?) := by
  rw [Reading.step_annotation?]
  refine (records_look _).bind fun starts => ?_
  split
  · refine (records_expect _ _).bind fun _ => records_qualifiedName.bind fun _ => ?_
    exact records_annotationArguments.bind fun _ => records_pure (Nat.le_succ _)
  · exact records_pure (Nat.le_refl k)

theorem records_annotations :
    Records k (fun _ => k) Recorder.annotations (Reading.onward Cursor.annotations) := by
  rw [Reading.onward_annotations]
  exact (records_many records_annotation?).bind fun _ => records_pure (Nat.le_refl k)

theorem follows_pass {ts : List Token} {l : Location} {t : Token} {rest : List Token}
    (within : t :: rest <:+ ts) :
    Follows ts k (fun found => k + worth found) (t :: rest) (Recorder.pass.run ⟨l, t :: rest⟩)
      (Reading.pass.run ⟨l, t :: rest⟩) :=
  follows_first within (records_pure (Nat.le_refl _))

/-- A group that is passed as a part of something. -/
theorem records_passedGroup (opening closing : Kind) :
    Records k (fun found => k + worth found)
      (do let _ ← Recorder.group opening closing; return some ())
      (do let _ ← Reading.past (Cursor.group opening closing); return some ()) :=
  (records_group _ _).bind fun _ => records_pure (Nat.le_refl _)

theorem records_headerPart? :
    Records k (fun found => k + worth found) Recorder.headerPart?
      (Reading.step Cursor.headerPart?) := by
  rw [Reading.step_headerPart?]
  refine records_byHead fun ts l t rest within => ?_
  split
  · exact follows_declined
  · split
    · exact records_passedGroup _ _ ts _ within
    · exact follows_pass within

theorem records_headerTail :
    Records k (fun _ => k) Recorder.headerTail (Reading.onward Cursor.headerTail) := by
  rw [Reading.onward_headerTail]
  refine (records_many records_headerPart?).bind fun _ => (records_look _).bind fun kind => ?_
  split
  · exact records_pure (Nat.le_refl k)
  · exact records_fail _

theorem records_memberPart? :
    Records k (fun found => k + worth found) Recorder.memberPart?
      (Reading.step Cursor.memberPart?) := by
  rw [Reading.step_memberPart?]
  refine records_byHead fun ts l t rest within => ?_
  split
  · exact follows_declined
  · split
    · exact follows_declined
    · exact follows_pass within

theorem records_memberTail :
    Records k (fun _ => k + 1) Recorder.memberTail (Reading.past Cursor.memberTail) := by
  rw [Reading.past_memberTail]
  refine (records_many records_memberPart?).bind fun _ => (records_look _).bind fun kind => ?_
  split
  · exact records_group _ _
  · exact (records_expect _ _).bind fun _ => records_pure (Nat.le_refl _)

theorem records_fieldPart? :
    Records k (fun found => k + worth found) Recorder.fieldPart?
      (Reading.step Cursor.fieldPart?) := by
  rw [Reading.step_fieldPart?]
  refine records_byHead fun ts l t rest within => ?_
  split
  · exact follows_declined
  · split
    · exact records_passedGroup _ _ ts _ within
    · split
      · exact records_passedGroup _ _ ts _ within
      · exact follows_pass within

theorem records_fieldTail :
    Records k (fun _ => k + 1) Recorder.fieldTail (Reading.past Cursor.fieldTail) := by
  rw [Reading.past_fieldTail]
  refine (records_many records_fieldPart?).bind fun _ => ?_
  exact (records_expect _ _).bind fun _ => records_pure (Nat.le_refl _)

/-! ## Following the readings of types -/

theorem records_dimension? :
    Records k (fun found => k + worth found) Recorder.dimension?
      (Reading.step Cursor.dimension?) := by
  rw [Reading.step_dimension?]
  refine (records_accept _).bind fun found => ?_
  cases found with
  | none => exact records_pure (Nat.le_refl k)
  | some t => exact (records_expect _ _).bind fun _ => records_pure (Nat.le_succ _)

theorem records_dimensions :
    Records k (fun _ => k) Recorder.dimensions (Reading.onward Cursor.dimensions) := by
  rw [Reading.onward_dimensions]
  exact (records_many records_dimension?).bind fun _ => records_pure (Nat.le_refl k)

theorem records_dimensionsUnlessOwed (owed : Nat) :
    Records k (fun _ => k) (Recorder.dimensionsUnlessOwed owed)
      (Reading.onward (Cursor.dimensionsUnlessOwed owed)) := by
  rw [Reading.onward_dimensionsUnlessOwed]
  unfold Recorder.dimensionsUnlessOwed
  split
  · exact records_dimensions
  · exact records_pure (Nat.le_refl k)

/-- An angle that is owed is only taken off where one is. -/
theorem records_closeAngle (owed : Nat) :
    Records k (fun _ => k) (Recorder.closeAngle owed)
      (Reading.onward (Cursor.closeAngle owed)) := by
  rw [Reading.onward_closeAngle]
  unfold Recorder.closeAngle
  by_cases none : owed = 0
  · rw [if_pos none, if_pos none]
    refine (records_next _).bind fun found => ?_
    cases found with
    | none => exact records_fail _
    | some t => exact records_pure (Nat.le_succ k)
  · rw [if_neg none, if_neg none]
    exact records_lower (Nat.pos_of_ne_zero none)

theorem accept_of_joiningDot {c : Cursor} {r : Past c Token} (h : c.joiningDot = some r) :
    c.accept .dot = some r := by
  unfold Cursor.joiningDot at h
  split at h
  · exact h
  · cases h

mutual

theorem follows_openTypeFrom {k : Nat} {ts : List Token} (c : Cursor) (within : c.rest <:+ ts) :
    Follows ts k (fun _ => k + 1) c.rest (Recorder.openTypeFrom c)
      ((Reading.past Cursor.openType).run c) := by
  rw [Recorder.openTypeFrom, Reading.past_openType]
  simp only [Reading.run_bind, Reading.run_look, ok_bind]
  refine (records_annotations ts c within).bind fun ⟨_, c₁, h₁⟩ suffix₁ _ => ?_
  have within₁ := suffix₁.trans within
  refine (records_next _ ts c₁ within₁).upon.bind fun ⟨primitive, c₂, h₂⟩ suffix₂ _ => ?_
  have within₂ := suffix₂.trans within₁
  cases primitive with
  | some t =>
    refine (records_dimensions ts c₂ within₂).upon.bind fun ⟨dims, c₃, h₃⟩ _ _ => ?_
    exact follows_pure rfl rfl (Nat.le_refl _)
  | none =>
    refine (follows_segmentFrom c₂ within₂).upon.bind fun ⟨⟨first, owed⟩, c₃, h₃⟩ suffix₃ _ => ?_
    have within₃ := suffix₃.trans within₂
    refine (follows_segmentTailFrom owed c₃ within₃).upon.bind
      fun ⟨⟨more, owed⟩, c₄, h₄⟩ suffix₄ _ => ?_
    have within₄ := suffix₄.trans within₃
    refine (records_dimensionsUnlessOwed owed ts c₄ within₄).upon.bind fun ⟨dims, c₅, h₅⟩ _ _ => ?_
    exact follows_pure rfl rfl (Nat.le_refl _)
termination_by 6 * c.rest.length + 2

theorem follows_segmentFrom {k : Nat} {ts : List Token} (c : Cursor) (within : c.rest <:+ ts) :
    Follows ts k (fun _ => k + 1) c.rest (Recorder.segmentFrom c)
      ((Reading.past Cursor.segment).run c) := by
  rw [Recorder.segmentFrom, Reading.past_segment]
  simp only [Reading.run_bind, Reading.run_look, ok_bind]
  refine (records_identifier ts c within).bind fun ⟨name, c₁, h₁⟩ suffix₁ _ => ?_
  have within₁ := suffix₁.trans within
  simp only [Reading.run_option, ok_bind]
  cases opens : c₁.accept .lt with
  | none => exact follows_pure rfl rfl (Nat.le_refl _)
  | some r =>
    have within₂ := (suffix_of_next? opens).trans within₁
    obtain ⟨t, c₂, h₂⟩ := r
    refine follows_taken opens ?_
    refine (follows_typeArgumentsFrom c₂ within₂).upon.bind fun ⟨⟨arguments, owed⟩, c₃, h₃⟩ _ _ => ?_
    exact follows_pure rfl rfl (Nat.le_succ _)
termination_by 6 * c.rest.length + 1

theorem follows_segmentTailFrom {k : Nat} {ts : List Token} (owed : Nat) (c : Cursor)
    (within : c.rest <:+ ts) :
    Follows ts k (fun _ => k) c.rest (Recorder.segmentTailFrom owed c)
      ((Reading.onward (Cursor.segmentTail owed)).run c) := by
  rw [Recorder.segmentTailFrom, Reading.onward_segmentTail]
  by_cases none : owed = 0
  · rw [if_pos none, if_pos none, Reading.run_bind, Reading.run_option, ok_bind]
    cases dot : c.joiningDot with
    | none => exact follows_pure rfl rfl (Nat.le_refl _)
    | some r =>
      have suffix₁ := suffix_of_next? (accept_of_joiningDot dot)
      obtain ⟨t, c₁, h₁⟩ := r
      refine follows_taken (accept_of_joiningDot dot) ?_
      refine (follows_segmentFrom c₁ (suffix₁.trans within)).bind
        fun ⟨⟨first, owed⟩, c₂, h₂⟩ suffix₂ _ => ?_
      have suffix := suffix₂.trans suffix₁
      refine follows_round .segments within suffix (Nat.lt_of_le_of_lt h₂ h₁) ?_
      refine (follows_segmentTailFrom owed c₂ (suffix.trans within)).upon.bind
        fun ⟨⟨more, owed⟩, c₃, h₃⟩ _ _ => ?_
      exact follows_pure rfl rfl (Nat.le_succ _)
  · rw [if_neg none, if_neg none]
    exact follows_pure rfl rfl (Nat.le_refl _)
termination_by 6 * c.rest.length

theorem follows_typeArgumentsFrom {k : Nat} {ts : List Token} (c : Cursor) (within : c.rest <:+ ts) :
    Follows ts k (fun _ => k) c.rest (Recorder.typeArgumentsFrom c)
      ((Reading.onward Cursor.typeArguments).run c) := by
  rw [Recorder.typeArgumentsFrom, Reading.onward_typeArguments]
  simp only [Reading.run_bind, Reading.run_look, ok_bind]
  by_cases closes : c.atClosingAngle
  · rw [if_pos closes, if_pos closes]
    refine (records_closeAngle 0 ts c within).bind fun ⟨owed, c₁, h₁⟩ _ _ => ?_
    exact follows_pure rfl rfl (Nat.le_refl _)
  · rw [if_neg closes, if_neg closes]
    refine (follows_argumentListFrom c within).bind fun ⟨⟨arguments, owed⟩, c₁, h₁⟩ suffix₁ _ => ?_
    refine (records_closeAngle owed ts c₁ (suffix₁.trans within)).upon.bind
      fun ⟨owed, c₂, h₂⟩ _ _ => ?_
    exact follows_pure rfl rfl (Nat.le_succ _)
termination_by 6 * c.rest.length + 5

theorem follows_argumentListFrom {k : Nat} {ts : List Token} (c : Cursor) (within : c.rest <:+ ts) :
    Follows ts k (fun _ => k + 1) c.rest (Recorder.argumentListFrom c)
      ((Reading.past Cursor.argumentList).run c) := by
  rw [Recorder.argumentListFrom, Reading.past_argumentList, Reading.run_bind]
  refine (follows_typeArgumentFrom c within).bind fun ⟨⟨first, owed⟩, c₁, h₁⟩ suffix₁ _ => ?_
  have within₁ := suffix₁.trans within
  by_cases none : owed = 0
  · dsimp only
    rw [if_pos none, if_pos none, Reading.run_bind, Reading.run_option, ok_bind]
    cases comma : c₁.accept .comma with
    | none => exact follows_pure rfl rfl (Nat.le_refl _)
    | some r =>
      have suffix₂ := suffix_of_next? comma
      obtain ⟨t, c₂, h₂⟩ := r
      have suffix := suffix₂.trans suffix₁
      refine follows_taken comma ?_
      refine follows_round .typeArguments within suffix (Nat.lt_of_lt_of_le h₂ h₁) ?_
      refine (follows_argumentListFrom c₂ (suffix.trans within)).upon.bind
        fun ⟨⟨more, owed⟩, c₃, h₃⟩ _ _ => ?_
      exact follows_pure rfl rfl (Nat.le_succ _)
  · dsimp only
    rw [if_neg none, if_neg none]
    exact follows_pure rfl rfl (Nat.le_refl _)
termination_by 6 * c.rest.length + 4

theorem follows_typeArgumentFrom {k : Nat} {ts : List Token} (c : Cursor) (within : c.rest <:+ ts) :
    Follows ts k (fun _ => k + 1) c.rest (Recorder.typeArgumentFrom c)
      ((Reading.past Cursor.typeArgument).run c) := by
  rw [Recorder.typeArgumentFrom, Reading.past_typeArgument]
  simp only [Reading.run_bind, Reading.run_look, ok_bind]
  refine (records_annotations ts c within).bind fun ⟨_, c₁, h₁⟩ suffix₁ _ => ?_
  have within₁ := suffix₁.trans within
  refine (records_accept _ ts c₁ within₁).upon.bind fun ⟨question, c₂, h₂⟩ suffix₂ _ => ?_
  have within₂ := suffix₂.trans within₁
  cases question with
  | none =>
    refine (follows_openTypeFrom c₂ within₂).upon.bind fun ⟨⟨inner, owed⟩, c₃, h₃⟩ _ _ => ?_
    exact follows_pure rfl rfl (Nat.le_refl _)
  | some t =>
    refine (records_accept _ ts c₂ within₂).upon.bind fun ⟨upper, c₃, h₃⟩ suffix₃ _ => ?_
    have within₃ := suffix₃.trans within₂
    cases upper with
    | some t =>
      refine (follows_openTypeFrom c₃ within₃).upon.bind fun ⟨⟨bound, owed⟩, c₄, h₄⟩ _ _ => ?_
      exact follows_pure rfl rfl (by omega)
    | none =>
      refine (records_accept _ ts c₃ within₃).upon.bind fun ⟨lower, c₄, h₄⟩ suffix₄ _ => ?_
      have within₄ := suffix₄.trans within₃
      cases lower with
      | some t =>
        refine (follows_openTypeFrom c₄ within₄).upon.bind fun ⟨⟨bound, owed⟩, c₅, h₅⟩ _ _ => ?_
        exact follows_pure rfl rfl (by omega)
      | none => exact follows_pure rfl rfl (Nat.le_refl _)
termination_by 6 * c.rest.length + 3

end

theorem records_openType :
    Records k (fun _ => k + 1) Recorder.openType (Reading.past Cursor.openType) :=
  fun _ c within => follows_openTypeFrom c within

theorem records_completeType :
    Records k (fun _ => k + 1) Recorder.completeType (Reading.past Cursor.completeType) := by
  rw [Reading.past_completeType]
  refine records_openType.bind fun read => ?_
  split
  · exact records_pure (Nat.le_refl _)
  · exact records_fail _

end JavaStub
