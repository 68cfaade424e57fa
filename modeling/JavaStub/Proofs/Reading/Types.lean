import JavaStub.Cursor.Types
import JavaStub.Proofs.Reading.Basic

/-!
# Names, groups and types as readings

The equations of the readers below signatures, each in terms of the readers it runs.
-/

namespace JavaStub.Reading

open Cursor

/-! ## Names -/

theorem past_identifier : past identifier = do
    let t ← past (expect .identifier .identifier)
    return t.lexeme :=
  ext_run fun _ => stage fun _ => rfl

/-- An identifier that is read is the lexeme of the next token. -/
theorem of_run_identifier {c d : Cursor} {n : String} (h : (past identifier).run c = .ok (n, d)) :
    ∃ t, c.rest = t :: d.rest ∧ t.kind = .identifier ∧ n = t.lexeme := by
  rw [past_identifier] at h
  obtain ⟨t, e, opened, done⟩ := run_bind_eq_ok_iff.mp h
  cases done
  obtain ⟨hk, split, _⟩ := of_run_expect opened
  exact ⟨t, split, hk, rfl⟩

/-- A dot that is read as joining is the next token. -/
theorem of_run_joiningDot {c d : Cursor} {t : Token}
    (h : (option joiningDot).run c = .ok (some t, d)) :
    t.kind = .dot ∧ c.rest = t :: d.rest ∧ d.last = t.location := by
  rw [run_option] at h
  unfold joiningDot at h
  split at h
  · obtain ⟨met, split, place⟩ := of_run_next (show (option (accept .dot)).run c = _ from h)
    exact ⟨of_decide_eq_true met, split, place⟩
  · cases h

theorem step_joinedName : step joinedName = (do
    match ← option joiningDot with
    | none => return none
    | some _ => do
      let name ← past identifier
      return some name) := by
  refine ext_run fun c => ?_
  rw [run_step, joinedName, run_bind, run_option]
  rcases c.joiningDot with _ | ⟨t, c₁, h₁⟩
  · rfl
  · exact stage_map fun _ => rfl

theorem past_qualifiedName : past qualifiedName = do
    let first ← past identifier
    let more ← onward (many joinedName)
    return ".".intercalate (first :: more) :=
  ext_run fun _ => stage fun _ => stage_map fun _ => rfl

/-! ## Groups -/

/-- The rest of a group is passed by closing the one group that is open. -/
theorem run_restOfGroup (opening closing : Token.Kind) (c : Cursor) :
    (onward (restOfGroup opening closing)).run c =
      (closeGroups opening closing 1 c.last c.rest).map fun d => ((), d) := by
  rw [run_onward]
  unfold restOfGroup
  split
  · next d h => exact (congrArg (Except.map fun d => ((), d)) h).symm
  · next e h => exact (congrArg (Except.map fun d => ((), d)) h).symm

theorem past_group (opening closing : Token.Kind) : past (group opening closing) = (do
    let _ ← past (expect opening (.delimiter opening))
    onward (restOfGroup opening closing)) :=
  ext_run fun _ => stage fun _ => last_map fun _ => rfl

theorem onward_annotationArguments : onward annotationArguments = (do
    let kind ← look kind?
    if kind = some .lparen then past (group .lparen .rparen) else return ()) := by
  refine ext_run fun c => ?_
  show (annotationArguments c).map _ = (if c.kind? = some .lparen then _ else _ : Reading _).run c
  unfold annotationArguments
  split
  · exact last_map fun _ => rfl
  · rfl

theorem step_annotation? : step annotation? = (do
    let starts ← look atAnnotation
    if starts then do
      let _ ← past (expect .atSign (.delimiter .atSign))
      let _ ← past qualifiedName
      onward annotationArguments
      return some ()
    else return none) := by
  refine ext_run fun c => ?_
  show (annotation? c).map _ = (if c.atAnnotation then _ else _ : Reading _).run c
  unfold annotation?
  split
  · exact stage fun _ => stage_map fun _ => stage_map fun _ => rfl
  · rfl

theorem onward_annotations : onward annotations = do
    let _ ← onward (many annotation?)
    return () :=
  ext_run fun _ => stage fun _ => rfl

/-- A step that is decided by the next token, and declines at the end of the tokens. -/
theorem step_byFirst {α : Type} {f : (c : Cursor) → Except ParseError (Option (Past c α))}
    {x : Token → Reading (Option α)} (hnil : ∀ l, f ⟨l, []⟩ = .ok none)
    (hcons : ∀ l t ts, (f ⟨l, t :: ts⟩).map attempted = (x t).run ⟨l, t :: ts⟩) :
    step f = (do
      match ← look (·.rest.head?) with
      | none => return none
      | some t => x t) := by
  refine ext_run fun c => ?_
  obtain ⟨l, ts⟩ := c
  cases ts with
  | nil => rw [run_step, hnil]; rfl
  | cons t ts => exact hcons l t ts

/-- The reading of the next token, which counts for nothing. -/
def pass : Reading (Option Unit) := do
  let _ ← option first?
  return some ()

theorem step_headerPart? : step headerPart? = (do
    match ← look (·.rest.head?) with
    | none => return none
    | some t =>
      if t.kind = .lbrace then return none
      else if t.kind = .lparen then do let _ ← past (group .lparen .rparen); return some ()
      else pass) := by
  refine step_byFirst (fun l => rfl) fun l t ts => ?_
  show (if t.kind = .lbrace then _ else _ : Except ParseError (Option (Past _ Unit))).map _ = _
  split
  · rfl
  · split
    · exact attempted_some _ _
    · rfl

theorem onward_headerTail : onward headerTail = (do
    let _ ← onward (many headerPart?)
    let kind ← look kind?
    if kind = some .lbrace then return () else fail (unexpected · .body)) := by
  refine ext_run fun c => stage fun ⟨_, c₁, h₁⟩ => ?_
  show Except.map _ (if c₁.kind? = some .lbrace then _ else _) =
    (if c₁.kind? = some .lbrace then _ else _ : Reading _).run c₁
  split <;> rfl

theorem step_memberPart? : step memberPart? = (do
    match ← look (·.rest.head?) with
    | none => return none
    | some t =>
      if t.kind = .lbrace then return none
      else if t.kind = .semicolon then return none
      else pass) := by
  refine step_byFirst (fun l => rfl) fun l t ts => ?_
  show (if t.kind = .lbrace then _ else _ : Except ParseError (Option (Past _ Unit))).map _ = _
  split
  · rfl
  · split <;> rfl

theorem past_memberTail : past memberTail = (do
    let _ ← onward (many memberPart?)
    let kind ← look kind?
    if kind = some .lbrace then past (group .lbrace .rbrace)
    else do
      let _ ← past (expect .semicolon .memberBody)
      return ()) := by
  refine ext_run fun c => stage fun ⟨_, c₁, h₁⟩ => ?_
  show Except.map _ (if c₁.kind? = some .lbrace then _ else _) =
    (if c₁.kind? = some .lbrace then _ else _ : Reading _).run c₁
  split
  · exact last_map fun _ => rfl
  · exact stage_map fun _ => rfl

theorem step_fieldPart? : step fieldPart? = (do
    match ← look (·.rest.head?) with
    | none => return none
    | some t =>
      if t.kind = .semicolon then return none
      else if t.kind = .lbrace then do let _ ← past (group .lbrace .rbrace); return some ()
      else if t.kind = .lparen then do let _ ← past (group .lparen .rparen); return some ()
      else pass) := by
  refine step_byFirst (fun l => rfl) fun l t ts => ?_
  show (if t.kind = .semicolon then _ else _ : Except ParseError (Option (Past _ Unit))).map _ = _
  split
  · rfl
  · split
    · exact attempted_some _ _
    · split
      · exact attempted_some _ _
      · rfl

theorem past_fieldTail : past fieldTail = do
    let _ ← onward (many fieldPart?)
    let _ ← past (expect .semicolon .fieldEnd)
    return () :=
  ext_run fun _ => stage fun _ => stage_map fun _ => rfl

/-! ## Types -/

theorem step_dimension? : step dimension? = (do
    match ← option (accept .lbracket) with
    | none => return none
    | some _ => do
      let _ ← past (expect .rbracket .dimensionEnd)
      return some ()) := by
  refine ext_run fun c => ?_
  rw [run_step, dimension?, run_bind, run_option]
  rcases c.accept .lbracket with _ | ⟨t, c₁, h₁⟩
  · rfl
  · exact stage_map fun _ => rfl

theorem onward_dimensions : onward dimensions = do
    let dims ← onward (many dimension?)
    return dims.length :=
  ext_run fun _ => stage fun _ => rfl

theorem onward_dimensionsUnlessOwed (owed : Nat) : onward (dimensionsUnlessOwed owed) =
    if owed = 0 then onward dimensions else return 0 := by
  refine ext_run fun c => ?_
  rw [run_onward]
  unfold dimensionsUnlessOwed
  split <;> rfl

theorem onward_closeAngle (owed : Nat) : onward (closeAngle owed) =
    if owed = 0 then do
      match ← option (next? fun t => angleCount t.kind != 0) with
      | some t => return angleCount t.kind - 1
      | none => fail (unexpected · .closingAngle)
    else return owed - 1 := by
  refine ext_run fun c => ?_
  rw [run_onward]
  unfold closeAngle
  split
  · rw [run_bind, run_option]
    rcases c.next? (fun t => angleCount t.kind != 0) with _ | ⟨t, c₁, h₁⟩ <;> rfl
  · rfl

theorem past_openType : past openType = (do
    let start ← look location
    let _ ← onward annotations
    match ← option (next? fun t => t.kind.isPrimitive) with
    | some t => do
      let dims ← onward dimensions
      let span ← look (spanFrom start)
      return (.basic t.lexeme dims span, 0)
    | none => do
      let first ← past segment
      let more ← onward (segmentTail first.2)
      let dims ← onward (dimensionsUnlessOwed more.2)
      let span ← look (spanFrom start)
      return (typeOfSegments first.1 more.1 dims span, more.2)) := by
  refine ext_run fun c => ?_
  rw [run_past, openType]
  refine stage fun ⟨_, c₁, h₁⟩ => ?_
  simp only [run_bind, run_option, ok_bind]
  rcases c₁.next? (fun t => t.kind.isPrimitive) with _ | ⟨t, c₂, h₂⟩
  · exact stage_map fun _ => stage_map fun _ => stage_map fun _ => rfl
  · exact stage_map fun _ => rfl

theorem past_segment : past segment = (do
    let start ← look location
    let name ← past identifier
    match ← option (accept .lt) with
    | none => do
      let span ← look (spanFrom start)
      return (.mk name [] 0 span, 0)
    | some _ => do
      let arguments ← onward typeArguments
      let span ← look (spanFrom start)
      return (.mk name arguments.1 0 span, arguments.2)) := by
  refine ext_run fun c => ?_
  rw [run_past, Cursor.segment]
  refine stage fun ⟨name, c₁, h₁⟩ => ?_
  simp only [run_bind, run_option, ok_bind]
  rcases c₁.accept .lt with _ | ⟨t, c₂, h₂⟩
  · rfl
  · exact stage_map fun _ => rfl

theorem onward_segmentTail (owed : Nat) : onward (segmentTail owed) =
    if owed = 0 then do
      match ← option joiningDot with
      | none => return ([], 0)
      | some _ => do
        let first ← past segment
        let more ← onward (segmentTail first.2)
        return (first.1 :: more.1, more.2)
    else return ([], owed) := by
  refine ext_run fun c => ?_
  rw [run_onward, segmentTail]
  split
  · rw [run_bind, run_option]
    rcases c.joiningDot with _ | ⟨t, c₁, h₁⟩
    · rfl
    · exact stage fun _ => stage_map fun _ => rfl
  · rfl

theorem onward_typeArguments : onward typeArguments = (do
    let closes ← look atClosingAngle
    if closes then do
      let owed ← onward (closeAngle 0)
      return ([], owed)
    else do
      let arguments ← past argumentList
      let owed ← onward (closeAngle arguments.2)
      return (arguments.1, owed)) := by
  refine ext_run fun c => ?_
  rw [run_onward, typeArguments, run_bind, run_look, ok_bind]
  split
  · exact stage fun _ => rfl
  · exact stage fun _ => stage_map fun _ => rfl

theorem past_argumentList : past argumentList = (do
    let first ← past typeArgument
    if first.2 = 0 then
      match ← option (accept .comma) with
      | none => return ([first.1], 0)
      | some _ => do
        let more ← past argumentList
        return (first.1 :: more.1, more.2)
    else return ([first.1], first.2)) := by
  refine ext_run fun c => ?_
  rw [run_past, argumentList]
  refine stage fun ⟨⟨first, owed⟩, c₁, h₁⟩ => ?_
  by_cases h : owed = 0
  · simp only [h, if_true, run_bind, run_option, ok_bind]
    rcases c₁.accept .comma with _ | ⟨t, c₂, h₂⟩
    · rfl
    · exact stage_map fun _ => rfl
  · simp only [h, if_false]
    rfl

theorem past_typeArgument : past typeArgument = (do
    let start ← look location
    let _ ← onward annotations
    match ← option (accept .question) with
    | none => do
      let inner ← past openType
      let span ← look (spanFrom start)
      return (.argument inner.1 span, inner.2)
    | some _ =>
      match ← option (accept .kwExtends) with
      | some _ => do
        let bound ← past openType
        let span ← look (spanFrom start)
        return (.boundedWildcard .upper bound.1 span, bound.2)
      | none =>
        match ← option (accept .kwSuper) with
        | some _ => do
          let bound ← past openType
          let span ← look (spanFrom start)
          return (.boundedWildcard .lower bound.1 span, bound.2)
        | none => do
          let span ← look (spanFrom start)
          return (.wildcard span, 0)) := by
  refine ext_run fun c => ?_
  rw [run_past, typeArgument]
  refine stage fun ⟨_, c₁, h₁⟩ => ?_
  simp only [run_bind, run_option, ok_bind]
  rcases c₁.accept .question with _ | ⟨t, c₂, h₂⟩
  · exact stage_map fun _ => rfl
  simp only [attempted, run_bind, run_option, ok_bind]
  rcases c₂.accept .kwExtends with _ | ⟨t, c₃, h₃⟩
  · simp only [attempted, run_bind, run_option, ok_bind]
    rcases c₂.accept .kwSuper with _ | ⟨t, c₃, h₃⟩
    · rfl
    · exact stage_map fun _ => rfl
  · exact stage_map fun _ => rfl

theorem past_completeType : past completeType = (do
    let read ← past openType
    if read.2 = 0 then return read.1 else fail fun c => .unbalancedAngle c.last) := by
  refine ext_run fun c => stage fun ⟨⟨type, owed⟩, c₁, h₁⟩ => ?_
  unfold balanced
  by_cases h : owed = 0
  · simp only [h, if_true]
    rfl
  · simp only [h, if_false]
    rfl

end JavaStub.Reading
