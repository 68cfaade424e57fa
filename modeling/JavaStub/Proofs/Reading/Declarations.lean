import JavaStub.Cursor.Units
import JavaStub.Proofs.Reading.Types

/-!
# Signatures, members and units as readings

The equations of the readers of declarations, each in terms of the readers it runs.
-/

namespace JavaStub.Reading

open Cursor

/-! ## Signatures -/

theorem step_modifierOrAnnotation? : step modifierOrAnnotation? = (do
    match ← step annotation? with
    | some _ => return some none
    | none =>
      match ← look (·.rest.head?) with
      | none => return none
      | some t =>
        match modifierOf? t.kind with
        | none => return none
        | some modifier => do
          let _ ← option first?
          return some (some modifier)) := by
  refine ext_run fun c => ?_
  obtain ⟨l, ts⟩ := c
  rw [run_step, modifierOrAnnotation?, run_bind, run_step]
  rcases annotation? ⟨l, ts⟩ with e | _ | ⟨_, c₁, h₁⟩
  · rfl
  · cases ts with
    | nil => rfl
    | cons t ts =>
      show Except.map attempted (match modifierOf? t.kind with | none => _ | some _ => _) =
        (match modifierOf? t.kind with | none => _ | some _ => _ : Reading _).run ⟨l, t :: ts⟩
      cases modifierOf? t.kind <;> rfl
  · rfl

theorem onward_modifiers : onward modifiers = do
    let found ← onward (many modifierOrAnnotation?)
    return found.filterMap id :=
  ext_run fun _ => stage fun _ => rfl

theorem past_bound : past bound = do
    let type ← past openType
    return ((), type.2) :=
  ext_run fun _ => stage fun _ => rfl

theorem onward_bounds : onward bounds = (do
    match ← option (accept .kwExtends) with
    | none => return 0
    | some _ => do
      let read ← past (separated .amp bound)
      return read.2) := by
  refine ext_run fun c => ?_
  rw [run_onward, bounds, run_bind, run_option]
  rcases c.accept .kwExtends with _ | ⟨t, c₁, h₁⟩
  · rfl
  · exact stage_map fun _ => rfl

theorem past_typeParameter : past typeParameter = do
    let _ ← onward annotations
    let name ← past identifier
    let owed ← onward bounds
    return (name, owed) :=
  ext_run fun _ => stage fun _ => stage_map fun _ => stage_map fun _ => rfl

theorem onward_typeParameters : onward typeParameters = (do
    match ← option (accept .lt) with
    | none => return []
    | some _ => do
      let names ← past (separated .comma typeParameter)
      let owed ← onward (closeAngle names.2)
      if owed = 0 then return names.1 else fail fun c => .unbalancedAngle c.last) := by
  refine ext_run fun c => ?_
  rw [run_onward, typeParameters, run_bind, run_option]
  rcases c.accept .lt with _ | ⟨t, c₁, h₁⟩
  · rfl
  refine stage_map fun ⟨⟨names, owed⟩, c₂, h₂⟩ => stage_map fun ⟨owed', c₃, h₃⟩ => ?_
  show Except.map _ (balanced _ >>= _) = _
  unfold balanced
  by_cases h : owed' = 0
  · simp only [h, if_true]
    rfl
  · simp only [h, if_false]
    rfl

theorem past_parameter : past parameter = do
    let start ← look location
    let _ ← onward modifiers
    let type ← past completeType
    let _ ← onward annotations
    let varargs ← sure (Cursor.optional .ellipsis)
    let name ← past identifier
    let dims ← onward dimensions
    let span ← look (spanFrom start)
    return ⟨type.addDimensions dims, name, varargs, span⟩ :=
  ext_run fun _ => stage fun _ => stage_map fun _ => stage_map fun _ => stage_map fun _ =>
    stage_map fun _ => rfl

theorem past_parameterItem : past parameterItem = do
    let parameter ← past parameter
    return (parameter, 0) :=
  ext_run fun _ => stage fun _ => rfl

theorem past_parameters : past parameters = (do
    match ← option (accept .rparen) with
    | some _ => return []
    | none => do
      let read ← past (separated .comma parameterItem)
      let _ ← past (expect .rparen .parameterEnd)
      return read.1) := by
  refine ext_run fun c => ?_
  rw [run_past, parameters, run_bind, run_option]
  rcases c.accept .rparen with _ | ⟨t, c₁, h₁⟩
  · exact stage fun _ => stage_map fun _ => rfl
  · rfl

/-! ## Members -/

/-- Are tokens of these two kinds next? -/
def atPair (first second : Token.Kind) (c : Cursor) : Bool :=
  c.kind? = some first && c.secondKind? = some second

/-- The last token of what introduces a type declaration. -/
def keyword (introduced : Introduced) : Reading (Option Introduced) := do
  let _ ← option first?
  return some introduced

theorem option_typeKeyword : option typeKeyword = (do
    match ← look (·.rest.head?) with
    | none => return none
    | some t =>
      match t.kind with
      | .kwClass => keyword .ofClass
      | .kwInterface => keyword (.ofHeader .interface)
      | .kwEnum => keyword (.ofHeader .enum)
      | .atSign => do
        let starts ← look (atPair .atSign .kwInterface)
        if starts then do
          let _ ← option first?
          keyword (.ofHeader .annotationType)
        else return none
      | .identifier => do
        let starts ← look (atPair .identifier .identifier)
        if t.lexeme = "record" && starts then keyword (.ofHeader .record) else return none
      | _ => return none) := by
  refine ext_run fun ⟨l, ts⟩ => ?_
  cases ts with
  | nil => rfl
  | cons t ts =>
    obtain ⟨kind, lexeme, place⟩ := t
    rw [run_option]
    unfold typeKeyword
    simp only [first?, next?_cons, if_true, run_bind, run_look, ok_bind, List.head?_cons]
    cases kind with
    | atSign =>
      cases ts with
      | nil => rfl
      | cons u us =>
        unfold accept
        rw [next?_cons]
        by_cases hu : u.kind = .kwInterface
        · simp [hu, atPair, kind?, secondKind?]; rfl
        · simp [hu, atPair, kind?, secondKind?]; rfl
    | identifier =>
      have same : atPair .identifier .identifier ⟨l, ⟨.identifier, lexeme, place⟩ :: ts⟩ =
          decide ((⟨place, ts⟩ : Cursor).kind? = some .identifier) := by
        simp [atPair, kind?, secondKind?]
      simp only [run_bind, run_look, ok_bind, same]
      split <;> rfl
    | _ => rfl

theorem past_passedType : past passedType = do
    let name ← past identifier
    let _ ← onward headerTail
    let _ ← past (group .lbrace .rbrace)
    return name :=
  ext_run fun _ => stage fun _ => stage_map fun _ => stage_map fun _ => rfl

theorem past_constructor : past constructor = (do
    let _ ← past identifier
    let _ ← past (group .lparen .rparen)
    past memberTail) :=
  ext_run fun _ => stage fun _ => stage_map fun _ => last_map fun _ => rfl

theorem past_resultType : past resultType = (do
    match ← option (accept .kwVoid) with
    | some _ => return none
    | none => do
      let type ← past completeType
      return some type) := by
  refine ext_run fun c => ?_
  rw [run_past, resultType, run_bind, run_option]
  rcases c.accept .kwVoid with _ | ⟨t, c₁, h₁⟩
  · exact last_value fun _ => rfl
  · rfl

/-- The type of a result with the dimensions that follow the parameters, as a reading. -/
def dimensioned (result : Option JavaType) (dims : Nat) : Reading (Option JavaType) :=
  ⟨fun c => (withDimensions result dims c.last).map (·, c)⟩

theorem run_dimensioned (result : Option JavaType) (dims : Nat) (c : Cursor) :
    (dimensioned result dims).run c = (withDimensions result dims c.last).map (·, c) := rfl

/-- The dimensions are checked where nothing is read. -/
theorem eq_of_run_dimensioned {result type : Option JavaType} {dims : Nat} {c d : Cursor}
    (h : (dimensioned result dims).run c = .ok (type, d)) : d = c := by
  rw [run_dimensioned] at h
  cases hw : withDimensions result dims c.last with
  | error _ => rw [hw] at h; cases h
  | ok w => rw [hw] at h; cases h; rfl

/-- Nor does it matter there what is left. -/
theorem run_dimensioned_rest {result type : Option JavaType} {dims : Nat} {c d : Cursor}
    (h : (dimensioned result dims).run c = .ok (type, d)) (ts : List Token) :
    (dimensioned result dims).run ⟨c.last, ts⟩ = .ok (type, ⟨c.last, ts⟩) := by
  rw [run_dimensioned] at h ⊢
  cases hw : withDimensions result dims c.last with
  | error _ => rw [hw] at h; cases h
  | ok w => rw [hw] at h; cases h; rfl

theorem past_methodTail (result : Option JavaType) : past (methodTail result) = do
    let parameters ← past parameters
    let dims ← onward dimensions
    let result ← dimensioned result dims
    let _ ← past memberTail
    return (parameters, result) :=
  ext_run fun _ => stage fun _ => stage_map fun _ => stage fun _ => stage_map fun _ => rfl

theorem past_fieldOrMethod (start : Location) (modifiers : List Modifier)
    (typeParameters : List String) : past (fieldOrMethod start modifiers typeParameters) = (do
    let result ← past resultType
    let name ← past identifier
    match ← option (accept .lparen) with
    | none => do
      let _ ← past fieldTail
      return none
    | some _ => do
      let tail ← past (methodTail result)
      let span ← look (spanFrom start)
      return some ⟨modifiers, typeParameters, tail.2, name, tail.1, span⟩) := by
  refine ext_run fun c => stage fun ⟨result, c₁, h₁⟩ => stage_map fun ⟨name, c₂, h₂⟩ => ?_
  simp only [run_bind, run_option, ok_bind, Past.after]
  rcases c₂.accept .lparen with _ | ⟨t, c₃, h₃⟩
  · exact stage_map fun _ => rfl
  · exact stage_map fun _ => rfl

theorem past_plainMember (start : Location) (modifiers : List Modifier) :
    past (plainMember start modifiers) = (do
      let typeParameters ← onward typeParameters
      let atConstructor ← look atConstructor
      if atConstructor then do
        let _ ← past constructor
        return none
      else past (fieldOrMethod start modifiers typeParameters)) := by
  refine ext_run fun c => stage fun ⟨typeParameters, c₁, h₁⟩ => ?_
  simp only [run_bind, run_look, ok_bind]
  split
  · exact last_none fun _ => rfl
  · exact last_map fun _ => rfl

theorem past_member : past member = (do
    let start ← look location
    let modifiers ← onward modifiers
    let kind ← look kind?
    if kind = some .lbrace then do
      let _ ← past (group .lbrace .rbrace)
      return none
    else
      match ← option typeKeyword with
      | some _ => do
        let _ ← past passedType
        return none
      | none => past (plainMember start modifiers)) := by
  refine ext_run fun c => stage fun ⟨modifiers, c₁, h₁⟩ => ?_
  simp only [run_bind, run_look, ok_bind]
  split
  · exact last_none fun _ => rfl
  · rw [run_bind, run_option, ok_bind]
    rcases c₁.typeKeyword with _ | ⟨kind, c₂, h₂⟩
    · exact last_map fun _ => rfl
    · exact last_none fun _ => rfl

theorem step_memberOrSemicolon? : step memberOrSemicolon? = (do
    match ← look (·.rest.head?) with
    | none => return none
    | some t =>
      if t.kind = .rbrace then return none
      else if t.kind = .semicolon then do
        let _ ← option first?
        return some none
      else do
        let found ← past member
        return some found) := by
  refine step_byFirst (fun l => rfl) fun l t ts => ?_
  show Except.map attempted (if t.kind = .rbrace then _ else _) = _
  split
  · rfl
  · split
    · rfl
    · exact attempted_some _ _

theorem past_members : past members = do
    let found ← onward (many memberOrSemicolon?)
    let _ ← past (expect .rbrace .classEnd)
    return found.filterMap id :=
  ext_run fun _ => stage fun _ => stage_map fun _ => rfl

/-! ## Units -/

@[simp] theorem packageAhead_nil : packageAhead [] = false := by rw [packageAhead]

/-- Ahead of anything but an annotation, the next token decides. -/
theorem packageAhead_of_not {l : Location} {t : Token} {ts : List Token}
    (h : atAnnotation ⟨l, t :: ts⟩ = false) :
    packageAhead (t :: ts) = decide (t.kind = .kwPackage) := by
  have h' : ¬(t.kind = .atSign && ts.head?.map (·.kind) != some .kwInterface) = true := by
    simpa [kind?, atAnnotation, secondKind?] using h
  rw [packageAhead, if_neg h']

/-- The tokens after the arguments of an annotation whose name has been passed. -/
def afterArguments (ts : List Token) : Option (List Token) :=
  match ts with
  | [] => none
  | u :: us =>
    if u.kind = .lparen then
      match closeGroups .lparen .rparen 1 u.location us with
      | .ok d => some d.rest
      | .error _ => none
    else some (u :: us)

theorem afterArguments_round {u : Token} {us : List Token} (h : u.kind = .lparen) :
    afterArguments (u :: us) =
      match closeGroups .lparen .rparen 1 u.location us with
      | .ok d => some d.rest
      | .error _ => none := by
  unfold afterArguments
  exact if_pos h

theorem afterArguments_of_ne {u : Token} {us : List Token} (h : u.kind ≠ .lparen) :
    afterArguments (u :: us) = some (u :: us) := by
  unfold afterArguments
  exact if_neg h

theorem afterArguments_le {ts rest : List Token} (h : afterArguments ts = some rest) :
    rest.length ≤ ts.length := by
  unfold afterArguments at h
  split at h
  · cases h
  · split at h
    · split at h
      · next closed =>
        cases h
        exact Nat.le_succ_of_le (closeGroups_le closed)
      · cases h
    · cases h
      exact Nat.le_refl _

/-- An annotation is looked past. -/
theorem packageAhead_of_sign {l : Location} {t : Token} {ts : List Token}
    (h : atAnnotation ⟨l, t :: ts⟩ = true) :
    packageAhead (t :: ts) = (afterArguments (afterNameRun ts)).any packageAhead := by
  have h' : (t.kind = .atSign && ts.head?.map (·.kind) != some .kwInterface) = true := by
    simpa [kind?, atAnnotation, secondKind?] using h
  rw [packageAhead, if_pos h']
  unfold afterArguments
  split
  · next h => rw [h]; rfl
  · next u us h =>
    rw [h]
    dsimp only
    split
    · split
      · next d hd => rw [hd]; rfl
      · next e he => rw [he]; rfl
    · rfl

theorem past_package : past package = do
    let start ← look location
    let _ ← past (expect .kwPackage .packageKeyword)
    let name ← past qualifiedName
    let _ ← past (expect .semicolon .packageEnd)
    let span ← look (spanFrom start)
    return ⟨name, span⟩ :=
  ext_run fun _ => stage fun _ => stage_map fun _ => stage_map fun _ => rfl

theorem onward_package? : onward package? = (do
    let ahead ← look fun c => packageAhead c.rest
    if ahead then do
      let _ ← onward annotations
      let found ← past package
      return some found
    else return none) := by
  refine ext_run fun c => ?_
  rw [run_onward, package?, run_bind, run_look, ok_bind]
  split
  · exact stage fun _ => stage_map fun _ => rfl
  · rfl

theorem onward_importStar : onward importStar = (do
    match ← option (accept .dot) with
    | none => return false
    | some _ => do
      let _ ← past (expect .star .importWildcard)
      return true) := by
  refine ext_run fun c => ?_
  rw [run_onward, importStar, run_bind, run_option]
  rcases c.accept .dot with _ | ⟨t, c₁, h₁⟩
  · rfl
  · exact stage_map fun _ => rfl

theorem past_importTail (start : Location) : past (importTail start) = do
    let isStatic ← sure (Cursor.optional .kwStatic)
    let name ← past qualifiedName
    let isWildcard ← onward importStar
    let _ ← past (expect .semicolon .importEnd)
    let span ← look (spanFrom start)
    return ⟨name, isStatic, isWildcard, span⟩ :=
  ext_run fun _ => stage_map fun _ => stage_map fun _ => stage_map fun _ => rfl

theorem step_importOrSemicolon? : step importOrSemicolon? = (do
    match ← look (·.rest.head?) with
    | none => return none
    | some t =>
      if t.kind = .semicolon then do
        let _ ← option first?
        return some none
      else if t.kind = .kwImport then do
        let _ ← option first?
        let found ← past (importTail t.location)
        return some (some found)
      else return none) := by
  refine step_byFirst (fun l => rfl) fun l t ts => ?_
  show Except.map attempted (if t.kind = .semicolon then _ else _) = _
  split
  · rfl
  · split
    · exact stage_map fun _ => rfl
    · rfl

theorem onward_imports : onward imports = do
    let found ← onward (many importOrSemicolon?)
    return found.filterMap id :=
  ext_run fun _ => stage fun _ => rfl

theorem past_classTail (start : Location) (modifiers : List Modifier) :
    past (classTail start modifiers) = do
      let name ← past identifier
      let typeParameters ← onward typeParameters
      let _ ← onward headerTail
      let _ ← past (expect .lbrace .body)
      let methods ← past members
      let span ← look (spanFrom start)
      return ⟨modifiers, name, typeParameters, methods, span⟩ :=
  ext_run fun _ => stage fun _ => stage_map fun _ => stage_map fun _ => stage_map fun _ =>
    stage_map fun _ => rfl

theorem past_headerOfType (kind : HeaderKind) (start : Location) (modifiers : List Modifier) :
    past (headerOfType kind start modifiers) = do
      let name ← past passedType
      let span ← look (spanFrom start)
      return ⟨kind, modifiers, name, span⟩ :=
  ext_run fun _ => stage fun _ => rfl

theorem past_typeDeclaration : past typeDeclaration = (do
    let start ← look location
    let modifiers ← onward modifiers
    match ← option typeKeyword with
    | none => fail (unexpected · .typeDeclaration)
    | some .ofClass => do
      let declaration ← past (classTail start modifiers)
      return .ofClass declaration
    | some (.ofHeader kind) => do
      let header ← past (headerOfType kind start modifiers)
      return .ofHeader header) := by
  refine ext_run fun c => stage fun ⟨modifiers, c₁, h₁⟩ => ?_
  simp only [run_bind, run_option, ok_bind]
  rcases c₁.typeKeyword with _ | ⟨_ | kind, c₂, h₂⟩
  · rfl
  · exact last_value fun _ => rfl
  · exact last_value fun _ => rfl

theorem step_typeOrSemicolon? : step typeOrSemicolon? = (do
    match ← look (·.rest.head?) with
    | none => return none
    | some t =>
      if t.kind = .semicolon then do
        let _ ← option first?
        return some none
      else do
        let found ← past typeDeclaration
        return some (some found)) := by
  refine step_byFirst (fun l => rfl) fun l t ts => ?_
  show Except.map attempted (if t.kind = .semicolon then _ else _) = _
  split
  · rfl
  · exact stage fun _ => rfl

theorem onward_typeDeclarations : onward typeDeclarations = do
    let found ← onward (many typeOrSemicolon?)
    return found.filterMap id :=
  ext_run fun _ => stage fun _ => rfl

/-- A compilation unit as a reading. -/
def unit : Reading CompilationUnit := do
  let start ← look location
  let package ← onward package?
  let imports ← onward imports
  let types ← onward typeDeclarations
  let span ← look (spanFrom start)
  return ⟨package, imports, types, span⟩

theorem map_run_unit (c : Cursor) : (unit.run c).map (·.1) = c.compilationUnit := by
  unfold unit Cursor.compilationUnit
  simp only [run_bind, run_look, ok_bind, run_onward]
  rcases c.package? with e | ⟨package, c₁, h₁⟩
  · rfl
  simp only [Except.map, ok_bind]
  rcases c₁.imports with e | ⟨imports, c₂, h₂⟩
  · rfl
  simp only [ok_bind]
  rcases c₂.typeDeclarations with e | ⟨types, c₃, h₃⟩
  · rfl
  · rfl

end JavaStub.Reading
