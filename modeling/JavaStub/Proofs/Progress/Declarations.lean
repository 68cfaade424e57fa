import JavaStub.CompilationUnit
import JavaStub.Proofs.Progress.Lookahead
import JavaStub.Proofs.Progress.Types

/-!
# Recorders of declarations

The recorders of signatures, members and units, and that they follow the readings of the same names. So
a run over any tokens, whether they are accepted or refused, goes forward in every round.

Main facts:

1. `records_member` and `records_typeDeclaration`: declarations take a token each.
2. `records_unit`: the recorder of units follows the reading.
3. `progress_ofTokens`: what the marks of a run over tokens say.
-/

namespace JavaStub

open Token (Kind)

namespace Recorder

open Cursor (modifierOf? Introduced)
open Reading (atPair)

/-! ## Signatures -/

def modifierOrAnnotation? : Recorder (Option (Option Modifier)) := do
  match ← annotation? with
  | some _ => return some none
  | none =>
    match ← look (·.rest.head?) with
    | none => return none
    | some t =>
      match modifierOf? t.kind with
      | none => return none
      | some modifier => do
        let _ ← first?
        return some (some modifier)

/-- An annotation is passed by a loop of its own inside the one over modifiers. -/
def modifiers : Recorder (List Modifier) := do
  let found ← many (fun passed => if passed.isSome then .modifiers else .annotations)
    modifierOrAnnotation?
  return found.filterMap id

def bound : Recorder (Unit × Nat) := do
  let type ← openType
  return ((), type.2)

def bounds : Recorder Nat := do
  match ← accept .kwExtends with
  | none => return 0
  | some _ => do
    let read ← separated .bounds .amp bound
    return read.2

def typeParameter : Recorder (String × Nat) := do
  let _ ← annotations
  let name ← identifier
  let owed ← bounds
  return (name, owed)

def typeParameters : Recorder (List String) := do
  match ← accept .lt with
  | none => return []
  | some _ => do
    let names ← separated .typeParameters .comma typeParameter
    let owed ← closeAngle names.2
    if owed = 0 then return names.1 else fail fun c => .unbalancedAngle c.last

def parameter : Recorder Parameter := do
  let start ← look Cursor.location
  let _ ← modifiers
  let type ← completeType
  let _ ← annotations
  let varargs ← optional .ellipsis
  let name ← identifier
  let dims ← dimensions
  let span ← look (Cursor.spanFrom start)
  return ⟨type.addDimensions dims, name, varargs, span⟩

def parameterItem : Recorder (Parameter × Nat) := do
  let parameter ← parameter
  return (parameter, 0)

def parameters : Recorder (List Parameter) := do
  match ← accept .rparen with
  | some _ => return []
  | none => do
    let read ← separated .parameters .comma parameterItem
    let _ ← expect .rparen .parameterEnd
    return read.1

/-! ## Members -/

def keyword (introduced : Introduced) : Recorder (Option Introduced) := do
  let _ ← first?
  return some introduced

def typeKeyword : Recorder (Option Introduced) := do
  match ← look (·.rest.head?) with
  | none => return none
  | some t =>
    match t.kind with
    | .kwClass => keyword .ofClass
    | .kwInterface => keyword (.ofHeader .interface)
    | .kwEnum => keyword (.ofHeader .enum)
    | .atSign => do
      let starts ← look (atPair .atSign .kwInterface)
      if starts then do
        let _ ← first?
        keyword (.ofHeader .annotationType)
      else return none
    | .identifier => do
      let starts ← look (atPair .identifier .identifier)
      if t.lexeme = "record" && starts then keyword (.ofHeader .record) else return none
    | _ => return none

def passedType : Recorder String := do
  let name ← identifier
  let _ ← headerTail
  let _ ← group .lbrace .rbrace
  return name

def constructor : Recorder Unit := do
  let _ ← identifier
  let _ ← group .lparen .rparen
  memberTail

def resultType : Recorder (Option JavaType) := do
  match ← accept .kwVoid with
  | some _ => return none
  | none => do
    let type ← completeType
    return some type

/-- The dimensions are checked where nothing is read. -/
def dimensioned (result : Option JavaType) (dims : Nat) : Recorder (Option JavaType) :=
  ⟨fun c => ⟨[], (Cursor.withDimensions result dims c.last).map (.stay c)⟩⟩

def methodTail (result : Option JavaType) : Recorder (List Parameter × Option JavaType) := do
  let parameters ← parameters
  let dims ← dimensions
  let result ← dimensioned result dims
  let _ ← memberTail
  return (parameters, result)

def fieldOrMethod (start : Location) (modifiers : List Modifier) (typeParameters : List String) :
    Recorder (Option Method) := do
  let result ← resultType
  let name ← identifier
  match ← accept .lparen with
  | none => do
    let _ ← fieldTail
    return none
  | some _ => do
    let tail ← methodTail result
    let span ← look (Cursor.spanFrom start)
    return some ⟨modifiers, typeParameters, tail.2, name, tail.1, span⟩

def plainMember (start : Location) (modifiers : List Modifier) : Recorder (Option Method) := do
  let typeParameters ← typeParameters
  let atConstructor ← look Cursor.atConstructor
  if atConstructor then do
    let _ ← constructor
    return none
  else fieldOrMethod start modifiers typeParameters

def member : Recorder (Option Method) :=
  reading .ofMember do
    let start ← look Cursor.location
    let modifiers ← modifiers
    let kind ← look Cursor.kind?
    if kind = some .lbrace then do
      let _ ← group .lbrace .rbrace
      return none
    else
      match ← typeKeyword with
      | some _ => do
        let _ ← passedType
        return none
      | none => plainMember start modifiers

def memberOrSemicolon? : Recorder (Option (Option Method)) := do
  match ← look (·.rest.head?) with
  | none => return none
  | some t =>
    if t.kind = .rbrace then return none
    else if t.kind = .semicolon then do
      let _ ← first?
      return some none
    else do
      let found ← member
      return some found

def members : Recorder (List Method) := do
  let found ← many (fun _ => .members) memberOrSemicolon?
  let _ ← expect .rbrace .classEnd
  return found.filterMap id

/-! ## Units -/

def package : Recorder Package := do
  let start ← look Cursor.location
  let _ ← expect .kwPackage .packageKeyword
  let name ← qualifiedName
  let _ ← expect .semicolon .packageEnd
  let span ← look (Cursor.spanFrom start)
  return ⟨name, span⟩

def package? : Recorder (Option Package) := do
  let ahead ← look fun c => (lookahead c.rest).found
  if ahead then do
    let _ ← annotations
    let found ← package
    return some found
  else return none

def importStar : Recorder Bool := do
  match ← accept .dot with
  | none => return false
  | some _ => do
    let _ ← expect .star .importWildcard
    return true

def importTail (start : Location) : Recorder Import := do
  let isStatic ← optional .kwStatic
  let name ← qualifiedName
  let isWildcard ← importStar
  let _ ← expect .semicolon .importEnd
  let span ← look (Cursor.spanFrom start)
  return ⟨name, isStatic, isWildcard, span⟩

def importOrSemicolon? : Recorder (Option (Option Import)) := do
  match ← look (·.rest.head?) with
  | none => return none
  | some t =>
    if t.kind = .semicolon then do
      let _ ← first?
      return some none
    else if t.kind = .kwImport then
      reading .ofImport do
        let _ ← first?
        let found ← importTail t.location
        return some (some found)
    else return none

def imports : Recorder (List Import) := do
  let found ← many (fun _ => .imports) importOrSemicolon?
  return found.filterMap id

def classTail (start : Location) (modifiers : List Modifier) : Recorder ClassDeclaration := do
  let name ← identifier
  let typeParameters ← typeParameters
  let _ ← headerTail
  let _ ← expect .lbrace .body
  let methods ← members
  let span ← look (Cursor.spanFrom start)
  return ⟨modifiers, name, typeParameters, methods, span⟩

def headerOfType (kind : HeaderKind) (start : Location) (modifiers : List Modifier) :
    Recorder Header := do
  let name ← passedType
  let span ← look (Cursor.spanFrom start)
  return ⟨kind, modifiers, name, span⟩

def typeDeclaration : Recorder TypeDeclaration :=
  reading .ofType do
    let start ← look Cursor.location
    let modifiers ← modifiers
    match ← typeKeyword with
    | none => fail (·.unexpected .typeDeclaration)
    | some .ofClass => do
      let declaration ← classTail start modifiers
      return .ofClass declaration
    | some (.ofHeader kind) => do
      let header ← headerOfType kind start modifiers
      return .ofHeader header

def typeOrSemicolon? : Recorder (Option (Option TypeDeclaration)) := do
  match ← look (·.rest.head?) with
  | none => return none
  | some t =>
    if t.kind = .semicolon then do
      let _ ← first?
      return some none
    else do
      let found ← typeDeclaration
      return some (some found)

def typeDeclarations : Recorder (List TypeDeclaration) := do
  let found ← many (fun _ => .types) typeOrSemicolon?
  return found.filterMap id

def unit : Recorder CompilationUnit := do
  let start ← look Cursor.location
  let package ← package?
  let imports ← imports
  let types ← typeDeclarations
  let span ← look (Cursor.spanFrom start)
  return ⟨package, imports, types, span⟩

end Recorder

variable {k : Nat}

/-! ## Following the readings of signatures -/

theorem records_modifierOrAnnotation? :
    Records k (fun found => k + worth found) Recorder.modifierOrAnnotation?
      (Reading.step Cursor.modifierOrAnnotation?) := by
  rw [Reading.step_modifierOrAnnotation?]
  refine records_annotation?.bind fun passed => ?_
  cases passed with
  | some _ => exact records_pure (Nat.le_refl _)
  | none =>
    refine records_byHead fun ts l t rest within => ?_
    cases Cursor.modifierOf? t.kind with
    | none => exact follows_declined
    | some modifier => exact follows_first within (records_pure (Nat.le_refl _))

theorem records_modifiers :
    Records k (fun _ => k) Recorder.modifiers (Reading.onward Cursor.modifiers) := by
  rw [Reading.onward_modifiers]
  exact (records_many records_modifierOrAnnotation?).bind fun _ => records_pure (Nat.le_refl _)

theorem records_bound :
    Records k (fun _ => k + 1) Recorder.bound (Reading.past Cursor.bound) := by
  rw [Reading.past_bound]
  exact records_openType.bind fun _ => records_pure (Nat.le_refl _)

theorem records_bounds :
    Records k (fun _ => k) Recorder.bounds (Reading.onward Cursor.bounds) := by
  rw [Reading.onward_bounds]
  refine (records_accept _).bind fun found => ?_
  cases found with
  | none => exact records_pure (Nat.le_refl _)
  | some t =>
    refine (records_separated fun _ => records_bound).bind fun _ => records_pure ?_
    exact Nat.le_add_right k 2

theorem records_typeParameter :
    Records k (fun _ => k + 1) Recorder.typeParameter (Reading.past Cursor.typeParameter) := by
  rw [Reading.past_typeParameter]
  refine records_annotations.bind fun _ => records_identifier.bind fun name => ?_
  exact records_bounds.bind fun _ => records_pure (Nat.le_refl _)

theorem records_typeParameters :
    Records k (fun _ => k) Recorder.typeParameters (Reading.onward Cursor.typeParameters) := by
  rw [Reading.onward_typeParameters]
  refine (records_accept _).bind fun found => ?_
  cases found with
  | none => exact records_pure (Nat.le_refl _)
  | some t =>
    refine (records_separated fun _ => records_typeParameter).bind fun names => ?_
    refine (records_closeAngle _).bind fun owed => ?_
    split
    · exact records_pure (Nat.le_add_right k 2)
    · exact records_fail _

theorem records_parameter :
    Records k (fun _ => k + 1) Recorder.parameter (Reading.past Cursor.parameter) := by
  rw [Reading.past_parameter]
  refine (records_look _).bind fun start => records_modifiers.bind fun _ => ?_
  refine records_completeType.bind fun type => records_annotations.bind fun _ => ?_
  refine (records_optional _).bind fun varargs => records_identifier.bind fun name => ?_
  refine records_dimensions.bind fun dims => (records_look _).bind fun span => ?_
  exact records_pure (Nat.le_succ _)

theorem records_parameterItem :
    Records k (fun _ => k + 1) Recorder.parameterItem (Reading.past Cursor.parameterItem) := by
  rw [Reading.past_parameterItem]
  exact records_parameter.bind fun _ => records_pure (Nat.le_refl _)

theorem records_parameters :
    Records k (fun _ => k + 1) Recorder.parameters (Reading.past Cursor.parameters) := by
  rw [Reading.past_parameters]
  refine (records_accept _).bind fun found => ?_
  cases found with
  | some t => exact records_pure (Nat.le_refl _)
  | none =>
    refine (records_separated fun _ => records_parameterItem).bind fun read => ?_
    exact (records_expect _ _).bind fun _ => records_pure (Nat.le_succ _)

/-! ## Following the readings of members -/

theorem follows_keyword {ts : List Token} {l : Location} {t : Token} {rest : List Token}
    (within : t :: rest <:+ ts) (introduced : Cursor.Introduced) :
    Follows ts k (fun found => k + worth found) (t :: rest)
      ((Recorder.keyword introduced).run ⟨l, t :: rest⟩)
      ((Reading.keyword introduced).run ⟨l, t :: rest⟩) :=
  follows_first within (records_pure (Nat.le_refl _))

theorem records_typeKeyword :
    Records k (fun found => k + worth found) Recorder.typeKeyword
      (Reading.option Cursor.typeKeyword) := by
  rw [Reading.option_typeKeyword]
  refine records_byHead fun ts l t rest within => ?_
  obtain ⟨kind, lexeme, place⟩ := t
  cases kind with
  | kwClass | kwInterface | kwEnum => exact follows_keyword within _
  | atSign =>
    refine follows_look ?_
    split
    · refine follows_first within ?_
      exact (records_next _).bind fun found => records_pure (Nat.le_add_right _ _)
    · exact follows_declined
  | identifier =>
    refine follows_look ?_
    split
    · exact follows_keyword within _
    · exact follows_declined
  | _ => exact follows_declined

theorem records_passedType :
    Records k (fun _ => k + 1) Recorder.passedType (Reading.past Cursor.passedType) := by
  rw [Reading.past_passedType]
  refine records_identifier.bind fun name => records_headerTail.bind fun _ => ?_
  exact (records_group _ _).bind fun _ => records_pure (Nat.le_succ _)

theorem records_constructor :
    Records k (fun _ => k + 1) Recorder.constructor (Reading.past Cursor.constructor) := by
  rw [Reading.past_constructor]
  refine records_identifier.bind fun _ => (records_group _ _).bind fun _ => ?_
  exact records_memberTail.loosen fun _ => by omega

theorem records_resultType :
    Records k (fun _ => k + 1) Recorder.resultType (Reading.past Cursor.resultType) := by
  rw [Reading.past_resultType]
  refine (records_accept _).bind fun found => ?_
  cases found with
  | some t => exact records_pure (Nat.le_refl _)
  | none => exact records_completeType.bind fun _ => records_pure (Nat.le_refl _)

theorem records_dimensioned (result : Option JavaType) (dims : Nat) :
    Records k (fun _ => k) (Recorder.dimensioned result dims) (Reading.dimensioned result dims) := by
  intro ts c within
  rw [Reading.run_dimensioned]
  show Follows ts k _ c.rest ⟨[], (Cursor.withDimensions result dims c.last).map (.stay c)⟩ _
  cases Cursor.withDimensions result dims c.last with
  | error e => exact .error (.refl _) (by rw [rounds_nil]; omega)
  | ok type => exact follows_ok (r := .stay c type) (Nat.le_refl k)

theorem records_methodTail (result : Option JavaType) :
    Records k (fun _ => k + 1) (Recorder.methodTail result)
      (Reading.past (Cursor.methodTail result)) := by
  rw [Reading.past_methodTail]
  refine records_parameters.bind fun parameters => records_dimensions.bind fun dims => ?_
  refine (records_dimensioned _ _).bind fun result => records_memberTail.bind fun _ => ?_
  exact records_pure (Nat.le_succ _)

theorem records_fieldOrMethod (start : Location) (modifiers : List Modifier)
    (typeParameters : List String) :
    Records k (fun _ => k + 1) (Recorder.fieldOrMethod start modifiers typeParameters)
      (Reading.past (Cursor.fieldOrMethod start modifiers typeParameters)) := by
  rw [Reading.past_fieldOrMethod]
  refine records_resultType.bind fun result => records_identifier.bind fun name => ?_
  refine (records_accept _).bind fun found => ?_
  cases found with
  | none => exact records_fieldTail.bind fun _ => records_pure (Nat.le_add_right (k + 1) 2)
  | some t =>
    refine (records_methodTail _).bind fun tail => (records_look _).bind fun span => ?_
    exact records_pure (Nat.le_add_right (k + 1) 3)

theorem records_plainMember (start : Location) (modifiers : List Modifier) :
    Records k (fun _ => k + 1) (Recorder.plainMember start modifiers)
      (Reading.past (Cursor.plainMember start modifiers)) := by
  rw [Reading.past_plainMember]
  refine records_typeParameters.bind fun typeParameters => (records_look _).bind fun starts => ?_
  split
  · exact records_constructor.bind fun _ => records_pure (Nat.le_refl _)
  · exact records_fieldOrMethod _ _ _

/-- A member takes a token, whatever parts of it are missing. -/
theorem records_member :
    Records k (fun _ => k + 1) Recorder.member (Reading.past Cursor.member) := by
  rw [Reading.past_member]
  refine Records.reading ((records_look _).bind fun start => records_modifiers.bind fun found => ?_)
  refine (records_look _).bind fun kind => ?_
  split
  · exact (records_group _ _).bind fun _ => records_pure (Nat.le_refl _)
  · refine records_typeKeyword.bind fun introduced => ?_
    cases introduced with
    | none => exact records_plainMember _ _
    | some _ => exact records_passedType.bind fun _ => records_pure (Nat.le_succ _)

theorem records_memberOrSemicolon? :
    Records k (fun found => k + worth found) Recorder.memberOrSemicolon?
      (Reading.step Cursor.memberOrSemicolon?) := by
  rw [Reading.step_memberOrSemicolon?]
  refine records_byHead fun ts l t rest within => ?_
  split
  · exact follows_declined
  · split
    · exact follows_first within (records_pure (Nat.le_refl _))
    · have whole := records_member.bind fun found =>
        records_pure (s := fun found => k + worth found) (a := some found) (Nat.le_refl _)
      exact whole ts ⟨l, t :: rest⟩ within

theorem records_members :
    Records k (fun _ => k + 1) Recorder.members (Reading.past Cursor.members) := by
  rw [Reading.past_members]
  refine (records_many records_memberOrSemicolon?).bind fun found => ?_
  exact (records_expect _ _).bind fun _ => records_pure (Nat.le_refl _)

/-! ## Following the readings of units -/

theorem records_package :
    Records k (fun _ => k + 1) Recorder.package (Reading.past Cursor.package) := by
  rw [Reading.past_package]
  refine (records_look _).bind fun start => (records_expect _ _).bind fun _ => ?_
  refine records_qualifiedName.bind fun name => (records_expect _ _).bind fun _ => ?_
  exact (records_look _).bind fun span => records_pure (Nat.le_add_right (k + 1) 2)

theorem records_package? :
    Records k (fun _ => k) Recorder.package? (Reading.onward Cursor.package?) := by
  have ahead : (fun c : Cursor => (lookahead c.rest).found) = fun c => Cursor.packageAhead c.rest :=
    funext fun c => found_lookahead c.rest
  rw [Reading.onward_package?]
  unfold Recorder.package?
  rw [ahead]
  refine (records_look _).bind fun starts => ?_
  split
  · refine records_annotations.bind fun _ => records_package.bind fun found => ?_
    exact records_pure (Nat.le_succ k)
  · exact records_pure (Nat.le_refl k)

theorem records_importStar :
    Records k (fun _ => k) Recorder.importStar (Reading.onward Cursor.importStar) := by
  rw [Reading.onward_importStar]
  refine (records_accept _).bind fun found => ?_
  cases found with
  | none => exact records_pure (Nat.le_refl k)
  | some t => exact (records_expect _ _).bind fun _ => records_pure (Nat.le_add_right k 2)

theorem records_importTail (start : Location) :
    Records k (fun _ => k + 1) (Recorder.importTail start)
      (Reading.past (Cursor.importTail start)) := by
  rw [Reading.past_importTail]
  refine (records_optional _).bind fun isStatic => records_qualifiedName.bind fun name => ?_
  refine records_importStar.bind fun isWildcard => (records_expect _ _).bind fun _ => ?_
  exact (records_look _).bind fun span => records_pure (Nat.le_succ _)

theorem records_importOrSemicolon? :
    Records k (fun found => k + worth found) Recorder.importOrSemicolon?
      (Reading.step Cursor.importOrSemicolon?) := by
  rw [Reading.step_importOrSemicolon?]
  refine records_byHead fun ts l t rest within => ?_
  split
  · exact follows_first within (records_pure (Nat.le_refl _))
  · split
    · have less (found : Option (Option Import)) : k + worth found ≤ k + 1 :=
        Nat.add_le_add_left (worth_le_one found) k
      refine Follows.loosen (s := fun _ => k + 1) ?_ less
      refine Follows.reading (c := ⟨l, t :: rest⟩) within (follows_first within ?_)
      exact (records_importTail t.location).bind fun _ => records_pure (Nat.le_succ _)
    · exact follows_declined

theorem records_imports :
    Records k (fun _ => k) Recorder.imports (Reading.onward Cursor.imports) := by
  rw [Reading.onward_imports]
  exact (records_many records_importOrSemicolon?).bind fun _ => records_pure (Nat.le_refl k)

theorem records_classTail (start : Location) (modifiers : List Modifier) :
    Records k (fun _ => k + 1) (Recorder.classTail start modifiers)
      (Reading.past (Cursor.classTail start modifiers)) := by
  rw [Reading.past_classTail]
  refine records_identifier.bind fun name => records_typeParameters.bind fun typeParameters => ?_
  refine records_headerTail.bind fun _ => (records_expect _ _).bind fun _ => ?_
  refine records_members.bind fun methods => (records_look _).bind fun span => ?_
  exact records_pure (Nat.le_add_right (k + 1) 2)

theorem records_headerOfType (kind : HeaderKind) (start : Location) (modifiers : List Modifier) :
    Records k (fun _ => k + 1) (Recorder.headerOfType kind start modifiers)
      (Reading.past (Cursor.headerOfType kind start modifiers)) := by
  rw [Reading.past_headerOfType]
  refine records_passedType.bind fun name => (records_look _).bind fun span => ?_
  exact records_pure (Nat.le_refl _)

/-- A type declaration takes a token, whatever stands before its keyword. -/
theorem records_typeDeclaration :
    Records k (fun _ => k + 1) Recorder.typeDeclaration (Reading.past Cursor.typeDeclaration) := by
  rw [Reading.past_typeDeclaration]
  refine Records.reading ((records_look _).bind fun start => records_modifiers.bind fun found => ?_)
  refine records_typeKeyword.bind fun introduced => ?_
  rcases introduced with _ | _ | kind
  · exact records_fail _
  · exact (records_classTail _ _).bind fun _ => records_pure (Nat.le_succ _)
  · exact (records_headerOfType _ _ _).bind fun _ => records_pure (Nat.le_succ _)

theorem records_typeOrSemicolon? :
    Records k (fun found => k + worth found) Recorder.typeOrSemicolon?
      (Reading.step Cursor.typeOrSemicolon?) := by
  rw [Reading.step_typeOrSemicolon?]
  refine records_byHead fun ts l t rest within => ?_
  split
  · exact follows_first within (records_pure (Nat.le_refl _))
  · have whole := records_typeDeclaration.bind fun found =>
      records_pure (s := fun found => k + worth found) (a := some (some found)) (Nat.le_refl _)
    exact whole ts ⟨l, t :: rest⟩ within

theorem records_typeDeclarations :
    Records k (fun _ => k) Recorder.typeDeclarations (Reading.onward Cursor.typeDeclarations) := by
  rw [Reading.onward_typeDeclarations]
  exact (records_many records_typeOrSemicolon?).bind fun _ => records_pure (Nat.le_refl k)

/-- The recorder of units comes to what the reading of units comes to. -/
theorem records_unit : Records k (fun _ => k) Recorder.unit Reading.unit := by
  refine (records_look _).bind fun start => records_package?.bind fun package => ?_
  refine records_imports.bind fun imports => records_typeDeclarations.bind fun types => ?_
  exact (records_look _).bind fun span => records_pure (Nat.le_refl k)

/-! ## Progress -/

/-- The record of a run over tokens. -/
def Recorder.ofTokens (ts : List Token) : Recorded (Onward (.start ts) CompilationUnit) :=
  Recorder.unit.run (.start ts)

/-- A run over any tokens, recorded, comes to what the reader of units comes to, refusals included, and
so does the look for a package declaration before it. Its cursor takes one token at a time, from the first
to the one before which the run ends; each round after which a loop goes on, and each import, type and
member that is read, takes at least one; there are no more rounds than tokens; and no counter is lowered
that is zero. -/
theorem progress_ofTokens (ts : List Token) :
    ((Recorder.ofTokens ts).result.map (·.value) = CompilationUnit.ofTokens ts ∧
      Progress ts (Recorder.ofTokens ts).marks ∧
      ∀ r, (Recorder.ofTokens ts).result = .ok r →
        (ts :: places (Recorder.ofTokens ts).marks).getLast? = some r.next.rest) ∧
    (lookahead ts).found = Cursor.packageAhead ts ∧ Progress ts (lookahead ts).marks := by
  have follows := records_unit (k := 0) ts (.start ts) (List.suffix_refl ts)
  have same : CompilationUnit.ofTokens ts = (Reading.unit.run (.start ts)).map (·.1) :=
    (Reading.map_run_unit _).symm
  refine ⟨?_, found_lookahead ts, progress_lookahead ts⟩
  rw [same]
  unfold Recorder.ofTokens
  revert follows
  generalize Recorder.unit.run (.start ts) = y, Reading.unit.run (.start ts) = x
  intro follows
  cases follows with
  | @ok marks r runs paid =>
    have few : rounds marks + r.next.rest.length + 0 ≤ ts.length + 0 := paid
    refine ⟨rfl, Runs.progress runs (by dsimp only; omega), fun r' read => ?_⟩
    cases read
    exact runs.getLast?
  | @error marks us e runs paid =>
    have few : rounds marks + us.length ≤ ts.length + 0 := paid
    exact ⟨rfl, Runs.progress runs (by dsimp only; omega), nofun⟩

/-- Stray semicolons make as many rounds as there are tokens. -/
example : rounds (Recorder.ofTokens [⟨.semicolon, ";", .start⟩, ⟨.semicolon, ";", .start⟩]).marks = 2 := by
  decide +kernel

end JavaStub
