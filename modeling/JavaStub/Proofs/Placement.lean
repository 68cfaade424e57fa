import JavaStub.CompilationUnit
import JavaStub.Proofs.Reading.Relocation
import JavaStub.Stub.Basic

/-!
# Places do not matter

The kind and the lexeme of a token are its word. Two lists of tokens with the same words are
read alike: both as units that are equal up to their spans, or both as errors that are equal up
to their places. Units that are equal up to their spans have the same stub, or are refused for
reasons that are equal up to the places of the types they mention.

Main facts:

1. `ofTokens_relocate`: a unit is read from relocated tokens as the relocated unit.
2. `ofTokens_congr`: words decide what is read.
3. `strip_relocate`: a relocated unit has the stub of the unit.
4. `StubError.mapError_cause_congr`: refusals that are equal up to places have messages that are
   equal up to the number of a line.
-/

namespace JavaStub

/-- A token without its place. -/
@[ext]
structure Word where
  kind : Token.Kind
  lexeme : String
  deriving DecidableEq, Repr

/-- The word of a token. -/
def Token.word (t : Token) : Word := ⟨t.kind, t.lexeme⟩

/-- A word as a token of no particular place. -/
def Word.token (w : Word) : Token := ⟨w.kind, w.lexeme, .start⟩

@[simp] theorem Word.word_token (w : Word) : w.token.word = w := rfl

@[simp] theorem Word.token_kind (w : Word) : w.token.kind = w.kind := rfl

@[simp] theorem Word.token_lexeme (w : Word) : w.token.lexeme = w.lexeme := rfl

variable {σ : Location → Location}

/-- Without their places, tokens are the tokens of their words. -/
theorem relocate_unplaced (ts : List Token) :
    relocate unplaced ts = (ts.map Token.word).map Word.token := by
  rw [relocate_list, List.map_map]
  rfl

namespace CompilationUnit

theorem ofTokens_relocate (h : σ .start = .start) (ts : List Token) :
    ofTokens (relocate σ ts) = relocate σ (ofTokens ts) := by
  have moved : Reading.unit.run (relocate σ (Cursor.start ts)) =
      relocate σ (Reading.unit.run (Cursor.start ts)) := Reading.moves_unit
  have same : relocate σ (Cursor.start ts) = Cursor.start (relocate σ ts) := by
    unfold Cursor.start
    rw [relocate_cursor, h]
  unfold ofTokens
  rw [← Reading.map_run_unit, ← Reading.map_run_unit, ← same, moved]
  cases Reading.unit.run (Cursor.start ts) <;> rfl

/-- Words decide what is read, up to places. -/
theorem ofTokens_congr {ts ts' : List Token} (h : ts.map Token.word = ts'.map Token.word) :
    relocate unplaced (ofTokens ts) = relocate unplaced (ofTokens ts') := by
  rw [← ofTokens_relocate rfl, ← ofTokens_relocate rfl, relocate_unplaced, relocate_unplaced, h]

end CompilationUnit

/-! ## Types in a stub -/

mutual

theorem names_relocated : ∀ t : JavaType, (t.relocated σ).names = relocate σ t.names
  | .reference type => by
    rw [JavaType.relocated, JavaType.names, JavaType.names]
    exact namesOfReference_relocated type
  | .argument inner _ => by
    rw [JavaType.relocated, JavaType.names, JavaType.names]
    exact names_relocated inner
  | .basic _ _ _ => by
    rw [JavaType.relocated, JavaType.names, JavaType.names, relocate_ok, relocate_fixed]
  | .wildcard _ => by
    rw [JavaType.relocated, JavaType.names, JavaType.names]
    rfl
  | .boundedWildcard _ _ _ => by
    rw [JavaType.relocated, JavaType.names, JavaType.names]
    rfl
  | .nested _ _ _ => by
    rw [JavaType.relocated, JavaType.names, JavaType.names]
    rfl

theorem namesOfReference_relocated : ∀ r : ReferenceType,
    (r.relocated σ).names = relocate σ r.names
  | .mk _ arguments _ _ => by
    rw [ReferenceType.relocated, ReferenceType.names, ReferenceType.names,
      namesOfArguments_relocated arguments]
    exact (relocate_map fun _ => by rw [relocate_fixed, relocate_fixed]).symm

theorem namesOfArguments_relocated : ∀ ts : List JavaType,
    namesOfArguments (relocatedArguments σ ts) = relocate σ (namesOfArguments ts)
  | [] => rfl
  | t :: ts => by
    rw [relocatedArguments, namesOfArguments, namesOfArguments, names_relocated t,
      namesOfArguments_relocated ts]
    cases t.names with
    | error e => rfl
    | ok names => exact (relocate_map fun _ => by simp only [relocate_fixed]).symm

end

mutual

theorem render_relocated : ∀ t : JavaType, (t.relocated σ).render = relocate σ t.render
  | .reference type => by
    rw [JavaType.relocated, JavaType.render, JavaType.render]
    exact renderReference_relocated type
  | .argument inner _ => by
    rw [JavaType.relocated, JavaType.render, JavaType.render]
    exact render_relocated inner
  | .basic _ _ _ => by
    rw [JavaType.relocated, JavaType.render, JavaType.render, relocate_ok, relocate_fixed]
  | .wildcard _ => by
    rw [JavaType.relocated, JavaType.render, JavaType.render]
    rfl
  | .boundedWildcard _ _ _ => by
    rw [JavaType.relocated, JavaType.render, JavaType.render]
    rfl
  | .nested _ _ _ => by
    rw [JavaType.relocated, JavaType.render, JavaType.render]
    rfl

theorem renderReference_relocated : ∀ r : ReferenceType,
    (r.relocated σ).render = relocate σ r.render
  | .mk _ arguments _ _ => by
    rw [ReferenceType.relocated, ReferenceType.render, ReferenceType.render,
      renderArguments_relocated arguments]
    exact (relocate_map fun _ => by rw [relocate_fixed, relocate_fixed]).symm

theorem renderArguments_relocated : ∀ ts : List JavaType,
    renderArguments (relocatedArguments σ ts) = relocate σ (renderArguments ts)
  | [] => rfl
  | t :: ts => by
    rw [relocatedArguments, renderArguments, renderArguments, render_relocated t,
      renderArguments_relocated ts]
    cases t.render with
    | error e => rfl
    | ok text => exact (relocate_map fun _ => by simp only [relocate_fixed]).symm

end

theorem names_relocate (t : JavaType) : (relocate σ t).names = relocate σ t.names :=
  names_relocated t

theorem render_relocate (t : JavaType) : (relocate σ t).render = relocate σ t.render :=
  render_relocated t

theorem namesOfResult_relocate (result : Option JavaType) :
    namesOfResult (relocate σ result) = relocate σ (namesOfResult result) := by
  cases result with
  | none => rfl
  | some type => exact names_relocate type

theorem renderResult_relocate (result : Option JavaType) :
    renderResult (relocate σ result) = relocate σ (renderResult result) := by
  cases result with
  | none => rfl
  | some type => exact render_relocate type

/-! ## Stubs -/

theorem Parameter.render_relocate (p : Parameter) :
    (relocate σ p).render = relocate σ p.render := by
  show (relocate σ p.type).render.map _ = _
  rw [JavaStub.render_relocate]
  unfold Parameter.render
  exact (relocate_map fun text => by simp only [relocate_fixed]; rfl).symm

namespace Method

theorem stub_relocate (m : Method) : relocate σ m.stub = (relocate σ m).stub := by
  show relocate σ (m.parameters.mapM Parameter.render >>= fun parameters =>
    renderResult m.result >>= fun result => pure (m.line parameters result)) =
    ((relocate σ m.parameters).mapM Parameter.render >>= fun parameters =>
      renderResult (relocate σ m.result) >>= fun result => pure (m.line parameters result))
  rw [← relocate_mapM fun p => (Parameter.render_relocate p).symm, renderResult_relocate]
  exact relocate_stage fun parameters => relocate_stage fun result => relocate_result _

theorem typeNames_relocate (m : Method) : relocate σ m.typeNames = (relocate σ m).typeNames := by
  show relocate σ (m.parameters.mapM (fun p => p.type.names) >>= fun parameters =>
    namesOfResult m.result >>= fun result => pure (parameters.flatten ++ result)) =
    ((relocate σ m.parameters).mapM (fun p => p.type.names) >>= fun parameters =>
      namesOfResult (relocate σ m.result) >>= fun result => pure (parameters.flatten ++ result))
  rw [← relocate_mapM fun p => (names_relocate p.type).symm, namesOfResult_relocate]
  exact relocate_stage fun parameters => relocate_stage fun result => relocate_result _

theorem plain_relocate (m : Method) : relocate σ m.plain = (relocate σ m).plain := by
  unfold plain
  show relocate σ (if m.typeParameters.isEmpty then _ else _) =
    if m.typeParameters.isEmpty then _ else _
  split <;> rfl

end Method

namespace ClassDeclaration

theorem publicMethods_relocate (c : ClassDeclaration) :
    relocate σ c.publicMethods = (relocate σ c).publicMethods := by
  have same : (relocate σ c.methods).filter Method.isPublic =
      relocate σ (c.methods.filter Method.isPublic) := by
    rw [relocate_list, relocate_list, List.filter_map]
    rfl
  show _ = ((relocate σ c.methods).filter Method.isPublic).mapM Method.plain
  rw [same]
  exact relocate_mapM Method.plain_relocate _

theorem neededNames_relocate (c : ClassDeclaration) :
    relocate σ c.neededNames = (relocate σ c).neededNames := by
  unfold neededNames
  rw [← publicMethods_relocate]
  refine relocate_bind fun methods => ?_
  rw [← relocate_mapM Method.typeNames_relocate]
  exact relocate_stage fun names => relocate_result _

theorem methodStubs_relocate (c : ClassDeclaration) :
    relocate σ c.methodStubs = (relocate σ c).methodStubs := by
  unfold methodStubs
  rw [← publicMethods_relocate]
  exact relocate_bind fun methods => relocate_mapM Method.stub_relocate methods

end ClassDeclaration

instance : Relocatable ImportIndex := ⟨fun _ index => index⟩

instance : Fixed ImportIndex := ⟨fun _ _ => rfl⟩

instance : Relocatable StubFile := ⟨fun _ file => file⟩

instance : Fixed StubFile := ⟨fun _ _ => rfl⟩

theorem ImportIndex.extend_relocate (index : ImportIndex) (imports : List Import) :
    relocate σ (index.extend imports) = index.extend (relocate σ imports) := by
  induction imports generalizing index with
  | nil => rfl
  | cons i imports ih =>
    rw [relocate_cons, extend, extend]
    have same : refusal? (relocate σ i) = refusal? i := rfl
    have added : index.add (relocate σ i) = index.add i := rfl
    rw [same, added, ← ih]
    cases h : refusal? i with
    | none => rfl
    | some e =>
      unfold refusal? at h
      split at h
      · cases h; rfl
      · split at h
        · cases h; rfl
        · cases h

namespace CompilationUnit

theorem singleClass_relocate (u : CompilationUnit) :
    relocate σ u.singleClass = (relocate σ u).singleClass := by
  obtain ⟨package, imports, types, span⟩ := u
  have count : ∀ t t' : TypeDeclaration, ∀ ts : List TypeDeclaration,
      (Except.error (.typeCount (t :: t' :: ts).length) : Except StubError ClassDeclaration) =
        .error (.typeCount (relocate σ (t :: t' :: ts)).length) := by
    intro t t' ts
    rw [length_relocate]
  unfold singleClass
  rcases types with _ | ⟨_ | _, _ | ⟨_, types⟩⟩
  · rfl
  · rfl
  · exact count _ _ types
  · rfl
  · exact count _ _ types

theorem packageName_relocate (u : CompilationUnit) :
    relocate σ u.packageName = (relocate σ u).packageName := by
  obtain ⟨_ | package, imports, types, span⟩ := u <;> rfl

theorem stubFile_relocate (u : CompilationUnit) (banner : Banner) :
    relocate σ (u.stubFile banner) = (relocate σ u).stubFile banner := by
  unfold stubFile
  rw [← singleClass_relocate, ← packageName_relocate]
  refine relocate_bind fun c => ?_
  show relocate σ (if !c.typeParameters.isEmpty then _ else _) =
    if !c.typeParameters.isEmpty then _ else _
  split
  · rfl
  · refine relocate_stage fun package => ?_
    rw [ImportIndex.ofImports, ImportIndex.ofImports]
    show _ = ((ImportIndex.mk []).extend (relocate σ u.imports) >>= _)
    rw [← ImportIndex.extend_relocate]
    refine relocate_stage fun index => ?_
    rw [← ClassDeclaration.neededNames_relocate, ← ClassDeclaration.methodStubs_relocate]
    exact relocate_stage fun needed => relocate_stage fun stubs => relocate_result _

/-- A relocated unit has the stub of the unit, or is refused for the relocated reason. -/
theorem strip_relocate (u : CompilationUnit) (banner : Banner) :
    relocate σ (u.strip banner) = (relocate σ u).strip banner := by
  unfold strip
  rw [← stubFile_relocate]
  exact relocate_map fun file => by simp only [relocate_fixed]

end CompilationUnit

/-! ## Messages -/

mutual

theorem display_relocated : ∀ t : JavaType, (t.relocated σ).display = t.display
  | .reference type => by
    rw [JavaType.relocated, JavaType.display, JavaType.display]
    exact displayOfReference_relocated type
  | .argument inner _ => by
    rw [JavaType.relocated, JavaType.display, JavaType.display]
    exact display_relocated inner
  | .basic _ _ _ => by
    rw [JavaType.relocated, JavaType.display, JavaType.display]
  | .wildcard _ => by
    rw [JavaType.relocated, JavaType.display, JavaType.display]
  | .boundedWildcard _ bound _ => by
    rw [JavaType.relocated, JavaType.display, JavaType.display, display_relocated bound]
  | .nested segments _ _ => by
    rw [JavaType.relocated, JavaType.display, JavaType.display, displaySegments_relocated segments]

theorem displayOfReference_relocated : ∀ r : ReferenceType, (r.relocated σ).display = r.display
  | .mk _ arguments _ _ => by
    rw [ReferenceType.relocated, ReferenceType.display, ReferenceType.display,
      displayArguments_relocated arguments]

theorem displayArguments_relocated : ∀ ts : List JavaType,
    displayArguments (relocatedArguments σ ts) = displayArguments ts
  | [] => rfl
  | t :: ts => by
    rw [relocatedArguments, displayArguments, displayArguments, display_relocated t,
      displayArguments_relocated ts]

theorem displaySegments_relocated : ∀ rs : List ReferenceType,
    displaySegments (relocatedSegments σ rs) = displaySegments rs
  | [] => rfl
  | r :: rs => by
    rw [relocatedSegments, displaySegments, displaySegments, displayOfReference_relocated r,
      displaySegments_relocated rs]

end

theorem shape_relocate (t : JavaType) : (relocate σ t).shape = t.shape := by
  cases t <;> simp [JavaType.shape]

namespace StubError

/-- The message of a refusal up to the number of the line that it ends with, if it names one. -/
def cause : StubError → String
  | .unsupportedType t =>
    "Unsupported type node " ++ t.shape ++ " '" ++ t.display ++ "' at line "
  | e => e.message

/-- The number of the line that the message of a refusal ends with, if it names one. -/
def lineText : StubError → String
  | .unsupportedType t => toString t.line
  | _ => ""

/-- A message is its cause and the number of a line. -/
theorem message_eq_cause (e : StubError) : e.message = e.cause ++ e.lineText := by
  cases e with
  | unsupportedType t => rfl
  | _ => exact String.append_empty.symm

theorem cause_relocate (e : StubError) : (relocate σ e).cause = e.cause := by
  cases e with
  | unsupportedType t =>
    show "Unsupported type node " ++ (relocate σ t).shape ++ " '" ++ (relocate σ t).display ++
      "' at line " = _
    rw [shape_relocate, show (relocate σ t).display = t.display from display_relocated t]
    rfl
  | _ => rfl

/-- Results that are equal up to places are the same text, or messages that are equal up to the
number of a line. -/
theorem mapError_cause_congr {x y : Except StubError String}
    (h : relocate σ x = relocate σ y) : x.mapError cause = y.mapError cause := by
  cases x with
  | ok text =>
    cases y with
    | ok text' => exact congrArg Except.ok (Except.ok.inj h)
    | error e => cases h
  | error e =>
    cases y with
    | ok text => cases h
    | error e' =>
      have same := congrArg cause (Except.error.inj h)
      rw [cause_relocate, cause_relocate] at same
      exact congrArg Except.error same

end StubError

end JavaStub
