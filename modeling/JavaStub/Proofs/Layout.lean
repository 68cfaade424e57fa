import JavaStub.Generation
import JavaStub.Proofs.Placement
import JavaStub.Proofs.Reading.Unaware

/-!
# Layout does not matter

White space and comments decide where the tokens of a source stand and nothing else. Two sources
with the same words are read as units that are equal up to spans, or are refused for the same
reason at the same token, and the same text is generated for both, or the same failure up to the
numbers of lines and columns.

Main facts:

1. `location_mem_of_ofTokens`: an error is found at a token.
2. `alike_ofTokens`: what is read from two lists of tokens with the same words.
3. `alike_of_words`: what becomes of two sources with the same words.
-/

namespace JavaStub

/-! ## Words and numbers -/

/-- Words as tokens whose places are their numbers; none of them is a place in a text. -/
def Word.numbered (ws : List Word) : List Token :=
  ws.mapIdx fun i w => ⟨w.kind, w.lexeme, ⟨0, 0, i⟩⟩

/-- The relocation that puts numbered words where the tokens of a list stand. -/
def placed (ts : List Token) (l : Location) : Location :=
  if l.line = 0 then (ts[l.offset]?.map Token.location).getD l else l

theorem placed_start (ts : List Token) : placed ts .start = .start := rfl

theorem relocate_placed (ts : List Token) :
    relocate (placed ts) (Word.numbered (ts.map Token.word)) = ts := by
  rw [relocate_list, Word.numbered]
  refine List.ext_getElem? fun i => ?_
  rw [List.getElem?_map, List.getElem?_mapIdx, List.getElem?_map]
  cases h : ts[i]? with
  | none => rfl
  | some t =>
    have place : placed ts ⟨0, 0, i⟩ = t.location := by simp [placed, h]
    exact congrArg (fun l => some (⟨t.kind, t.lexeme, l⟩ : Token)) place

/-- The place of a numbered word is its number. -/
theorem Word.exists_of_numbered {ws : List Word} {l : Location}
    (h : l ∈ (numbered ws).map Token.location) : ∃ i < ws.length, l = ⟨0, 0, i⟩ := by
  obtain ⟨t, ht, rfl⟩ := List.mem_map.mp h
  obtain ⟨i, hi, rfl⟩ := List.mem_mapIdx.mp ht
  exact ⟨i, hi, rfl⟩

theorem ParseError.location_relocate {σ : Location → Location} (e : ParseError) :
    (relocate σ e).location = σ e.location := by
  cases e <;> rfl

theorem ParseError.detail_relocate {σ : Location → Location} (e : ParseError) :
    (relocate σ e).detail = e.detail := by
  cases e <;> rfl

/-! ## Reading -/

namespace CompilationUnit

theorem ofTokens_nil : ofTokens [] = .ok ⟨none, [], [], ⟨.start, .start⟩⟩ := by decide +kernel

theorem unit_run_of_ofTokens {ts : List Token} {e : ParseError} (h : ofTokens ts = .error e) :
    Reading.unit.run (Cursor.start ts) = .error e := by
  rw [ofTokens, ← Reading.map_run_unit] at h
  cases run : Reading.unit.run (Cursor.start ts) with
  | error _ =>
    rw [run] at h
    exact congrArg Except.error (Except.error.inj h)
  | ok _ => rw [run] at h; cases h

/-- The relocation that moves every place at which no token of a list stands. -/
def offTokens (ts : List Token) (l : Location) : Location :=
  if l ∈ ts.map Token.location then l else ⟨l.line + 1, l.column, l.offset⟩

theorem mem_of_offTokens_eq {ts : List Token} {l : Location} (h : offTokens ts l = l) :
    l ∈ ts.map Token.location := by
  unfold offTokens at h
  split at h
  · assumption
  · exact absurd (congrArg Location.line h) (Nat.succ_ne_self _)

theorem relocate_offTokens {ts : List Token} {t : Token} (ht : t ∈ ts) :
    relocate (offTokens ts) t = t := by
  have place : offTokens ts t.location = t.location := if_pos (List.mem_map_of_mem ht)
  exact congrArg (Token.mk t.kind t.lexeme) place

/-- An error is found at a token. -/
theorem location_mem_of_ofTokens {ts : List Token} {e : ParseError} (h : ofTokens ts = .error e) :
    e.location ∈ ts.map Token.location := by
  cases ts with
  | nil => rw [ofTokens_nil] at h; cases h
  | cons t ts =>
    -- the start of the text is a place as well, so the first token takes its part
    have refused : Reading.unit.run ⟨t.location, t :: ts⟩ = .error e :=
      Reading.unit_refused_from (unit_run_of_ofTokens h) t.location
    have kept : ∀ u ∈ t :: ts, relocate (offTokens (t :: ts)) u = u :=
      fun _ hu => relocate_offTokens hu
    have fixed : relocate (offTokens (t :: ts)) (⟨t.location, t :: ts⟩ : Cursor) =
        ⟨t.location, t :: ts⟩ := by
      rw [relocate_cursor, relocate_list, List.map_congr_left kept, List.map_id']
      exact congrArg (Cursor.mk · _) (congrArg Token.location (kept t List.mem_cons_self))
    have moved : Reading.unit.run (relocate (offTokens (t :: ts)) ⟨t.location, t :: ts⟩) =
        relocate (offTokens (t :: ts)) (Reading.unit.run ⟨t.location, t :: ts⟩) :=
      Reading.moves_unit
    rw [fixed, refused, relocate_error] at moved
    have place := congrArg ParseError.location (Except.error.inj moved)
    rw [ParseError.location_relocate] at place
    exact mem_of_offTokens_eq place.symm

/-- What is read from two lists of tokens: units that are equal up to spans, or errors that are
equal up to their places, with the same text, at the places of the tokens with one number. -/
inductive ReadAlike (ts ts' : List Token) :
    Except ParseError CompilationUnit → Except ParseError CompilationUnit → Prop
  | unit {u u' : CompilationUnit} (same : relocate unplaced u = relocate unplaced u') :
    ReadAlike ts ts' (.ok u) (.ok u')
  | error {e e' : ParseError} (same : relocate unplaced e = relocate unplaced e')
    (detail : e.detail = e'.detail) (i : Nat) (place : ts[i]?.map Token.location = some e.location)
    (place' : ts'[i]?.map Token.location = some e'.location) : ReadAlike ts ts' (.error e) (.error e')

/-- An error stands at the token whose number the error of the numbered words has. -/
theorem place_of_numbered {ts : List Token} {e : ParseError} {i : Nat} (hi : i < ts.length)
    (he : e.location = ⟨0, 0, i⟩) :
    ts[i]?.map Token.location = some (relocate (placed ts) e).location := by
  rw [ParseError.location_relocate, he]
  simp [placed, hi]

theorem ofTokens_eq_numbered (ts : List Token) :
    ofTokens ts = relocate (placed ts) (ofTokens (Word.numbered (ts.map Token.word))) := by
  rw [← ofTokens_relocate (placed_start ts), relocate_placed]

/-- Two lists of tokens with the same words are read alike. -/
theorem alike_ofTokens {ts ts' : List Token} (words : ts.map Token.word = ts'.map Token.word) :
    ReadAlike ts ts' (ofTokens ts) (ofTokens ts') := by
  have same := ofTokens_congr words
  have long : ts.length = ts'.length := by simpa using congrArg List.length words
  have read := ofTokens_eq_numbered ts
  have read' := ofTokens_eq_numbered ts'
  rw [← words] at read'
  -- both lists are relocations of the numbered words, which are read once
  cases h : ofTokens (Word.numbered (ts.map Token.word)) with
  | ok u =>
    rw [h] at read read'
    rw [read, read'] at same ⊢
    exact .unit (Except.ok.inj same)
  | error e =>
    obtain ⟨i, hi, he⟩ := Word.exists_of_numbered (location_mem_of_ofTokens h)
    rw [List.length_map] at hi
    rw [h] at read read'
    rw [read, read'] at same ⊢
    have detail : (relocate (placed ts) e).detail = (relocate (placed ts') e).detail := by
      rw [ParseError.detail_relocate, ParseError.detail_relocate]
    exact .error (Except.error.inj same) detail i (place_of_numbered hi he)
      (place_of_numbered (long ▸ hi) he)

end CompilationUnit

/-! ## Failures -/

instance : Relocatable Failure where
  relocate σ
    | .source e => .source (relocate σ e)
    | .stub e => .stub (relocate σ e)
    | e => e

theorem span_relocate {σ : Location → Location} (t : JavaType) :
    (relocate σ t).span = relocate σ t.span := by
  cases t with
  | reference type =>
    cases type
    simp [JavaType.span, ReferenceType.span]
  | _ => simp [JavaType.span]

namespace Failure

/-- The place whose line and column the message of a failure gives, if it gives any. -/
def place : Failure → Location
  | .source e => e.location
  | .stub (.unsupportedType t) => t.span.start
  | _ => .start

/-- The message of a failure, were it found at `l`. -/
def messageAt (l : Location) (f : Failure) : String := (relocate (fun _ => l) f).message

/-- The message of a refused type ends with the line of the place that the type is moved to. -/
theorem messageAt_unsupportedType (t : JavaType) (l : Location) :
    (Failure.stub (.unsupportedType t)).messageAt l =
      (StubError.unsupportedType t).cause ++ toString l.line := by
  show (relocate (fun _ => l) (StubError.unsupportedType t)).message = _
  rw [StubError.message_eq_cause, StubError.cause_relocate]
  show _ ++ toString (relocate (fun _ => l) t).span.start.line = _
  rw [span_relocate]
  rfl

/-- The message of a failure is its message at its own place. -/
theorem messageAt_place (f : Failure) : f.messageAt f.place = f.message := by
  cases f with
  | source e => cases e <;> rfl
  | stub e =>
    cases e with
    | unsupportedType t =>
      rw [messageAt_unsupportedType]
      exact (StubError.message_eq_cause (.unsupportedType t)).symm
    | _ => rfl
  | configuration e => rfl
  | file e => rfl

theorem messageAt_relocate {σ : Location → Location} (f : Failure) (l : Location) :
    (relocate σ f).messageAt l = f.messageAt l := by
  cases f with
  | source e => cases e <;> rfl
  | stub e =>
    cases e with
    | unsupportedType t =>
      show (Failure.stub (.unsupportedType (relocate σ t))).messageAt l = _
      rw [messageAt_unsupportedType, messageAt_unsupportedType]
      exact congrArg (· ++ toString l.line) (StubError.cause_relocate (.unsupportedType t))
    | _ => rfl
  | configuration e => rfl
  | file e => rfl

/-- Failures that are equal up to places have messages that are equal up to numbers. -/
theorem messageAt_congr {f f' : Failure} (same : relocate unplaced f = relocate unplaced f')
    (l : Location) : f.messageAt l = f'.messageAt l := by
  rw [← messageAt_relocate f, same, messageAt_relocate]

end Failure

/-! ## Generating -/

/-- What is generated for two sources: one text, or failures that are equal up to places, with
messages that are equal up to the numbers of lines and columns. -/
inductive GeneratedAlike : Except Failure String → Except Failure String → Prop
  | text (text : String) : GeneratedAlike (.ok text) (.ok text)
  | failure {f f' : Failure} (same : relocate unplaced f = relocate unplaced f')
    (message : ∀ l, f.messageAt l = f'.messageAt l) : GeneratedAlike (.error f) (.error f')

theorem alike_of_relocate {x y : Except Failure String}
    (h : relocate unplaced x = relocate unplaced y) : GeneratedAlike x y := by
  cases x with
  | ok text =>
    cases y with
    | ok text' =>
      obtain rfl : text = text' := Except.ok.inj h
      exact .text text
    | error f => cases h
  | error f =>
    cases y with
    | ok text => cases h
    | error f' =>
      have same : relocate unplaced f = relocate unplaced f' := Except.error.inj h
      exact .failure same (Failure.messageAt_congr same)

/-- What follows the reading of a source goes with relocation. -/
theorem relocate_generate {σ : Location → Location} (source : String) (banner : Banner) :
    relocate σ (generate source banner) =
      ((relocate σ (CompilationUnit.ofSource source)).mapError .source >>= fun u =>
        (u.strip banner).mapError .stub) := by
  rw [generate_eq]
  cases CompilationUnit.ofSource source with
  | error e => rfl
  | ok u =>
    show relocate σ ((u.strip banner).mapError Failure.stub) =
      ((relocate σ u).strip banner).mapError .stub
    rw [← CompilationUnit.strip_relocate]
    cases u.strip banner <;> rfl

theorem relocate_ofSource_congr {source source' : String} {ts ts' : List Token}
    (h : Source.tokens source = .ok ts) (h' : Source.tokens source' = .ok ts')
    (words : ts.map Token.word = ts'.map Token.word) :
    relocate unplaced (CompilationUnit.ofSource source) =
      relocate unplaced (CompilationUnit.ofSource source') := by
  unfold CompilationUnit.ofSource
  rw [h, h']
  exact CompilationUnit.ofTokens_congr words

/-- Two sources with the same words are read alike, and what is generated for them is alike. -/
theorem alike_of_words {source source' : String} {ts ts' : List Token}
    (h : Source.tokens source = .ok ts) (h' : Source.tokens source' = .ok ts')
    (words : ts.map Token.word = ts'.map Token.word) :
    CompilationUnit.ReadAlike ts ts' (CompilationUnit.ofSource source)
        (CompilationUnit.ofSource source') ∧
      ∀ banner, GeneratedAlike (generate source banner) (generate source' banner) := by
  refine ⟨?_, fun banner => alike_of_relocate ?_⟩
  · unfold CompilationUnit.ofSource
    rw [h, h']
    exact CompilationUnit.alike_ofTokens words
  · rw [relocate_generate, relocate_generate, relocate_ofSource_congr h h' words]

/-- A class with array dimensions on a method without result, in one line. -/
def voidArray : String := "class A\x7bvoid f()[];\x7d"

/-- The same class with comments, in three lines. -/
def voidArrayInLines : String := "class A // a\n\x7b\tvoid f( /* b */ )\n[ ] ; \x7d"

/-- The words of both. -/
def voidArrayWords : List Word :=
  [⟨.kwClass, "class"⟩, ⟨.identifier, "A"⟩, ⟨.lbrace, "\x7b"⟩, ⟨.kwVoid, "void"⟩, ⟨.identifier, "f"⟩,
   ⟨.lparen, "("⟩, ⟨.rparen, ")"⟩, ⟨.lbracket, "["⟩, ⟨.rbracket, "]"⟩, ⟨.semicolon, ";"⟩,
   ⟨.rbrace, "\x7d"⟩]

theorem words_voidArray :
    (Source.tokens voidArray).map (List.map Token.word) = .ok voidArrayWords := by
  decide +kernel

theorem words_voidArrayInLines :
    (Source.tokens voidArrayInLines).map (List.map Token.word) = .ok voidArrayWords := by
  decide +kernel

theorem alike_voidArray : ∃ ts ts', Source.tokens voidArray = .ok ts ∧
    Source.tokens voidArrayInLines = .ok ts' ∧ ts.map Token.word = ts'.map Token.word ∧
      CompilationUnit.ReadAlike ts ts' (CompilationUnit.ofSource voidArray)
        (CompilationUnit.ofSource voidArrayInLines) ∧
      ∀ banner, GeneratedAlike (generate voidArray banner) (generate voidArrayInLines banner) := by
  obtain ⟨ts, h, words⟩ := map_eq_ok_iff.mp words_voidArray
  obtain ⟨ts', h', words'⟩ := map_eq_ok_iff.mp words_voidArrayInLines
  have same : ts.map Token.word = ts'.map Token.word := words.trans words'.symm
  exact ⟨ts, ts', h, h', same, alike_of_words h h' same⟩

end JavaStub
