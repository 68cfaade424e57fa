import JavaStub.JavaType.Display
import JavaStub.JavaType.Render
import JavaStub.Proofs.Completeness.Types
import JavaStub.Proofs.WellNamed

/-!
# The words of written types

The text of a type is spelled by words that have the form of this type. Lists of type arguments end
in closing angles, and those of several lists that end in one place are one lexeme. So the invariant
(`Prints`) is about a text with any number of closing angles after it: with all closing angles taken
apart, its words are those of the text and then the angles.

The text of a type in a stub and its text elsewhere differ in what separates type arguments, and are
treated as one (`JavaType.written`).

Main facts:

1. `Prints.generic` and `Prints.between`: type arguments in front of any number of closing angles.
2. `prints_written`: a type that is written has the form of the type, up to places.
3. `prints_type`: so has a type that is rendered.
-/

namespace JavaStub

open Token (Kind IsWord EndsWord EndsAngles)

open Grammar

variable {cs ds w rest : List Char} {V W ws : List Word} {k : Kind} {n : String}

/-- The text starts like a type argument; and with any number of closing angles after it, it is
spelled by words that stand for `V` and the angles. -/
structure Prints (cs : List Char) (V : List Word) : Prop where
  starts : cs.head?.any Token.startsArgument = true
  spells (n : Nat) {rest : List Char} {ws : List Word} (word : EndsWord rest)
    (angles : EndsAngles rest) (more : Spells rest ws) :
    ∃ us, unfused us = V ++ List.replicate n Word.closing ∧
      Spells (cs ++ (List.replicate n '>' ++ rest)) (us ++ ws)

theorem endsWord_cons {c : Char} (h : Token.identifierPart.contains c = false) :
    EndsWord (c :: cs) := by
  intro d hd
  obtain rfl : c = d := Option.some.inj hd
  exact h

theorem endsAngles_cons {c : Char} (h : c ∉ ['>', '=']) : EndsAngles (c :: cs) := by
  intro d hd
  obtain rfl : c = d := Option.some.inj hd
  exact h

theorem endsWord_angles (n : Nat) (h : EndsWord rest) : EndsWord (List.replicate n '>' ++ rest) := by
  cases n with
  | zero => exact h
  | succ n => exact endsWord_cons (by decide)

theorem startsArgument_of_isWord (h : IsWord k w) : w.head?.any Token.startsArgument = true := by
  have start := h.starts
  cases w with
  | nil => cases start
  | cons c w =>
    show (Token.identifierStart.contains c || _) = true
    rw [show Token.identifierStart.contains c = true from start]
    rfl

namespace Prints

/-- Without closing angles after it the text is spelled by words that stand for `V`. -/
theorem plain (h : Prints cs V) (word : EndsWord rest) (angles : EndsAngles rest)
    (more : Spells rest ws) : ∃ us, unfused us = V ∧ Spells (cs ++ rest) (us ++ ws) := by
  obtain ⟨us, spelled, all⟩ := h.spells 0 word angles more
  rw [List.replicate_zero, List.append_nil] at spelled
  exact ⟨us, spelled, all⟩

/-- The text is cut into tokens with words that stand for `V`. -/
theorem exists_tokens {text : String} (h : Prints text.toList V) :
    ∃ ts, Source.tokens text = .ok ts ∧ unfused (ts.map Token.word) = V := by
  have ends : ∃ us, unfused us = V ∧ Spells (text.toList ++ []) (us ++ []) :=
    h.plain (fun _ h => nomatch h) (fun _ h => nomatch h) .nil
  obtain ⟨us, rfl, spelled⟩ := ends
  rw [List.append_nil, List.append_nil] at spelled
  obtain ⟨ts, cuts, rfl⟩ := spelled.tokens
  exact ⟨ts, cuts, rfl⟩

theorem starts_append (h : Prints cs V) (ds : List Char) :
    (cs ++ ds).head?.any Token.startsArgument = true := by
  have start := h.starts
  cases cs with
  | nil => cases start
  | cons c cs => exact start

/-- A name or keyword that is no angle. -/
theorem ofWord (h : IsWord k n.toList) (kept : k.isTrivia = false)
    (count : Cursor.angleCount k = 0) : Prints n.toList [⟨k, n⟩] := by
  refine ⟨startsArgument_of_isWord h, fun m rest ws word angles more => ?_⟩
  obtain ⟨us, spelled, all⟩ := Spells.angles m angles more
  refine ⟨⟨k, n⟩ :: us, ?_, ?_⟩
  · rw [unfused_cons, Word.unfused_of_count count, spelled]
  · have first := Spells.word h kept (endsWord_angles m word) all
    rw [String.ofList_toList] at first
    exact first

theorem ofPrimitive (primitive : k.isPrimitive = true) (h : IsWord k n.toList) :
    Prints n.toList [⟨k, n⟩] :=
  ofWord h (Token.Kind.isTrivia_of_isPrimitive primitive)
    (Cursor.angleCount_of_isPrimitive primitive)

/-- A name with type arguments. -/
theorem generic (name : IsName n) (h : Prints cs V) :
    Prints (n.toList ++ '<' :: (cs ++ ['>']))
      (⟨.identifier, n⟩ :: ⟨.lt, "<"⟩ :: (V ++ [Word.closing])) := by
  have named := ofWord name rfl rfl
  refine ⟨named.starts_append _, fun m rest ws word angles more => ?_⟩
  -- the closing angle of this list is the first of those after its arguments
  obtain ⟨us, spelled, all⟩ := h.spells (m + 1) word angles more
  have opened := Spells.openingAngle (h.starts_append _) all
  have first := Spells.word name rfl (endsWord_cons (by decide)) opened
  rw [String.ofList_toList] at first
  refine ⟨⟨.identifier, n⟩ :: ⟨.lt, "<"⟩ :: us, ?_, ?_⟩
  · rw [unfused_cons, unfused_cons, spelled, Word.unfused_of_count rfl, Word.unfused_of_count rfl,
      List.replicate_succ]
    simp
  · rw [List.replicate_succ] at first
    simpa using first

/-- Two texts and a separator between them, which is one word. -/
theorem between {w : Word} {c : Char} (ss : List Char) (h : Prints cs V) (h' : Prints ds W)
    (count : Cursor.angleCount w.kind = 0) (word : Token.identifierPart.contains c = false)
    (angles : c ∉ ['>', '='])
    (separates : ∀ {rest : List Char} {ws : List Word},
      rest.head?.any Token.startsArgument = true → Spells rest ws →
        Spells (c :: ss ++ rest) (w :: ws)) :
    Prints (cs ++ (c :: ss ++ ds)) (V ++ w :: W) := by
  refine ⟨h.starts_append _, fun m rest ws word' angles' more => ?_⟩
  obtain ⟨us', spelled', all⟩ := h'.spells m word' angles' more
  have separated := separates (h'.starts_append _) all
  obtain ⟨us, spelled, first⟩ := h.plain (endsWord_cons word) (endsAngles_cons angles) separated
  refine ⟨us ++ w :: us', ?_, ?_⟩
  · rw [unfused_append, unfused_cons, spelled, spelled', Word.unfused_of_count count]
    simp
  · simpa using first

/-- Names that a dot joins. -/
theorem dot (h : Prints cs V) (h' : Prints ds W) :
    Prints (cs ++ '.' :: ds) (V ++ ⟨.dot, "."⟩ :: W) :=
  h.between [] h' rfl (by decide) (by decide) fun start more => more.dot start

/-- One type argument and others after it. -/
theorem comma {separator : String} (h : Prints cs V) (h' : Prints ds W)
    (hs : separator ∈ [",", ", "]) :
    Prints (cs ++ (separator.toList ++ ds)) (V ++ ⟨.comma, ","⟩ :: W) := by
  simp only [List.mem_cons, List.not_mem_nil, or_false] at hs
  rcases hs with rfl | rfl
  · exact h.between [] h' rfl (by decide) (by decide) fun _ more =>
      .mark (k := .comma) (by decide) more
  · exact h.between [' '] h' rfl (by decide) (by decide) fun _ more =>
      .mark (k := .comma) (by decide) (.blank (by decide) more)

/-- The mark of a wildcard. -/
theorem question : Prints ['?'] [⟨.question, "?"⟩] := by
  refine ⟨by decide, fun m rest ws word angles more => ?_⟩
  obtain ⟨us, spelled, all⟩ := Spells.angles m angles more
  refine ⟨⟨.question, "?"⟩ :: us, ?_, .mark (k := .question) (by decide) all⟩
  rw [unfused_cons, spelled, Word.unfused_of_count rfl]

/-- The mark of a wildcard and its bound. -/
theorem bounded (h : Prints cs V) (kind : BoundKind) :
    Prints ('?' :: ' ' :: (kind.keyword.toList ++ ' ' :: cs))
      (⟨.question, "?"⟩ :: ⟨boundWord kind, kind.keyword⟩ :: V) := by
  have word : IsWord (boundWord kind) kind.keyword.toList := by
    cases kind <;> decide +kernel
  have whole : (boundWord kind).isTrivia = false ∧ Cursor.angleCount (boundWord kind) = 0 := by
    cases kind <;> decide
  have start : Token.startsArgument '?' = true := by decide
  refine ⟨start, fun m rest ws word' angles more => ?_⟩
  obtain ⟨us, spelled, all⟩ := h.spells m word' angles more
  have introduced := Spells.word word whole.1 (endsWord_cons (by decide))
    (.blank (c := ' ') (by decide) all)
  have marked := Spells.mark (k := .question) (c := '?') (by decide)
    (.blank (c := ' ') (by decide) introduced)
  rw [String.ofList_toList] at marked
  refine ⟨⟨.question, "?"⟩ :: ⟨boundWord kind, kind.keyword⟩ :: us, ?_, ?_⟩
  · rw [unfused_cons, unfused_cons, spelled, Word.unfused_of_count rfl,
      Word.unfused_of_count whole.2]
    rfl
  · simpa using marked

end Prints

/-! ## Array dimensions -/

/-- The words of empty brackets, once for each dimension. -/
def bracketWords : Nat → List Word
  | 0 => []
  | n + 1 => ⟨.lbracket, "["⟩ :: ⟨.rbracket, "]"⟩ :: bracketWords n

theorem dimensions_bracketWords (n : Nat) : Dimensions n (bracketWords n) := by
  induction n with
  | zero => exact .nil
  | succ n ih =>
    have first : EmptyBrackets [⟨.lbracket, "["⟩, ⟨.rbracket, "]"⟩] := .mk rfl rfl
    exact Many.cons first ih

theorem unfused_bracketWords (n : Nat) : unfused (bracketWords n) = bracketWords n := by
  induction n with
  | zero => rfl
  | succ n ih =>
    rw [bracketWords, unfused_cons, unfused_cons, ih, Word.unfused_of_count rfl,
      Word.unfused_of_count rfl]
    rfl

theorem spells_brackets (n : Nat) (more : Spells rest ws) :
    Spells ((brackets n).toList ++ rest) (bracketWords n ++ ws) := by
  induction n with
  | zero => exact more
  | succ n ih =>
    rw [toList_brackets_succ]
    exact .mark (k := .lbracket) (by decide) (.mark (k := .rbracket) (by decide) ih)

theorem Prints.brackets (h : Prints cs V) (n : Nat) :
    Prints (cs ++ (brackets n).toList) (V ++ bracketWords n) := by
  cases n with
  | zero => simpa [JavaStub.brackets, bracketWords] using h
  | succ n =>
    refine ⟨h.starts_append _, fun m rest ws word angles more => ?_⟩
    obtain ⟨us', spelled', all⟩ := Spells.angles m angles more
    have dims := spells_brackets (n + 1) all
    rw [toList_brackets_succ] at dims
    obtain ⟨us, spelled, first⟩ := h.plain (endsWord_cons (by decide)) (endsAngles_cons (by decide)) dims
    refine ⟨us ++ (bracketWords (n + 1) ++ us'), ?_, ?_⟩
    · rw [unfused_append, unfused_append, spelled, spelled', unfused_bracketWords, List.append_assoc]
    · rw [toList_brackets_succ]
      simpa using first

theorem Prints.congr {ds : List Char} (h : Prints cs V) (text : ds = cs) (words : W = V) :
    Prints ds W := by
  rw [text, words]
  exact h

/-! ## Texts with any separator -/

mutual

/-- The text of a type, with a separator between type arguments. -/
def JavaType.written (separator : String) : JavaType → String
  | .reference type => type.written separator
  | .argument inner _ => inner.written separator
  | .basic name dims _ => name ++ brackets dims
  | .wildcard _ => "?"
  | .boundedWildcard kind bound _ => "? " ++ kind.keyword ++ " " ++ bound.written separator
  | .nested segments dims _ => ".".intercalate (writtenSegments separator segments) ++ brackets dims

/-- The text of a name with its arguments and dimensions. -/
def ReferenceType.written (separator : String) : ReferenceType → String
  | .mk name arguments dims _ =>
    name ++ angled separator (writtenArguments separator arguments) ++ brackets dims

/-- The texts of the arguments of a type. -/
def writtenArguments (separator : String) : List JavaType → List String
  | [] => []
  | t :: ts => t.written separator :: writtenArguments separator ts

/-- The texts of the names that dots join. -/
def writtenSegments (separator : String) : List ReferenceType → List String
  | [] => []
  | r :: rs => r.written separator :: writtenSegments separator rs

end

mutual

/-- The text of a type separates type arguments by a comma and a blank. -/
theorem written_display : ∀ t : JavaType, t.written ", " = t.display
  | .reference type => by rw [JavaType.written, JavaType.display, writtenReference_display type]
  | .argument inner _ => by rw [JavaType.written, JavaType.display, written_display inner]
  | .basic _ _ _ => by rw [JavaType.written, JavaType.display]
  | .wildcard _ => by rw [JavaType.written, JavaType.display]
  | .boundedWildcard _ bound _ => by rw [JavaType.written, JavaType.display, written_display bound]
  | .nested segments _ _ => by
    rw [JavaType.written, JavaType.display, writtenSegments_display segments]

theorem writtenReference_display : ∀ r : ReferenceType, r.written ", " = r.display
  | .mk _ arguments _ _ => by
    rw [ReferenceType.written, ReferenceType.display, writtenArguments_display arguments]

theorem writtenArguments_display : ∀ ts : List JavaType,
    writtenArguments ", " ts = displayArguments ts
  | [] => by rw [writtenArguments, displayArguments]
  | t :: ts => by
    rw [writtenArguments, displayArguments, written_display t, writtenArguments_display ts]

theorem writtenSegments_display : ∀ rs : List ReferenceType,
    writtenSegments ", " rs = displaySegments rs
  | [] => by rw [writtenSegments, displaySegments]
  | r :: rs => by
    rw [writtenSegments, displaySegments, writtenReference_display r, writtenSegments_display rs]

end

mutual

/-- The text of a type in a stub separates type arguments by a bare comma. -/
theorem written_of_render : ∀ (t : JavaType) {text : String}, t.render = .ok text →
    t.written "," = text
  | .reference type, text, h => by
    rw [JavaType.render] at h
    rw [JavaType.written, writtenReference_of_render type h]
  | .argument inner _, text, h => by
    rw [JavaType.render] at h
    rw [JavaType.written, written_of_render inner h]
  | .basic _ _ _, text, h => by
    rw [JavaType.render] at h
    rw [JavaType.written, Except.ok.inj h]
  | .wildcard _, text, h => by
    rw [JavaType.render] at h
    cases h
  | .boundedWildcard _ _ _, text, h => by
    rw [JavaType.render] at h
    cases h
  | .nested _ _ _, text, h => by
    rw [JavaType.render] at h
    cases h

theorem writtenReference_of_render : ∀ (r : ReferenceType) {text : String}, r.render = .ok text →
    r.written "," = text
  | .mk _ arguments _ _, text, h => by
    rw [ReferenceType.render] at h
    cases inner : renderArguments arguments with
    | error e => rw [inner] at h; cases h
    | ok texts =>
      rw [inner] at h
      rw [ReferenceType.written, writtenArguments_of_render arguments inner]
      exact Except.ok.inj h

theorem writtenArguments_of_render : ∀ (ts : List JavaType) {texts : List String},
    renderArguments ts = .ok texts → writtenArguments "," ts = texts
  | [], texts, h => by
    rw [renderArguments] at h
    rw [writtenArguments, Except.ok.inj h]
  | t :: ts, texts, h => by
    rw [renderArguments] at h
    cases first : t.render with
    | error e => rw [first] at h; cases h
    | ok text =>
      cases others : renderArguments ts with
      | error e => rw [first, others] at h; cases h
      | ok texts' =>
        rw [first, others] at h
        rw [writtenArguments, written_of_render t first, writtenArguments_of_render ts others]
        exact Except.ok.inj h

end

/-! ## Types -/

section Written

variable {separator : String}

/-- A name with its type arguments, if it has any. -/
theorem prints_name {ts : List JavaType} {texts : List String} (name : IsName n)
    (count : texts.length = ts.length)
    (h : ts ≠ [] → ∃ V, Arguments ts V ∧ Prints (separator.intercalate texts).toList V) :
    ∃ V, Segment (.mk n ts 0 noSpan) V ∧ Prints (n ++ angled separator texts).toList V := by
  have named := Prints.ofWord name rfl rfl
  match ts, texts, count with
  | [], [], _ =>
    refine ⟨[⟨.identifier, n⟩], .plain (w := ⟨.identifier, n⟩) rfl, named.congr ?_ rfl⟩
    simp [angled]
  | t :: ts, text :: texts, _ =>
    obtain ⟨V, form, printed⟩ := h (List.cons_ne_nil t ts)
    have form : Segment (.mk n (t :: ts) 0 noSpan)
        (⟨.identifier, n⟩ :: ⟨.lt, "<"⟩ :: (V ++ [Word.closing])) :=
      .generic (w := ⟨.identifier, n⟩) rfl rfl form
    refine ⟨_, form, (printed.generic name).congr ?_ rfl⟩
    simp [angled]

/-- A name with its type arguments is a type, and dimensions can follow it. -/
theorem prints_reference {ts : List JavaType} {text : String} (form : Segment (.mk n ts 0 noSpan) V)
    (printed : Prints text.toList V) (dims : Nat) :
    ∃ V', BareType (.reference (.mk n ts dims noSpan)) V' ∧
      Prints (text ++ brackets dims).toList V' := by
  have form : BareType (.reference (.mk n ts dims noSpan)) (V ++ ([] ++ bracketWords dims)) :=
    .named form .nil (dimensions_bracketWords dims)
  refine ⟨_, form, (printed.brackets dims).congr ?_ rfl⟩
  rw [String.toList_append]

theorem length_writtenArguments (ts : List JavaType) :
    (writtenArguments separator ts).length = (relocate unplaced ts).length := by
  induction ts with
  | nil => rw [writtenArguments]; rfl
  | cons t ts ih => rw [writtenArguments, List.length_cons, ih]; rfl

mutual

/-- A type that is written has the form of the type, up to places. -/
theorem prints_written (hs : separator ∈ [",", ", "]) : ∀ t : JavaType, t.WellNamed →
    ∃ V, BareType (relocate unplaced t) V ∧ Prints (t.written separator).toList V
  | .reference (.mk n ts dims span), .reference name arguments => by
    obtain ⟨V, form, printed⟩ := prints_name name (length_writtenArguments ts) fun ne =>
      prints_writtenArguments hs ts (fun h => ne (by rw [h]; rfl)) arguments
    rw [relocate_reference, relocate_mk]
    exact prints_reference form printed dims
  | .basic n dims span, .basic name => by
    obtain ⟨k, primitive, word⟩ := name
    have form : BareType (.basic n dims noSpan) (⟨k, n⟩ :: bracketWords dims) :=
      .primitive (w := ⟨k, n⟩) primitive (dimensions_bracketWords dims)
    refine ⟨_, form, ((Prints.ofPrimitive primitive word).brackets dims).congr ?_ rfl⟩
    rw [JavaType.written, String.toList_append]
  | .nested (r :: s :: rs) dims span, .nested named => by
    obtain ⟨first, others⟩ := List.forall_mem_cons.mp named
    obtain ⟨V, form, printed⟩ := prints_writtenSegment hs r first
    obtain ⟨W, forms, printed'⟩ := prints_writtenSegments hs (s :: rs) (List.cons_ne_nil s rs) others
    have all : BareType (relocate unplaced (.nested (r :: s :: rs) dims span : JavaType))
        (V ++ (⟨.dot, "."⟩ :: W ++ bracketWords dims)) := by
      rw [relocate_nested]
      exact .named form forms (dimensions_bracketWords dims)
    refine ⟨_, all, ((printed.dot printed').brackets dims).congr ?_ (by simp)⟩
    rw [JavaType.written, writtenSegments, writtenSegments]
    simp [String.intercalate_cons_cons]

/-- A name with type arguments that is written has the form of such a name, up to places. -/
theorem prints_writtenSegment (hs : separator ∈ [",", ", "]) : ∀ r : ReferenceType, r.WellNamed →
    ∃ V, Segment (relocate unplaced r) V ∧ Prints (r.written separator).toList V
  | .mk n ts 0 span, .mk name arguments => by
    obtain ⟨V, form, printed⟩ := prints_name name (length_writtenArguments ts) fun ne =>
      prints_writtenArguments hs ts (fun h => ne (by rw [h]; rfl)) arguments
    rw [relocate_mk]
    refine ⟨V, form, printed.congr ?_ rfl⟩
    rw [ReferenceType.written]
    simp [brackets]

/-- Names that are written with dots between them have the form of the names after a dot, up to
places. -/
theorem prints_writtenSegments (hs : separator ∈ [",", ", "]) : ∀ rs : List ReferenceType, rs ≠ [] →
    (∀ r ∈ rs, r.WellNamed) → ∃ V, SegmentTail (relocate unplaced rs) (⟨.dot, "."⟩ :: V) ∧
      Prints (".".intercalate (writtenSegments separator rs)).toList V
  | [], ne, _ => absurd rfl ne
  | [r], _, h => by
    obtain ⟨V, form, printed⟩ := prints_writtenSegment hs r (h r List.mem_cons_self)
    have tail : SegmentTail (relocate unplaced [r]) (⟨.dot, "."⟩ :: (V ++ [])) := .cons rfl form .nil
    refine ⟨_, tail, printed.congr ?_ (List.append_nil V)⟩
    rw [writtenSegments, writtenSegments, String.intercalate_singleton]
  | r :: s :: rs, _, h => by
    obtain ⟨first, others⟩ := List.forall_mem_cons.mp h
    obtain ⟨V, form, printed⟩ := prints_writtenSegment hs r first
    obtain ⟨W, forms, printed'⟩ := prints_writtenSegments hs (s :: rs) (List.cons_ne_nil s rs) others
    have tail : SegmentTail (relocate unplaced (r :: s :: rs))
        (⟨.dot, "."⟩ :: (V ++ ⟨.dot, "."⟩ :: W)) := .cons rfl form forms
    refine ⟨_, tail, (printed.dot printed').congr ?_ rfl⟩
    rw [writtenSegments, writtenSegments]
    simp [String.intercalate_cons_cons]

/-- A type argument that is written has the form of the argument, up to places. -/
theorem prints_writtenArgument (hs : separator ∈ [",", ", "]) : ∀ t : JavaType, t.WellNamedArgument →
    ∃ V, Argument (relocate unplaced t) V ∧ Prints (t.written separator).toList V
  | .argument inner span, .argument type => by
    obtain ⟨V, form, printed⟩ := prints_written hs inner type
    rw [relocate_argument, JavaType.written]
    exact ⟨V, .type .nil form, printed⟩
  | .wildcard span, .wildcard => by
    rw [relocate_wildcard, JavaType.written]
    exact ⟨_, .wildcard (q := ⟨.question, "?"⟩) .nil rfl, .question⟩
  | .boundedWildcard kind bound span, .bounded type => by
    obtain ⟨V, form, printed⟩ := prints_written hs bound type
    rw [relocate_boundedWildcard, JavaType.written]
    refine ⟨_, .bounded (q := ⟨.question, "?"⟩) (b := ⟨boundWord kind, kind.keyword⟩) kind .nil rfl
      rfl .nil form, (printed.bounded kind).congr ?_ rfl⟩
    simp

/-- Type arguments that are written have the form of the arguments, up to places. -/
theorem prints_writtenArguments (hs : separator ∈ [",", ", "]) : ∀ ts : List JavaType, ts ≠ [] →
    (∀ t ∈ ts, t.WellNamedArgument) → ∃ V, Arguments (relocate unplaced ts) V ∧
      Prints (separator.intercalate (writtenArguments separator ts)).toList V
  | [], ne, _ => absurd rfl ne
  | [t], _, h => by
    obtain ⟨V, form, printed⟩ := prints_writtenArgument hs t (h t List.mem_cons_self)
    refine ⟨V, .one form, printed.congr ?_ rfl⟩
    rw [writtenArguments, writtenArguments, String.intercalate_singleton]
  | t :: u :: ts, _, h => by
    obtain ⟨first, others⟩ := List.forall_mem_cons.mp h
    obtain ⟨V, form, printed⟩ := prints_writtenArgument hs t first
    obtain ⟨W, forms, printed'⟩ := prints_writtenArguments hs (u :: ts) (List.cons_ne_nil u ts) others
    have both : Arguments (relocate unplaced (t :: u :: ts)) (V ++ ⟨.comma, ","⟩ :: W) :=
      .cons form rfl forms
    refine ⟨_, both, (printed.comma printed' hs).congr ?_ rfl⟩
    rw [writtenArguments, writtenArguments]
    simp [String.intercalate_cons_cons]

end

end Written

/-- A rendered type has the form of the type, up to places. -/
theorem prints_type (t : JavaType) {text : String} (named : t.WellNamed)
    (rendered : t.render = .ok text) :
    ∃ V, BareType (relocate unplaced t) V ∧ Prints text.toList V := by
  rw [← written_of_render t rendered]
  exact prints_written (by decide) t named

end JavaStub
