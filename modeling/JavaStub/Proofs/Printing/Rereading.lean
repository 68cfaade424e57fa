import JavaStub.Proofs.Printing.Types

/-!
# Types that are read again

A type that is read from a source has a text that is read as the same type: the text that messages
show, and the text in a stub, if it has one. The two printers separate type arguments differently,
write closing angles without blanks and leave it to the scanner to fuse them, and to the reader to
take them apart.

Main facts:

1. `isReadAs_of_prints`: a text whose words have the form of a type is read as this type.
2. `isReadAs_of_completeType`: types that are read from a source are read again from their texts.
-/

namespace JavaStub

open Cursor Grammar Reading

variable {t : JavaType} {text source : String} {V : List Word} {ts : List Token} {c : Cursor}

/-- All of the text is read as the type, up to places. -/
def IsReadAs (text : String) (t : JavaType) : Prop :=
  ∃ ts, Source.tokens text = .ok ts ∧ ∃ r, (Cursor.start ts).completeType = .ok r ∧
    r.next.rest = [] ∧ relocate unplaced r.value = relocate unplaced t

/-- Tokens whose words have the form of a type are read as this type, up to places. -/
theorem completeType_of_isType {u : JavaType} (h : IsType u (unfused (ts.map Token.word))) :
    ∃ r, (Cursor.start ts).completeType = .ok r ∧ r.next.rest = [] ∧
      relocate unplaced r.value = u := by
  have read : Reads (past completeType) ((Cursor.start ts).rest.map Token.word) u [] := by
    have := reads_completeType h (notAt_nil typeEnds)
    rwa [List.append_nil] at this
  unfold Reads at read
  rw [run_completeType_ofWords (Cursor.start ts)] at read
  cases result : (Cursor.start ts).completeType with
  | error e => rw [result] at read; cases read
  | ok r =>
    rw [result] at read
    obtain ⟨same, left⟩ := Prod.mk.inj (Except.ok.inj read)
    refine ⟨r, rfl, ?_, same⟩
    exact List.map_eq_nil_iff.mp (congrArg Cursor.rest left)

/-- A text whose words have the form of a type is read as this type. -/
theorem isReadAs_of_prints (form : BareType (relocate unplaced t) V)
    (printed : Prints text.toList V) : IsReadAs text t := by
  obtain ⟨ts, cuts, rfl⟩ := printed.exists_tokens
  exact ⟨ts, cuts, completeType_of_isType (.mk .nil form)⟩

/-- The names in a type that is read from a source are names. -/
theorem wellNamed_of_completeType {r : Past c JavaType} (cuts : Source.tokens source = .ok ts)
    (within : c.rest <:+ ts) (read : c.completeType = .ok r) : r.value.WellNamed := by
  have run : (past completeType).run c = .ok (r.value, r.next) := by
    rw [run_past, read]
    rfl
  have lexed : ∀ t ∈ c.rest, Lexed t := fun t ht =>
    isLexeme_of_significant cuts t (within.mem ht)
  exact (yields_completeType r.value r.next run lexed).1

/-- A type that is read from a source is read again from its text and, if a stub can have it, from
its text in a stub. -/
theorem isReadAs_of_completeType {r : Past c JavaType} (cuts : Source.tokens source = .ok ts)
    (within : c.rest <:+ ts) (read : c.completeType = .ok r) :
    IsReadAs r.value.display r.value ∧
      ∀ text, r.value.render = .ok text → IsReadAs text r.value := by
  have named := wellNamed_of_completeType cuts within read
  refine ⟨?_, fun text rendered => ?_⟩
  · have separators : ", " ∈ [",", ", "] := by decide
    obtain ⟨V, form, printed⟩ := prints_written separators r.value named
    rw [written_display] at printed
    exact isReadAs_of_prints form printed
  · obtain ⟨V, form, printed⟩ := prints_type r.value named rendered
    exact isReadAs_of_prints form printed

/-- The tokens of `A.B<?super C>`. -/
def wildcardTokens : List Token :=
  [⟨.identifier, "A", ⟨1, 1, 0⟩⟩, ⟨.dot, ".", ⟨1, 2, 1⟩⟩, ⟨.identifier, "B", ⟨1, 3, 2⟩⟩,
   ⟨.lt, "<", ⟨1, 4, 3⟩⟩, ⟨.question, "?", ⟨1, 5, 4⟩⟩, ⟨.kwSuper, "super", ⟨1, 6, 5⟩⟩,
   ⟨.identifier, "C", ⟨1, 12, 11⟩⟩, ⟨.gt, ">", ⟨1, 13, 12⟩⟩]

/-- The tokens of `D<E<int[]>>` behind them. -/
def fusedTokens : List Token :=
  [⟨.identifier, "D", ⟨1, 14, 13⟩⟩, ⟨.lt, "<", ⟨1, 15, 14⟩⟩, ⟨.identifier, "E", ⟨1, 16, 15⟩⟩,
   ⟨.lt, "<", ⟨1, 17, 16⟩⟩, ⟨.kwInt, "int", ⟨1, 18, 17⟩⟩, ⟨.lbracket, "[", ⟨1, 21, 20⟩⟩,
   ⟨.rbracket, "]", ⟨1, 22, 21⟩⟩, ⟨.rshift, ">>", ⟨1, 23, 22⟩⟩]

theorem tokens_types :
    Source.tokens "A.B<?super C>D<E<int[]>>" = .ok (wildcardTokens ++ fusedTokens) := by
  decide +kernel

/-- The type `A.B<?super C>`. -/
def wildcardType : JavaType :=
  .nested [.mk "A" [] 0 (.inLine 0 0),
    .mk "B" [.boundedWildcard .lower (.reference (.mk "C" [] 0 (.inLine 11 11))) (.inLine 4 11)] 0
      (.inLine 2 12)] 0 (.inLine 0 12)

/-- The type `D<E<int[]>>`. -/
def fusedType : JavaType :=
  .reference (.mk "D"
    [.argument (.reference (.mk "E"
      [.argument (.basic "int" 1 (.inLine 17 21)) (.inLine 17 21)] 0 (.inLine 15 22)))
        (.inLine 15 22)] 0 (.inLine 13 22))

theorem completeType_wildcardType : (Cursor.start (wildcardTokens ++ fusedTokens)).completeType =
    .ok ⟨wildcardType, ⟨⟨1, 13, 12⟩, fusedTokens⟩, by decide⟩ := by decide +kernel

theorem completeType_fusedType : completeType ⟨⟨1, 13, 12⟩, fusedTokens⟩ =
    .ok ⟨fusedType, ⟨⟨1, 23, 22⟩, []⟩, by decide⟩ := by decide +kernel

theorem isReadAs_types :
    (IsReadAs wildcardType.display wildcardType ∧
      ∀ text, wildcardType.render = .ok text → IsReadAs text wildcardType) ∧
    IsReadAs "D<E<int[]>>" fusedType :=
  ⟨isReadAs_of_completeType tokens_types (List.suffix_refl _) completeType_wildcardType,
    (isReadAs_of_completeType tokens_types (List.suffix_append _ _) completeType_fusedType).2 _
      (by decide +kernel)⟩

end JavaStub
