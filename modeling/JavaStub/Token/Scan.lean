import JavaStub.ParseError
import JavaStub.Token.Basic
import JavaStub.Token.Cut

/-!
# The tokens of a source

`Source.scan` cuts a source into pieces, each a token or a stretch of unrecognized input,
and goes on after either. `Source.tokens` keeps the tokens that matter to declarations and
fails at the first unrecognized piece.

Main facts:

1. `flatMap_text_scan`: the pieces in a row are the source.
2. `ne_nil_of_mem_scan`: no piece is empty.
-/

namespace JavaStub.Source

/-- A piece of source: a token, or input that is no lexeme. -/
structure Piece where
  kind : Option Token.Kind
  text : List Char
  location : Location
  deriving DecidableEq, Repr

/-- The pieces of an input whose first character is at `l`. -/
def scan (l : Location) : List Char → List Piece
  | [] => []
  | c :: cs =>
    let (kind, more) := Token.cut c cs
    let text := c :: cs.take more
    ⟨kind, text, l⟩ :: scan (l.past text) (cs.drop more)
termination_by cs => cs.length
decreasing_by simp only [List.length_drop, List.length_cons]; omega

@[simp] theorem scan_nil (l : Location) : scan l [] = [] := by
  rw [scan]

theorem scan_cons (l : Location) (c : Char) (cs : List Char) :
    scan l (c :: cs) =
      ⟨(Token.cut c cs).1, c :: cs.take (Token.cut c cs).2, l⟩ ::
        scan (l.past (c :: cs.take (Token.cut c cs).2)) (cs.drop (Token.cut c cs).2) := by
  rw [scan]

theorem flatMap_text_scan (l : Location) (cs : List Char) :
    (scan l cs).flatMap Piece.text = cs := by
  fun_induction scan l cs with
  | case1 => rfl
  | case2 l c cs kind more _ text ih =>
    simp [ih, text]

theorem ne_nil_of_mem_scan {l : Location} {cs : List Char} {p : Piece} (h : p ∈ scan l cs) :
    p.text ≠ [] := by
  fun_induction scan l cs with
  | case1 => cases h
  | case2 l c cs kind more _ text ih =>
    rcases List.mem_cons.mp h with rfl | h
    · simp [text]
    · exact ih h

/-- The tokens among the pieces that matter to declarations, if all pieces are tokens. -/
def significant : List Piece → Except ParseError (List Token)
  | [] => .ok []
  | piece :: rest =>
    match piece.kind with
    | none => .error (.unrecognized (String.ofList piece.text) piece.location)
    | some kind =>
      if kind.isTrivia then significant rest
      else (significant rest).map (⟨kind, String.ofList piece.text, piece.location⟩ :: ·)

/-- The tokens of a source without comments and blanks. -/
def tokens (source : String) : Except ParseError (List Token) :=
  significant (scan .start source.toList)

end JavaStub.Source
