import JavaStub.Token.Rules
import JavaStub.Token.TextBlock

/-!
# Cutting off the next lexeme

The next lexeme of an input is the longest prefix that a rule matches, with two exceptions:
three quotes start a text block and nothing else, and `/*` starts a block comment and
nothing else. Where there is no lexeme, a stretch of unrecognized input is cut off instead.
Its extent is a rule of its own for string literals that are not closed
(`unclosedStringLength`); otherwise it is the opening quotes of a text block, the rest of
the input after `/*`, or one character.

`cut` counts the characters after the first, so that every cut is nonempty, and
`cut_le` says that it stays within the input.
-/

namespace JavaStub.Token

/-- Does the input close a block comment that is already open? -/
def closesComment : List Char → Bool
  | '*' :: '/' :: _ => true
  | _ :: cs => closesComment cs
  | [] => false

/-- Is the character a hexadecimal digit? -/
def isHexDigit (c : Char) : Bool := hexDigit.contains c

/-- How far the unrecognized input reaches after a quote that starts no string literal.

It is read in units, a backslash taking the next character with it, to the end of the input.
It stops after a backslash that a line feed follows, and after the backslash of a code unit
escape that the end of the input cuts short. -/
def unclosedStringLength : List Char → Nat
  | [] => 0
  | '\\' :: cs =>
    match cs with
    | [] => 1
    | c :: ds =>
      if c = '\n' then 1
      else if c = 'u' && ds.length ≤ 3 && ds.all isHexDigit then 1
      else unclosedStringLength ds + 2
  | _ :: cs => unclosedStringLength cs + 1

/-- The next lexeme of the input `c :: cs`: its kind, or `none` for unrecognized input, and
the number of characters it takes after the first. -/
def cut (c : Char) (cs : List Char) : Option Kind × Nat :=
  if c = '"' && cs.take 2 = ['"', '"'] then
    match textBlockLength (cs.drop 2) with
    | some n => (some .textBlock, n + 2)
    | none => (none, 2)
  else if c = '/' && cs.head? = some '*' && !closesComment (cs.drop 1) then (none, cs.length)
  else
    match Regex.munch (Regex.read c rules) cs with
    | some (kind, more) => (some kind, more)
    | none => if c = '"' then (none, unclosedStringLength cs) else (none, 0)

theorem unclosedStringLength_le (cs : List Char) : unclosedStringLength cs ≤ cs.length := by
  fun_induction unclosedStringLength cs <;> simp only [List.length_cons, List.length_nil] <;> omega

theorem cut_le (c : Char) (cs : List Char) : (cut c cs).2 ≤ cs.length := by
  unfold cut
  split
  · next h =>
    have two : cs.take 2 = ['"', '"'] := by simpa using (Bool.and_eq_true_iff.mp h).2
    have long : 2 ≤ cs.length := by
      have := congrArg List.length two
      simp only [List.length_take, List.length_cons, List.length_nil] at this
      omega
    split
    · next n hn =>
      have := textBlockLength_le hn
      simp only [List.length_drop] at this
      show n + 2 ≤ cs.length
      omega
    · exact long
  · split
    · exact Nat.le_refl _
    · split
      · next kind more hm => exact Regex.munch_le hm
      · split
        · exact unclosedStringLength_le cs
        · exact Nat.zero_le _

end JavaStub.Token
