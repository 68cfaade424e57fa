import JavaStub.Unicode.GraphemeExtend
import JavaStub.Unicode.Unprintable

/-!
# Escaped text

A text as a message quotes it: quotes, backslashes and line ends are written with a
backslash, and a character that cannot be seen is written as its code point. A mark that
attaches to the character before it is only escaped where it would attach to the opening
quote, at the head of the text.
-/

namespace JavaStub.Text

open Unicode

/-- A character by its code point, in lower case hexadecimal digits. -/
def codePointEscape (c : Char) : List Char :=
  ['\\', 'u', '{'] ++ Nat.toDigits 16 c.toNat ++ ['}']

/-- One character of a quoted text; `leading` when it is the first. -/
def escapeChar (leading : Bool) (c : Char) : List Char :=
  if c = '\x00' then ['\\', '0']
  else if c = '\t' then ['\\', 't']
  else if c = '\r' then ['\\', 'r']
  else if c = '\n' then ['\\', 'n']
  else if c = '\'' || c = '"' || c = '\\' then ['\\', c]
  else if isUnprintable c || (leading && extendsGrapheme c) then codePointEscape c
  else [c]

/-- A text as it stands inside quotes. -/
def escape : List Char → List Char
  | [] => []
  | c :: cs => escapeChar true c ++ cs.flatMap (escapeChar false)

@[simp] theorem escape_nil : escape [] = [] := rfl

theorem escape_cons (c : Char) (cs : List Char) :
    escape (c :: cs) = escapeChar true c ++ cs.flatMap (escapeChar false) := rfl

end JavaStub.Text
