import JavaStub.Regex.Munch
import JavaStub.Token.Kind

/-!
# The rules of the token kinds

For each kind an expression that its lexemes match. Keywords, operators and separators match
their one spelling and stand first, so a keyword is preferred to an identifier of the same
length. Text blocks have no rule here: where one starts is seen from its opening quotes, and
where it ends is a matter of counting (`Token.textBlockLength`).
-/

namespace JavaStub.Token

open Regex

/-! ## Character classes -/

/-- One character of a class. -/
def one (s : CharClass) : Regex := .char s

/-- One of the listed characters. -/
def oneOf (cs : List Char) : Regex := .char (.anyOf cs)

def decimalDigit : CharClass := .range '0' '9'

def decimalDigitOrUnderscore : CharClass := ⟨[('0', '9'), ('_', '_')], false, false, false⟩

def hexDigit : CharClass := ⟨[('0', '9'), ('a', 'f'), ('A', 'F')], false, false, false⟩

def hexDigitOrUnderscore : CharClass :=
  ⟨[('0', '9'), ('a', 'f'), ('A', 'F'), ('_', '_')], false, false, false⟩

def octalDigit : CharClass := .range '0' '7'

def identifierStart : CharClass := ⟨[('_', '_'), ('$', '$')], true, false, false⟩

def identifierPart : CharClass := ⟨[('_', '_'), ('$', '$')], true, true, false⟩

/-! ## Literals -/

/-- An escape by code unit: `\u` and four hexadecimal digits. -/
def unicodeEscape : Regex :=
  concat [text ['\\', 'u'], one hexDigit, one hexDigit, one hexDigit, one hexDigit]

/-- A backslash and any character but a line feed. -/
def simpleEscape : Regex := .seq (oneOf ['\\']) (one (.noneOf ['\n']))

/-- A backslash and one to three octal digits. -/
def octalEscape : Regex :=
  concat [oneOf ['\\'], one octalDigit, opt (one octalDigit), opt (one octalDigit)]

def stringRule : Regex :=
  concat [oneOf ['"'],
    .star (.alt (one (.noneOf ['"', '\\'])) (.alt unicodeEscape simpleEscape)),
    oneOf ['"']]

def charRule : Regex :=
  concat [oneOf ['\''],
    .alt (one (.noneOf ['\'', '\\'])) (.alt unicodeEscape (.alt octalEscape simpleEscape)),
    oneOf ['\'']]

/-- A decimal digit, then digits and underscores. -/
def digits : Regex := .seq (one decimalDigit) (.star (one decimalDigitOrUnderscore))

def longSuffix : Regex := opt (oneOf ['l', 'L'])

def hexRule : Regex :=
  concat [oneOf ['0'], oneOf ['x', 'X'], plus (one hexDigitOrUnderscore), longSuffix]

def binaryRule : Regex :=
  concat [oneOf ['0'], oneOf ['b', 'B'], plus (oneOf ['0', '1', '_']), longSuffix]

def integerRule : Regex := concat [digits, longSuffix]

/-- The letter, the sign and the digits of an exponent. -/
def exponent : Regex :=
  concat [oneOf ['e', 'E'], opt (oneOf ['+', '-']), plus (one decimalDigit)]

def floatSuffix : Regex := oneOf ['f', 'F', 'd', 'D']

/-- Digits around a point, after a point, before an exponent or before a suffix. -/
def floatRule : Regex :=
  .alt (concat [digits, oneOf ['.'], .star (one decimalDigitOrUnderscore), opt exponent,
      opt floatSuffix])
    (.alt (concat [oneOf ['.'], digits, opt exponent, opt floatSuffix])
      (.alt (concat [digits, exponent, opt floatSuffix])
        (concat [digits, floatSuffix])))

/-! ## Names, comments and blanks -/

def identifierRule : Regex := .seq (one identifierStart) (.star (one identifierPart))

def lineCommentRule : Regex := .seq (text ['/', '/']) (.star (one (.noneOf ['\n'])))

def blockCommentRule : Regex :=
  concat [text ['/', '*'], .star (one (.noneOf ['*'])), plus (oneOf ['*']),
    .star (concat [one (.noneOf ['/', '*']), .star (one (.noneOf ['*'])), plus (oneOf ['*'])]),
    oneOf ['/']]

def whitespaceRule : Regex := plus (oneOf [' ', '\t', '\n', '\r', '\x0c'])

def byteOrderMarkRule : Regex := text ['\ufeff']

/-- All rules, the preferred ones first. -/
def rules : List (Kind × Regex) :=
  (Kind.fixed.map fun entry => (entry.1, text entry.2.toList)) ++
  [(.stringLiteral, stringRule), (.charLiteral, charRule), (.hexInteger, hexRule),
   (.binaryInteger, binaryRule), (.integerLiteral, integerRule), (.floatLiteral, floatRule),
   (.identifier, identifierRule), (.lineComment, lineCommentRule),
   (.blockComment, blockCommentRule), (.whitespace, whitespaceRule),
   (.byteOrderMark, byteOrderMarkRule)]

end JavaStub.Token
