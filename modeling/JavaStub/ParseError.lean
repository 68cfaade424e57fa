import JavaStub.Location
import JavaStub.Text.Escape
import JavaStub.Token.Kind

/-!
# Why a source cannot be read

An error names its cause and the place it was found at. `ParseError.message` is its full
text and `ParseError.detail` the text without the place.
-/

namespace JavaStub

/-- What the grammar asks for at some point. -/
inductive Expectation where
  | identifier
  | typeDeclaration
  | packageKeyword
  | packageEnd
  | importWildcard
  | importEnd
  | body
  | classEnd
  | memberBody
  | fieldEnd
  | closingAngle
  | parameterEnd
  | dimensionEnd
  /-- A delimiter, called by the name of its kind. -/
  | delimiter (kind : Token.Kind)
  deriving DecidableEq, Repr

/-- An expectation as messages write it. -/
def Expectation.text : Expectation → String
  | .identifier => "identifier"
  | .typeDeclaration => "type declaration"
  | .packageKeyword => "'package'"
  | .packageEnd => "';' after package name"
  | .importWildcard => "'*' after '.' in import"
  | .importEnd => "';' after import"
  | .body => "'\x7b'"
  | .classEnd => "'\x7d' after class body"
  | .memberBody => "'\x7b' or ';' after method declaration"
  | .fieldEnd => "';' after field declaration"
  | .closingAngle => "'>'"
  | .parameterEnd => "',' or ')' in parameter list"
  | .dimensionEnd => "']' after array dimension"
  | .delimiter kind => kind.name

/-- Why a source cannot be read. -/
inductive ParseError where
  /-- Another token stands where something was expected. -/
  | unexpectedToken (expected : Expectation) (found : String) (location : Location)
  /-- The input ends, after the token at `location`, where something was expected. -/
  | unexpectedEnd (expected : Expectation) (location : Location)
  /-- A method without a result has array dimensions. -/
  | voidDimensions (location : Location)
  /-- A type is followed by more closing angles than it has open ones. -/
  | unbalancedAngle (location : Location)
  /-- A stretch of input that is no lexeme. -/
  | unrecognized (text : String) (location : Location)
  deriving DecidableEq, Repr

namespace ParseError

/-- The place an error is found at. -/
def location : ParseError → Location
  | .unexpectedToken _ _ l | .unexpectedEnd _ l | .voidDimensions l | .unbalancedAngle l
  | .unrecognized _ l => l

/-- The text of an error without its place. -/
def detail : ParseError → String
  | .unexpectedToken expected found _ => "expected " ++ expected.text ++ ", found '" ++ found ++ "'"
  | .unexpectedEnd expected _ => "unexpected end of input, expected " ++ expected.text
  | .voidDimensions _ => "array dimensions on a void method"
  | .unbalancedAngle _ => "unbalanced '>' in type"
  | .unrecognized text _ =>
    "unrecognized input '" ++ String.ofList (Text.escape text.toList) ++ "'"

/-- The full text of an error. -/
def message (e : ParseError) : String :=
  match e with
  | .unexpectedEnd _ l => e.detail ++ " (after " ++ l.text ++ ")"
  | _ => e.detail ++ " at " ++ e.location.text

end ParseError

end JavaStub
