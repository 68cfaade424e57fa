import JavaStub.Location
import JavaStub.Token.Kind

/-!
# Tokens

A token is a stretch of source text with its kind and the place where it starts.
-/

namespace JavaStub

/-- A token of Java source. -/
structure Token where
  kind : Token.Kind
  /-- The text of the token. -/
  lexeme : String
  /-- The place of its first character. -/
  location : Location
  deriving DecidableEq, Repr

end JavaStub
