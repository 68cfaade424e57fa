import JavaStub.Cursor.Units
import JavaStub.Token.Scan

/-!
# From source to compilation unit

A source is cut into tokens, and the tokens are read as a compilation unit.
-/

namespace JavaStub.CompilationUnit

/-- The unit that a list of tokens stands for. -/
def ofTokens (tokens : List Token) : Except ParseError CompilationUnit :=
  (Cursor.start tokens).compilationUnit

/-- The unit that a source stands for. -/
def ofSource (source : String) : Except ParseError CompilationUnit := do
  ofTokens (← Source.tokens source)

end JavaStub.CompilationUnit
