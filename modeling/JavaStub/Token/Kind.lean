/-!
# Token kinds

The kinds of token that Java source is cut into. Keywords, operators and separators have one
spelling each (`Kind.fixed`); literals, identifiers, comments and white space have many.
Contextual words such as `record` and `var` are identifiers.
-/

namespace JavaStub.Token

/-- The kind of a token. -/
inductive Kind where
  -- keywords
  | kwPackage | kwImport | kwStatic | kwPublic | kwProtected | kwPrivate | kwAbstract | kwFinal
  | kwNative | kwSynchronized | kwTransient | kwVolatile | kwStrictfp | kwDefault | kwClass
  | kwInterface | kwEnum | kwExtends | kwImplements | kwThrows | kwSuper | kwThis | kwVoid
  | kwBoolean | kwByte | kwShort | kwInt | kwLong | kwChar | kwFloat | kwDouble
  -- operators
  | assign | addAssign | subAssign | mulAssign | divAssign | modAssign | andAssign | orAssign
  | xorAssign | lshiftAssign | rshiftAssign | urshiftAssign | plus | minus | star | slash
  | percent | inc | dec | bang | tilde | amp | pipe | caret | lshift | rshift | urshift
  | ampAmp | pipePipe | eq | ne | lt | le | gt | ge | question | colon | doubleColon | arrow
  -- separators
  | lparen | rparen | lbracket | rbracket | lbrace | rbrace | semicolon | comma | dot | atSign
  | ellipsis
  -- literals
  | stringLiteral | textBlock | charLiteral | hexInteger | binaryInteger | integerLiteral
  | floatLiteral
  -- names
  | identifier
  -- comments and blanks
  | lineComment | blockComment | whitespace | byteOrderMark
  deriving DecidableEq, Repr

namespace Kind

/-- The kinds with a single spelling, each with that spelling. -/
def fixed : List (Kind × String) :=
  [(.kwPackage, "package"), (.kwImport, "import"), (.kwStatic, "static"), (.kwPublic, "public"),
   (.kwProtected, "protected"), (.kwPrivate, "private"), (.kwAbstract, "abstract"),
   (.kwFinal, "final"), (.kwNative, "native"), (.kwSynchronized, "synchronized"),
   (.kwTransient, "transient"), (.kwVolatile, "volatile"), (.kwStrictfp, "strictfp"),
   (.kwDefault, "default"), (.kwClass, "class"), (.kwInterface, "interface"), (.kwEnum, "enum"),
   (.kwExtends, "extends"), (.kwImplements, "implements"), (.kwThrows, "throws"),
   (.kwSuper, "super"), (.kwThis, "this"), (.kwVoid, "void"), (.kwBoolean, "boolean"),
   (.kwByte, "byte"), (.kwShort, "short"), (.kwInt, "int"), (.kwLong, "long"), (.kwChar, "char"),
   (.kwFloat, "float"), (.kwDouble, "double"), (.assign, "="), (.addAssign, "+="),
   (.subAssign, "-="), (.mulAssign, "*="), (.divAssign, "/="), (.modAssign, "%="),
   (.andAssign, "&="), (.orAssign, "|="), (.xorAssign, "^="), (.lshiftAssign, "<<="),
   (.rshiftAssign, ">>="), (.urshiftAssign, ">>>="), (.plus, "+"), (.minus, "-"), (.star, "*"),
   (.slash, "/"), (.percent, "%"), (.inc, "++"), (.dec, "--"), (.bang, "!"), (.tilde, "~"),
   (.amp, "&"), (.pipe, "|"), (.caret, "^"), (.lshift, "<<"), (.rshift, ">>"), (.urshift, ">>>"),
   (.ampAmp, "&&"), (.pipePipe, "||"), (.eq, "=="), (.ne, "!="), (.lt, "<"), (.le, "<="),
   (.gt, ">"), (.ge, ">="), (.question, "?"), (.colon, ":"), (.doubleColon, "::"),
   (.arrow, "->"), (.lparen, "("), (.rparen, ")"), (.lbracket, "["), (.rbracket, "]"),
   (.lbrace, "\x7b"), (.rbrace, "\x7d"), (.semicolon, ";"), (.comma, ","), (.dot, "."), (.atSign, "@"),
   (.ellipsis, "...")]

/-- The name of a kind in messages and listings. -/
def name : Kind → String
  | .kwPackage => "Package"
  | .kwImport => "Import"
  | .kwStatic => "Static"
  | .kwPublic => "Public"
  | .kwProtected => "Protected"
  | .kwPrivate => "Private"
  | .kwAbstract => "Abstract"
  | .kwFinal => "Final"
  | .kwNative => "Native"
  | .kwSynchronized => "Synchronized"
  | .kwTransient => "Transient"
  | .kwVolatile => "Volatile"
  | .kwStrictfp => "Strictfp"
  | .kwDefault => "Default"
  | .kwClass => "Class"
  | .kwInterface => "Interface"
  | .kwEnum => "Enum"
  | .kwExtends => "Extends"
  | .kwImplements => "Implements"
  | .kwThrows => "Throws"
  | .kwSuper => "Super"
  | .kwThis => "This"
  | .kwVoid => "Void"
  | .kwBoolean => "Boolean"
  | .kwByte => "Byte"
  | .kwShort => "Short"
  | .kwInt => "Int"
  | .kwLong => "Long"
  | .kwChar => "Char"
  | .kwFloat => "Float"
  | .kwDouble => "Double"
  | .assign => "Assign"
  | .addAssign => "AddAssign"
  | .subAssign => "SubAssign"
  | .mulAssign => "MulAssign"
  | .divAssign => "DivAssign"
  | .modAssign => "ModAssign"
  | .andAssign => "AndAssign"
  | .orAssign => "OrAssign"
  | .xorAssign => "XorAssign"
  | .lshiftAssign => "LShiftAssign"
  | .rshiftAssign => "RShiftAssign"
  | .urshiftAssign => "URShiftAssign"
  | .plus => "Plus"
  | .minus => "Minus"
  | .star => "Star"
  | .slash => "Slash"
  | .percent => "Percent"
  | .inc => "Inc"
  | .dec => "Dec"
  | .bang => "Bang"
  | .tilde => "Tilde"
  | .amp => "Amp"
  | .pipe => "Pipe"
  | .caret => "Caret"
  | .lshift => "LShift"
  | .rshift => "RShift"
  | .urshift => "URShift"
  | .ampAmp => "AndAnd"
  | .pipePipe => "PipePipe"
  | .eq => "Eq"
  | .ne => "Ne"
  | .lt => "Lt"
  | .le => "Le"
  | .gt => "Gt"
  | .ge => "Ge"
  | .question => "Question"
  | .colon => "Colon"
  | .doubleColon => "DoubleColon"
  | .arrow => "Arrow"
  | .lparen => "LParen"
  | .rparen => "RParen"
  | .lbracket => "LBracket"
  | .rbracket => "RBracket"
  | .lbrace => "LBrace"
  | .rbrace => "RBrace"
  | .semicolon => "Semicolon"
  | .comma => "Comma"
  | .dot => "Dot"
  | .atSign => "At"
  | .ellipsis => "Ellipsis"
  | .stringLiteral => "StringLiteral"
  | .textBlock => "TextBlock"
  | .charLiteral => "CharLiteral"
  | .hexInteger => "HexInteger"
  | .binaryInteger => "BinaryInteger"
  | .integerLiteral => "IntegerLiteral"
  | .floatLiteral => "FloatLiteral"
  | .identifier => "Identifier"
  | .lineComment => "LineComment"
  | .blockComment => "BlockComment"
  | .whitespace => "Whitespace"
  | .byteOrderMark => "Bom"

/-- Is the kind the keyword of a primitive type? `void` is none. -/
def isPrimitive : Kind → Bool
  | .kwBoolean | .kwByte | .kwShort | .kwInt | .kwLong | .kwChar | .kwFloat | .kwDouble => true
  | _ => false

/-- Is the kind a comment or blank, which has no part in declarations? -/
def isTrivia : Kind → Bool
  | .lineComment | .blockComment | .whitespace | .byteOrderMark => true
  | _ => false

theorem isTrivia_of_isPrimitive {k : Kind} (h : k.isPrimitive = true) : k.isTrivia = false := by
  cases k <;> first | rfl | cases h

end Kind

end JavaStub.Token
