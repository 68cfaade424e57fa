import JavaStub.Cursor.Units
import JavaStub.Proofs.Grammar.Types

/-!
# A grammar of compilation units

The forms of parameters, class members, type declarations and whole units, each with what is
kept of it. Of what is not kept only as much is said as is needed to tell where it ends: bodies
and arguments are balanced, and a header, a field or the tail of a method holds no delimiter
outside of groups that would end it early.
-/

namespace JavaStub.Grammar

open Token (Kind)

/-! ## Parameters -/

/-- A parameter of a method. -/
inductive IsParameter : Parameter → List Word → Prop
  | mk {ms : List Modifier} {t : JavaType} {varargs : Bool} {w : Word} {n : Nat}
      {ws us as es ds : List Word} (modifiers : Modifiers ms ws) (type : IsType t (unfused us))
      (annotations : Annotations as) (ellipsis : Optional .ellipsis varargs es)
      (name : w.kind = .identifier) (dims : Dimensions n ds) :
      IsParameter ⟨t.addDimensions n, w.lexeme, varargs, noSpan⟩
        (ws ++ (us ++ (as ++ (es ++ w :: ds))))

/-- The parameters of a method between its round brackets. -/
inductive Parameters : List Parameter → List Word → Prop
  | none : Parameters [] []
  | some {ps : List Parameter} {ws : List Word} (list : Separated .comma IsParameter ps ws) :
      Parameters ps ws

/-- The type of a result, or `void`. -/
inductive Result : Option JavaType → List Word → Prop
  | void {w : Word} (keyword : w.kind = .kwVoid) : Result none [w]
  | type {t : JavaType} {us : List Word} (type : IsType t (unfused us)) : Result (some t) us

/-! ## What is not kept -/

/-- The words between the name of a type and the brace that opens its body: round brackets are
matched, and outside of them there is no brace that opens and no `package`. -/
def HeaderTail (ws : List Word) : Prop :=
  Shielded roundGroups [.lbrace, .kwPackage] (ws.map Word.kind)

/-- The tail of a method or constructor: its body or semicolon, and what stands before it. -/
inductive MemberTail : List Word → Prop
  | body {ws vs : List Word} (free : ∀ w ∈ ws, w.kind ∉ [.lbrace, .semicolon])
      (body : Group .lbrace .rbrace vs) : MemberTail (ws ++ vs)
  | semicolon {ws : List Word} {s : Word} (free : ∀ w ∈ ws, w.kind ∉ [.lbrace, .semicolon])
      (ends : s.kind = .semicolon) : MemberTail (ws ++ [s])

/-- The tail of a field: round brackets and braces are matched in it, and its semicolon is the
only one outside of them. -/
inductive FieldTail : List Word → Prop
  | mk {ws : List Word} {s : Word}
      (shielded : Shielded fieldGroups [.semicolon] (ws.map Word.kind))
      (ends : s.kind = .semicolon) : FieldTail (ws ++ [s])

/-- What introduces a type declaration that is no class. -/
inductive HeaderKeyword : HeaderKind → List Word → Prop
  | interface {w : Word} (h : w.kind = .kwInterface) : HeaderKeyword .interface [w]
  | enum {w : Word} (h : w.kind = .kwEnum) : HeaderKeyword .enum [w]
  | record {w : Word} (h : w.kind = .identifier) (spelled : w.lexeme = "record") :
      HeaderKeyword .record [w]
  | annotationType {a w : Word} (sign : a.kind = .atSign) (h : w.kind = .kwInterface) :
      HeaderKeyword .annotationType [a, w]

/-- What introduces a type declaration. -/
inductive TypeKeyword : List Word → Prop
  | ofClass {w : Word} (h : w.kind = .kwClass) : TypeKeyword [w]
  | ofHeader {kind : HeaderKind} {ws : List Word} (h : HeaderKeyword kind ws) : TypeKeyword ws

/-- The name, header and body of a type of which only the name is kept. -/
inductive PassedType : String → List Word → Prop
  | mk {w : Word} {hs bs : List Word} (name : w.kind = .identifier) (header : HeaderTail hs)
      (body : Group .lbrace .rbrace bs) : PassedType w.lexeme (w :: (hs ++ bs))

/-! ## Members -/

/-- A member of a class, with the method that it is, if it is one. A type that directly follows
the modifiers of a field or method has to be among the types `Leading`. -/
inductive Member (Leading : JavaType → Prop) : Option Method → List Word → Prop
  | semicolon {s : Word} (h : s.kind = .semicolon) : Member Leading none [s]
  | initializer {ms : List Modifier} {ws bs : List Word} (modifiers : Modifiers ms ws)
      (body : Group .lbrace .rbrace bs) : Member Leading none (ws ++ bs)
  | nestedType {ms : List Modifier} {n : String} {ws ks vs : List Word} (modifiers : Modifiers ms ws)
      (keyword : TypeKeyword ks) (declared : PassedType n vs) :
      Member Leading none (ws ++ (ks ++ vs))
  | field {ms : List Modifier} {t : JavaType} {w : Word} {ws us vs : List Word}
      (modifiers : Modifiers ms ws) (type : IsType t (unfused us)) (leading : Leading t)
      (name : w.kind = .identifier) (tail : FieldTail vs) (initial : NotAt [.lparen] vs) :
      Member Leading none (ws ++ (us ++ w :: vs))
  | constructor {ms : List Modifier} {ns : List String} {w : Word} {ws us gs vs : List Word}
      (modifiers : Modifiers ms ws) (typeParameters : TypeParameters ns us)
      (name : w.kind = .identifier) (parameters : Group .lparen .rparen gs) (tail : MemberTail vs) :
      Member Leading none (ws ++ (us ++ w :: (gs ++ vs)))
  | method {ms : List Modifier} {ns : List String} {τ : Option JavaType} {w l r : Word}
      {ps : List Parameter} {n : Nat} {ws us rs qs ds vs : List Word}
      (modifiers : Modifiers ms ws) (typeParameters : TypeParameters ns us) (result : Result τ rs)
      (leading : us = [] → ∀ t ∈ τ, Leading t) (name : w.kind = .identifier)
      (opens : l.kind = .lparen) (parameters : Parameters ps qs) (closes : r.kind = .rparen)
      (dims : Dimensions n ds) (dimensioned : τ = none → n = 0) (tail : MemberTail vs)
      (behind : NotAt [.lbracket] vs) :
      Member Leading (some ⟨ms, ns, τ.map (·.addDimensions n), w.lexeme, ps, noSpan⟩)
        (ws ++ (us ++ (rs ++ w :: l :: (qs ++ r :: (ds ++ vs)))))

/-! ## Units -/

/-- A top-level type. -/
inductive TopLevel (Leading : JavaType → Prop) : TypeDeclaration → List Word → Prop
  | ofClass {ms : List Modifier} {c w l r : Word} {ns : List String} {found : List (Option Method)}
      {ws us hs bs : List Word} (modifiers : Modifiers ms ws) (keyword : c.kind = .kwClass)
      (name : w.kind = .identifier) (typeParameters : TypeParameters ns us)
      (header : HeaderTail hs) (initial : NotAt [.lt] hs) (opens : l.kind = .lbrace)
      (members : Many (Member Leading) found bs) (closes : r.kind = .rbrace) :
      TopLevel Leading (.ofClass ⟨ms, w.lexeme, ns, found.filterMap id, noSpan⟩)
        (ws ++ c :: w :: (us ++ (hs ++ l :: (bs ++ [r]))))
  | ofHeader {kind : HeaderKind} {ms : List Modifier} {n : String} {ws ks vs : List Word}
      (modifiers : Modifiers ms ws) (keyword : HeaderKeyword kind ks) (declared : PassedType n vs) :
      TopLevel Leading (.ofHeader ⟨kind, ms, n, noSpan⟩) (ws ++ (ks ++ vs))

/-- A package declaration, or none. -/
inductive PackageClause : Option Package → List Word → Prop
  | none : PackageClause none []
  | some {p s : Word} {n : String} {as ws : List Word} (annotations : Annotations as)
      (keyword : p.kind = .kwPackage) (name : Name n ws) (ends : s.kind = .semicolon) :
      PackageClause (some ⟨n, noSpan⟩) (as ++ p :: (ws ++ [s]))

/-- The star of a wildcard import and the dot before it, or nothing. -/
inductive Star : Bool → List Word → Prop
  | absent : Star false []
  | present {dot star : Word} (joins : dot.kind = .dot) (h : star.kind = .star) :
      Star true [dot, star]

/-- An import or a stray semicolon. -/
inductive ImportOrSemicolon : Option Import → List Word → Prop
  | semicolon {s : Word} (h : s.kind = .semicolon) : ImportOrSemicolon none [s]
  | ofImport {i s : Word} {n : String} {isStatic isWildcard : Bool} {es ws vs : List Word}
      (keyword : i.kind = .kwImport) (optional : Optional .kwStatic isStatic es) (name : Name n ws)
      (star : Star isWildcard vs) (ends : s.kind = .semicolon) :
      ImportOrSemicolon (some ⟨n, isStatic, isWildcard, noSpan⟩) (i :: (es ++ (ws ++ (vs ++ [s]))))

/-- A top-level type or a stray semicolon. -/
inductive TypeOrSemicolon (Leading : JavaType → Prop) : Option TypeDeclaration → List Word → Prop
  | semicolon {s : Word} (h : s.kind = .semicolon) : TypeOrSemicolon Leading none [s]
  | ofType {d : TypeDeclaration} {ws : List Word} (h : TopLevel Leading d ws) :
      TypeOrSemicolon Leading (some d) ws

/-- A compilation unit. -/
inductive IsUnit (Leading : JavaType → Prop) : CompilationUnit → List Word → Prop
  | mk {p : Option Package} {is : List (Option Import)} {ds : List (Option TypeDeclaration)}
      {as bs cs : List Word} (package : PackageClause p as) (imports : Many ImportOrSemicolon is bs)
      (types : Many (TypeOrSemicolon Leading) ds cs) :
      IsUnit Leading ⟨p, is.filterMap id, ds.filterMap id, noSpan⟩ (as ++ (bs ++ cs))

end JavaStub.Grammar
