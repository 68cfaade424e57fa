import JavaStub.Cursor.Signatures
import JavaStub.Proofs.Groups
import JavaStub.Proofs.Placement

/-!
# A grammar of types

Which words are a name, an annotation, modifiers or a type, each with the value that it stands
for. Values have no particular place (`noSpan`). Nothing here is read one word at a time: a form
says what its words are from the first to the last.

Types are written with single closing angles. A lexeme such as `>>` stands for as many of them
as it closes (`Word.unfused`), so words spell a type when they do with all such lexemes taken
apart.
-/

namespace JavaStub

open Token (Kind)

/-- The span of what has no particular place. -/
def noSpan : Span := ⟨.start, .start⟩

/-- The stretch between two characters of a text of one line. -/
def Span.inLine (first last : Nat) : Span := ⟨⟨1, first + 1, first⟩, ⟨1, last + 1, last⟩⟩

namespace Word

/-- A single closing angle. -/
def closing : Word := ⟨.gt, ">"⟩

/-- A word with its closing angles taken apart. -/
def unfused (w : Word) : List Word :=
  match Cursor.angleCount w.kind with
  | 0 => [w]
  | n => List.replicate n closing

end Word

/-- Words with all closing angles taken apart. -/
def unfused (ws : List Word) : List Word := ws.flatMap Word.unfused

namespace Grammar

variable {α : Type}

/-- The first word, if there is any, is of none of these kinds. -/
def NotAt (ks : List Kind) (ws : List Word) : Prop := ∀ w ∈ ws.head?, w.kind ∉ ks

/-! ## Lists -/

/-- Items in a row. -/
inductive Many (Item : α → List Word → Prop) : List α → List Word → Prop
  | nil : Many Item [] []
  | cons {a : α} {as : List α} {ws vs : List Word} (first : Item a ws) (more : Many Item as vs) :
      Many Item (a :: as) (ws ++ vs)

/-- One or more items with separators between them. -/
inductive Separated (separator : Kind) (Item : α → List Word → Prop) : List α → List Word → Prop
  | one {a : α} {ws : List Word} (last : Item a ws) : Separated separator Item [a] ws
  | cons {a : α} {as : List α} {s : Word} {ws vs : List Word} (first : Item a ws)
      (separates : s.kind = separator) (more : Separated separator Item as vs) :
      Separated separator Item (a :: as) (ws ++ s :: vs)

/-- One word of a kind, or nothing; the value tells which. -/
inductive Optional (kind : Kind) : Bool → List Word → Prop
  | absent : Optional kind false []
  | present {w : Word} (h : w.kind = kind) : Optional kind true [w]

/-! ## Names and groups -/

/-- Identifiers, each with a dot before it. -/
inductive NameTail : List String → List Word → Prop
  | nil : NameTail [] []
  | cons {dot w : Word} {ns : List String} {ws : List Word} (joins : dot.kind = .dot)
      (name : w.kind = .identifier) (more : NameTail ns ws) :
      NameTail (w.lexeme :: ns) (dot :: w :: ws)

/-- A name, perhaps qualified. -/
inductive Name : String → List Word → Prop
  | mk {w : Word} {ns : List String} {ws : List Word} (name : w.kind = .identifier)
      (more : NameTail ns ws) : Name (".".intercalate (w.lexeme :: ns)) (w :: ws)

/-- A group with its delimiters, and balanced words between them. -/
inductive Group (opening closing : Kind) : List Word → Prop
  | mk {first last : Word} {inner : List Word} (opens : first.kind = opening)
      (closes : last.kind = closing) (enclosed : Balanced opening closing (inner.map Word.kind)) :
      Group opening closing (first :: (inner ++ [last]))

/-! ## Annotations and modifiers -/

/-- An annotation, perhaps with arguments. -/
inductive Annotation : List Word → Prop
  | plain {a : Word} {n : String} {ws : List Word} (sign : a.kind = .atSign) (name : Name n ws) :
      Annotation (a :: ws)
  | withArguments {a : Word} {n : String} {ws vs : List Word} (sign : a.kind = .atSign)
      (name : Name n ws) (arguments : Group .lparen .rparen vs) : Annotation (a :: (ws ++ vs))

/-- Annotations in a row. -/
def Annotations (ws : List Word) : Prop :=
  ∃ n, Many (fun _ : Unit => Annotation) (List.replicate n ()) ws

/-- A modifier, or an annotation, which has no value. -/
inductive ModifierOrAnnotation : Option Modifier → List Word → Prop
  | modifier {w : Word} {m : Modifier} (stands : Cursor.modifierOf? w.kind = some m) :
      ModifierOrAnnotation (some m) [w]
  | passed {ws : List Word} (h : Annotation ws) : ModifierOrAnnotation none ws

/-- Modifiers and annotations in any order. -/
inductive Modifiers : List Modifier → List Word → Prop
  | mk {found : List (Option Modifier)} {ws : List Word}
      (items : Many ModifierOrAnnotation found ws) : Modifiers (found.filterMap id) ws

/-! ## Types -/

/-- An empty pair of brackets. -/
inductive EmptyBrackets : List Word → Prop
  | mk {l r : Word} (opens : l.kind = .lbracket) (closes : r.kind = .rbracket) :
      EmptyBrackets [l, r]

/-- Array dimensions. -/
def Dimensions (n : Nat) (ws : List Word) : Prop :=
  Many (fun _ : Unit => EmptyBrackets) (List.replicate n ()) ws

/-- The kind of word that introduces a bound. -/
def boundWord : BoundKind → Kind
  | .upper => .kwExtends
  | .lower => .kwSuper

mutual

/-- A type without annotations before it. -/
inductive BareType : JavaType → List Word → Prop
  | primitive {w : Word} {n : Nat} {ds : List Word} (keyword : w.kind.isPrimitive = true)
      (dims : Dimensions n ds) : BareType (.basic w.lexeme n noSpan) (w :: ds)
  | named {s : ReferenceType} {ss : List ReferenceType} {n : Nat} {ws vs ds : List Word}
      (first : Segment s ws) (more : SegmentTail ss vs) (dims : Dimensions n ds) :
      BareType (Cursor.typeOfSegments s ss n noSpan) (ws ++ (vs ++ ds))

/-- A name, perhaps with type arguments. -/
inductive Segment : ReferenceType → List Word → Prop
  | plain {w : Word} (name : w.kind = .identifier) : Segment (.mk w.lexeme [] 0 noSpan) [w]
  | generic {w lt : Word} {ts : List JavaType} {ws : List Word} (name : w.kind = .identifier)
      (opens : lt.kind = .lt) (arguments : Arguments ts ws) :
      Segment (.mk w.lexeme ts 0 noSpan) (w :: lt :: (ws ++ [Word.closing]))

/-- Names with their type arguments, each with a dot before it. -/
inductive SegmentTail : List ReferenceType → List Word → Prop
  | nil : SegmentTail [] []
  | cons {dot : Word} {s : ReferenceType} {ss : List ReferenceType} {ws vs : List Word}
      (joins : dot.kind = .dot) (first : Segment s ws) (more : SegmentTail ss vs) :
      SegmentTail (s :: ss) (dot :: (ws ++ vs))

/-- Type arguments with commas between them. -/
inductive Arguments : List JavaType → List Word → Prop
  | one {t : JavaType} {ws : List Word} (last : Argument t ws) : Arguments [t] ws
  | cons {t : JavaType} {ts : List JavaType} {comma : Word} {ws vs : List Word}
      (first : Argument t ws) (separates : comma.kind = .comma) (more : Arguments ts vs) :
      Arguments (t :: ts) (ws ++ comma :: vs)

/-- A type argument: a type, or a wildcard with or without a bound. -/
inductive Argument : JavaType → List Word → Prop
  | type {t : JavaType} {as ws : List Word} (annotations : Annotations as) (type : BareType t ws) :
      Argument (.argument t noSpan) (as ++ ws)
  | wildcard {q : Word} {as : List Word} (annotations : Annotations as)
      (mark : q.kind = .question) : Argument (.wildcard noSpan) (as ++ [q])
  | bounded {q b : Word} {as bs ws : List Word} {t : JavaType} (kind : BoundKind)
      (annotations : Annotations as) (mark : q.kind = .question)
      (bounds : b.kind = boundWord kind) (inner : Annotations bs) (type : BareType t ws) :
      Argument (.boundedWildcard kind t noSpan) (as ++ q :: b :: (bs ++ ws))

end

/-- A type. -/
inductive IsType : JavaType → List Word → Prop
  | mk {t : JavaType} {as ws : List Word} (annotations : Annotations as) (type : BareType t ws) :
      IsType t (as ++ ws)

/-! ## Type parameters -/

/-- A bound of a type parameter, of which nothing is kept. -/
inductive Bound : Unit → List Word → Prop
  | mk {t : JavaType} {ws : List Word} (type : IsType t ws) : Bound () ws

/-- A type parameter, perhaps with bounds. -/
inductive TypeParameter : String → List Word → Prop
  | plain {w : Word} {as : List Word} (annotations : Annotations as) (name : w.kind = .identifier) :
      TypeParameter w.lexeme (as ++ [w])
  | bounded {w e : Word} {as ws : List Word} {bs : List Unit} (annotations : Annotations as)
      (name : w.kind = .identifier) (introduces : e.kind = .kwExtends)
      (bounds : Separated .amp Bound bs ws) : TypeParameter w.lexeme (as ++ w :: e :: ws)

/-- Type parameters between angles, or none. -/
inductive TypeParameters : List String → List Word → Prop
  | none : TypeParameters [] []
  | some {ns : List String} {lt : Word} {ws us : List Word} (opens : lt.kind = .lt)
      (list : Separated .comma TypeParameter ns ws)
      (spelled : unfused us = lt :: (ws ++ [Word.closing])) : TypeParameters ns us

end Grammar

end JavaStub
