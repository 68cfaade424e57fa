import JavaStub.JavaType.Basic

/-!
# Types as text

The text of a type as source would have it, arguments separated by a comma and a space. It
is defined for every type (`JavaType.display`).
-/

namespace JavaStub

/-- Empty brackets, once for each array dimension. -/
def brackets (dims : Nat) : String := String.join (List.replicate dims "[]")

theorem toList_brackets_succ (dims : Nat) :
    (brackets (dims + 1)).toList = '[' :: ']' :: (brackets dims).toList := by
  unfold brackets
  rw [List.replicate_succ, String.join_cons, String.toList_append]
  rfl

/-- A list of arguments between angles, or nothing when there are none. -/
def angled (separator : String) (arguments : List String) : String :=
  if arguments.isEmpty then "" else "<" ++ separator.intercalate arguments ++ ">"

mutual

/-- The text of a type. -/
def JavaType.display : JavaType → String
  | .reference type => type.display
  | .argument inner _ => inner.display
  | .basic name dims _ => name ++ brackets dims
  | .wildcard _ => "?"
  | .boundedWildcard kind bound _ => "? " ++ kind.keyword ++ " " ++ bound.display
  | .nested segments dims _ => ".".intercalate (displaySegments segments) ++ brackets dims

/-- The text of a name with its arguments and dimensions. -/
def ReferenceType.display : ReferenceType → String
  | .mk name arguments dims _ => name ++ angled ", " (displayArguments arguments) ++ brackets dims

/-- The texts of the arguments of a type. -/
def displayArguments : List JavaType → List String
  | [] => []
  | t :: ts => t.display :: displayArguments ts

/-- The texts of the names that dots join. -/
def displaySegments : List ReferenceType → List String
  | [] => []
  | r :: rs => r.display :: displaySegments rs

end

theorem displayArguments_eq_map (ts : List JavaType) :
    displayArguments ts = ts.map JavaType.display := by
  induction ts with
  | nil => simp [displayArguments]
  | cons t ts ih => simp [displayArguments, ih]

theorem displaySegments_eq_map (rs : List ReferenceType) :
    displaySegments rs = rs.map ReferenceType.display := by
  induction rs with
  | nil => simp [displaySegments]
  | cons r rs ih => simp [displaySegments, ih]

end JavaStub
