import JavaStub.Stub.Ascending
import JavaStub.Stub.Error

/-!
# Imports by simple name

An index of single-type imports by the simple names they bind. Of several imports of one
simple name the last one counts. A stub takes over the imports of the names it needs
(`ImportIndex.lines`); a name without an import is left to the package or the language.
-/

namespace JavaStub

/-- The paths that simple names are bound to, the latest binding first. -/
structure ImportIndex where
  bindings : List (String × String)

namespace ImportIndex

/-- The refusal of an import that a stub cannot repeat. -/
def refusal? (i : Import) : Option StubError :=
  if i.isStatic then some (.unsupportedImport .static i.name)
  else if i.isWildcard then some (.unsupportedImport .wildcard (i.name ++ ".*"))
  else none

/-- The index with one more import, which comes after all others. -/
def add (index : ImportIndex) (i : Import) : ImportIndex :=
  ⟨(i.simpleName, i.name) :: index.bindings⟩

/-- The index of imports, in the order of the source, on top of another index. -/
def extend (index : ImportIndex) : List Import → Except StubError ImportIndex
  | [] => .ok index
  | i :: rest =>
    match refusal? i with
    | some e => .error e
    | none => (index.add i).extend rest

/-- The index of a list of imports. -/
def ofImports (imports : List Import) : Except StubError ImportIndex :=
  (ImportIndex.mk []).extend imports

/-- The path that a simple name is bound to. -/
def get? (index : ImportIndex) (name : String) : Option String :=
  index.bindings.lookup name

/-- The line that imports a path. -/
def line (path : String) : String := "import " ++ path ++ ";"

/-- The import lines of the needed names in ascending order, each once. -/
def lines (index : ImportIndex) (needed : List String) : List String :=
  ascending ((needed.filterMap index.get?).map line)

theorem get?_add (index : ImportIndex) (i : Import) (name : String) :
    (index.add i).get? name = if name = i.simpleName then some i.name else index.get? name := by
  by_cases h : name = i.simpleName
  · simp [get?, add, h]
  · have away : (name == i.simpleName) = false := by simpa using h
    simp [get?, add, List.lookup_cons, h, away]

end ImportIndex

end JavaStub
