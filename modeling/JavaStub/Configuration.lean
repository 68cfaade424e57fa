import JavaStub.Files.Error
import JavaStub.Stub.Banner
import JavaStub.Text.Decimal
import JavaStub.Unicode.WhiteSpace

/-!
# Configuration

The settings of a run, read from variables of the environment. Each field depends on its
own variable alone, and a variable that is not set leaves the default.
-/

namespace JavaStub

/-- Settings of a run. -/
structure Configuration where
  /-- The path component that the name of the program is cut at. -/
  anchor : String := "chrome"
  /-- The name of the program in the banner, if it is not the path of the executable. -/
  script : Option String := none
  /-- The year in the banner, if it is not the current one. -/
  year : Option Int := none
  /-- Is a file left alone that would get the bytes it has? -/
  onlyIfChanged : Bool := true
  deriving DecidableEq, Repr

/-- Why variables make no configuration. -/
inductive ConfigurationError where
  | emptyAnchor
  | notAYear (text : String)
  deriving DecidableEq, Repr

/-- The text of an error. -/
def ConfigurationError.message : ConfigurationError → String
  | .emptyAnchor => "JSTUB_ANCHOR_DIR must not be empty"
  | .notAYear text => "JSTUB_YEAR='" ++ text ++ "' is not a year"

namespace Configuration

/-- The text of a variable without the white space around it. -/
def trimmed (text : String) : List Char := Unicode.trim text.toList

/-- The year that a text writes. Years have 32 bits and a sign. -/
def year? (text : String) : Option Int :=
  match Text.integer? (trimmed text) with
  | some n => if -2147483648 ≤ n ∧ n ≤ 2147483647 then some n else none
  | none => none

/-- Does the text of a variable mean no? -/
def isNo (text : String) : Bool :=
  let word := (trimmed text).map Char.toLower
  word = ['0'] || word = ['f', 'a', 'l', 's', 'e']

/-- The anchor that a variable sets, which may not be empty. -/
def readAnchor : Option String → Except ConfigurationError String
  | none => .ok "chrome"
  | some text => if text.isEmpty then .error .emptyAnchor else .ok text

/-- The year that a variable sets. -/
def readYear : Option String → Except ConfigurationError (Option Int)
  | none => .ok none
  | some text =>
    match year? text with
    | some n => .ok (some n)
    | none => .error (.notAYear text)

/-- The configuration that variables make. -/
def ofLookup (lookup : String → Option String) : Except ConfigurationError Configuration := do
  let anchor ← readAnchor (lookup "JSTUB_ANCHOR_DIR")
  let year ← readYear (lookup "JSTUB_YEAR")
  return {
    anchor
    script := (lookup "JSTUB_SCRIPT_NAME").filter fun text => !text.isEmpty
    year
    onlyIfChanged := ((lookup "JSTUB_ONLY_IF_CHANGED").map fun text => !isNo text).getD true }

/-- The banner of a run of an executable in some year. -/
def banner (c : Configuration) (executable : String) (currentYear : Int) : Banner :=
  ⟨c.script.getD (scriptName executable c.anchor), c.year.getD currentYear⟩

/-- The name of the program. The path of the executable, which the system may fail to tell, is
only needed if no variable sets the name. -/
def program (c : Configuration) (executable : Except FileError String) : Except FileError String :=
  match c.script with
  | some script => .ok script
  | none => executable.map fun path => scriptName path c.anchor

/-- The banner of a run in some year, unless the path of the executable is needed for it and
cannot be told. -/
def bannerOf (c : Configuration) (executable : Except FileError String) (currentYear : Int) :
    Except FileError Banner :=
  (c.program executable).map fun script => ⟨script, c.year.getD currentYear⟩

theorem bannerOf_ok (c : Configuration) (executable : String) (currentYear : Int) :
    c.bannerOf (.ok executable) currentYear = .ok (c.banner executable currentYear) := by
  unfold bannerOf program banner
  cases c.script <;> rfl

end Configuration

end JavaStub
