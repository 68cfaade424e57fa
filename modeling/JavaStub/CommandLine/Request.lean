/-!
# Requests on the command line

Arguments are read from left to right into a request (`Request.ofArguments`): to make a stub
of one file into another, to show the help or the version, or nothing that can be done.

The value of an option that is given as an argument of its own is only checked at the next
option or at the end; so help that is asked for after an empty value is refused.
-/

namespace JavaStub.CommandLine

/-- An argument by its form. -/
inductive Argument where
  /-- Two dashes, a name, and perhaps a value after an equals sign. -/
  | long (name : List Char) (value : Option (List Char))
  /-- One dash and letters that each stand for a flag. -/
  | short (flags : List Char)
  /-- Two dashes alone. -/
  | separator
  | plain (text : String)
  deriving DecidableEq, Repr

/-- The form of an argument. A dash alone is plain. -/
def Argument.ofText (text : String) : Argument :=
  match text.toList with
  | ['-', '-'] => .separator
  | '-' :: '-' :: cs =>
    match cs.dropWhile (· ≠ '=') with
    | [] => .long cs none
    | _ :: value => .long (cs.takeWhile (· ≠ '=')) (some value)
  | '-' :: c :: cs => .short (c :: cs)
  | _ => .plain text

/-- An option that names a file. -/
inductive FileOption where
  | input
  | output
  deriving DecidableEq, Repr

/-- What the arguments ask for. -/
inductive Request where
  | generate (input output : String) (verbose : Bool)
  | help
  | version
  | refused
  deriving DecidableEq, Repr

/-- What the arguments read so far have set. -/
structure Options where
  input : Option String := none
  output : Option String := none
  verbose : Bool := false
  /-- The option that the last arguments are about, and its value if that was read. -/
  pending : Option (FileOption × Option String) := none
  deriving DecidableEq, Repr

namespace Options

/-- The options with a file named, unless its name is empty or it is named already. -/
def assign (o : Options) (which : FileOption) (value : String) : Option Options :=
  if value.isEmpty then none
  else
    match which with
    | .input => if o.input.isSome then none else some { o with input := some value }
    | .output => if o.output.isSome then none else some { o with output := some value }

/-- The options with nothing pending; a pending option needs its value. -/
def settle (o : Options) : Option Options :=
  match o.pending with
  | none => some o
  | some (_, none) => none
  | some (which, some value) => { o with pending := none }.assign which value

/-- The options with a value for the pending one. -/
def supply (o : Options) (value : String) : Option Options :=
  match o.pending with
  | some (which, none) => some { o with pending := some (which, some value) }
  | _ => none

/-- The options with the verbose flag, which may be given once. -/
def setVerbose (o : Options) : Option Options :=
  if o.verbose then none else some { o with verbose := true }

/-- The options that an option for a file leads to. -/
def fileOption (o : Options) (which : FileOption) : Option (List Char) → Option Options
  | none => some { o with pending := some (which, none) }
  | some value => o.assign which (String.ofList value)

/-- The request of all arguments. -/
def request (o : Options) : Request :=
  match o.settle with
  | some ⟨some input, some output, verbose, _⟩ => .generate input output verbose
  | _ => .refused

end Options

/-- Where an argument leads: on to the next, or to a request at once. -/
inductive Step where
  | on (options : Options)
  | stop (request : Request)

/-- The step to options, if there are any. -/
def Step.ofOptions : Option Options → Step
  | some o => .on o
  | none => .stop .refused

/-- The step that letters after a dash make. -/
def Options.flags (o : Options) : List Char → Step
  | [] => .on o
  | 'v' :: cs =>
    match o.setVerbose with
    | some o => o.flags cs
    | none => .stop .refused
  | 'h' :: _ => .stop .help
  | 'V' :: _ => .stop .version
  | _ :: _ => .stop .refused

/-- The step that an option by its name makes. -/
def Options.named (o : Options) (name : List Char) (value : Option (List Char)) : Step :=
  if name = "input".toList then .ofOptions (o.fileOption .input value)
  else if name = "output".toList then .ofOptions (o.fileOption .output value)
  else if value.isSome then .stop .refused
  else if name = "verbose".toList then .ofOptions o.setVerbose
  else if name = "help".toList then .stop .help
  else if name = "version".toList then .stop .version
  else .stop .refused

/-- The step that an argument makes, when `last` tells whether it is the last one. Nothing
may follow a separator. -/
def Options.step (o : Options) (last : Bool) : Argument → Step
  | .plain text => .ofOptions (o.supply text)
  | .separator => if last then .on o else .stop .refused
  | .short flags =>
    match o.settle with
    | some o => o.flags flags
    | none => .stop .refused
  | .long name value =>
    match o.settle with
    | some o => o.named name value
    | none => .stop .refused

/-- The request of arguments after those that have set some options. -/
def Options.read (o : Options) : List String → Request
  | [] => o.request
  | arg :: rest =>
    match o.step rest.isEmpty (.ofText arg) with
    | .on o => o.read rest
    | .stop request => request

/-- The request of a command line. -/
def Request.ofArguments (arguments : List String) : Request := ({} : Options).read arguments

end JavaStub.CommandLine
