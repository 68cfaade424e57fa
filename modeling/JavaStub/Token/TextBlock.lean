/-!
# Text blocks

Where a text block ends. Its bytes are searched for the first run of three or more quotes that
no backslash escapes, the run taken as long as possible; quotes of the run beyond the last three
belong to the content. A backslash takes the byte after it along, whatever it is. So on its way
the search can come to stand within a character, or one byte past the end.
-/

namespace JavaStub.Token

/-- The search for the end of a block, from byte `i` on, when `run` plain quotes stand directly
before it: the byte at which it stops, and the number of plain quotes directly before that. -/
def searchQuotes (bytes : ByteArray) (i run : Nat) : Nat × Nat :=
  if h : i < bytes.size then
    if bytes[i] = '"'.toUInt8 then searchQuotes bytes (i + 1) (run + 1)
    else if 3 ≤ run then (i, run)
    else searchQuotes bytes (if bytes[i] = '\\'.toUInt8 then i + 2 else i + 1) 0
  else (i, run)
termination_by bytes.size - i
decreasing_by
  · omega
  · split <;> omega

/-- The number of bytes after the opening quotes of a text block through its closing ones;
`none` if the block is not closed. -/
def textBlockBytes (bytes : ByteArray) : Option Nat :=
  let (stop, run) := searchQuotes bytes 0 0
  if run < 3 then none else some stop

/-- The number of characters that the first `n` bytes of a text are. -/
def charsWithin : (n : Nat) → List Char → Nat
  | 0, _ => 0
  | _ + 1, [] => 0
  | n + 1, c :: cs => charsWithin (n + 1 - c.utf8Size) cs + 1

/-- The number of characters after the opening quotes of a text block through its closing
ones. -/
def textBlockLength (cs : List Char) : Option Nat :=
  (textBlockBytes (String.ofList cs).toUTF8).map (charsWithin · cs)

theorem charsWithin_le (n : Nat) (cs : List Char) : charsWithin n cs ≤ cs.length := by
  induction cs generalizing n with
  | nil => cases n <;> exact Nat.zero_le _
  | cons c cs ih =>
    cases n with
    | zero => exact Nat.zero_le _
    | succ n => exact Nat.succ_le_succ (ih _)

theorem textBlockLength_le {n : Nat} {cs : List Char} (h : textBlockLength cs = some n) :
    n ≤ cs.length := by
  obtain ⟨bytes, _, rfl⟩ := Option.map_eq_some_iff.mp h
  exact charsWithin_le bytes cs

end JavaStub.Token
