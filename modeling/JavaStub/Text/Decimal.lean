/-!
# Decimal integers

The integer that a text writes: an optional single sign, then one or more decimal digits of
ASCII, with any number of leading zeros.
-/

namespace JavaStub.Text

/-- The value of a digit of ASCII. -/
def digit? (c : Char) : Option Nat :=
  if c.isDigit then some (c.toNat - '0'.toNat) else none

/-- The number that digits write, after the digits of `value`. -/
def digitsFrom (value : Nat) : List Char → Option Nat
  | [] => some value
  | c :: cs =>
    match digit? c with
    | some d => digitsFrom (10 * value + d) cs
    | none => none

/-- The number that one or more digits write. -/
def natural? : List Char → Option Nat
  | [] => none
  | cs => digitsFrom 0 cs

/-- The integer that a text writes. -/
def integer? : List Char → Option Int
  | '-' :: cs => (natural? cs).map fun n => -(n : Int)
  | '+' :: cs => (natural? cs).map fun n => (n : Int)
  | cs => (natural? cs).map fun n => (n : Int)

end JavaStub.Text
