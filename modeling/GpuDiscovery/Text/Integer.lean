/-!
# Reading 64-bit integers

The text form of a signed 64-bit integer: an optional sign and at least one decimal digit, with
any number of leading zeros. Characters are read from left to right and the first fault met is the
one reported, so a text that is both too long and malformed is too large if it overflows before the
stray character and malformed otherwise.
-/

namespace GpuDiscovery.Text

/-- Why a text is not a signed 64-bit integer. -/
inductive IntegerFault where
  /-- There are no characters at all. -/
  | empty
  /-- Some character is neither a digit nor a leading sign, or the sign stands alone. -/
  | invalidDigit
  /-- The digits exceed the largest value. -/
  | tooLarge
  /-- The digits, after a minus sign, fall below the smallest value. -/
  | tooSmall
  deriving DecidableEq, Repr

/-- The wording of a fault. -/
def IntegerFault.text : IntegerFault → String
  | .empty => "cannot parse integer from empty string"
  | .invalidDigit => "invalid digit found in string"
  | .tooLarge => "number too large to fit in target type"
  | .tooSmall => "number too small to fit in target type"

/-- The value of a decimal digit. -/
def digitValue? (c : Char) : Option Nat :=
  if c.isDigit then some (c.toNat - '0'.toNat) else none

/-- Reads digits onto the value read so far. The value never exceeds `limit`: the digit that would
make it do so is answered with `overflow`. -/
def readDigits (limit : Nat) (overflow : IntegerFault) :
    Nat → List Char → Except IntegerFault Nat
  | value, [] => .ok value
  | value, c :: rest =>
    match digitValue? c with
    | none => .error .invalidDigit
    | some d =>
      if 10 * value + d ≤ limit then readDigits limit overflow (10 * value + d) rest
      else .error overflow

/-- Reads at least one digit. -/
def readMagnitude (limit : Nat) (overflow : IntegerFault) : List Char → Except IntegerFault Nat
  | [] => .error .invalidDigit
  | cs => readDigits limit overflow 0 cs

/-- The largest magnitude of a signed 64-bit integer without a minus sign. -/
def greatestInt64 : Nat := 0x7FFFFFFFFFFFFFFF

/-- Reads a signed 64-bit integer. -/
def readInt64 : List Char → Except IntegerFault Int64
  | [] => .error .empty
  | '-' :: rest =>
    (readMagnitude (greatestInt64 + 1) .tooSmall rest).map fun value => Int64.ofInt (-(value : Int))
  | '+' :: rest =>
    (readMagnitude greatestInt64 .tooLarge rest).map fun value => Int64.ofInt value
  | cs => (readMagnitude greatestInt64 .tooLarge cs).map fun value => Int64.ofInt value

example : readInt64 "-9223372036854775808".toList = .ok (-9223372036854775808) := rfl
example : readInt64 "9223372036854775808".toList = .error .tooLarge := rfl
example : readInt64 "99999999999999999999x".toList = .error .tooLarge := rfl
example : readInt64 "+".toList = .error .invalidDigit := rfl

end GpuDiscovery.Text
