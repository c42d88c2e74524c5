/-!
# Binary floating-point formats

The finite values of a format are the numbers `significand * 2 ^ exponent` in units
of its least positive value, with a significand of at most `precision` bits. Values
are handled as the number that their bits spell, sign left out: that number grows
with the value, and the one after the greatest finite value is infinity.

All arithmetic is exact, on natural numbers, with one rounding to the nearest value
at the end; a value halfway between two neighbours goes to the one whose bits are
even.
-/

namespace DeviceRegistry

/-- The parameters of a format. -/
structure BinaryFormat where
  /-- The number of bits of a significand. -/
  precision : Nat
  /-- The least positive value is `2 ^ -scale`. -/
  scale : Nat
  /-- The bits of infinity. -/
  infinity : Nat
deriving DecidableEq, Repr

namespace BinaryFormat

/-- Numbers of 32 bits. -/
def single : BinaryFormat := ⟨24, 149, 0x7f800000⟩

/-- Numbers of 64 bits. -/
def double : BinaryFormat := ⟨53, 1074, 0x7ff0000000000000⟩

/-- The nearest integer to a quotient, and of two the even one. -/
def roundQuotient (numerator denominator : Nat) : Nat :=
  let quotient := numerator / denominator
  let twice := 2 * (numerator % denominator)
  if twice < denominator then quotient
  else if denominator < twice then quotient + 1
  else quotient + quotient % 2

/-- The bits of the value nearest to a quotient. -/
def round (format : BinaryFormat) (numerator denominator : Nat) : Nat :=
  let scaled := numerator <<< format.scale
  let exponent := (scaled / denominator).log2 + 1 - format.precision
  let significand := roundQuotient scaled (denominator <<< exponent)
  min format.infinity ((exponent <<< (format.precision - 1)) + significand)

/-- The exponent of a finite value, in units of the least positive value. -/
def exponentOf (format : BinaryFormat) (bits : Nat) : Nat :=
  (bits >>> (format.precision - 1)) - 1

/-- The significand of a finite value. -/
def significandOf (format : BinaryFormat) (bits : Nat) : Nat :=
  bits - (format.exponentOf bits <<< (format.precision - 1))

/-- A finite value in units of the least positive one. -/
def units (format : BinaryFormat) (bits : Nat) : Nat :=
  format.significandOf bits <<< format.exponentOf bits

/-- The product of two finite values. -/
def multiply (format : BinaryFormat) (left right : Nat) : Nat :=
  format.round (format.units left * format.units right) (1 <<< (2 * format.scale))

/-- The quotient of two finite values, the second of which is not zero. -/
def divide (format : BinaryFormat) (left right : Nat) : Nat :=
  format.round (format.units left) (format.units right)

/-- The value of another format that is nearest to a finite value. -/
def convert (source target : BinaryFormat) (bits : Nat) : Nat :=
  target.round (source.units bits) (1 <<< source.scale)

end BinaryFormat

end DeviceRegistry
