import DeviceRegistry.Number.Double
/-!
# Numbers of 32 bits

The value of a reading. It is held by its bits, so that every infinity, every "not a
number" and the negative zero are values of their own and equality is equality of
bits.

An integer numeral that fits in 64 bits is rounded once. Every other numeral is read
as a number of 64 bits first and rounded again, which may go past the greatest finite
number and give infinity.
-/

namespace DeviceRegistry

/-- A number of 32 bits. -/
structure Single where
  bits : UInt32
deriving DecidableEq, Repr, Inhabited

namespace Single

def signBit : Nat := 0x80000000

def ofMagnitude (negative : Bool) (magnitude : Nat) : Single :=
  ⟨UInt32.ofNat (if negative then magnitude + signBit else magnitude)⟩

def isNegative (number : Single) : Bool :=
  signBit ≤ number.bits.toNat

def magnitude (number : Single) : Nat :=
  number.bits.toNat % signBit

/-- The nearest number to an integer. -/
def ofInt (integer : Int) : Single :=
  ofMagnitude (integer < 0) (BinaryFormat.single.round integer.natAbs 1)

/-- The nearest number to one of 64 bits that is not infinite. -/
def ofDouble (number : Double) : Single :=
  ofMagnitude number.isNegative
    (BinaryFormat.double.convert BinaryFormat.single number.magnitude)

/-- Whether an integer is a signed or an unsigned number of 64 bits. -/
def fitsIn64Bits (integer : Int) : Bool :=
  Int64.minValue.toInt ≤ integer && integer < UInt64.size

/-- The number that a numeral is read as, or nothing where even 64 bits are not enough. -/
def ofNumeral? (numeral : Numeral) : Option Single :=
  match numeral.toInt? with
  | some integer =>
    if fitsIn64Bits integer then some (ofInt integer)
    else (Double.ofNumeral? numeral).map ofDouble
  | none => (Double.ofNumeral? numeral).map ofDouble

/-- Numbers of 32 bits are written without exponent from `0.000001` up to thirteen digits. -/
def layout : DecimalLayout := ⟨-6, 12⟩

/-- The numeral of a finite number. -/
def toNumeral? (number : Single) : Option Numeral :=
  let magnitude := number.magnitude
  if BinaryFormat.single.infinity ≤ magnitude then none
  else if magnitude = 0 then some (DecimalLayout.zero number.isNegative)
  else some (layout.numeral number.isNegative (BinaryFormat.single.shortest magnitude))

/-- One half. -/
def half : Single := ⟨0x3f000000⟩

end Single

end DeviceRegistry
