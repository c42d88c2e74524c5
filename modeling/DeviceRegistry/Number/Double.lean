import DeviceRegistry.Number.Shortest
/-!
# Numbers of 64 bits

Reading a numeral as a number of 64 bits is fast rather than exact. The digits are
gathered into a significand below `2 ^ 64`: a digit before the point that no longer
fits raises the power of ten instead, and one after the point that no longer fits ends
the gathering. The significand is rounded once, and once more by a multiplication with
or a division by a power of ten, of which `10 ^ 308` is the greatest; smaller numbers
take a second division.
-/

namespace DeviceRegistry

/-- A number of 64 bits. -/
structure Double where
  bits : UInt64
deriving DecidableEq, Repr

namespace Double

def signBit : Nat := 0x8000000000000000

def ofMagnitude (negative : Bool) (magnitude : Nat) : Double :=
  ⟨UInt64.ofNat (if negative then magnitude + signBit else magnitude)⟩

def isNegative (number : Double) : Bool :=
  signBit ≤ number.bits.toNat

def magnitude (number : Double) : Nat :=
  number.bits.toNat % signBit

/-- A significand and the power of ten that it is to be multiplied by. -/
structure Gathered where
  significand : Nat
  power : Int
  /-- Whether no further digit is taken. -/
  full : Bool
deriving DecidableEq, Repr

namespace Gathered

def takeWhole (gathered : Gathered) (digit : Digit) : Gathered :=
  let longer := 10 * gathered.significand + digit.val
  if !gathered.full && longer < UInt64.size then { gathered with significand := longer }
  else { gathered with power := gathered.power + 1, full := true }

def takeFraction (gathered : Gathered) (digit : Digit) : Gathered :=
  let longer := 10 * gathered.significand + digit.val
  if !gathered.full && longer < UInt64.size then
    { gathered with significand := longer, power := gathered.power - 1 }
  else { gathered with full := true }

def ofNumeral (numeral : Numeral) : Gathered :=
  let whole := numeral.whole.foldl takeWhole ⟨0, 0, false⟩
  let all := numeral.fraction.foldl takeFraction { whole with full := false }
  match numeral.exponent with
  | none => all
  | some exponent =>
    let shift := (Digits.toNat exponent.digits : Int)
    { all with power := if exponent.negative then all.power - shift else all.power + shift }

def powerOfTen (power : Nat) : Nat :=
  BinaryFormat.double.round (Nat.pow 10 power) 1

/-- The magnitude of what was gathered, or nothing where it is too large. -/
def magnitude? (gathered : Gathered) : Option Nat :=
  let format := BinaryFormat.double
  let significand := format.round gathered.significand 1
  if gathered.significand = 0 then some 0
  else if 0 ≤ gathered.power then
    if gathered.power ≤ 308 then
      let product := format.multiply significand (powerOfTen gathered.power.toNat)
      if product = format.infinity then none else some product
    else none
  else if -308 ≤ gathered.power then
    some (format.divide significand (powerOfTen (-gathered.power).toNat))
  else if -616 ≤ gathered.power then
    let first := format.divide significand (powerOfTen 308)
    some (format.divide first (powerOfTen (-gathered.power - 308).toNat))
  else some 0

end Gathered

/-- The number that a numeral is read as, or nothing where it is too large. -/
def ofNumeral? (numeral : Numeral) : Option Double :=
  (Gathered.ofNumeral numeral).magnitude?.map (ofMagnitude numeral.negative)

/-- Numbers of 64 bits are written without exponent from `0.00001` up to sixteen digits. -/
def layout : DecimalLayout := ⟨-5, 15⟩

/-- The numeral of a finite number. -/
def toNumeral? (number : Double) : Option Numeral :=
  let magnitude := number.magnitude
  if BinaryFormat.double.infinity ≤ magnitude then none
  else if magnitude = 0 then some (DecimalLayout.zero number.isNegative)
  else some (layout.numeral number.isNegative (BinaryFormat.double.shortest magnitude))

end Double

end DeviceRegistry
