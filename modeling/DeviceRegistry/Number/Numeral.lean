import DeviceRegistry.Number.Digits
/-!
# Numerals

The written form of a number: a sign, the digits before and after the point, and an
exponent. Documents are read into numerals, so that each type decides for itself how
a written number becomes one of its values; and numbers are laid out as numerals
before they are written.

`-0` is a numeral but not an integer: it stands for the negative zero of a
floating-point type.
-/

namespace DeviceRegistry

/-- The exponent of a numeral. -/
structure Numeral.Exponent where
  negative : Bool
  digits : List Digit
deriving DecidableEq, Repr

/-- The written form of a number. -/
structure Numeral where
  negative : Bool
  /-- The digits before the point. -/
  whole : List Digit
  /-- The digits after the point; there is no point where there are none. -/
  fraction : List Digit
  exponent : Option Numeral.Exponent
deriving DecidableEq, Repr

namespace Numeral

def ofNat (number : Nat) : Numeral where
  negative := false
  whole := Digits.ofNat number
  fraction := []
  exponent := none

def ofInt (number : Int) : Numeral where
  negative := number < 0
  whole := Digits.ofNat number.natAbs
  fraction := []
  exponent := none

/-- Whether a numeral has neither a point nor an exponent. -/
def isWhole (numeral : Numeral) : Bool :=
  numeral.fraction.isEmpty && numeral.exponent.isNone

/-- The natural number that a numeral without sign, point and exponent stands for. -/
def toNat? (numeral : Numeral) : Option Nat :=
  if numeral.isWhole && !numeral.negative then some (Digits.toNat numeral.whole) else none

/-- The integer that a numeral without point and exponent stands for; `-0` is none. -/
def toInt? (numeral : Numeral) : Option Int :=
  if numeral.isWhole then
    let magnitude := Digits.toNat numeral.whole
    if !numeral.negative then some (Int.ofNat magnitude)
    else if magnitude = 0 then none
    else some (-Int.ofNat magnitude)
  else none

/-- The characters of an exponent, with its sign even where it is positive. -/
def Exponent.chars (exponent : Exponent) : List Char :=
  'e' :: (if exponent.negative then '-' else '+') :: exponent.digits.map Digit.char

def chars (numeral : Numeral) : List Char :=
  (if numeral.negative then ['-'] else []) ++ numeral.whole.map Digit.char ++
    (if numeral.fraction.isEmpty then [] else '.' :: numeral.fraction.map Digit.char) ++
    (match numeral.exponent with
      | none => []
      | some exponent => exponent.chars)

@[simp]
theorem toNat?_ofNat (number : Nat) : toNat? (ofNat number) = some number := by
  simp [toNat?, ofNat, isWhole]

@[simp]
theorem toInt?_ofInt (number : Int) : toInt? (ofInt number) = some number := by
  unfold toInt?
  by_cases negative : number < 0
  · have positive : number.natAbs ≠ 0 := by omega
    simp only [ofInt, isWhole, negative, List.isEmpty_nil, Option.isNone_none, Bool.and_self,
      Digits.toNat_ofNat, positive, decide_true, Bool.not_true, Bool.false_eq_true, if_true,
      if_false, Option.some.injEq, Int.ofNat_eq_natCast]
    omega
  · simp only [ofInt, isWhole, negative, List.isEmpty_nil, Option.isNone_none, Bool.and_self,
      Digits.toNat_ofNat, decide_false, Bool.not_false, if_true, Option.some.injEq,
      Int.ofNat_eq_natCast]
    omega

end Numeral

end DeviceRegistry
