import DeviceRegistry.Number.BinaryFormat
import DeviceRegistry.Number.Numeral
/-!
# Shortest decimals

The decimal text of a floating-point value has the fewest digits that still round to
the value, and of all such decimals it is the nearest one.

The reals that round to a value form an interval around it, which contains its ends
exactly where the significand is even. For one digit, two digits and so on, the two
neighbours of the value on the grid of decimals with that many digits are tested
against the interval. If any decimal of a grid lies in the interval, so does one of
these two neighbours.
-/

namespace DeviceRegistry

/-- A positive decimal: its digits, of which the first counts `10 ^ exponent`. -/
structure Scientific where
  digits : List Digit
  exponent : Int
deriving DecidableEq, Repr

/-- The exponent of the first decimal digit of a positive quotient. -/
def scientificExponent (numerator denominator : Nat) : Int :=
  if denominator ≤ numerator then
    (Digits.ofNat (numerator / denominator)).length - 1
  else
    let leastMultiple := (denominator + numerator - 1) / numerator
    Int.negOfNat (Digits.ofNat (leastMultiple - 1)).length

namespace BinaryFormat

/-- The reals that round to a value, in quarters of the least positive value. -/
structure Interval where
  lower : Nat
  middle : Nat
  upper : Nat
  /-- Whether the two ends round to the value as well. -/
  closed : Bool
deriving DecidableEq, Repr

/-- The interval of a positive finite value. Below a power of two the values are denser. -/
def interval (format : BinaryFormat) (bits : Nat) : Interval :=
  let significand := format.significandOf bits
  let step := 1 <<< format.exponentOf bits
  let middle := 4 * significand * step
  let denserBelow := significand = 1 <<< (format.precision - 1) ∧ 1 < step
  { lower := middle - (if denserBelow then step else 2 * step)
    middle := middle
    upper := middle + 2 * step
    closed := significand % 2 = 0 }

/-- Whether a number that was multiplied by `factor` lies in an interval. -/
def Interval.contains (range : Interval) (factor scaled : Nat) : Bool :=
  if range.closed then range.lower * factor ≤ scaled && scaled ≤ range.upper * factor
  else range.lower * factor < scaled && scaled < range.upper * factor

/-- The multiple of `10 ^ exponent` that lies in an interval and is nearest to its middle. -/
def Interval.nearest? (range : Interval) (unit : Nat) (exponent : Int) : Option Nat :=
  let factor := Nat.pow 10 (-exponent).toNat
  let denominator := unit * Nat.pow 10 exponent.toNat
  let numerator := range.middle * factor
  let below := numerator / denominator
  let above := below + 1
  let holdsBelow := range.contains factor (below * denominator)
  let holdsAbove := range.contains factor (above * denominator)
  if holdsBelow && holdsAbove then some (roundQuotient numerator denominator)
  else if holdsBelow then some below
  else if holdsAbove then some above
  else none

/-- The first grid, from `digits` digits on, on which a decimal lies in the interval. -/
def Interval.search (range : Interval) (unit : Nat) (leading : Int) :
    (grids : Nat) → (digits : Nat) → Scientific
  | 0, _ => ⟨[.zero], leading⟩
  | grids + 1, digits =>
    let exponent := leading - (digits - 1 : Nat)
    match range.nearest? unit exponent with
    | some multiple =>
      let written := Digits.ofNat multiple
      ⟨Digits.withoutTrailingZeros written, exponent + (written.length - 1 : Nat)⟩
    | none => search range unit leading grids (digits + 1)

/-- The shortest decimal of a positive finite value. Seventeen digits are always enough. -/
def shortest (format : BinaryFormat) (bits : Nat) : Scientific :=
  let range := format.interval bits
  let unit := 4 <<< format.scale
  range.search unit (scientificExponent range.middle unit) 17 1

end BinaryFormat

/-- From which to which exponent of the first digit a decimal is written without exponent. -/
structure DecimalLayout where
  leastPlain : Int
  greatestPlain : Int
deriving DecidableEq, Repr

namespace DecimalLayout

/-- The numeral of zero. -/
def zero (negative : Bool) : Numeral where
  negative
  whole := [.zero]
  fraction := [.zero]
  exponent := none

/--
The numeral of a decimal. Without exponent it has at least one digit after the point,
and with exponent it has no point where there is one digit only.
-/
def numeral (layout : DecimalLayout) (negative : Bool) (value : Scientific) : Numeral :=
  let digits := value.digits
  if layout.leastPlain ≤ value.exponent && value.exponent ≤ layout.greatestPlain then
    if 0 ≤ value.exponent then
      let count := value.exponent.toNat + 1
      let padding := List.replicate (count - digits.length) Digit.zero
      let fraction := digits.drop count
      { negative
        whole := digits.take count ++ padding
        fraction := if fraction.isEmpty then [.zero] else fraction
        exponent := none }
    else
      { negative
        whole := [.zero]
        fraction := List.replicate ((-value.exponent).toNat - 1) Digit.zero ++ digits
        exponent := none }
  else
    { negative
      whole := digits.take 1
      fraction := digits.drop 1
      exponent := some ⟨value.exponent < 0, Digits.ofNat value.exponent.natAbs⟩ }

end DecimalLayout

end DeviceRegistry
