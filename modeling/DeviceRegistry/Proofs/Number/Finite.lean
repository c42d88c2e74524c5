import Mathlib
import DeviceRegistry.Proofs.Number.Decimals
/-!
# Finite numbers are read back as numbers

A number of 32 bits is far below the greatest number of 64 bits, and the numeral of a finite
one is short. So whatever rounding does on the way, its numeral is never read as something
that is too large.
-/

namespace DeviceRegistry

/-! ## Rounding does not grow a number much -/

namespace BinaryFormat

variable (format : BinaryFormat)

theorem roundQuotient_lt {numerator denominator bound : Nat}
    (small : numerator / denominator < bound) : roundQuotient numerator denominator ≤ bound := by
  rcases roundQuotient_cases numerator denominator with below | above
  · rw [below]
    exact small.le
  · rw [above]
    exact small

/-- The bits of a rounded quotient are bounded by the exponent that it has. -/
theorem round_le {numerator denominator exponent : Nat} (precise : 0 < format.precision)
    (small : numerator <<< format.scale / denominator < 2 ^ (exponent + format.precision)) :
    format.round numerator denominator ≤ (exponent + 2) * 2 ^ (format.precision - 1) := by
  simp only [round]
  generalize numerator <<< format.scale = scaled at *
  apply (Nat.min_le_right _ _).trans
  have sizeBound : (scaled / denominator).log2 < exponent + format.precision := by
    by_cases zero : scaled / denominator = 0
    · rw [zero, Nat.log2_zero]
      omega
    · exact (Nat.log2_lt zero).mpr small
  have quotient : scaled / denominator < 2 ^ ((scaled / denominator).log2 + 1) := Nat.lt_log2_self
  generalize taken : (scaled / denominator).log2 + 1 - format.precision = shift
  have shifted : scaled / (denominator <<< shift) < 2 ^ format.precision := by
    rw [Nat.shiftLeft_eq, ← Nat.div_div_eq_div_mul]
    apply Nat.div_lt_of_lt_mul
    apply quotient.trans_le
    rw [← pow_add]
    exact Nat.pow_le_pow_right (by decide) (by omega)
  have significand := roundQuotient_lt shifted
  have double : 2 ^ format.precision = 2 * 2 ^ (format.precision - 1) := by
    rw [← pow_succ', Nat.sub_add_cancel precise]
  rw [Nat.shiftLeft_eq, Nat.add_mul, ← double]
  exact Nat.add_le_add (Nat.mul_le_mul_right _ (by omega)) significand

theorem units_lt {bits exponent : Nat} (precise : 0 < format.precision)
    (small : bits ≤ (exponent + 2) * 2 ^ (format.precision - 1)) :
    format.units bits < 2 ^ (exponent + 1 + format.precision) := by
  have half : 0 < 2 ^ (format.precision - 1) := by positivity
  have double : 2 ^ format.precision = 2 * 2 ^ (format.precision - 1) := by
    rw [← pow_succ', Nat.sub_add_cancel precise]
  have quotient : bits / 2 ^ (format.precision - 1) ≤ exponent + 2 :=
    Nat.div_le_of_le_mul (by rwa [Nat.mul_comm])
  have divided := Nat.div_add_mod bits (2 ^ (format.precision - 1))
  have remainder := Nat.mod_lt bits half
  have significand : format.significandOf bits < 2 ^ format.precision := by
    rw [significandOf, exponentOf, Nat.shiftRight_eq_div_pow, Nat.shiftLeft_eq, Nat.sub_mul,
      Nat.mul_comm (bits / _)]
    omega
  have exponentBound : format.exponentOf bits ≤ exponent + 1 := by
    rw [exponentOf, Nat.shiftRight_eq_div_pow]
    omega
  rw [units, Nat.shiftLeft_eq, Nat.add_comm, pow_add]
  exact Nat.mul_lt_mul_of_lt_of_le significand
    (Nat.pow_le_pow_right (by decide) exponentBound) (by positivity)

/-- A rounded integer is less than twice a power of two above the integer. -/
theorem units_round_lt {number : Nat} (size : Nat) (precise : 0 < format.precision)
    (scale : format.precision ≤ format.scale) (small : number < 2 ^ size) :
    format.units (format.round number 1) < 2 ^ (size + format.scale + 1) := by
  have exponents : size + format.scale + 1 =
      size + (format.scale - format.precision) + 1 + format.precision := by omega
  rw [exponents]
  apply format.units_lt precise
  apply format.round_le precise
  rw [Nat.div_one, Nat.shiftLeft_eq, Nat.add_assoc, Nat.sub_add_cancel scale, pow_add]
  exact Nat.mul_lt_mul_of_pos_right small (by positivity)

theorem multiply_le {left right size other : Nat} (exponent : Nat) (precise : 0 < format.precision)
    (leftSmall : format.units left < 2 ^ size) (rightSmall : format.units right < 2 ^ other)
    (exponents : size + other ≤ exponent + format.precision + format.scale) :
    format.multiply left right ≤ (exponent + 2) * 2 ^ (format.precision - 1) := by
  apply format.round_le precise
  apply Nat.div_lt_of_lt_mul
  have product : format.units left * format.units right <
      2 ^ (exponent + format.precision) * 2 ^ format.scale := by
    rw [← pow_add]
    apply lt_of_lt_of_le (Nat.mul_lt_mul'' leftSmall rightSmall)
    rw [← pow_add]
    exact Nat.pow_le_pow_right (by decide) exponents
  calc (format.units left * format.units right) <<< format.scale
      = format.units left * format.units right * 2 ^ format.scale := Nat.shiftLeft_eq _ _
    _ < 2 ^ (exponent + format.precision) * 2 ^ format.scale * 2 ^ format.scale :=
      Nat.mul_lt_mul_of_pos_right product (by positivity)
    _ = 1 <<< (2 * format.scale) * 2 ^ (exponent + format.precision) := by
      rw [Nat.shiftLeft_eq, Nat.two_mul, pow_add]
      ring

end BinaryFormat

/-! ## Gathered digits are few -/

namespace Double.Gathered

theorem foldl_takeWhole (digits : List Digit) (gathered : Gathered)
    (fits : gathered.significand < UInt64.size) :
    (digits.foldl takeWhole gathered).significand < UInt64.size ∧
      (digits.foldl takeWhole gathered).power ≤ gathered.power + digits.length := by
  induction digits generalizing gathered with
  | nil => simp [fits]
  | cons digit rest hypothesis =>
    have taken : (gathered.takeWhole digit).significand < UInt64.size ∧
        (gathered.takeWhole digit).power ≤ gathered.power + 1 := by
      simp only [takeWhole]
      split
      · rename_i room
        simp only [Bool.and_eq_true, decide_eq_true_eq] at room
        exact ⟨room.2, by simp⟩
      · exact ⟨fits, le_rfl⟩
    rcases hypothesis _ taken.1 with ⟨fitsAfter, power⟩
    refine ⟨fitsAfter, ?_⟩
    rw [List.foldl_cons, List.length_cons]
    push_cast
    omega

theorem foldl_takeFraction (digits : List Digit) (gathered : Gathered)
    (fits : gathered.significand < UInt64.size) :
    (digits.foldl takeFraction gathered).significand < UInt64.size ∧
      (digits.foldl takeFraction gathered).power ≤ gathered.power := by
  induction digits generalizing gathered with
  | nil => simp [fits]
  | cons digit rest hypothesis =>
    have taken : (gathered.takeFraction digit).significand < UInt64.size ∧
        (gathered.takeFraction digit).power ≤ gathered.power := by
      simp only [takeFraction]
      split
      · rename_i room
        simp only [Bool.and_eq_true, decide_eq_true_eq] at room
        exact ⟨room.2, by simp⟩
      · exact ⟨fits, le_rfl⟩
    rcases hypothesis _ taken.1 with ⟨fitsAfter, power⟩
    exact ⟨fitsAfter, power.trans taken.2⟩

end Double.Gathered

/-- The power of ten that an exponent multiplies by. -/
def Numeral.Exponent.shift (exponent : Numeral.Exponent) : Int :=
  if exponent.negative then -Digits.toNat exponent.digits else Digits.toNat exponent.digits

/-- A power of ten above a numeral. -/
def Numeral.order (numeral : Numeral) : Int :=
  numeral.whole.length + numeral.exponent.elim 0 Numeral.Exponent.shift

namespace Double.Gathered

theorem ofNumeral_bounded (numeral : Numeral) :
    (ofNumeral numeral).significand < UInt64.size ∧ (ofNumeral numeral).power ≤ numeral.order := by
  rcases foldl_takeWhole numeral.whole ⟨0, 0, false⟩ (by decide) with ⟨fitsWhole, wholePower⟩
  simp only [ofNumeral]
  generalize numeral.whole.foldl takeWhole ⟨0, 0, false⟩ = whole at *
  rcases foldl_takeFraction numeral.fraction { whole with full := false } fitsWhole with
    ⟨fits, power⟩
  generalize numeral.fraction.foldl takeFraction { whole with full := false } = all at *
  have bounded : all.power ≤ numeral.whole.length := by
    apply power.trans
    simpa using wholePower
  cases written : numeral.exponent with
  | none => exact ⟨fits, by simpa [Numeral.order, written] using bounded⟩
  | some exponent =>
    refine ⟨fits, ?_⟩
    simp only [Numeral.order, written, Option.elim_some, Numeral.Exponent.shift]
    split <;> omega

/-- What has at most a hundred digits is not too large. -/
theorem magnitude?_ne_none {gathered : Gathered} (fits : gathered.significand < UInt64.size)
    (power : gathered.power ≤ 100) : gathered.magnitude? ≠ none := by
  simp only [magnitude?]
  split
  · simp
  · split
    · split
      · have significand := BinaryFormat.double.units_round_lt 64 (by decide) (by decide) fits
        have powerSmall : 10 ^ gathered.power.toNat < 2 ^ (4 * 100) := by
          have small : 10 ^ gathered.power.toNat ≤ 10 ^ 100 :=
            Nat.pow_le_pow_right (by decide) (by omega)
          rw [pow_mul]
          exact small.trans_lt (Nat.pow_lt_pow_left (by decide) (by decide))
        have powerOf := BinaryFormat.double.units_round_lt (4 * 100) (by decide) (by decide)
          powerSmall
        have product := BinaryFormat.double.multiply_le 1490 (by decide) significand powerOf
          (by decide)
        split
        · rename_i overflown
          exact absurd (overflown.symm.trans_le product) (by decide)
        · simp
      · omega
    · split
      · simp
      · split <;> simp

end Double.Gathered

theorem Double.ofNumeral?_ne_none {numeral : Numeral} (order : numeral.order ≤ 100) :
    ofNumeral? numeral ≠ none := by
  rcases Gathered.ofNumeral_bounded numeral with ⟨fits, power⟩
  have magnitude := Gathered.magnitude?_ne_none fits (power.trans order)
  simpa [ofNumeral?] using magnitude

/-- A decimal is below the power of ten above its first digit. -/
theorem DecimalLayout.order_numeral (layout : DecimalLayout) (negative : Bool)
    (value : Scientific) : (layout.numeral negative value).order ≤ max 1 (value.exponent + 1) := by
  unfold numeral Numeral.order
  split
  · split
    · simp only [List.length_append, List.length_take, List.length_replicate, Option.elim_none]
      omega
    · simp
  · have oneDigit : (value.digits.take 1).length ≤ 1 := List.length_take_le _ _
    simp only [Numeral.Exponent.shift, Digits.toNat_ofNat, Option.elim_some, decide_eq_true_eq]
    split <;> omega

namespace Single

/-- Whether a number is neither an infinity nor "not a number". -/
def IsFinite (number : Single) : Prop :=
  number.magnitude < BinaryFormat.single.infinity

instance (number : Single) : Decidable number.IsFinite :=
  inferInstanceAs (Decidable (number.magnitude < BinaryFormat.single.infinity))

/-- The number that the numeral of a number is read as. -/
def reread? (number : Single) : Option Single :=
  number.toNumeral?.bind ofNumeral?

theorem toNumeral?_of_not_finite {number : Single} (infinite : ¬number.IsFinite) :
    number.toNumeral? = none := by
  have large : BinaryFormat.single.infinity ≤ number.magnitude := Nat.le_of_not_lt infinite
  simp [toNumeral?, large]

theorem exists_toNumeral? {number : Single} (finite : number.IsFinite) :
    ∃ numeral, number.toNumeral? = some numeral ∧ numeral.order ≤ 39 := by
  have small : ¬BinaryFormat.single.infinity ≤ number.magnitude := Nat.not_le_of_lt finite
  simp only [toNumeral?, small, if_false]
  split
  · exact ⟨_, rfl, by simp [Numeral.order, DecimalLayout.zero]⟩
  · rename_i nonzero
    refine ⟨_, rfl, ?_⟩
    have exponent := exponent_shortest_le (Nat.pos_of_ne_zero nonzero) finite
    have order := layout.order_numeral number.isNegative
      (BinaryFormat.single.shortest number.magnitude)
    omega

theorem ofNumeral?_ne_none {numeral : Numeral} (order : numeral.order ≤ 100) :
    ofNumeral? numeral ≠ none := by
  have read : (Double.ofNumeral? numeral).map ofDouble ≠ none := by
    simpa using Double.ofNumeral?_ne_none order
  simp only [ofNumeral?]
  split
  · split
    · simp
    · exact read
  · exact read

/-- Exactly the finite numbers are read back as numbers at all. -/
theorem reread?_eq_none {number : Single} : number.reread? = none ↔ ¬number.IsFinite := by
  constructor
  · intro lost finite
    rcases exists_toNumeral? finite with ⟨numeral, written, order⟩
    rw [reread?, written] at lost
    exact ofNumeral?_ne_none (by omega) lost
  · intro infinite
    rw [reread?, toNumeral?_of_not_finite infinite]
    rfl

example : half.reread? = some half := by decide +kernel

end Single

end DeviceRegistry
