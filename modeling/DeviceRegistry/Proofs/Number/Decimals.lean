import Mathlib
import DeviceRegistry.Number.Single
import DeviceRegistry.Proofs.Json.Numerals
/-!
# Decimals of floating-point values

The search for the shortest decimal ends on one of its grids: the last one is finer than
the reals that round to the value. The decimal begins with a digit that is not zero,
so its numeral is one that the grammar allows.
-/

namespace DeviceRegistry

/-! ## Digits -/

namespace Digits

theorem lt_pow_length (number : Nat) : number < 10 ^ (ofNat number).length := by
  induction number using Nat.strongRecOn with
  | ind number hypothesis =>
    rw [ofNat]
    split
    · assumption
    · have quotient := hypothesis (number / 10) (by omega)
      rw [List.length_append, List.length_singleton, pow_succ]
      omega

theorem pow_length_le {number : Nat} (positive : 0 < number) :
    10 ^ ((ofNat number).length - 1) ≤ number := by
  induction number using Nat.strongRecOn with
  | ind number hypothesis =>
    rw [ofNat]
    split
    · exact positive
    · have quotient := hypothesis (number / 10) (by omega) (by omega)
      have present := List.length_pos_of_ne_nil (ofNat_ne_nil (number / 10))
      rw [List.length_append, List.length_singleton, Nat.add_sub_cancel]
      obtain ⟨length, written⟩ := Nat.exists_eq_add_of_lt present
      rw [written, Nat.zero_add, Nat.add_sub_cancel] at quotient
      rw [written, Nat.zero_add, pow_succ]
      omega

theorem length_ofNat_le {number size : Nat} (positive : 0 < size)
    (small : number < 10 ^ size) : (ofNat number).length ≤ size := by
  rcases Nat.eq_zero_or_pos number with rfl | nonzero
  · simpa [ofNat] using Nat.one_le_of_lt positive
  · have lower := (pow_length_le nonzero).trans_lt small
    have lengths := (Nat.pow_lt_pow_iff_right (by decide)).mp lower
    omega

/-- The digits of a positive number begin with one that is not zero. -/
theorem exists_first {number : Nat} (positive : 0 < number) :
    ∃ first others, ofNat number = first :: others ∧ first ≠ Digit.zero := by
  have nonzero := head?_ofNat positive
  cases written : ofNat number with
  | nil => exact absurd written (ofNat_ne_nil number)
  | cons first others =>
    rw [written] at nonzero
    exact ⟨first, others, rfl, fun zero => nonzero (congrArg some zero)⟩

/-- A digit that is not zero stays in front. -/
theorem withoutTrailingZeros_cons {first : Digit} (nonzero : first ≠ Digit.zero)
    (others : List Digit) :
    ∃ rest, withoutTrailingZeros (first :: others) = first :: rest := by
  have kept : withoutTrailingZeros (first :: others) <+: first :: others :=
    List.rdropWhile_prefix (· = Digit.zero) (first :: others)
  have present : withoutTrailingZeros (first :: others) ≠ [] := by
    intro empty
    have zeros := List.rdropWhile_eq_nil_iff.mp empty
    exact nonzero (of_decide_eq_true (zeros first List.mem_cons_self))
  cases written : withoutTrailingZeros (first :: others) with
  | nil => exact absurd written present
  | cons other rest =>
    rw [written, List.cons_prefix_cons] at kept
    exact ⟨rest, by rw [kept.1]⟩

end Digits

/-! ## Numerals of decimals -/

/-- Whether a decimal begins with a digit that is not zero. -/
def Scientific.Leads (value : Scientific) : Prop :=
  ∃ first others, value.digits = first :: others ∧ first ≠ Digit.zero

theorem DecimalLayout.regular_zero (negative : Bool) : (zero negative).Regular where
  whole := by simp [zero]
  unpadded := by simp [zero]
  exponent _ present := absurd present (by simp [zero])

theorem DecimalLayout.regular_numeral (layout : DecimalLayout) (negative : Bool)
    {value : Scientific} (leads : value.Leads) : (layout.numeral negative value).Regular := by
  rcases leads with ⟨first, others, digits, nonzero⟩
  unfold numeral
  rw [digits]
  split
  · split
    · constructor
      · simp
      · simp [nonzero]
      · simp
    · constructor <;> simp
  · constructor
    · simp
    · simp
    · intro exponent written
      cases written
      apply Digits.ofNat_ne_nil

/-! ## The search -/

/-- The exponent of the first digit is small enough for a quotient. -/
theorem scientificExponent_le {numerator : Nat} (positive : 0 < numerator) (denominator : Nat) :
    denominator * 10 ^ (scientificExponent numerator denominator).toNat ≤
      numerator * 10 ^ (-scientificExponent numerator denominator).toNat := by
  simp only [scientificExponent]
  split
  · rename_i large
    cases denominator with
    | zero => simp
    | succ denominator =>
      have quotient := Nat.div_pos large (Nat.succ_pos denominator)
      have least := Digits.pow_length_le quotient
      have present := List.length_pos_of_ne_nil
        (Digits.ofNat_ne_nil (numerator / (denominator + 1)))
      generalize (Digits.ofNat (numerator / (denominator + 1))).length = length at least present
      have exponent : ((length : Int) - 1).toNat = length - 1 := by omega
      have shift : (-((length : Int) - 1)).toNat = 0 := by omega
      rw [exponent, shift, pow_zero, mul_one]
      exact (Nat.mul_le_mul_left _ least).trans (Nat.mul_div_le numerator _)
  · have greatest := Digits.lt_pow_length ((denominator + numerator - 1) / numerator - 1)
    generalize (Digits.ofNat ((denominator + numerator - 1) / numerator - 1)).length = length
      at greatest
    have exponent : (Int.negOfNat length).toNat = 0 := by cases length <;> rfl
    have shift : (-Int.negOfNat length).toNat = length := by cases length <;> rfl
    rw [exponent, shift, pow_zero, mul_one]
    have covered : denominator ≤ numerator * ((denominator + numerator - 1) / numerator) := by
      have rounded := Nat.lt_mul_div_succ (denominator + numerator - 1) positive
      rw [Nat.mul_add, mul_one] at rounded
      omega
    exact covered.trans (Nat.mul_le_mul_left _ (by omega))

/-- With some more digits the grid is that much finer. -/
theorem scientificExponent_sub_le {numerator : Nat} (positive : 0 < numerator)
    (denominator digits : Nat) :
    denominator * 10 ^ (scientificExponent numerator denominator - digits).toNat * 10 ^ digits ≤
      numerator * 10 ^ (-(scientificExponent numerator denominator - digits)).toNat := by
  have leading := scientificExponent_le positive denominator
  generalize scientificExponent numerator denominator = exponent at *
  have exponents : (exponent - digits).toNat + digits + (-exponent).toNat =
      exponent.toNat + (-(exponent - digits)).toNat := by omega
  have scaled : 0 < 10 ^ (-exponent).toNat := by positivity
  apply Nat.le_of_mul_le_mul_right _ scaled
  calc denominator * 10 ^ (exponent - digits).toNat * 10 ^ digits * 10 ^ (-exponent).toNat
      = denominator * 10 ^ ((exponent - digits).toNat + digits + (-exponent).toNat) := by
        rw [pow_add, pow_add]
        ring
    _ = denominator * 10 ^ exponent.toNat * 10 ^ (-(exponent - digits)).toNat := by
        rw [exponents, pow_add]
        ring
    _ ≤ numerator * 10 ^ (-exponent).toNat * 10 ^ (-(exponent - digits)).toNat :=
        Nat.mul_le_mul_right _ leading
    _ = numerator * 10 ^ (-(exponent - digits)).toNat * 10 ^ (-exponent).toNat := by
        ring

namespace BinaryFormat

theorem roundQuotient_cases (numerator denominator : Nat) :
    roundQuotient numerator denominator = numerator / denominator ∨
      roundQuotient numerator denominator = numerator / denominator + 1 := by
  simp only [roundQuotient]
  split
  · exact Or.inl rfl
  · split
    · exact Or.inr rfl
    · omega

namespace Interval

variable {range : Interval} {unit : Nat} {exponent : Int}

theorem contains_zero (positive : 0 < range.lower) {factor : Nat} (scaled : 0 < factor) :
    range.contains factor 0 = false := by
  have product := Nat.mul_pos positive scaled
  unfold contains
  split
  · simp
    omega
  · simp

theorem le_of_contains {factor scaled : Nat} (holds : range.contains factor scaled = true) :
    scaled ≤ range.upper * factor := by
  unfold contains at holds
  split at holds
  · simp only [Bool.and_eq_true, decide_eq_true_eq] at holds
    exact holds.2
  · simp only [Bool.and_eq_true, decide_eq_true_eq] at holds
    exact holds.2.le

theorem contains_of_nearest? {multiple : Nat}
    (found : range.nearest? unit exponent = some multiple) :
    range.contains (10 ^ (-exponent).toNat) (multiple * (unit * 10 ^ exponent.toNat)) = true := by
  simp only [nearest?, Nat.pow_eq] at found
  have nearest := roundQuotient_cases (range.middle * 10 ^ (-exponent).toNat)
    (unit * 10 ^ exponent.toNat)
  generalize range.middle * 10 ^ (-exponent).toNat = numerator at *
  split at found
  · rename_i both
    rw [Bool.and_eq_true] at both
    cases found
    rcases nearest with below | above
    · rw [below]
      exact both.1
    · rw [above]
      exact both.2
  · split at found
    · rename_i holds
      cases found
      exact holds
    · split at found
      · rename_i holds
        cases found
        exact holds
      · contradiction

/-- No multiple in the interval is zero. -/
theorem nearest?_pos (positive : 0 < range.lower) {multiple : Nat}
    (found : range.nearest? unit exponent = some multiple) : 0 < multiple := by
  apply Nat.pos_of_ne_zero
  rintro rfl
  have holds := contains_of_nearest? found
  have scaled : 0 < 10 ^ (-exponent).toNat := by positivity
  rw [Nat.zero_mul, contains_zero positive scaled] at holds
  contradiction

/-- On a grid that is finer than the upper half of the interval there is a decimal in it. -/
theorem nearest?_isSome (ordered : range.lower ≤ range.middle)
    (positive : 0 < unit)
    (fine : range.middle * 10 ^ (-exponent).toNat + unit * 10 ^ exponent.toNat <
      range.upper * 10 ^ (-exponent).toNat) :
    range.nearest? unit exponent ≠ none := by
  have divided : 0 < unit * 10 ^ exponent.toNat := by positivity
  have scaled := Nat.mul_le_mul_right (10 ^ (-exponent).toNat) ordered
  simp only [nearest?, Nat.pow_eq]
  generalize unit * 10 ^ exponent.toNat = denominator at *
  generalize 10 ^ (-exponent).toNat = factor at *
  generalize range.middle * factor = numerator at *
  have quotient := Nat.div_add_mod numerator denominator
  have remainder := Nat.mod_lt numerator divided
  have above : range.contains factor ((numerator / denominator + 1) * denominator) = true := by
    have product : (numerator / denominator + 1) * denominator =
        denominator * (numerator / denominator) + denominator := by ring
    rw [contains, product]
    split <;> simp only [Bool.and_eq_true, decide_eq_true_eq] <;> omega
  simp only [above, Bool.and_true, if_true]
  split
  · simp
  · simp

/-- The digits of a multiple that was found begin with one that is not zero. -/
theorem leads_multiple {multiple : Nat} (positive : 0 < multiple) (exponent : Int) :
    Scientific.Leads ⟨Digits.withoutTrailingZeros (Digits.ofNat multiple), exponent⟩ := by
  rcases Digits.exists_first positive with ⟨first, others, written, nonzero⟩
  rcases Digits.withoutTrailingZeros_cons nonzero others with ⟨rest, trimmed⟩
  refine ⟨first, rest, ?_, nonzero⟩
  rw [← trimmed, ← written]

/-- If there is a decimal on the last grid, the search ends with one. -/
theorem leads_search (positive : 0 < range.lower) (leading : Int) {grids digits : Nat}
    (last : range.nearest? unit (leading - (digits + grids - 1 : Nat)) ≠ none) :
    (range.search unit leading (grids + 1) digits).Leads := by
  induction grids generalizing digits with
  | zero =>
    rw [search]
    split
    · rename_i multiple found
      apply leads_multiple
      exact nearest?_pos positive found
    · contradiction
  | succ grids hypothesis =>
    rw [search]
    split
    · rename_i multiple found
      apply leads_multiple
      exact nearest?_pos positive found
    · apply hypothesis
      rw [Nat.add_right_comm, Nat.add_assoc]
      exact last

/-- Whether a power of ten is at most the upper end of an interval. -/
def Reaches (range : Interval) (unit : Nat) (exponent : Int) : Prop :=
  unit * 10 ^ exponent.toNat ≤ range.upper * 10 ^ (-exponent).toNat

theorem reaches_multiple {multiple : Nat} (positive : 0 < multiple)
    (found : range.nearest? unit exponent = some multiple) :
    range.Reaches unit (exponent + ((Digits.ofNat multiple).length - 1 : Nat)) := by
  have inside := le_of_contains (contains_of_nearest? found)
  have least := Digits.pow_length_le positive
  generalize (Digits.ofNat multiple).length - 1 = length at *
  have exponents : exponent.toNat + length + (-(exponent + length)).toNat =
      (exponent + length).toNat + (-exponent).toNat := by omega
  have scaled : 0 < 10 ^ (-exponent).toNat := by positivity
  apply Nat.le_of_mul_le_mul_right _ scaled
  calc unit * 10 ^ (exponent + length).toNat * 10 ^ (-exponent).toNat
      = unit * 10 ^ ((exponent + length).toNat + (-exponent).toNat) := by
        rw [pow_add]
        ring
    _ = 10 ^ length * (unit * 10 ^ exponent.toNat) * 10 ^ (-(exponent + length)).toNat := by
        rw [← exponents, pow_add, pow_add]
        ring
    _ ≤ multiple * (unit * 10 ^ exponent.toNat) * 10 ^ (-(exponent + length)).toNat :=
        Nat.mul_le_mul_right _ (Nat.mul_le_mul_right _ least)
    _ ≤ range.upper * 10 ^ (-exponent).toNat * 10 ^ (-(exponent + length)).toNat :=
        Nat.mul_le_mul_right _ inside
    _ = range.upper * 10 ^ (-(exponent + length)).toNat * 10 ^ (-exponent).toNat := by
        ring

/-- The first digit that is found counts a power of ten that is not above the interval. -/
theorem reaches_search (positive : 0 < range.lower) {leading : Int}
    (reaches : range.Reaches unit leading) (grids digits : Nat) :
    range.Reaches unit (range.search unit leading grids digits).exponent := by
  induction grids generalizing digits with
  | zero => exact reaches
  | succ grids hypothesis =>
    rw [search]
    split
    · rename_i multiple found
      exact reaches_multiple (nearest?_pos positive found) found
    · apply hypothesis

end Interval

section Shortest

variable (format : BinaryFormat) {bits : Nat} (positive : 0 < format.significandOf bits)

include positive

theorem middle_pos : 0 < (format.interval bits).middle := by
  have step : 0 < 1 <<< format.exponentOf bits := by simp [Nat.shiftLeft_eq]
  have product := Nat.mul_pos positive step
  simp only [interval, mul_assoc]
  omega

theorem lower_pos : 0 < (format.interval bits).lower := by
  have step : 0 < 1 <<< format.exponentOf bits := by simp [Nat.shiftLeft_eq]
  have factor := Nat.le_mul_of_pos_left (1 <<< format.exponentOf bits) positive
  simp only [interval, mul_assoc]
  split <;> omega

/-- The digits of the shortest decimal begin with one that is not zero. -/
theorem leads_shortest (short : 2 * format.significandOf bits < 10 ^ 16) :
    (format.shortest bits).Leads := by
  have step : 0 < 1 <<< format.exponentOf bits := by simp [Nat.shiftLeft_eq]
  apply Interval.leads_search (format.lower_pos positive)
  apply Interval.nearest?_isSome
  · exact Nat.sub_le _ _
  · simp [Nat.shiftLeft_eq]
  · -- The grid is `10 ^ 16` times finer than the value, and so finer than half a step.
    have fine := scientificExponent_sub_le (format.middle_pos positive) (4 <<< format.scale) 16
    change _ < ((format.interval bits).middle + 2 * 1 <<< format.exponentOf bits) * _
    rw [Nat.add_mul]
    apply Nat.add_lt_add_left
    apply Nat.lt_of_mul_lt_mul_right (a := 10 ^ 16)
    apply fine.trans_lt
    rw [Nat.mul_right_comm]
    apply Nat.mul_lt_mul_of_pos_right
    · calc 4 * format.significandOf bits * 1 <<< format.exponentOf bits
          = 2 * format.significandOf bits * (2 * 1 <<< format.exponentOf bits) := by ring
        _ < 10 ^ 16 * (2 * 1 <<< format.exponentOf bits) :=
          Nat.mul_lt_mul_of_pos_right short (by omega)
        _ = 2 * 1 <<< format.exponentOf bits * 10 ^ 16 := Nat.mul_comm _ _
    · positivity

theorem reaches_shortest :
    (format.interval bits).Reaches (4 <<< format.scale) (format.shortest bits).exponent := by
  apply Interval.reaches_search (format.lower_pos positive)
  apply (scientificExponent_le (format.middle_pos positive) (4 <<< format.scale)).trans
  apply Nat.mul_le_mul_right
  exact Nat.le_add_right _ _

end Shortest

end BinaryFormat

namespace Single

theorem significandOf_pos {bits : Nat} (positive : 0 < bits) :
    0 < BinaryFormat.single.significandOf bits := by
  simp only [BinaryFormat.significandOf, BinaryFormat.exponentOf, BinaryFormat.single,
    Nat.shiftLeft_eq, Nat.shiftRight_eq_div_pow]
  omega

theorem significandOf_lt (bits : Nat) : BinaryFormat.single.significandOf bits < 2 ^ 24 := by
  simp only [BinaryFormat.significandOf, BinaryFormat.exponentOf, BinaryFormat.single,
    Nat.shiftLeft_eq, Nat.shiftRight_eq_div_pow]
  omega

theorem exponentOf_le {bits : Nat} (finite : bits < BinaryFormat.single.infinity) :
    BinaryFormat.single.exponentOf bits ≤ 253 := by
  simp only [BinaryFormat.exponentOf, BinaryFormat.single, Nat.shiftRight_eq_div_pow] at *
  omega

/-- A finite number has at most thirty-nine digits before the point. -/
theorem exponent_shortest_le {bits : Nat} (positive : 0 < bits)
    (finite : bits < BinaryFormat.single.infinity) :
    (BinaryFormat.single.shortest bits).exponent ≤ 38 := by
  have reaches := BinaryFormat.single.reaches_shortest (significandOf_pos positive)
  generalize (BinaryFormat.single.shortest bits).exponent = exponent at *
  by_contra large
  have significand := significandOf_lt bits
  have step : 1 <<< BinaryFormat.single.exponentOf bits ≤ 2 ^ 253 := by
    rw [Nat.shiftLeft_eq, one_mul]
    exact Nat.pow_le_pow_right (by decide) (exponentOf_le finite)
  have shift : (-exponent).toNat = 0 := by omega
  have power : 10 ^ 39 ≤ 10 ^ exponent.toNat := Nat.pow_le_pow_right (by decide) (by omega)
  rw [BinaryFormat.Interval.Reaches, shift, pow_zero, mul_one] at reaches
  have upper : (BinaryFormat.single.interval bits).upper ≤ 2 ^ 26 * 2 ^ 253 := by
    calc (BinaryFormat.single.interval bits).upper
        = (4 * BinaryFormat.single.significandOf bits + 2) *
            1 <<< BinaryFormat.single.exponentOf bits := by
          rw [Nat.add_mul]
          rfl
      _ ≤ 2 ^ 26 * 2 ^ 253 := Nat.mul_le_mul (by omega) step
  have beyond := ((Nat.mul_le_mul_left _ power).trans reaches).trans upper
  exact absurd beyond (by decide)

/-- The numerals of finite numbers are ones that the grammar allows. -/
theorem regular_toNumeral? {number : Single} {numeral : Numeral}
    (written : number.toNumeral? = some numeral) : numeral.Regular := by
  simp only [toNumeral?] at written
  split at written
  · contradiction
  · split at written
    · cases written
      apply DecimalLayout.regular_zero
    · rename_i nonzero
      rw [Option.some.injEq] at written
      rw [← written]
      have positive := significandOf_pos (Nat.pos_of_ne_zero nonzero)
      have bounded := significandOf_lt number.magnitude
      have leads := BinaryFormat.single.leads_shortest positive (by omega)
      exact layout.regular_numeral number.isNegative leads

end Single

end DeviceRegistry
