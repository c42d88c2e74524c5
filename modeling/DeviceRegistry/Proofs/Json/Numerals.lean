import Mathlib
import DeviceRegistry.Json.Outline
import DeviceRegistry.Proofs.Json.Quotes
/-!
# Numerals in a document

A numeral is read back from its characters where nothing after it could belong to it. It
must be one that the grammar of numbers allows: with a digit before the point, without
a zero in front of other digits, and with a digit in its exponent.
-/

namespace DeviceRegistry

/-- Whether the grammar allows a numeral. -/
structure Numeral.Regular (numeral : Numeral) : Prop where
  whole : numeral.whole ≠ []
  unpadded : ¬(numeral.whole.head? = some Digit.zero ∧ 1 < numeral.whole.length)
  exponent : ∀ exponent, numeral.exponent = some exponent → exponent.digits ≠ []

/-- The first digit of a positive number is not zero. -/
theorem Digits.head?_ofNat {number : Nat} (positive : 0 < number) :
    (Digits.ofNat number).head? ≠ some Digit.zero := by
  induction number using Nat.strongRecOn with
  | ind number hypothesis =>
    rw [Digits.ofNat]
    split
    · rename_i small
      simp only [List.head?_cons, ne_eq, Option.some.injEq, Digit.zero, Fin.ext_iff, Fin.ofNat,
        Nat.mod_eq_of_lt small]
      omega
    · have quotient := hypothesis (number / 10) (by omega) (by omega)
      rw [List.head?_append_of_ne_nil _ (Digits.ofNat_ne_nil _)]
      exact quotient

theorem Digits.unpadded_ofNat (number : Nat) :
    ¬((Digits.ofNat number).head? = some Digit.zero ∧ 1 < (Digits.ofNat number).length) := by
  rintro ⟨padded, long⟩
  cases number with
  | zero => simp [Digits.ofNat] at long
  | succ number => exact Digits.head?_ofNat (Nat.succ_pos number) padded

theorem Numeral.regular_ofNat (number : Nat) : (Numeral.ofNat number).Regular where
  whole := Digits.ofNat_ne_nil number
  unpadded := Digits.unpadded_ofNat number
  exponent _ present := absurd present (by simp [Numeral.ofNat])

theorem Numeral.regular_ofInt (number : Int) : (Numeral.ofInt number).Regular where
  whole := Digits.ofNat_ne_nil number.natAbs
  unpadded := Digits.unpadded_ofNat number.natAbs
  exponent _ present := absurd present (by simp [Numeral.ofInt])

namespace Json.Outline

open Text

/-- Whether no numeral goes on at the front of some bytes. -/
def EndsNumeral (rest : Bytes) : Prop :=
  ∀ byte ∈ rest.head?, Digit.ofByte? byte = none ∧ byte ≠ 0x2e ∧ byte ≠ 0x65 ∧ byte ≠ 0x45

/-- Whether no string of digits goes on at the front of some bytes. -/
def EndsDigits (rest : Bytes) : Prop :=
  ∀ byte ∈ rest.head?, Digit.ofByte? byte = none

variable {rest : Bytes}

theorem EndsNumeral.digits (ends : EndsNumeral rest) : EndsDigits rest :=
  fun byte member => (ends byte member).1

theorem ofByte?_char : ∀ digit : Digit,
    (Utf8.encodeChar digit.char).map Digit.ofByte? = [some digit] := by
  decide

/-- A digit is one byte. -/
theorem encodeChar_digit (digit : Digit) :
    ∃ byte, Utf8.encodeChar digit.char = [byte] ∧ Digit.ofByte? byte = some digit := by
  have values := ofByte?_char digit
  rcases encoded : Utf8.encodeChar digit.char with _ | ⟨byte, others⟩
  · simp [encoded] at values
  · simp only [encoded, List.map_cons, List.cons.injEq, List.map_eq_nil_iff] at values
    exact ⟨byte, by rw [values.2], values.1⟩

/-- Digits begin with the byte of a digit. -/
theorem exists_digit {digits : List Digit} (present : digits ≠ []) :
    ∃ byte others digit, Utf8.encodeChars (digits.map Digit.char) = byte :: others ∧
      Digit.ofByte? byte = some digit := by
  cases digits with
  | nil => contradiction
  | cons first rest =>
    rcases encodeChar_digit first with ⟨byte, encoded, value⟩
    refine ⟨byte, Utf8.encodeChars (rest.map Digit.char), first, ?_, value⟩
    rw [List.map_cons, Utf8.encodeChars_cons, encoded, List.singleton_append]

theorem scanDigits_of_ends (ends : EndsDigits rest) : scanDigits rest = ([], rest) := by
  cases rest with
  | nil => rfl
  | cons first others => simp only [scanDigits, ends first rfl]

theorem scanDigits_digits (digits : List Digit) (ends : EndsDigits rest) :
    scanDigits (Utf8.encodeChars (digits.map Digit.char) ++ rest) = (digits, rest) := by
  induction digits with
  | nil => exact scanDigits_of_ends ends
  | cons first others hypothesis =>
    rcases encodeChar_digit first with ⟨byte, encoded, value⟩
    rw [List.map_cons, Utf8.encodeChars_cons, encoded, List.append_assoc, List.singleton_append,
      scanDigits]
    simp only [value, hypothesis]

theorem scanSomeDigits_digits {digits : List Digit} (present : digits ≠ [])
    (ends : EndsDigits rest) :
    scanSomeDigits (Utf8.encodeChars (digits.map Digit.char) ++ rest) = some (digits, rest) := by
  rw [scanSomeDigits, scanDigits_digits digits ends]
  cases digits with
  | nil => contradiction
  | cons => rfl

theorem scanWhole_digits {digits : List Digit} (present : digits ≠ [])
    (unpadded : ¬(digits.head? = some Digit.zero ∧ 1 < digits.length)) (ends : EndsDigits rest) :
    scanWhole (Utf8.encodeChars (digits.map Digit.char) ++ rest) = some (digits, rest) := by
  rw [scanWhole, scanSomeDigits_digits present ends]
  exact if_neg unpadded

/-! ## After the point -/

/-- The characters of the digits after the point, with the point in front. -/
def fractionChars (digits : List Digit) : List Char :=
  if digits.isEmpty then [] else '.' :: digits.map Digit.char

theorem scanFraction_chars (digits : List Digit) (ends : EndsDigits rest)
    (pointless : rest.head? ≠ some 0x2e) :
    scanFraction (Utf8.encodeChars (fractionChars digits) ++ rest) = some (digits, rest) := by
  cases digits with
  | nil =>
    change scanFraction rest = _
    unfold scanFraction
    split
    · contradiction
    · rfl
  | cons first others => exact scanSomeDigits_digits (List.cons_ne_nil first others) ends

/-- The characters of an exponent, if there is one. -/
def exponentChars (exponent : Option Numeral.Exponent) : List Char :=
  exponent.elim [] Numeral.Exponent.chars

theorem scanExponent_chars {exponent : Option Numeral.Exponent}
    (present : ∀ written, exponent = some written → written.digits ≠ [])
    (ends : EndsNumeral rest) :
    scanExponent (Utf8.encodeChars (exponentChars exponent) ++ rest) = some (exponent, rest) := by
  cases exponent with
  | none =>
    change scanExponent rest = _
    cases rest with
    | nil => rfl
    | cons first others =>
      rcases ends first rfl with ⟨-, -, noLower, noUpper⟩
      simp [scanExponent, noLower, noUpper]
  | some written =>
    rcases written with ⟨negative, digits⟩
    have scanned := scanSomeDigits_digits (present ⟨negative, digits⟩ rfl) ends.digits
    have unsigned : scanSign (Utf8.encodeChar (if negative then '-' else '+') ++
        (Utf8.encodeChars (digits.map Digit.char) ++ rest)) =
        (negative, Utf8.encodeChars (digits.map Digit.char) ++ rest) := by
      cases negative <;> rfl
    change scanExponent (0x65 :: (Utf8.encodeChar (if negative then '-' else '+') ++
      Utf8.encodeChars (digits.map Digit.char)) ++ rest) = _
    rw [List.cons_append, List.append_assoc, scanExponent]
    simp only [unsigned, scanned]
    rfl

/-- After the digits before the point come the point, the exponent or the end. -/
theorem head?_exponent (exponent : Option Numeral.Exponent) (ends : EndsNumeral rest) :
    EndsDigits (Utf8.encodeChars (exponentChars exponent) ++ rest) ∧
      (Utf8.encodeChars (exponentChars exponent) ++ rest).head? ≠ some 0x2e := by
  cases exponent with
  | none =>
    refine ⟨ends.digits, ?_⟩
    intro point
    exact (ends 0x2e point).2.1 rfl
  | some written =>
    constructor
    · intro byte member
      cases member
      rfl
    · change some (0x65 : UInt8) ≠ some 0x2e
      decide

theorem endsDigits_fraction (digits : List Digit) (ends : EndsDigits rest) :
    EndsDigits (Utf8.encodeChars (fractionChars digits) ++ rest) := by
  cases digits with
  | nil => exact ends
  | cons first others =>
    intro byte member
    cases member
    rfl

/-! ## The whole numeral -/

theorem chars_eq (numeral : Numeral) :
    numeral.chars = (if numeral.negative then ['-'] else []) ++
      (numeral.whole.map Digit.char ++
        (fractionChars numeral.fraction ++ exponentChars numeral.exponent)) := by
  rcases numeral with ⟨negative, whole, fraction, exponent⟩
  cases exponent <;> simp [Numeral.chars, fractionChars, exponentChars]

theorem scanUnsigned_chars {numeral : Numeral} (regular : numeral.Regular)
    (ends : EndsNumeral rest) :
    scanUnsigned numeral.negative (Utf8.encodeChars (numeral.whole.map Digit.char ++
      (fractionChars numeral.fraction ++ exponentChars numeral.exponent)) ++ rest) =
      some (numeral, rest) := by
  rcases head?_exponent numeral.exponent ends with ⟨endsWhole, pointless⟩
  have whole := scanWhole_digits regular.whole regular.unpadded
    (endsDigits_fraction numeral.fraction endsWhole)
  have fraction := scanFraction_chars numeral.fraction endsWhole pointless
  have exponent := scanExponent_chars regular.exponent ends
  simp only [Utf8.encodeChars_append, List.append_assoc]
  simp only [scanUnsigned, whole, fraction, exponent, Option.bind_eq_bind, Option.bind_some]
  rfl

/-- A numeral is read back from its characters. -/
theorem scanNumeral_chars {numeral : Numeral} (regular : numeral.Regular)
    (ends : EndsNumeral rest) :
    scanNumeral (Utf8.encodeChars numeral.chars ++ rest) = some (numeral, rest) := by
  have scanned := scanUnsigned_chars regular ends
  rw [chars_eq]
  cases negative : numeral.negative with
  | true =>
    rw [negative] at scanned
    exact scanned
  | false =>
    rw [negative] at scanned
    rcases exists_digit regular.whole with ⟨byte, others, digit, written, value⟩
    simp only [Bool.false_eq_true, if_false, List.nil_append]
    unfold scanNumeral
    split
    · rename_i after signed
      rw [Utf8.encodeChars_append, written] at signed
      cases signed
      contradiction
    · exact scanned

/-- A numeral begins with a minus or with a digit. -/
theorem exists_first_byte {numeral : Numeral} (regular : numeral.Regular) :
    ∃ byte others, Utf8.encodeChars numeral.chars = byte :: others ∧
      (byte = 0x2d ∨ ∃ digit, Digit.ofByte? byte = some digit) := by
  rw [chars_eq]
  cases numeral.negative with
  | true => exact ⟨_, _, rfl, Or.inl rfl⟩
  | false =>
    rcases exists_digit regular.whole with ⟨byte, others, digit, written, value⟩
    simp only [Bool.false_eq_true, if_false, List.nil_append]
    rw [Utf8.encodeChars_append, written]
    exact ⟨byte, _, rfl, Or.inr ⟨digit, value⟩⟩

end Json.Outline

end DeviceRegistry
