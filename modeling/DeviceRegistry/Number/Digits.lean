/-!
# Decimal digits

Digit strings, the most significant digit first, and the natural numbers they stand
for.
-/

namespace DeviceRegistry

abbrev Digit := Fin 10

namespace Digit

def zero : Digit := ⟨0, by decide⟩

def char (digit : Digit) : Char :=
  Char.ofNat (0x30 + digit.val)

/-- The digit that a byte stands for in ASCII. -/
def ofByte? (byte : UInt8) : Option Digit :=
  if 0x30 ≤ byte && byte ≤ 0x39 then some (Fin.ofNat 10 (byte.toNat - 0x30)) else none

end Digit

namespace Digits

/-- The number that a string of digits stands for. -/
def toNat (digits : List Digit) : Nat :=
  digits.foldl (fun number digit => 10 * number + digit.val) 0

/-- The digits of a number, without leading zeros except for zero itself. -/
def ofNat (number : Nat) : List Digit :=
  if number < 10 then [Fin.ofNat 10 number]
  else ofNat (number / 10) ++ [Fin.ofNat 10 number]
termination_by number
decreasing_by omega

/-- A string of digits without its trailing zeros. -/
def withoutTrailingZeros (digits : List Digit) : List Digit :=
  (digits.reverse.dropWhile (· = Digit.zero)).reverse

theorem ofNat_ne_nil (number : Nat) : ofNat number ≠ [] := by
  rw [ofNat]
  split <;> simp

/-- A number is read back from its digits. -/
@[simp]
theorem toNat_ofNat (number : Nat) : toNat (ofNat number) = number := by
  induction number using Nat.strongRecOn with
  | ind number hypothesis =>
    rw [ofNat]
    split
    · rename_i small
      simp [toNat, Fin.ofNat, Nat.mod_eq_of_lt small]
    · have quotient := hypothesis (number / 10) (by omega)
      simp only [toNat, List.foldl_append, List.foldl_cons, List.foldl_nil] at quotient ⊢
      rw [quotient]
      simp only [Fin.ofNat]
      omega

end Digits

end DeviceRegistry
