/-!
# Byte strings

Store keys, store values and hashed messages are lists of bytes. This module fixes
the positional encodings of natural numbers that they use. A number is cut to the
requested width, so a reading inverts a writing only for numbers that fit in it.

Byte strings are compared lexicographically, with the order of `List`.
-/

namespace DeviceRegistry

/-- A finite string of bytes. -/
abbrev Bytes := List UInt8

namespace Bytes

/-- The `width` low bytes of a number, the least significant first. -/
def littleEndian : (width : Nat) → (number : Nat) → Bytes
  | 0, _ => []
  | width + 1, number => UInt8.ofNat (number % 256) :: littleEndian width (number / 256)

/-- The number whose bytes are given, the least significant first. -/
def ofLittleEndian : Bytes → Nat
  | [] => 0
  | byte :: rest => byte.toNat + 256 * ofLittleEndian rest

/-- The `width` low bytes of a number, the most significant first. -/
def bigEndian (width number : Nat) : Bytes :=
  (littleEndian width number).reverse

@[simp]
theorem length_littleEndian (width number : Nat) : (littleEndian width number).length = width := by
  induction width generalizing number with
  | zero => rfl
  | succ width hypothesis => simp [littleEndian, hypothesis]

@[simp]
theorem length_bigEndian (width number : Nat) : (bigEndian width number).length = width := by
  simp [bigEndian]

end Bytes

end DeviceRegistry
