import Mathlib
import DeviceRegistry.Bytes
/-!
# Reading back positional numbers

What was written in a width is read back exactly when it fits in it: a number below
`256 ^ width` survives, and nothing that is read from as many bytes lies above.
-/

namespace DeviceRegistry.Bytes

/-- A number that fits in the width is read back from its bytes. -/
theorem ofLittleEndian_littleEndian (width number : Nat) (fits : number < 256 ^ width) :
    ofLittleEndian (littleEndian width number) = number := by
  induction width generalizing number with
  | zero =>
    simp only [Nat.pow_zero] at fits
    simp only [littleEndian, ofLittleEndian]
    omega
  | succ width hypothesis =>
    have quotientFits : number / 256 < 256 ^ width := by
      rw [Nat.div_lt_iff_lt_mul (by decide)]
      simpa [Nat.pow_succ] using fits
    simp only [littleEndian, ofLittleEndian, hypothesis _ quotientFits, UInt8.toNat_ofNat']
    omega

/-- Numbers that fit in the width have bytes of their own. -/
theorem bigEndian_inj {width number other : Nat} (fits : number < 256 ^ width)
    (otherFits : other < 256 ^ width) :
    bigEndian width number = bigEndian width other ↔ number = other := by
  constructor
  · intro same
    have sameBytes := congrArg ofLittleEndian (List.reverse_injective same)
    rwa [ofLittleEndian_littleEndian width number fits,
      ofLittleEndian_littleEndian width other otherFits] at sameBytes
  · intro same
    rw [same]

/-- What was read from some bytes fits in as many bytes. -/
theorem ofLittleEndian_lt (bytes : Bytes) : ofLittleEndian bytes < 256 ^ bytes.length := by
  induction bytes with
  | nil => simp [ofLittleEndian]
  | cons byte rest hypothesis =>
    have byteBound := byte.toNat_lt
    simp only [ofLittleEndian, List.length_cons, Nat.pow_succ]
    omega

end DeviceRegistry.Bytes
