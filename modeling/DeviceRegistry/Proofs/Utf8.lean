import Mathlib
import DeviceRegistry.Text.Utf8
/-!
# UTF-8 round trip

The strict decoder reads back what the encoder writes. A character takes one to four
bytes, and each form has a lemma of its own: the decoder recognizes the form by the
first byte, and the ranges that it demands of the second byte are exactly those that a
scalar value outside the surrogates can produce.
-/

namespace DeviceRegistry.Text.Utf8

/-- Code points are below the end of Unicode and no surrogates. -/
theorem toNat_isScalar (character : Char) :
    character.toNat < 0x110000 ∧ ¬(0xd800 ≤ character.toNat ∧ character.toNat < 0xe000) := by
  have valid := character.valid
  have sameCode : character.toNat = character.val.toNat := rfl
  simp only [UInt32.isValidChar, Nat.isValidChar] at valid
  omega

theorem toNat_ofNat_of_small {number : Nat} (small : number < 256) :
    (UInt8.ofNat number).toNat = number :=
  UInt8.toNat_ofNat_of_lt' small

/-- A tail byte carries six bits. -/
theorem isTail_ofNat (bits : Nat) (small : bits < 64) :
    isTail (UInt8.ofNat (0x80 + bits)) = true ∧ tailBits (UInt8.ofNat (0x80 + bits)) = bits := by
  have sameByte : (UInt8.ofNat (0x80 + bits)).toNat = 0x80 + bits := toNat_ofNat_of_small (by omega)
  simp only [isTail, tailBits, UInt8.le_iff_toNat_le, sameByte, UInt8.reduceToNat,
    Bool.and_eq_true, decide_eq_true_eq]
  omega

theorem isSecondOfThree_ofNat (high bits : Nat) (small : bits < 64) (highSmall : high < 16)
    (noShorterForm : high = 0 → 32 ≤ bits) (noSurrogate : high = 13 → bits < 32) :
    isSecondOfThree (UInt8.ofNat (0xe0 + high)) (UInt8.ofNat (0x80 + bits)) = true := by
  have sameFirst : (UInt8.ofNat (0xe0 + high)).toNat = 0xe0 + high :=
    toNat_ofNat_of_small (by omega)
  have sameSecond : (UInt8.ofNat (0x80 + bits)).toNat = 0x80 + bits :=
    toNat_ofNat_of_small (by omega)
  simp only [isSecondOfThree, isTail, UInt8.le_iff_toNat_le, ← UInt8.toNat_inj, sameFirst,
    sameSecond, UInt8.reduceToNat]
  split <;> [skip; split] <;> simp only [Bool.and_eq_true, decide_eq_true_eq] <;> omega

theorem isSecondOfFour_ofNat (high bits : Nat) (small : bits < 64) (highSmall : high < 5)
    (noShorterForm : high = 0 → 16 ≤ bits) (noLarger : high = 4 → bits < 16) :
    isSecondOfFour (UInt8.ofNat (0xf0 + high)) (UInt8.ofNat (0x80 + bits)) = true := by
  have sameFirst : (UInt8.ofNat (0xf0 + high)).toNat = 0xf0 + high :=
    toNat_ofNat_of_small (by omega)
  have sameSecond : (UInt8.ofNat (0x80 + bits)).toNat = 0x80 + bits :=
    toNat_ofNat_of_small (by omega)
  simp only [isSecondOfFour, isTail, UInt8.le_iff_toNat_le, ← UInt8.toNat_inj, sameFirst,
    sameSecond, UInt8.reduceToNat]
  split <;> [skip; split] <;> simp only [Bool.and_eq_true, decide_eq_true_eq] <;> omega

theorem decodeFrom_one (position : Nat) {first : UInt8} (rest : Bytes)
    (range : first.toNat < 0x80) :
    decodeFrom position (first :: rest) =
      (decodeFrom (position + 1) rest).map (Char.ofNat first.toNat :: ·) := by
  have inRange : first < 0x80 := by
    simpa [UInt8.lt_iff_toNat_lt] using range
  rw [decodeFrom.eq_def]
  simp only [inRange, if_true]

theorem not_between_of_lt {byte low high : UInt8} (above : high.toNat < byte.toNat) :
    (low ≤ byte && byte ≤ high) = false := by
  simp only [UInt8.le_iff_toNat_le, Bool.and_eq_false_iff, decide_eq_false_iff_not]
  omega

/-- A first byte from `0xc2` to `0xdf` and a tail byte are a character. -/
theorem decodeFrom_two (position : Nat) {first second : UInt8} (rest : Bytes)
    (range : 0xc2 ≤ first.toNat ∧ first.toNat ≤ 0xdf) (tail : isTail second = true) :
    decodeFrom position (first :: second :: rest) =
      (decodeFrom (position + 2) rest).map
        (Char.ofNat (first.toNat % 32 * 64 + tailBits second) :: ·) := by
  have above : ¬first < 0x80 := by
    simp only [UInt8.lt_iff_toNat_lt, UInt8.reduceToNat]
    omega
  have inRange : (0xc2 ≤ first && first ≤ 0xdf) = true := by
    simpa [UInt8.le_iff_toNat_le] using range
  rw [decodeFrom.eq_def]
  simp only [above, if_false, inRange, if_true, tail]

/-- A first byte from `0xe0` to `0xef`, a second one in its range and a tail are a character. -/
theorem decodeFrom_three (position : Nat) {first second third : UInt8} (rest : Bytes)
    (range : 0xe0 ≤ first.toNat ∧ first.toNat ≤ 0xef)
    (inner : isSecondOfThree first second = true) (tail : isTail third = true) :
    decodeFrom position (first :: second :: third :: rest) =
      (decodeFrom (position + 3) rest).map
        (Char.ofNat (first.toNat % 16 * 4096 + tailBits second * 64 + tailBits third) :: ·) := by
  have above : ¬first < 0x80 := by
    simp only [UInt8.lt_iff_toNat_lt, UInt8.reduceToNat]
    omega
  have aboveTwo : (0xc2 ≤ first && first ≤ 0xdf) = false := by
    apply not_between_of_lt
    simp only [UInt8.reduceToNat]
    omega
  have inRange : (0xe0 ≤ first && first ≤ 0xef) = true := by
    simpa [UInt8.le_iff_toNat_le] using range
  rw [decodeFrom.eq_def]
  simp only [above, if_false, aboveTwo, Bool.false_eq_true, inRange, if_true, inner, tail]

/-- A first byte from `0xf0` to `0xf4`, a second one in its range and two tails are a character. -/
theorem decodeFrom_four (position : Nat) {first second third fourth : UInt8} (rest : Bytes)
    (range : 0xf0 ≤ first.toNat ∧ first.toNat ≤ 0xf4)
    (inner : isSecondOfFour first second = true) (tail : isTail third = true)
    (lastTail : isTail fourth = true) :
    decodeFrom position (first :: second :: third :: fourth :: rest) =
      (decodeFrom (position + 4) rest).map
        (Char.ofNat (first.toNat % 8 * 262144 + tailBits second * 4096 + tailBits third * 64 +
          tailBits fourth) :: ·) := by
  have above : ¬first < 0x80 := by
    simp only [UInt8.lt_iff_toNat_lt, UInt8.reduceToNat]
    omega
  have aboveTwo : (0xc2 ≤ first && first ≤ 0xdf) = false := by
    apply not_between_of_lt
    simp only [UInt8.reduceToNat]
    omega
  have aboveThree : (0xe0 ≤ first && first ≤ 0xef) = false := by
    apply not_between_of_lt
    simp only [UInt8.reduceToNat]
    omega
  have inRange : (0xf0 ≤ first && first ≤ 0xf4) = true := by
    simpa [UInt8.le_iff_toNat_le] using range
  rw [decodeFrom.eq_def]
  simp only [above, if_false, aboveTwo, aboveThree, Bool.false_eq_true, inRange, if_true, inner,
    tail, lastTail]

/-- The decoder takes off the bytes of one character. -/
theorem decodeFrom_encodeChar (position : Nat) (character : Char) (rest : Bytes) :
    decodeFrom position (encodeChar character ++ rest) =
      (decodeFrom (position + (encodeChar character).length) rest).map (character :: ·) := by
  rcases toNat_isScalar character with ⟨inUnicode, noSurrogate⟩
  have whole : Char.ofNat character.toNat = character := Char.ofNat_toNat character
  unfold encodeChar
  generalize character.toNat = code at *
  simp only
  split
  · have sameByte : (UInt8.ofNat code).toNat = code := toNat_ofNat_of_small (by omega)
    rw [List.cons_append, decodeFrom_one _ _ (by omega), sameByte, whole]
    rfl
  · split
    · have sameByte : (UInt8.ofNat (0xc0 + code / 64)).toNat = 0xc0 + code / 64 :=
        toNat_ofNat_of_small (by omega)
      rcases isTail_ofNat (code % 64) (by omega) with ⟨tail, bits⟩
      have sameCode : (0xc0 + code / 64) % 32 * 64 + code % 64 = code := by omega
      rw [List.cons_append, List.cons_append, decodeFrom_two _ _ (by omega) tail, sameByte, bits,
        sameCode, whole]
      rfl
    · split
      · have sameByte : (UInt8.ofNat (0xe0 + code / 4096)).toNat = 0xe0 + code / 4096 :=
          toNat_ofNat_of_small (by omega)
        have inner := isSecondOfThree_ofNat (code / 4096) (code / 64 % 64)
          (by omega) (by omega) (by omega) (by omega)
        rcases isTail_ofNat (code / 64 % 64) (by omega) with ⟨-, innerBits⟩
        rcases isTail_ofNat (code % 64) (by omega) with ⟨tail, bits⟩
        have sameCode :
            (0xe0 + code / 4096) % 16 * 4096 + code / 64 % 64 * 64 + code % 64 = code := by omega
        rw [List.cons_append, List.cons_append, List.cons_append,
          decodeFrom_three _ _ (by omega) inner tail, sameByte, innerBits, bits, sameCode, whole]
        rfl
      · have sameByte : (UInt8.ofNat (0xf0 + code / 262144)).toNat = 0xf0 + code / 262144 :=
          toNat_ofNat_of_small (by omega)
        have inner := isSecondOfFour_ofNat (code / 262144) (code / 4096 % 64)
          (by omega) (by omega) (by omega) (by omega)
        rcases isTail_ofNat (code / 4096 % 64) (by omega) with ⟨-, innerBits⟩
        rcases isTail_ofNat (code / 64 % 64) (by omega) with ⟨tail, bits⟩
        rcases isTail_ofNat (code % 64) (by omega) with ⟨lastTail, lastBits⟩
        have sameCode : (0xf0 + code / 262144) % 8 * 262144 + code / 4096 % 64 * 4096 +
            code / 64 % 64 * 64 + code % 64 = code := by omega
        rw [List.cons_append, List.cons_append, List.cons_append, List.cons_append,
          decodeFrom_four _ _ (by omega) inner tail lastTail, sameByte, innerBits, bits, lastBits,
          sameCode, whole]
        rfl

theorem decodeFrom_encodeChars (position : Nat) (characters : List Char) :
    decodeFrom position (encodeChars characters) = .ok characters := by
  induction characters generalizing position with
  | nil => rfl
  | cons first rest hypothesis =>
    rw [encodeChars, List.flatMap_cons, decodeFrom_encodeChar]
    change (decodeFrom _ (encodeChars rest)).map _ = _
    rw [hypothesis]
    rfl

/-- Different characters have different bytes. -/
theorem encodeChars_injective : Function.Injective encodeChars := by
  intro characters others same
  have decoded := decodeFrom_encodeChars 0 characters
  rw [same, decodeFrom_encodeChars] at decoded
  exact (Except.ok.inj decoded).symm

/-- Every text is read back from its bytes. -/
theorem decode_encode (text : String) : decode (encode text) = .ok text := by
  rw [decode, encode, decodeFrom_encodeChars]
  exact congrArg Except.ok (String.ofList_toList (s := text))

theorem encode_injective : Function.Injective encode := by
  intro text other same
  exact String.toList_injective (encodeChars_injective same)

end DeviceRegistry.Text.Utf8
