import Mathlib
import DeviceRegistry.Identifier
/-!
# Reading identifiers back

An address and a bucket hash are written as hexadecimal digits. Reading an address is
more liberal than writing it: blanks around the digits and a mark in front of them are
dropped. Nothing is dropped from written digits, because none of them is blank and none
is the `x` of the mark.
-/

namespace DeviceRegistry

namespace Text

namespace Hex

theorem value?_digit : ∀ half < 16,
    (Utf8.encodeChar (digit half)).map value? = [some half] := by
  decide

theorem digit_plain : ∀ half < 16, isBlank (digit half) = false ∧ digit half ≠ 'x' := by
  decide

theorem encodeChar_digit {half : Nat} (small : half < 16) :
    ∃ byte, Utf8.encodeChar (digit half) = [byte] ∧ value? byte = some half := by
  have values := value?_digit half small
  rcases encoded : Utf8.encodeChar (digit half) with _ | ⟨byte, rest⟩
  · simp [encoded] at values
  · simp only [encoded, List.map_cons, List.cons.injEq, List.map_eq_nil_iff] at values
    exact ⟨byte, by rw [values.2], values.1⟩

theorem half_lt (byte : UInt8) : byte.toNat / 16 < 16 ∧ byte.toNat % 16 < 16 := by
  have small := byte.toNat_lt
  omega

/-- The digits of a byte string are those of its first byte and then those of the others. -/
theorem encodeChars_digits_cons (first : UInt8) (rest : Bytes) :
    ∃ high low, Utf8.encodeChars (digits (first :: rest)) =
        high :: low :: Utf8.encodeChars (digits rest) ∧
      value? high = some (first.toNat / 16) ∧ value? low = some (first.toNat % 16) := by
  rcases encodeChar_digit (half_lt first).1 with ⟨high, highEncoded, highValue⟩
  rcases encodeChar_digit (half_lt first).2 with ⟨low, lowEncoded, lowValue⟩
  refine ⟨high, low, ?_, highValue, lowValue⟩
  simp [Utf8.encodeChars, digits, highEncoded, lowEncoded]

theorem decodeFrom_digits (position : Nat) (bytes : Bytes) :
    decodeFrom position (Utf8.encodeChars (digits bytes)) = .ok bytes := by
  induction bytes generalizing position with
  | nil => rfl
  | cons first rest hypothesis =>
    rcases encodeChars_digits_cons first rest with ⟨high, low, written, highValue, lowValue⟩
    have sameByte : 16 * (first.toNat / 16) + first.toNat % 16 = first.toNat := by omega
    rw [written, decodeFrom, valueAt, highValue, valueAt, lowValue, hypothesis]
    simp only [bind, Except.bind, sameByte, UInt8.ofNat_toNat]
    rfl

theorem length_encodeChars_digits (bytes : Bytes) :
    (Utf8.encodeChars (digits bytes)).length = 2 * bytes.length := by
  induction bytes with
  | nil => rfl
  | cons first rest hypothesis =>
    rcases encodeChars_digits_cons first rest with ⟨high, low, written, -, -⟩
    rw [written, List.length_cons, List.length_cons, hypothesis, List.length_cons]
    omega

theorem decode_digits (bytes : Bytes) : decode (Utf8.encodeChars (digits bytes)) = .ok bytes := by
  have even : ¬(Utf8.encodeChars (digits bytes)).length % 2 = 1 := by
    rw [length_encodeChars_digits]
    omega
  rw [decode, if_neg even, decodeFrom_digits]

theorem plain_of_mem_digits {bytes : Bytes} {character : Char}
    (member : character ∈ digits bytes) : isBlank character = false ∧ character ≠ 'x' := by
  simp only [digits, List.mem_flatMap, List.mem_cons, List.not_mem_nil, or_false] at member
  rcases member with ⟨byte, -, rfl | rfl⟩
  · exact digit_plain _ (half_lt byte).1
  · exact digit_plain _ (half_lt byte).2

end Hex

theorem dropWhile_isBlank_of_plain {characters : List Char}
    (plain : ∀ character ∈ characters, isBlank character = false) :
    characters.dropWhile isBlank = characters := by
  cases characters with
  | nil => rfl
  | cons first rest => simp [plain first List.mem_cons_self]

theorem trim_of_plain {characters : List Char}
    (plain : ∀ character ∈ characters, isBlank character = false) :
    trim characters = characters := by
  have reversePlain : ∀ character ∈ characters.reverse, isBlank character = false := by
    simpa using plain
  rw [trim, dropWhile_isBlank_of_plain plain, dropWhile_isBlank_of_plain reversePlain,
    List.reverse_reverse]

end Text

namespace Address

open Text

theorem withoutMark_of_plain {characters : List Char}
    (plain : ∀ character ∈ characters, character ≠ 'x') :
    withoutMark characters = characters := by
  unfold withoutMark
  split
  · rename_i rest
    exact absurd rfl (plain 'x' (by simp))
  · rfl

theorem ofText_text {address : Address} (someBytes : address ≠ empty) :
    ofText address.text = .ok address := by
  rcases address with ⟨bytes⟩
  have plain := fun character member => @Hex.plain_of_mem_digits bytes character member
  have trimmed : trim (Hex.digits bytes) = Hex.digits bytes :=
    trim_of_plain fun character member => (plain character member).1
  have unmarked : withoutMark (Hex.digits bytes) = Hex.digits bytes :=
    withoutMark_of_plain fun character member => (plain character member).2
  simp only [text, Hex.encode, ofText, String.toList_ofList, trimmed, unmarked]
  split
  · rename_i noDigits
    cases bytes with
    | nil => exact absurd rfl someBytes
    | cons first rest => simp [Hex.digits] at noDigits
  · rw [Hex.decode_digits]

/-- The text of an address is read back, the empty one included. -/
theorem ofDocument_text (address : Address) : ofDocument address.text = .ok address := by
  by_cases noBytes : address = empty
  · rw [noBytes]
    rfl
  · have someText : address.text.isEmpty = false := by
      rcases address with ⟨bytes⟩
      cases bytes with
      | nil => exact absurd rfl noBytes
      | cons first rest => simp [text, Hex.encode, Hex.digits]
    rw [ofDocument, someText, ofText_text noBytes]
    rfl

end Address

namespace BucketHash

open Text

/-- The text of a hash is read back. -/
theorem ofDocument_text (hash : BucketHash) : ofDocument hash.text = .ok hash := by
  have decoded : Hex.decode (Utf8.encode hash.text) = .ok hash.bytes := by
    rw [text, Hex.encode, Utf8.encode, String.toList_ofList, Hex.decode_digits]
  simp only [ofDocument, decoded, ofBytes?_bytes]

end BucketHash

end DeviceRegistry
