import Mathlib
import DeviceRegistry.Bucket
import DeviceRegistry.Bytes.Lemmas
import DeviceRegistry.Device
import DeviceRegistry.Proofs.Identifiers
import DeviceRegistry.Proofs.Utf8
/-!
# Stored values are read back

The binary form of a value, followed by anything, is read as that value and leaves what
follows. The statement with a tail is the one that composes: a structure is the
sequence of its fields, and a list is the sequence of its items.

A sequence of any length is read back, also one that needs several chunks. A decoder
gets as many steps as there are bytes, and a chunk has more bytes than it needs steps.
-/

namespace DeviceRegistry.Binary

/-- Values are read back from their binary form, whatever follows it. -/
class Lossless (α : Type) [Codec α] : Prop where
  decode_encode : ∀ (value : α) (tail : Bytes),
    Codec.decode (Codec.encode value ++ tail) = .ok (value, tail)

/-- A stored value is read back. -/
@[simp]
theorem decodeFirst_encode {α : Type} [Codec α] [Lossless α] (value : α) :
    decodeFirst (Codec.encode value) = .ok value := by
  have decoded := Lossless.decode_encode value []
  rw [List.append_nil] at decoded
  simp only [decodeFirst, decoded]
  rfl

theorem encode_injective {α : Type} [Codec α] [Lossless α] :
    Function.Injective (Codec.encode : α → Bytes) := by
  intro left right same
  have decoded := congrArg (decodeFirst (α := α)) same
  simpa using decoded

theorem decodeNumber_littleEndian (width : Nat) {number : Nat} (fits : number < 256 ^ width)
    (tail : Bytes) :
    decodeNumber width (Bytes.littleEndian width number ++ tail) = .ok (number, tail) := by
  have enough : ¬(Bytes.littleEndian width number ++ tail).length < width := by
    simp
  have front : (Bytes.littleEndian width number ++ tail).take width =
      Bytes.littleEndian width number := by
    rw [List.take_append_of_le_length (by simp), List.take_of_length_le (by simp)]
  have back : (Bytes.littleEndian width number ++ tail).drop width = tail := by
    rw [List.drop_append_of_le_length (by simp), List.drop_of_length_le (by simp),
      List.nil_append]
  rw [decodeNumber, if_neg enough, front, back, Bytes.ofLittleEndian_littleEndian _ _ fits]

/-! ## Sequences -/

section Sequences

variable {α : Type} {encodeItem : α → Bytes}

theorem decodeItems_flatMap {decodeItem : Reader α}
    (readsItem : ∀ item tail, decodeItem (encodeItem item ++ tail) = .ok (item, tail))
    (items : List α) (tail : Bytes) :
    decodeItems decodeItem items.length (items.flatMap encodeItem ++ tail) =
      .ok (items, tail) := by
  induction items with
  | nil => rfl
  | cons first rest hypothesis =>
    rw [List.flatMap_cons, List.append_assoc, List.length_cons, decodeItems, readsItem]
    simp only [bind, Except.bind, hypothesis]
    rfl

theorem decodeBytes_flatMap (bytes tail : Bytes) :
    decodeBytes bytes.length (bytes.flatMap (fun byte => [byte]) ++ tail) = .ok (bytes, tail) := by
  have same : bytes.flatMap (fun byte => [byte]) = bytes := by
    simp
  have enough : ¬(bytes ++ tail).length < bytes.length := by
    simp
  rw [same, decodeBytes, if_neg enough, List.take_left, List.drop_left]

theorem le_length_encodeChunks (encodeItem : α → Bytes) (full : Nat) (items : List α) :
    full < (encodeChunks encodeItem full items).length := by
  induction full generalizing items with
  | zero =>
    simp only [encodeChunks, encodeCount, List.length_append, Bytes.length_littleEndian]
    omega
  | succ full hypothesis =>
    have others := hypothesis (items.drop fullChunk)
    simp only [encodeChunks, encodeCount, List.length_append, Bytes.length_littleEndian]
    omega

theorem decodeNumber_encodeCount {count : Nat} (fits : count ≤ fullChunk) (tail : Bytes) :
    decodeNumber 8 (encodeCount count ++ tail) = .ok (count, tail) := by
  refine decodeNumber_littleEndian _ ?_ tail
  have bound : fullChunk < 256 ^ 8 := by decide
  omega

theorem decodeChunks_encodeChunks {decodeChunk : (count : Nat) → Reader (List α)}
    (readsChunk : ∀ items tail,
      decodeChunk items.length (items.flatMap encodeItem ++ tail) = .ok (items, tail))
    {full fuel : Nat} {items : List α} (filled : full = items.length / fullChunk)
    (enough : full < fuel) (tail : Bytes) :
    decodeChunks decodeChunk fuel (encodeChunks encodeItem full items ++ tail) =
      .ok (items, tail) := by
  have positive : 0 < fullChunk := by decide
  induction full generalizing fuel items with
  | zero =>
    have short : items.length < fullChunk := by
      rcases Nat.div_eq_zero_iff.mp filled.symm with zero | less
      · exact absurd zero (Nat.ne_of_gt positive)
      · exact less
    obtain ⟨fuel, rfl⟩ : ∃ less, fuel = less + 1 := ⟨fuel - 1, by omega⟩
    rw [encodeChunks, List.append_assoc, decodeChunks,
      decodeNumber_encodeCount (Nat.le_of_lt short)]
    simp only [bind, Except.bind, readsChunk, Nat.ne_of_lt short, if_false]
    rfl
  | succ full hypothesis =>
    have several : fullChunk * (full + 1) ≤ items.length := by
      rw [filled]
      exact Nat.mul_div_le _ _
    have atLeastOne : fullChunk ≤ items.length :=
      Nat.le_trans (Nat.le_mul_of_pos_right _ (by omega)) several
    have isFull : (items.take fullChunk).length = fullChunk := by
      rw [List.length_take, Nat.min_eq_left atLeastOne]
    have others : full = (items.drop fullChunk).length / fullChunk := by
      have oneMore := Nat.div_eq_sub_div positive atLeastOne
      rw [List.length_drop]
      omega
    obtain ⟨fuel, rfl⟩ : ∃ less, fuel = less + 1 := ⟨fuel - 1, by omega⟩
    have otherChunks := @hypothesis fuel (items.drop fullChunk) others (by omega)
    have firstChunk := readsChunk (items.take fullChunk)
    rw [isFull] at firstChunk
    rw [encodeChunks, List.append_assoc, List.append_assoc, decodeChunks,
      decodeNumber_encodeCount (Nat.le_refl _)]
    simp only [bind, Except.bind, firstChunk, if_true, otherChunks]
    exact congrArg (fun whole => Except.ok (whole, tail)) (List.take_append_drop fullChunk items)

/-- A sequence is read back if the items of each chunk are. -/
theorem decodeSequence_encodeSequence {decodeChunk : (count : Nat) → Reader (List α)}
    (readsChunk : ∀ items tail,
      decodeChunk items.length (items.flatMap encodeItem ++ tail) = .ok (items, tail))
    (items : List α) (tail : Bytes) :
    decodeSequence decodeChunk (encodeSequence encodeItem items ++ tail) = .ok (items, tail) := by
  refine decodeChunks_encodeChunks readsChunk rfl ?_ tail
  have long := le_length_encodeChunks encodeItem (items.length / fullChunk) items
  simp only [encodeSequence, List.length_append]
  omega

end Sequences

theorem decodeText_encodeText (text : String) (tail : Bytes) :
    decodeText (encodeText text ++ tail) = .ok (text, tail) := by
  simp only [decodeText, encodeText, decodeSequence_encodeSequence decodeBytes_flatMap,
    bind, Except.bind, Text.Utf8.decode_encode]
  rfl

/-! ## Types of stored values -/

instance : Lossless UInt32 where
  decode_encode number tail := by
    simp only [Codec.decode, Codec.encode,
      decodeNumber_littleEndian 4 number.toNat_lt, bind, Except.bind]
    exact congrArg (fun same => Except.ok (same, tail)) (UInt32.ofNat_toNat)

instance : Lossless Int64 where
  decode_encode number tail := by
    simp only [Codec.decode, Codec.encode,
      decodeNumber_littleEndian 8 number.toUInt64.toNat_lt, bind, Except.bind,
      UInt64.ofNat_toNat]
    rfl

instance : Lossless Single where
  decode_encode number tail := by
    change Except.bind (Codec.decode (Codec.encode number.bits ++ tail)) _ = _
    rw [Lossless.decode_encode]
    rfl

instance : Lossless String where
  decode_encode := decodeText_encodeText

instance : Lossless Address where
  decode_encode address tail := by
    simp only [Codec.decode, Codec.encode, decodeText_encodeText, bind, Except.bind,
      Identifier.ofDocument, Identifier.toDocument, Address.ofDocument_text]
    rfl

instance : Lossless BucketHash where
  decode_encode hash tail := by
    simp only [Codec.decode, Codec.encode, decodeText_encodeText, bind, Except.bind,
      Identifier.ofDocument, Identifier.toDocument, BucketHash.ofDocument_text]
    rfl

instance {α : Type} [Codec α] [Lossless α] : Lossless (List α) where
  decode_encode :=
    decodeSequence_encodeSequence (decodeItems_flatMap Lossless.decode_encode)

instance : Lossless Unit where
  decode_encode _ _ := rfl

instance {α β : Type} [Codec α] [Codec β] [Lossless α] [Lossless β] : Lossless (α × β) where
  decode_encode pair tail := by
    simp only [Codec.decode, Codec.encode, List.append_assoc, Lossless.decode_encode, bind,
      Except.bind]
    rfl

/-- A structure is read back if the tuple of its fields is. -/
theorem Lossless.ofLayout {α fields : Type} [Layout α fields] [Codec fields] [Lossless fields] :
    @Lossless α Codec.ofLayout :=
  @Lossless.mk α Codec.ofLayout fun value tail => by
    simp only [Codec.decode, Codec.encode, Lossless.decode_encode, bind, Except.bind,
      Layout.ofFields_toFields]
    rfl

instance : Lossless Channel := .ofLayout

instance : Lossless Reading := .ofLayout

instance : Lossless Device := .ofLayout

instance : Lossless Bucket := .ofLayout

end DeviceRegistry.Binary
