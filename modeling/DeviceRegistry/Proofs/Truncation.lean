import Mathlib
import DeviceRegistry.Account
import DeviceRegistry.Coin
import DeviceRegistry.Genesis
import DeviceRegistry.Message
import DeviceRegistry.Proofs.Codec
import DeviceRegistry.Proofs.Outcomes
import DeviceRegistry.Registry.Basic
/-!
# Cut values are refused

A decoder reads forward: what it finds at the front of some bytes does not depend on the
bytes after them. This holds of the numbers and of the bytes of a text, and it passes from
the readers of the parts to the reader of the whole. The one decoder that looks ahead is
that of a sequence, whose steps are limited by the number of bytes that are left; it never
needs as many.

Together with the round trip this rules out that a value is read from a part of its form.
Whatever were read from the part would be read from the whole form too, and would leave
the bytes that the part lacks; but the whole form leaves nothing.
-/

namespace DeviceRegistry.Binary

variable {α β : Type}

/-- What a reader finds at the front of some bytes does not depend on what follows them. -/
def Forward (reader : Reader α) : Prop :=
  ∀ bytes value rest tail, reader bytes = .ok (value, rest) →
    reader (bytes ++ tail) = .ok (value, rest ++ tail)

/-! ## Readers that are put together -/

theorem forward_return (value : α) : Forward fun bytes => .ok (value, bytes) := by
  intro bytes found rest tail read
  cases read
  rfl

/-- A reading that depends on nothing but its own bytes may refuse them. -/
theorem forward_answer (answer : Except Fault α) :
    Forward fun bytes => answer >>= fun value => .ok (value, bytes) := by
  cases answer with
  | error fault =>
    intro bytes found rest tail read
    cases read
  | ok value => exact forward_return value

theorem Forward.bind {first : Reader α} {next : α → Reader β} (forward : Forward first)
    (forwardNext : ∀ value, Forward (next value)) :
    Forward fun bytes => first bytes >>= fun (value, rest) => next value rest := by
  intro bytes found rest tail read
  rcases bind_eq_ok.mp read with ⟨⟨value, middle⟩, readFirst, readNext⟩
  exact bind_eq_ok.mpr ⟨(value, middle ++ tail), forward bytes value middle tail readFirst,
    forwardNext value middle found rest tail readNext⟩

theorem Forward.map {reader : Reader α} (forward : Forward reader) (result : α → β) :
    Forward fun bytes => reader bytes >>= fun (value, rest) => .ok (result value, rest) :=
  forward.bind fun value => forward_return (result value)

/-! ## Numbers and sequences -/

/-- Where enough bytes are left, more of them change nothing. -/
theorem forward_cut (count : Nat) (fault : Fault) (result : Bytes → α) :
    Forward fun bytes =>
      if bytes.length < count then .error fault
      else .ok (result (bytes.take count), bytes.drop count) := by
  intro bytes found rest tail read
  by_cases short : bytes.length < count
  · simp [short] at read
  · have enough : count ≤ bytes.length := Nat.le_of_not_lt short
    have stillEnough : ¬(bytes ++ tail).length < count := by
      rw [List.length_append]
      omega
    simp only [short, if_false] at read
    cases read
    simp only [stillEnough, if_false, List.take_append_of_le_length enough,
      List.drop_append_of_le_length enough]

theorem forward_decodeNumber (width : Nat) : Forward (decodeNumber width) :=
  forward_cut width .endOfInput Bytes.ofLittleEndian

theorem forward_decodeBytes (count : Nat) : Forward (decodeBytes count) :=
  forward_cut count .shortText id

theorem forward_decodeItems {decodeItem : Reader α} (forward : Forward decodeItem) (count : Nat) :
    Forward (decodeItems decodeItem count) := by
  induction count with
  | zero => exact forward_return []
  | succ count hypothesis =>
    have whole := forward.bind fun item => hypothesis.map (item :: ·)
    exact whole

section Sequences

variable {decodeChunk : (count : Nat) → Reader (List α)}

theorem forward_decodeChunks (forward : ∀ count, Forward (decodeChunk count)) (fuel : Nat) :
    Forward (decodeChunks decodeChunk fuel) := by
  induction fuel with
  | zero =>
    intro bytes items rest tail read
    cases read
  | succ fuel hypothesis =>
    have rest : ∀ count items, Forward fun bytes =>
        if count = fullChunk then
          decodeChunks decodeChunk fuel bytes >>= fun found => .ok (items ++ found.1, found.2)
        else .ok (items, bytes) := by
      intro count items
      by_cases full : count = fullChunk
      · simp only [full, if_true]
        exact hypothesis.map (items ++ ·)
      · simp only [full, if_false]
        exact forward_return items
    have whole := (forward_decodeNumber 8).bind fun count => (forward count).bind (rest count)
    exact whole

/-- A reading that has come to its end needs no further steps. -/
theorem decodeChunks_of_le {fuel more : Nat} (le : fuel ≤ more) {bytes : Bytes}
    {result : List α × Bytes} (read : decodeChunks decodeChunk fuel bytes = .ok result) :
    decodeChunks decodeChunk more bytes = .ok result := by
  induction fuel generalizing more bytes result with
  | zero => cases read
  | succ fuel hypothesis =>
    obtain ⟨more, rfl⟩ : ∃ fewer, more = fewer + 1 := ⟨more - 1, by omega⟩
    have leRest : fuel ≤ more := Nat.le_of_succ_le_succ le
    rcases bind_eq_ok.mp read with ⟨⟨count, middle⟩, counted, read⟩
    rcases bind_eq_ok.mp read with ⟨⟨items, rest⟩, chunk, read⟩
    refine bind_eq_ok.mpr ⟨(count, middle), counted, bind_eq_ok.mpr ⟨(items, rest), chunk, ?_⟩⟩
    by_cases full : count = fullChunk
    · simp only [full, if_true] at read ⊢
      rcases bind_eq_ok.mp read with ⟨found, others, read⟩
      exact bind_eq_ok.mpr ⟨found, hypothesis leRest others, read⟩
    · simpa only [full, if_false] using read

theorem forward_decodeSequence (forward : ∀ count, Forward (decodeChunk count)) :
    Forward (decodeSequence decodeChunk) := by
  intro bytes items rest tail read
  have readLonger := forward_decodeChunks forward _ bytes items rest tail read
  apply decodeChunks_of_le _ readLonger
  rw [List.length_append]
  omega

end Sequences

theorem forward_decodeText : Forward decodeText := by
  have whole := (forward_decodeSequence forward_decodeBytes).bind fun content =>
    forward_answer ((Text.Utf8.decode content).mapError .notUtf8)
  exact whole

/-! ## Types with a binary form -/

/-- Types whose decoder reads forward. -/
class Incremental (α : Type) [Codec α] : Prop where
  forward : Forward (Codec.decode : Reader α)

instance : Incremental UInt32 := ⟨(forward_decodeNumber 4).map UInt32.ofNat⟩

instance : Incremental UInt64 := ⟨(forward_decodeNumber 8).map UInt64.ofNat⟩

instance : Incremental Int64 :=
  ⟨(forward_decodeNumber 8).map fun number => (UInt64.ofNat number).toInt64⟩

instance : Incremental (BitVec 128) := ⟨(forward_decodeNumber 16).map (BitVec.ofNat 128)⟩

instance : Incremental Single := ⟨Incremental.forward.map Single.mk⟩

instance : Incremental String := ⟨forward_decodeText⟩

instance {α : Type} [Identifier α] : Incremental α where
  forward := by
    have whole := forward_decodeText.bind fun text =>
      forward_answer ((Identifier.ofDocument (α := α) text).mapError .identifier)
    exact whole

instance {α : Type} [Codec α] [Incremental α] : Incremental (List α) :=
  ⟨forward_decodeSequence (forward_decodeItems Incremental.forward)⟩

instance : Incremental Unit := ⟨forward_return ()⟩

instance {α β : Type} [Codec α] [Codec β] [Incremental α] [Incremental β] :
    Incremental (α × β) where
  forward := by
    have whole := (Incremental.forward (α := α)).bind fun first =>
      (Incremental.forward (α := β)).map (first, ·)
    exact whole

theorem Incremental.ofLayout {α fields : Type} [Layout α fields] [Codec fields]
    [Incremental fields] : @Incremental α Codec.ofLayout :=
  @Incremental.mk α Codec.ofLayout (Incremental.forward.map Layout.ofFields)

instance : Lossless UInt64 where
  decode_encode number tail := by
    simp only [Codec.decode, Codec.encode,
      decodeNumber_littleEndian 8 number.toNat_lt, bind, Except.bind]
    exact congrArg (fun same => Except.ok (same, tail)) (UInt64.ofNat_toNat)

instance : Lossless (BitVec 128) where
  decode_encode number tail := by
    simp only [Codec.decode, Codec.encode,
      decodeNumber_littleEndian 16 number.isLt, bind, Except.bind]
    exact congrArg (fun same => Except.ok (same, tail)) (BitVec.ofNat_toNat 128 number)

instance : Incremental Channel := .ofLayout

instance : Incremental Reading := .ofLayout

instance : Incremental Device := .ofLayout

instance : Incremental Bucket := .ofLayout

instance : Lossless Genesis := .ofLayout

instance : Incremental Genesis := .ofLayout

instance : Lossless SetOwner := .ofLayout

instance : Incremental SetOwner := .ofLayout

instance : Lossless ChannelUpdate := .ofLayout

instance : Incremental ChannelUpdate := .ofLayout

instance : Lossless UpdateChannels := .ofLayout

instance : Incremental UpdateChannels := .ofLayout

instance : Lossless NewReading := .ofLayout

instance : Incremental NewReading := .ofLayout

instance : Lossless AddReadings := .ofLayout

instance : Incremental AddReadings := .ofLayout

instance : Lossless Coin := .ofLayout

instance : Incremental Coin := .ofLayout

instance : Lossless Coins where
  decode_encode coins tail := by
    change Except.bind (Codec.decode (Codec.encode coins.coins ++ tail)) _ = _
    rw [Lossless.decode_encode]
    rfl

instance : Incremental Coins := ⟨Incremental.forward.map Coins.mk⟩

instance : Lossless Account := .ofLayout

instance : Incremental Account := .ofLayout

/-! ## Main result -/

section Cut

variable [Codec α] [Lossless α] {value : α} {front : Bytes}

theorem decodeFirst_encode_append (value : α) (tail : Bytes) :
    decodeFirst (Codec.encode value ++ tail) = .ok value := by
  rw [decodeFirst, Lossless.decode_encode]
  rfl

theorem decodeFirst_cut [Incremental α] (cut : front <+: Codec.encode value)
    (shorter : front ≠ Codec.encode value) :
    ∃ fault, decodeFirst (α := α) front = .error fault := by
  rcases cut with ⟨missing, whole⟩
  rcases read : (Codec.decode front : Except Fault (α × Bytes)) with fault | ⟨other, rest⟩
  · exact ⟨fault, by rw [decodeFirst, read]; rfl⟩
  · have readWhole := Incremental.forward front other rest missing read
    have readBack := Lossless.decode_encode value []
    rw [List.append_nil, ← whole, readWhole] at readBack
    -- Nothing of the whole form is left, so nothing is missing in the part.
    have nothingLeft : rest ++ missing = [] := congrArg Prod.snd (Except.ok.inj readBack)
    rw [(List.append_eq_nil_iff.mp nothingLeft).2, List.append_nil] at whole
    exact absurd whole shorter

end Cut

/-- A value is told from its bytes, whatever follows them, and never from a part of them. -/
structure SelfDelimiting (α : Type) [Codec α] : Prop where
  decode_append : ∀ (value : α) (tail : Bytes),
    decodeFirst (Codec.encode value ++ tail) = .ok value
  decode_cut : ∀ (value : α) {front : Bytes}, front <+: Codec.encode value →
    front ≠ Codec.encode value → ∃ fault, decodeFirst (α := α) front = .error fault
  /-- A value that was cut in a store is not mistaken for another one. -/
  stored_cut : ∀ (value : α) {front : Bytes}, front <+: Codec.encode value →
    front ≠ Codec.encode value → ∀ {store : Store} {key : StoreKey},
      store.get? key.bytes = some front →
      ∃ fault, Registry.stored? (α := α) store key = .error (.serialization fault)

theorem SelfDelimiting.of_incremental [Codec α] [Lossless α] [Incremental α] :
    SelfDelimiting α where
  decode_append := decodeFirst_encode_append
  decode_cut _ _ cut shorter := decodeFirst_cut cut shorter
  stored_cut _ _ cut shorter _ _ stands := by
    rcases decodeFirst_cut cut shorter with ⟨fault, refused⟩
    exact ⟨fault, by simp only [Registry.stored?, stands, refused]⟩

/-- All that is stored or sent in binary form is delimited by itself. -/
theorem selfDelimiting :
    SelfDelimiting Device ∧ SelfDelimiting Bucket ∧ SelfDelimiting Genesis ∧
      SelfDelimiting SetOwner ∧ SelfDelimiting UpdateChannels ∧ SelfDelimiting AddReadings ∧
      SelfDelimiting Coins ∧ SelfDelimiting Account :=
  ⟨.of_incremental, .of_incremental, .of_incremental, .of_incremental, .of_incremental,
    .of_incremental, .of_incremental, .of_incremental⟩

end DeviceRegistry.Binary
