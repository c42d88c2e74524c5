import Mathlib
import DeviceRegistry.Store.Key
/-!
# Keys are read back

The first byte of a key says what is stored under it, and the other bytes are the address or
the hash, whatever they look like. So a byte string is read as a key exactly if it is the
bytes of that key, and what is read as nothing is the key of nothing that can be stored.

The bytes of the empty address are the one exception: they are written, as those of any
address, and not read. No device is stored under them.
-/

namespace DeviceRegistry.StoreKey

variable {raw : Bytes} {key : StoreKey}

/-- A device has a nonempty address. -/
def Named : StoreKey → Prop
  | device address => address.isEmpty = false
  | bucket _ => True

theorem ofBytes?_bytes (named : key.Named) : ofBytes? key.bytes = some key := by
  cases key with
  | device address =>
    have nonempty : address.bytes.isEmpty = false := named
    simp [ofBytes?, bytes, nonempty]
  | bucket hash => simp [ofBytes?, bytes]

theorem of_ofBytes?_eq_some (read : ofBytes? raw = some key) :
    key.Named ∧ raw = key.bytes := by
  cases raw with
  | nil => contradiction
  | cons tag rest =>
    simp only [ofBytes?] at read
    split at read
    · rename_i isDevice
      split at read
      · contradiction
      · rename_i nonempty
        cases read
        refine ⟨?_, ?_⟩
        · simpa [Named, Address.isEmpty] using nonempty
        · simp [bytes, isDevice]
    · split at read
      · rename_i isBucket
        rcases Option.map_eq_some_iff.mp read with ⟨hash, readHash, rfl⟩
        have sixteen := BucketHash.ofBytes?_eq_some_iff.mp readHash
        refine ⟨trivial, ?_⟩
        simp [bytes, isBucket, sixteen]
      · contradiction

theorem ofBytes?_eq_some_iff : ofBytes? raw = some key ↔ key.Named ∧ raw = key.bytes := by
  constructor
  · apply of_ofBytes?_eq_some
  · rintro ⟨named, rfl⟩
    exact ofBytes?_bytes named

theorem ofBytes?_device {address : Address} (named : address.isEmpty = false) :
    ofBytes? (device address).bytes = some (device address) :=
  ofBytes?_bytes named

theorem ofBytes?_bucket (hash : BucketHash) :
    ofBytes? (bucket hash).bytes = some (bucket hash) :=
  ofBytes?_bytes trivial

/-- The tag tells devices from buckets, and the rest is the address or the hash. -/
theorem bytes_injective : Function.Injective bytes := by
  intro left right same
  cases left with
  | device left =>
    cases right with
    | device right =>
      simp only [bytes, List.cons.injEq, true_and] at same
      rcases left with ⟨left⟩
      rcases right with ⟨right⟩
      exact congrArg (fun bytes => StoreKey.device ⟨bytes⟩) same
    | bucket right => simp [bytes] at same
  | bucket left =>
    cases right with
    | device right => simp [bytes] at same
    | bucket right =>
      simp only [bytes, List.cons.injEq, true_and] at same
      exact congrArg StoreKey.bucket (BucketHash.ext same)

/-- Devices lie in a store in the order of their addresses. -/
theorem compareOfLessAndEq_bytes (left right : Address) :
    compareOfLessAndEq (device left).bytes (device right).bytes = left.compare right := by
  simp [compareOfLessAndEq, bytes, Address.compare]

/-! ## Main result -/

/-- A key is read from its own bytes alone, and the bytes tell keys apart and order devices. -/
theorem keys_read_back :
    (∀ raw address, ofBytes? raw = some (device address) ↔
      address.isEmpty = false ∧ raw = (device address).bytes) ∧
    (∀ raw hash, ofBytes? raw = some (bucket hash) ↔ raw = (bucket hash).bytes) ∧
    (∀ address hash, (device address).bytes ≠ (bucket hash).bytes) ∧
    (∀ left right, (device left).bytes = (device right).bytes ↔ left = right) ∧
    (∀ left right, (bucket left).bytes = (bucket right).bytes ↔ left = right) ∧
    ∀ left right,
      compareOfLessAndEq (device left).bytes (device right).bytes = left.compare right := by
  refine ⟨?_, ?_, ?_, ?_, ?_, compareOfLessAndEq_bytes⟩
  · intro raw address
    apply ofBytes?_eq_some_iff
  · intro raw hash
    have read : ofBytes? raw = some (bucket hash) ↔ _ := ofBytes?_eq_some_iff
    simpa [Named] using read
  · intro address hash
    apply bytes_injective.ne
    simp
  · intro left right
    have same : (device left).bytes = (device right).bytes ↔ _ := bytes_injective.eq_iff
    simpa using same
  · intro left right
    have same : (bucket left).bytes = (bucket right).bytes ↔ _ := bytes_injective.eq_iff
    simpa using same

/-- An address may have the length of a hash and begin with the tag of buckets. -/
example : ofBytes? (device ⟨List.replicate 16 0x02⟩).bytes =
    some (device ⟨List.replicate 16 0x02⟩) := by
  decide

end DeviceRegistry.StoreKey
