import Mathlib
import DeviceRegistry.Proofs.Registry.Requests
import DeviceRegistry.Proofs.Registry.Sound
/-!
# Well-formed registries

What the registry promises about its store, said in terms of bytes and of what they
decode to: which keys there are, what is stored under them, and how devices and
buckets refer to each other.

Whoever uses the registry may carry out messages and the operations below them in any
order, with any arguments. The store stays well-formed throughout, also after those
that fail half way. Left out are only the calls that can make what no message makes.
-/

namespace DeviceRegistry

namespace Address

theorem isEmpty_eq_false {address : Address} : address.isEmpty = false ↔ address.bytes ≠ [] := by
  simp [isEmpty]

end Address

namespace Registry

open Binary

/-- What is promised of every store that grew out of an empty one. -/
structure WellFormed (store : Store) : Prop where
  /-- There is nothing but devices and buckets, and each of them can be read. -/
  entries : ∀ {bytes value}, store.get? bytes = some value →
    (∃ address : Address, bytes = 0x01 :: address.bytes ∧ address.bytes ≠ [] ∧
      ∃ found : Device, decodeFirst value = .ok found) ∨
    (∃ hash : BucketHash, bytes = 0x02 :: hash.bytes ∧ hash.bytes.length = 16 ∧
      ∃ stored : Bucket, decodeFirst value = .ok stored)
  /-- A device is stored under its own address. -/
  device : ∀ {address : Address} {value} {found : Device},
    store.get? (0x01 :: address.bytes) = some value → decodeFirst value = .ok found →
    found.id = address ∧ found.owner.bytes ≠ [] ∧ (found.channels.map Channel.id).Nodup
  /-- A bucket is stored under its own hash, and is as readings have left it. -/
  bucket : ∀ {hash : BucketHash} {value} {stored : Bucket},
    store.get? (0x02 :: hash.bytes) = some value → decodeFirst value = .ok stored →
    .ofDay stored.device stored.channel stored.instant = hash ∧
      stored.device.bytes ≠ [] ∧ stored.channel.id ≠ "" ∧ stored.readings ≠ [] ∧
      (stored.readings.map Reading.timestamp).Nodup ∧
      stored.readings.head?.map Reading.instant = some stored.instant
  /-- The device of a bucket is registered. -/
  housed : ∀ {hash stored}, Registry.bucket store hash = .ok stored →
    ∃ home, Registry.device store stored.device = .ok home
  /-- A device lists the buckets that are stored for it, each once. -/
  listed : ∀ {address found}, Registry.device store address = .ok found →
    found.buckets.Nodup ∧ ∀ hash, hash ∈ found.buckets ↔
      ∃ stored, Registry.bucket store hash = .ok stored ∧ stored.device = address

namespace Sound

variable {store : Store}

/-- The invariant says of stored values what is promised of their bytes. -/
theorem wellFormed (sound : Sound store) : WellFormed store where
  entries {bytes value} stands := by
    rcases sound.consists.known stands with ⟨key, rfl⟩
    cases key with
    | device address =>
      rcases sound.consists.device stands with ⟨found, rfl, -, named, -⟩
      exact Or.inl ⟨address, rfl, Address.isEmpty_eq_false.mp named, found,
        decodeFirst_encode found⟩
    | bucket hash =>
      rcases sound.consists.bucket stands with ⟨stored, rfl, -⟩
      exact Or.inr ⟨hash, rfl, hash.length_eq, stored, decodeFirst_encode stored⟩
  device {address value found} stands decoded := by
    rcases sound.consists.device stands with ⟨other, rfl, idSame, -, owned, distinct⟩
    obtain rfl : other = found := Except.ok.inj ((decodeFirst_encode other).symm.trans decoded)
    exact ⟨idSame, Address.isEmpty_eq_false.mp owned, distinct⟩
  bucket {hash value stored} stands decoded := by
    rcases sound.consists.bucket stands with ⟨other, rfl, hashSame, checked, regular⟩
    obtain rfl : other = stored := Except.ok.inj ((decodeFirst_encode other).symm.trans decoded)
    rcases checkBucket_eq_ok.mp checked with ⟨named, channelNamed⟩
    refine ⟨hashSame, Address.isEmpty_eq_false.mp named, by simpa using channelNamed, ?_,
      regular.distinct, regular.started⟩
    intro unread
    simpa [unread] using regular.started
  housed := sound.housed
  listed := sound.listed

theorem appendCounted (sound : Sound store) (address : Address) (tally : Tally)
    (new : NewReading) : Sound ((appendCounted address tally new).on store).2 := by
  rw [after_appendCounted]
  rcases after_appendOnItsDay store address new.channelId new.reading with
    unchanged | ⟨found, channel, -, -, step⟩
  · rw [unchanged]
    exact sound
  · exact sound.step step

theorem effect (sound : Sound store) {after : Store} (effect : OrderlyEffect store after) :
    Sound after := by
  cases effect with
  | steps steps => exact sound.steps steps
  | deletion present => exact sound.drop_device present

theorem action (sound : Sound store) (action : Action) : Sound (action.after store) :=
  sound.effect (action.effect store)

theorem actions (sound : Sound store) (actions : List Action) :
    Sound (actions.foldl Action.after store) := by
  induction actions generalizing store with
  | nil => exact sound
  | cons first rest hypothesis => exact hypothesis (sound.action first)

end Sound

/-- A registry that starts empty is well-formed after any actions. -/
theorem wellFormed_of_actions (actions : List Action) :
    WellFormed (actions.foldl Action.after .empty) :=
  (Sound.empty.actions actions).wellFormed

end Registry

end DeviceRegistry
