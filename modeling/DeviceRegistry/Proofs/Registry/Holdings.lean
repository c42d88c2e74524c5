import Mathlib
import DeviceRegistry.Proofs.Registry.Recorded
import DeviceRegistry.Proofs.Registry.Reception
import DeviceRegistry.Proofs.Registry.WellFormed
import DeviceRegistry.Proofs.Store
/-!
# How many readings a store holds

The readings of a device are counted over all entries of a store. A message that succeeds
counts too, in a tally of its own. Both counts agree step by step: a reading that the tally
takes for accepted is one more reading in the buckets of the device, and nothing else adds
to them.

A bucket is found by its hash alone, so this needs that no other bucket has the same hash.
Otherwise a reading could be accepted into a bucket of another device.
-/

namespace DeviceRegistry

def Bucket.countFor (address : Address) (bucket : Bucket) : Nat :=
  if bucket.device = address then bucket.readings.length else 0

@[simp]
theorem Bucket.countFor_new (address other : Address) (channel : Channel) (instant : Int64) :
    (Bucket.new other channel instant).countFor address = 0 :=
  ite_self 0

theorem Bucket.countFor_push (address : Address) (stored : Bucket) (reading : Reading) :
    (stored.push reading).countFor address =
      stored.countFor address + if stored.device = address then 1 else 0 := by
  by_cases here : stored.device = address <;> simp [countFor, push, here]

namespace Registry

/-- How many readings of a device an entry holds. -/
def entryCount (address : Address) : Bytes × Bytes → Nat
  | (key, value) =>
    match StoreKey.ofBytes? key with
    | some (.bucket _) =>
      match (Binary.decodeFirst value : Except Binary.Fault Bucket) with
      | .ok stored => stored.countFor address
      | .error _ => 0
    | _ => 0

/-- How many readings of a device a store holds, over all its buckets. -/
def readingCount (store : Store) (address : Address) : Nat :=
  store.sum (entryCount address)

variable {store after : Store} {address other : Address}

theorem entryCount_device (value : Bytes) :
    entryCount address ((StoreKey.device other).bytes, value) = 0 := by
  cases named : other.isEmpty with
  | true =>
    have nothing : other.bytes.isEmpty = true := named
    simp [entryCount, StoreKey.ofBytes?, StoreKey.bytes, nothing]
  | false => simp [entryCount, StoreKey.ofBytes?_device named]

theorem entryCount_bucket {hash : BucketHash} {value : Bytes}
    (found : store.get? (StoreKey.bucket hash).bytes = some value) :
    entryCount address ((StoreKey.bucket hash).bytes, value) =
      (bucket store hash).toOption.elim 0 (Bucket.countFor address) := by
  simp only [entryCount, StoreKey.ofBytes?_bucket, bucket, stored?, found]
  cases (Binary.decodeFirst value : Except Binary.Fault Bucket) <;> rfl

theorem readingCount_empty : readingCount .empty address = 0 := rfl

@[simp]
theorem readingCount_put_device (store : Store) (stored : Device) :
    readingCount (store.put (.device other) stored) address = readingCount store address := by
  have summed := store.sum_insert (entryCount address) (StoreKey.device other).bytes
    (Binary.Codec.encode stored)
  simp only [entryCount_device] at summed
  rw [readingCount, readingCount, ← Nat.add_zero (store.sum _), ← summed]
  cases store.get? (StoreKey.device other).bytes <;> rfl

/-- A bucket that is written counts in the place of the one that it replaces. -/
theorem readingCount_put_bucket (store : Store) (address : Address) (hash : BucketHash)
    (stored : Bucket) :
    readingCount (store.put (.bucket hash) stored) address +
        (bucket store hash).toOption.elim 0 (Bucket.countFor address) =
      readingCount store address + stored.countFor address := by
  have summed := store.sum_insert (entryCount address) (StoreKey.bucket hash).bytes
    (Binary.Codec.encode stored)
  have written : entryCount address ((StoreKey.bucket hash).bytes, Binary.Codec.encode stored) =
      stored.countFor address := by
    rw [entryCount_bucket (store.get?_put_self (.bucket hash) stored)]
    simp [Except.toOption]
  rcases before : store.get? (StoreKey.bucket hash).bytes with _ | value
  · rw [bucket_of_get?_eq_none before]
    rwa [before, written] at summed
  · rw [← entryCount_bucket before]
    rwa [before, written] at summed

theorem readingCount_extend {hash : BucketHash} {known : Bucket} (reading : Reading)
    (stored : bucket store hash = .ok known) :
    readingCount (store.put (.bucket hash) (known.push reading)) address =
      readingCount store address + if known.device = address then 1 else 0 := by
  have counted := readingCount_put_bucket store address hash (known.push reading)
  rw [stored, Bucket.countFor_push] at counted
  simp only [Except.toOption, Option.elim_some] at counted
  omega

theorem readingCount_open {hash : BucketHash} {error : RegistryError} (channel : Channel)
    (reading : Reading) (unknown : bucket store hash = .error error) :
    readingCount (store.put (.bucket hash)
        ((Bucket.new other channel reading.instant).push reading)) address =
      readingCount store address + if other = address then 1 else 0 := by
  have counted := readingCount_put_bucket store address hash
    ((Bucket.new other channel reading.instant).push reading)
  rw [unknown, Bucket.countFor_push, Bucket.countFor_new] at counted
  simp only [Except.toOption, Option.elim_none, Nat.add_zero, Nat.zero_add] at counted
  exact counted

/-! ## Messages that add readings -/

/-- What a loop over readings has done so far, from the store where it began. -/
structure Gathered (occur : Set Coordinates) (address : Address) (channels : List Channel)
    (begun : Store) (tally : Tally) (store : Store) : Prop where
  sound : Sound store
  stored : storedCoordinates store ⊆ occur
  present : ∃ found, device store address = .ok found ∧ found.channels = channels
  /-- The readings that are counted as accepted are those that the store has gained. -/
  gained : ∀ other, readingCount store other =
    readingCount begun other + if address = other then tally.accepted else 0

variable {occur : Set Coordinates} {channels : List Channel} {begun : Store} {new : NewReading}
  {tally next : Tally}

/-- A reading that is accepted goes to a bucket of its own device, since no hash is shared. -/
theorem readingCount_received (noCollision : occur.InjOn Coordinates.hash) (sound : Sound store)
    (stored : storedCoordinates store ⊆ occur) {found : Device}
    (named : ∀ channel, found.channel? new.channelId = some channel →
      .of address channel new.reading.instant ∈ occur)
    (received : Received store address found tally new (.ok next, after)) :
    readingCount after other + (if address = other then tally.accepted else 0) =
      readingCount store other + if address = other then next.accepted else 0 := by
  cases received with
  | skipped => rfl
  | duplicate => rfl
  | @extended channel known listed stands fresh =>
    rcases sound.consists.of_bucket stands with ⟨-, hashSame, -⟩
    have there := coordinates_of_bucket noCollision sound stored (named channel listed) stands
    have home : known.device = address := congrArg Coordinates.device there
    rw [hashSame, readingCount_extend _ stands, home]
    split
    · simp only
      omega
    · rfl
  | opened listed unknown channelNamed =>
    rw [readingCount_put_device, readingCount_open _ _ unknown]
    split
    · simp only
      omega
    · rfl

theorem Gathered.append (noCollision : occur.InjOn Coordinates.hash)
    (gathered : Gathered occur address channels begun tally store)
    (named : ∀ channel, Channel.find? channels new.channelId = some channel →
      .of address channel new.reading.instant ∈ occur)
    (succeeds : (appendCounted address tally new).on store = (.ok next, after)) :
    Gathered occur address channels begun next after := by
  rcases gathered with ⟨sound, stored, ⟨found, present, rfl⟩, gained⟩
  have channelsAfter := Offers.appendCounted ⟨found, present, rfl⟩ address tally new
  have received := received_appendCounted sound.consists present tally new
  have soundAfter := sound.appendCounted address tally new
  have opened := storedCoordinates_appendCounted_subset present tally new
  rw [succeeds] at channelsAfter received soundAfter opened
  refine {
    sound := soundAfter
    stored := ?_
    present := channelsAfter
    gained := ?_ }
  · intro coordinates stands
    rcases opened stands with before | ⟨channel, has, rfl⟩
    · exact stored before
    · exact named channel has
  · intro other
    have before := gained other
    have here : readingCount after other + (if address = other then tally.accepted else 0) =
        readingCount store other + if address = other then next.accepted else 0 :=
      readingCount_received noCollision sound stored named received
    omega

/-- The readings that a message counts as accepted are those that the store gains. -/
theorem readingCount_addReadings (noCollision : occur.InjOn Coordinates.hash) (sound : Sound store)
    (stored : storedCoordinates store ⊆ occur) {message : AddReadings}
    (named : namedCoordinates store (.addReadings message) ⊆ occur) {found : Device}
    (present : device store message.device = .ok found)
    (succeeds : (message.readings.foldlM (appendCounted message.device) ⟨0, 0, 0⟩).on store =
      (.ok tally, after)) :
    readingCount after other =
      readingCount store other + if message.device = other then tally.accepted else 0 := by
  have gathered := Operation.foldlM_of_ok
    (fun _ => Gathered occur message.device found.channels store) ?_ ?_ succeeds
  · exact gathered.gained other
  · intro done new member tally next before after gathered one
    apply gathered.append noCollision _ one
    intro channel listed
    exact named ⟨found, channel, new, member, present, listed, rfl⟩
  · exact {
      sound := sound
      stored := stored
      present := ⟨found, present, rfl⟩
      gained := by simp }

/-- Editing channels neither brings nor takes away readings. -/
theorem readingCount_updateChannels {updates : List ChannelUpdate} {edits : EditTally}
    (succeeds : (updates.foldlM (updateCounted address) ⟨0, 0, 0⟩).on store = (.ok edits, after)) :
    readingCount after other = readingCount store other := by
  have loop := Operation.foldlM_preserves
    (fun before => readingCount before other = readingCount store other) (updateCounted address)
    updates ?_ ⟨0, 0, 0⟩ rfl
  · rwa [succeeds] at loop
  · intro edits update _ before same
    rcases after_updateCounted address edits update before with unchanged | ⟨found, -, -, written⟩
    · rw [unchanged]
      exact same
    · rw [written, readingCount_put_device]
      exact same

end Registry

end DeviceRegistry
