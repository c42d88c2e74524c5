import Mathlib
import DeviceRegistry.Proofs.Outcomes
import DeviceRegistry.Proofs.Registry.Reading
import DeviceRegistry.Registry.Handle
/-!
# What each operation does

One equation for each operation on one device or one bucket, on any store: its result
and the store after it. Operations that write check what they write first, so a refusal
leaves the store as it was.

The first reading of a day makes two writes. The second one cannot fail: it stores a
device under an address that the bucket before it has been checked for, and it finds
that device as the operation found it.
-/

namespace DeviceRegistry.Registry

open Operation

variable {store : Store} {address : Address}

/-! ## Devices -/

theorem checkDevice_eq_ok {stored : Device} :
    checkDevice address stored = .ok () ↔
      address.isEmpty = false ∧ stored.owner.isEmpty = false := by
  unfold checkDevice
  split
  · simp_all
  · split <;> simp_all

theorem owner_of_device {found : Device} (present : device store address = .ok found) :
    found.owner.isEmpty = false := by
  rcases bind_eq_ok.mp present with ⟨_, _, decided⟩
  split at decided
  · split at decided
    · contradiction
    · rename_i owned
      cases decided
      simpa using owned
  · contradiction

theorem channel_eq_ok {channelId : String} {channel : Channel} :
    Registry.channel store address channelId = .ok channel ↔
      ∃ found, device store address = .ok found ∧ found.channel? channelId = some channel := by
  rw [Registry.channel, bind_eq_ok]
  apply exists_congr
  intro found
  apply and_congr_right
  intro _
  cases found.channel? channelId <;> simp [pure, Except.pure, throw, throwThe, MonadExceptOf.throw]

theorem channel_eq_channelNotFound {channelId : String} {found : Device}
    (present : device store address = .ok found) (missing : found.channel? channelId = none) :
    Registry.channel store address channelId = .error (.channelNotFound address channelId) := by
  simp only [Registry.channel, bind, Except.bind, present, missing]
  rfl

theorem on_saveDevice (store : Store) (stored : Device) (named : address.isEmpty = false)
    (owned : stored.owner.isEmpty = false) :
    (saveDevice address stored).on store =
      (.ok (), store.put (.device address) (placed address stored)) := by
  have checked := checkDevice_eq_ok.mpr ⟨named, owned⟩
  rw [saveDevice, on_bind, on_liftExcept, checked]
  rfl

theorem on_saveDevice_of_fault {stored : Device} {fault : RegistryError} (store : Store)
    (refused : checkDevice address stored = .error fault) :
    (saveDevice address stored).on store = (.error fault, store) := by
  rw [saveDevice, on_bind, on_liftExcept, refused]

theorem placed_of_id (stored : Device) (same : stored.id = address) :
    placed address stored = stored := by
  simp only [placed, ← same, ite_self]

@[simp]
theorem owner_placed (address : Address) (stored : Device) :
    (placed address stored).owner = stored.owner := rfl

@[simp]
theorem buckets_placed (address : Address) (stored : Device) :
    (placed address stored).buckets = stored.buckets := rfl

@[simp]
theorem channels_placed (address : Address) (stored : Device) :
    (placed address stored).channels = stored.channels := rfl

@[simp]
theorem name_placed (address : Address) (stored : Device) :
    (placed address stored).name = stored.name := rfl

theorem on_editDevice (edit : Device → Device) {found : Device}
    (present : device store address = .ok found) (named : address.isEmpty = false)
    (owned : (edit found).owner.isEmpty = false) :
    (editDevice address edit).on store =
      (.ok (), store.put (.device address) (placed address (edit found))) := by
  rw [editDevice, on_bind_ask, present]
  exact on_saveDevice store (edit found) named owned

theorem on_editDevice_of_error {edit : Device → Device} {error : RegistryError}
    (absent : device store address = .error error) :
    (editDevice address edit).on store = (.error error, store) := by
  rw [editDevice, on_bind_ask, absent]

/-- No device can be edited under the empty address. -/
theorem on_editDevice_of_unnamed {edit : Device → Device} {found : Device}
    (present : device store address = .ok found) (unnamed : address.isEmpty = true) :
    (editDevice address edit).on store = (.error (.invalidAddress .storedDevice), store) := by
  have refused : checkDevice address (edit found) = .error (.invalidAddress .storedDevice) := by
    rw [checkDevice, if_pos unnamed]
  rw [editDevice, on_bind_ask, present]
  exact on_saveDevice_of_fault store refused

/-- What a device and its buckets are stored under. -/
def keysOf (address : Address) (found : Device) : List StoreKey :=
  found.buckets.map .bucket ++ [.device address]

theorem on_deleteDevice {found : Device} (present : device store address = .ok found) :
    (deleteDevice address).on store = (.ok (), store.dropAll (keysOf address found)) := by
  rw [deleteDevice, on_bind_ask, present]
  simp only [on_modify, Store.dropAll, keysOf, List.map_append, List.map_map]
  rfl

theorem on_deleteDevice_of_error {error : RegistryError}
    (absent : device store address = .error error) :
    (deleteDevice address).on store = (.error error, store) := by
  rw [deleteDevice, on_bind_ask, absent]

/-! ## Buckets -/

theorem checkBucket_eq_ok {stored : Bucket} :
    checkBucket stored = .ok () ↔
      stored.device.isEmpty = false ∧ stored.channel.id.isEmpty = false := by
  unfold checkBucket
  split
  · simp_all
  · split <;> simp_all

/-- A new bucket of a device lacks at most the name of its channel. -/
theorem checkBucket_new {channel : Channel} {instant : Int64} (named : address.isEmpty = false) :
    checkBucket (.new address channel instant) =
      if channel.id = "" then .error (.invalidBucket (.noChannelId address)) else .ok () := by
  simp only [checkBucket, Bucket.new, named, Bool.false_eq_true, if_false, String.isEmpty_iff]

@[simp]
theorem hash_push (stored : Bucket) (reading : Reading) :
    (stored.push reading).hash = stored.hash := rfl

@[simp]
theorem checkBucket_push (stored : Bucket) (reading : Reading) :
    checkBucket (stored.push reading) = checkBucket stored := rfl

theorem on_saveBucket (store : Store) (stored : Bucket) (checked : checkBucket stored = .ok ()) :
    (saveBucket stored).on store = (.ok stored.hash, store.put (.bucket stored.hash) stored) := by
  rw [saveBucket, on_bind, on_liftExcept, checked]
  rfl

theorem on_saveBucket_of_fault {stored : Bucket} {fault : RegistryError} (store : Store)
    (refused : checkBucket stored = .error fault) :
    (saveBucket stored).on store = (.error fault, store) := by
  rw [saveBucket, on_bind, on_liftExcept, refused]

/-! ## Readings -/

section Append

variable {channelId : String} {instant : Int64} {reading : Reading} {channel : Channel}

theorem on_append_of_error {error : RegistryError}
    (missing : Registry.channel store address channelId = .error error) :
    (append address channelId instant reading).on store = (.error error, store) := by
  rw [append, on_bind_ask, missing]

theorem on_append_of_unreadable {error : RegistryError}
    (found : Registry.channel store address channelId = .ok channel)
    (unreadable : bucket? store (.ofDay address channel instant) = .error error) :
    (append address channelId instant reading).on store = (.error error, store) := by
  rw [append, on_bind_ask, found]
  simp only [on_bind_ask, unreadable]

theorem on_append_of_contains {known : Bucket}
    (found : Registry.channel store address channelId = .ok channel)
    (stored : bucket store (.ofDay address channel instant) = .ok known)
    (contained : known.contains reading.timestamp = true) :
    (append address channelId instant reading).on store = (.ok .duplicate, store) := by
  rw [append, on_bind_ask, found]
  simp only [on_bind_ask, bucket?_eq_ok_some.mpr stored, Option.getD_some, contained, if_true,
    on_pure]

/-- A reading is added to the bucket that is found, which keeps its own place. -/
theorem on_append_of_known {known : Bucket}
    (found : Registry.channel store address channelId = .ok channel)
    (stored : bucket store (.ofDay address channel instant) = .ok known)
    (fresh : known.contains reading.timestamp = false) :
    (append address channelId instant reading).on store =
      match checkBucket known with
      | .ok () => (.ok (.stored false), store.put (.bucket known.hash) (known.push reading))
      | .error fault => (.error fault, store) := by
  rw [append, on_bind_ask, found]
  simp only [on_bind_ask, bucket?_eq_ok_some.mpr stored, Option.getD_some, fresh,
    Bool.false_eq_true, if_false, Option.isNone_some]
  rcases checked : checkBucket known with fault | ⟨⟩
  · exact on_bind_of_error (on_saveBucket_of_fault store checked)
  · rw [on_bind_of_ok (on_saveBucket store (known.push reading) checked)]
    rfl

/-- The first reading of a day opens a bucket and lists it on the device. -/
theorem on_append_of_unknown {found : Device}
    (present : device store address = .ok found) (listed : found.channel? channelId = some channel)
    (unknown : bucket? store (.ofDay address channel instant) = .ok none) :
    (append address channelId instant reading).on store =
      match checkBucket (.new address channel instant) with
      | .ok () =>
        (.ok (.stored true),
          (store.put (.bucket (.ofDay address channel instant))
              ((Bucket.new address channel instant).push reading)).put
            (.device address)
            (placed address
              { found with buckets := found.buckets ++ [.ofDay address channel instant] }))
      | .error fault => (.error fault, store) := by
  have fresh : (Bucket.new address channel instant).contains reading.timestamp = false := rfl
  rw [append, on_bind_ask, channel_eq_ok.mpr ⟨found, present, listed⟩]
  simp only [on_bind_ask, unknown, Option.getD_none, fresh, Bool.false_eq_true, if_false,
    Option.isNone_none, if_true]
  rcases checked : checkBucket (.new address channel instant) with fault | ⟨⟩
  · exact on_bind_of_error (on_saveBucket_of_fault store checked)
  · have named := (checkBucket_eq_ok.mp checked).1
    have stillPresent : device (store.put (.bucket (.ofDay address channel instant))
        ((Bucket.new address channel instant).push reading)) address = .ok found := by
      rw [device_put_bucket, present]
    have owned := owner_of_device present
    rw [on_bind_of_ok (on_saveBucket store ((Bucket.new _ _ _).push reading) checked)]
    exact on_bind_of_ok (on_editDevice _ stillPresent named owned)

end Append

theorem on_appendCounted (store : Store) (address : Address) (tally : Tally) (new : NewReading) :
    (appendCounted address tally new).on store =
      match (appendOnItsDay address new.channelId new.reading).on store with
      | (.ok (.stored _), after) => (.ok { tally with accepted := tally.accepted + 1 }, after)
      | (.ok .duplicate, after) => (.ok { tally with duplicates := tally.duplicates + 1 }, after)
      | (.error (.channelNotFound _ _), after) =>
        (.ok { tally with skipped := tally.skipped + 1 }, after)
      | (.error error, after) => (.error error, after) := rfl

/-- What a tally becomes when a reading has been appended or not. -/
def Tally.after (tally : Tally) : Except RegistryError Appended → Except RegistryError Tally
  | .ok (.stored _) => .ok { tally with accepted := tally.accepted + 1 }
  | .ok .duplicate => .ok { tally with duplicates := tally.duplicates + 1 }
  | .error (.channelNotFound _ _) => .ok { tally with skipped := tally.skipped + 1 }
  | .error error => .error error

theorem on_appendCounted_eq_after (store : Store) (address : Address) (tally : Tally)
    (new : NewReading) :
    (appendCounted address tally new).on store =
      (tally.after ((appendOnItsDay address new.channelId new.reading).on store).1,
        ((appendOnItsDay address new.channelId new.reading).on store).2) := by
  rw [on_appendCounted]
  rcases (appendOnItsDay address new.channelId new.reading).on store with ⟨error | _ | _, after⟩
  · cases error <;> rfl
  · rfl
  · rfl

/-- A reading that names no channel of the device is passed over. -/
theorem on_appendCounted_of_missing {found : Device} {new : NewReading}
    (present : device store address = .ok found) (missing : found.channel? new.channelId = none)
    (tally : Tally) :
    (appendCounted address tally new).on store =
      (.ok { tally with skipped := tally.skipped + 1 }, store) := by
  rw [on_appendCounted, appendOnItsDay,
    on_append_of_error (channel_eq_channelNotFound present missing)]

/-! ## Messages -/

theorem requireAddress_eq_ok {role : AddressRole} :
    requireAddress address role = .ok () ↔ address.isEmpty = false := by
  unfold requireAddress
  split <;> simp_all

theorem setOwner_check_eq_ok {message : SetOwner} :
    message.check = .ok () ↔ message.device.isEmpty = false ∧ message.owner.isEmpty = false ∧
      message.newOwner.isEmpty = false := by
  simp only [SetOwner.check, checks_eq_ok, requireAddress_eq_ok]

theorem updateChannels_check_eq_ok {message : UpdateChannels} :
    message.check = .ok () ↔ message.device.isEmpty = false ∧ message.owner.isEmpty = false ∧
      message.updates ≠ [] := by
  simp only [UpdateChannels.check, checks_eq_ok, requireAddress_eq_ok]
  cases message.updates <;> simp [throw, throwThe, MonadExceptOf.throw, pure, Except.pure]

theorem on_assignOwner_of_present {found : Device} {owner : Address}
    (present : device store address = .ok found) (named : address.isEmpty = false)
    (owned : owner.isEmpty = false) :
    (assignOwner address owner).on store =
      (.ok (), store.put (.device address) (placed address { found with owner })) := by
  rw [assignOwner, on_bind_ask, device?_eq_ok_some.mpr present]
  exact on_saveDevice store { found with owner } named owned

theorem on_handleSetOwner {message : SetOwner} (store : Store) (checked : message.check = .ok ()) :
    (handleSetOwner message).on store =
      match device? store message.device with
      | .error error => (.error error, store)
      | .ok (some found) =>
        if found.owner = message.owner then
          (.ok (.ownerChanged message.device found.owner message.newOwner),
            store.put (.device message.device)
              (placed message.device { found with owner := message.newOwner }))
        else (.error (.unauthorized .notOwner), store)
      | .ok none =>
        if message.owner = message.device then
          (.ok (.deviceCreated message.device message.newOwner),
            store.put (.device message.device)
              { Device.new message.device message.newOwner with
                name :=
                  if message.name.isEmpty then message.device.text else message.name })
        else (.error (.unauthorized .notSelf), store) := by
  rcases setOwner_check_eq_ok.mp checked with ⟨named, -, owned⟩
  rw [handleSetOwner, on_bind_ask]
  rcases looked : device? store message.device with error | _ | found
  · rfl
  · by_cases self : message.owner = message.device
    · let stored : Device :=
        { Device.new message.device message.newOwner with
          name := if message.name.isEmpty then message.device.text else message.name }
      have written := on_saveDevice store stored named owned
      have ownId : stored.id = message.device := rfl
      rw [placed_of_id stored ownId] at written
      simp only [self, ne_eq, not_true_eq_false, if_false, if_true]
      exact on_bind_of_ok written
    · simp only [self, ne_eq, not_false_eq_true, if_true, if_false]
      rfl
  · have present := device?_eq_ok_some.mp looked
    by_cases same : found.owner = message.owner
    · simp only [same, ne_eq, not_true_eq_false, if_false, if_true]
      exact on_bind_of_ok (on_assignOwner_of_present present named owned)
    · simp only [same, ne_eq, not_false_eq_true, if_true, if_false]
      rfl

theorem on_knownDevice (store : Store) (address : Address) :
    (knownDevice address).on store =
      match device? store address with
      | .error error => (.error error, store)
      | .ok (some found) => (.ok found, store)
      | .ok none => (.error .unknownDevice, store) := by
  rw [knownDevice, on_bind_ask]
  rcases device? store address with _ | _ | _ <;> rfl

/-- The loop of a message that edits channels runs for the owner of the device alone. -/
theorem on_handleUpdateChannels (store : Store) (message : UpdateChannels) :
    (handleUpdateChannels message).on store =
      match device? store message.device with
      | .error error => (.error error, store)
      | .ok none => (.error .unknownDevice, store)
      | .ok (some found) =>
        if found.owner = message.owner then
          match (message.updates.foldlM (updateCounted message.device) ⟨0, 0, 0⟩).on store with
          | (.ok tally, after) =>
            (.ok (.channelsUpdated message.device tally.assigned tally.removed tally.ignored),
              after)
          | (.error error, after) => (.error error, after)
        else (.error (.unauthorized .notOwner), store) := by
  rw [handleUpdateChannels, on_bind, on_knownDevice]
  rcases device? store message.device with _ | _ | found
  · rfl
  · rfl
  · by_cases same : found.owner = message.owner
    · simp only [same, ne_eq, not_true_eq_false, if_false, if_true]
      rw [on_bind]
      rcases (message.updates.foldlM (updateCounted message.device) ⟨0, 0, 0⟩).on store with
        ⟨_ | _, _⟩ <;> rfl
    · simp only [same, ne_eq, not_false_eq_true, if_true, if_false]
      rfl

theorem on_handleAddReadings (store : Store) (message : AddReadings) :
    (handleAddReadings message).on store =
      match device? store message.device with
      | .error error => (.error error, store)
      | .ok none => (.error .unknownDevice, store)
      | .ok (some _) =>
        match (message.readings.foldlM (appendCounted message.device) ⟨0, 0, 0⟩).on store with
        | (.ok tally, after) =>
          (.ok (.readingsAdded message.device tally.accepted tally.duplicates tally.skipped), after)
        | (.error error, after) => (.error error, after) := by
  rw [handleAddReadings, on_bind, on_knownDevice]
  rcases device? store message.device with _ | _ | found
  · rfl
  · rfl
  · simp only [on_bind]
    rcases (message.readings.foldlM (appendCounted message.device) ⟨0, 0, 0⟩).on store with
      ⟨_ | _, _⟩ <;> rfl

/-- What a message about channels leaves behind is what its loop leaves, if the loop runs. -/
theorem after_handleUpdateChannels_eq (store : Store) (message : UpdateChannels) :
    ((handleUpdateChannels message).on store).2 = store ∨
      ∃ found, device store message.device = .ok found ∧ found.owner = message.owner ∧
        ((handleUpdateChannels message).on store).2 =
          ((message.updates.foldlM (updateCounted message.device) ⟨0, 0, 0⟩).on store).2 := by
  rw [on_handleUpdateChannels]
  rcases looked : device? store message.device with error | _ | found
  · exact Or.inl rfl
  · exact Or.inl rfl
  · by_cases same : found.owner = message.owner
    · refine Or.inr ⟨found, device?_eq_ok_some.mp looked, same, ?_⟩
      simp only [same, if_true]
      rcases (message.updates.foldlM (updateCounted message.device) ⟨0, 0, 0⟩).on store with
        ⟨_ | _, _⟩ <;> rfl
    · left
      simp only [same, if_false]

theorem after_handleAddReadings_eq (store : Store) (message : AddReadings) :
    ((handleAddReadings message).on store).2 = store ∨
      ∃ found, device store message.device = .ok found ∧
        ((handleAddReadings message).on store).2 =
          ((message.readings.foldlM (appendCounted message.device) ⟨0, 0, 0⟩).on store).2 := by
  rw [on_handleAddReadings]
  rcases looked : device? store message.device with error | _ | found
  · exact Or.inl rfl
  · exact Or.inl rfl
  · refine Or.inr ⟨found, device?_eq_ok_some.mp looked, ?_⟩
    simp only
    rcases (message.readings.foldlM (appendCounted message.device) ⟨0, 0, 0⟩).on store with
      ⟨_ | _, _⟩ <;> rfl

/-- A message that does not pass its own check changes nothing. -/
theorem on_handle (store : Store) (message : Message) :
    (handle message).on store =
      match message.check with
      | .ok () => (handleUnchecked message).on store
      | .error error => (.error error, store) := by
  rw [handle, on_bind, on_liftExcept]
  rcases message.check with _ | ⟨⟩ <;> rfl

end DeviceRegistry.Registry
