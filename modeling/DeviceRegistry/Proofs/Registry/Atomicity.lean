import Mathlib
import DeviceRegistry.Proofs.Registry.Requests
/-!
# Single operations are carried out as a whole

An operation that fails must not have written anything. Most operations look at the store,
check what they are about to write, and write once. Two write more than once, and there it
has to be shown that nothing fails after the first write, on any store, damaged or not.

The first reading of a day is written to its bucket and then the bucket is listed on the
device. The edits of a message are written one by one. On a named device none of them can
fail; under the empty address none of them can write.

A message with several readings is no such operation: each of its readings is one.
-/

namespace DeviceRegistry

namespace Operation

variable {α β : Type} {store : Store}

/-- From a store on, an operation that fails leaves the store as it was. -/
def Atomic (operation : Operation α) (store : Store) : Prop :=
  ∀ error after, operation.on store = (.error error, after) → after = store

/-- From a store on, an operation does not fail. -/
def Succeeds (operation : Operation α) (store : Store) : Prop :=
  ∃ value after, operation.on store = (.ok value, after)

theorem Succeeds.atomic {operation : Operation α} (succeeds : operation.Succeeds store) :
    operation.Atomic store := by
  intro error after fails
  rcases succeeds with ⟨value, last, outcome⟩
  cases outcome.symm.trans fails

theorem atomic_liftExcept (answer : Except RegistryError α) :
    (liftExcept answer : Operation α).Atomic store := by
  intro error after fails
  rw [on_liftExcept] at fails
  exact (congrArg Prod.snd fails).symm

theorem atomic_throw (error : RegistryError) : (throw error : Operation α).Atomic store :=
  atomic_liftExcept (.error error)

theorem atomic_pure (value : α) : (pure value : Operation α).Atomic store :=
  atomic_liftExcept (.ok value)

/-- Nothing is written by a question, so what follows it may still fail. -/
theorem atomic_bind_ask {question : Store → Except RegistryError α} {next : α → Operation β}
    (rest : ∀ value, question store = .ok value → (next value).Atomic store) :
    (ask question >>= next).Atomic store := by
  intro error after fails
  rw [on_bind_ask] at fails
  rcases asked : question store with refusal | value
  · simp only [asked] at fails
    exact (congrArg Prod.snd fails).symm
  · simp only [asked] at fails
    exact rest value asked error after fails

/-- What follows an operation that may have written must not fail any more. -/
theorem Atomic.bind {operation : Operation α} {next : α → Operation β}
    (first : operation.Atomic store)
    (rest : ∀ value after, operation.on store = (.ok value, after) →
      (next value).Succeeds after) :
    (operation >>= next).Atomic store := by
  intro error after fails
  rcases outcome : operation.on store with ⟨refusal | value, middle⟩
  · rw [on_bind_of_error outcome] at fails
    obtain rfl : middle = after := congrArg Prod.snd fails
    exact first refusal middle outcome
  · rw [on_bind_of_ok outcome] at fails
    rcases rest value middle outcome with ⟨result, last, succeeds⟩
    cases succeeds.symm.trans fails

theorem Atomic.bind_pure {operation : Operation α} (atomic : operation.Atomic store)
    (result : α → β) : (operation >>= fun value => pure (result value)).Atomic store :=
  atomic.bind fun _ _ _ => ⟨_, _, rfl⟩

end Operation

namespace Registry

open Operation

variable {store : Store} {address : Address}

/-! ## Devices and buckets -/

theorem atomic_saveDevice (stored : Device) : (saveDevice address stored).Atomic store := by
  apply (atomic_liftExcept (checkDevice address stored)).bind
  intro checked after _
  exact ⟨_, _, on_write _ _ _⟩

theorem atomic_editDevice (edit : Device → Device) : (editDevice address edit).Atomic store := by
  apply atomic_bind_ask
  intro found _
  exact atomic_saveDevice (edit found)

theorem atomic_deleteDevice : (deleteDevice address).Atomic store := by
  apply atomic_bind_ask
  intro found _
  exact Succeeds.atomic ⟨_, _, on_modify _ _⟩

theorem atomic_assignOwner (owner : Address) : (assignOwner address owner).Atomic store := by
  apply atomic_bind_ask
  intro known _
  cases known with
  | none => exact atomic_saveDevice (.new address owner)
  | some found => exact atomic_saveDevice { found with owner }

theorem atomic_saveBucket (stored : Bucket) : (saveBucket stored).Atomic store := by
  apply (atomic_liftExcept (checkBucket stored)).bind
  intro checked after _
  exact ⟨_, _, on_bind_of_ok (on_write _ _ _)⟩

/-- A bucket that could be stored has a named device, which can then be stored as well. -/
theorem succeeds_addBucketHash {bucket : Bucket} {found : Device} {hash : BucketHash}
    {after : Store} (present : device store bucket.device = .ok found)
    (saved : (saveBucket bucket).on store = (.ok hash, after)) (listed : BucketHash) :
    (addBucketHash bucket.device listed).Succeeds after := by
  rcases checked : checkBucket bucket with fault | ⟨⟩
  · rw [on_saveBucket_of_fault store checked] at saved
    cases saved
  · have named := (checkBucket_eq_ok.mp checked).1
    rw [on_saveBucket store bucket checked] at saved
    cases saved
    have stillPresent : device (store.put (.bucket bucket.hash) bucket) bucket.device =
        .ok found := by
      rw [device_put_bucket, present]
    have owned := owner_of_device present
    exact ⟨_, _, on_editDevice _ stillPresent named owned⟩

theorem atomic_append (channelId : String) (instant : Int64) (reading : Reading) :
    (append address channelId instant reading).Atomic store := by
  apply atomic_bind_ask
  intro channel looked
  rcases channel_eq_ok.mp looked with ⟨found, present, -⟩
  apply atomic_bind_ask
  intro known _
  simp only
  split
  · exact atomic_pure Appended.duplicate
  · apply (atomic_saveBucket _).bind
    intro hash after saved
    cases known with
    | none =>
      rcases succeeds_addBucketHash present saved (.ofDay address channel instant) with
        ⟨_, last, listed⟩
      exact ⟨_, last, on_bind_of_ok listed⟩
    | some known => exact ⟨_, _, rfl⟩

/-! ## Messages -/

theorem atomic_handleSetOwner (message : SetOwner) : (handleSetOwner message).Atomic store := by
  apply atomic_bind_ask
  intro known _
  cases known with
  | none =>
    simp only
    split
    · exact atomic_throw _
    · exact (atomic_saveDevice _).bind_pure _
  | some found =>
    simp only
    split
    · exact atomic_throw _
    · exact (atomic_assignOwner message.newOwner).bind_pure _

/-- A named device stays registered from one edit to the next, so all of them succeed. -/
theorem succeeds_updates {found : Device} (present : device store address = .ok found)
    (named : address.isEmpty = false) (tally : EditTally) (updates : List ChannelUpdate) :
    (updates.foldlM (updateCounted address) tally).Succeeds store := by
  induction updates generalizing store found tally with
  | nil => exact ⟨tally, store, rfl⟩
  | cons first rest hypothesis =>
    rcases updateCounted_of_present present named tally first with
      ⟨next, middle, later, done, presentLater, -⟩
    rcases hypothesis presentLater next with ⟨last, after, others⟩
    rw [List.foldlM_cons]
    exact ⟨last, after, (on_bind_of_ok done).trans others⟩

/-- Under the empty address an edit is passed over or refused, and nothing is written. -/
theorem after_updates_of_unnamed (unnamed : address.isEmpty = true) (tally : EditTally)
    (updates : List ChannelUpdate) :
    ((updates.foldlM (updateCounted address) tally).on store).2 = store := by
  apply foldlM_preserves (fun before => before = store)
  · rintro tally update _ before rfl
    rcases after_updateCounted address tally update before with same | ⟨_, _, named, _⟩
    · exact same
    · rw [unnamed] at named
      contradiction
  · rfl

theorem atomic_handleUpdateChannels (message : UpdateChannels) :
    (handleUpdateChannels message).Atomic store := by
  intro error after fails
  rcases after_handleUpdateChannels_eq store message with same | ⟨found, present, owns, loop⟩
  · rw [fails] at same
    exact same
  · cases named : message.device.isEmpty with
    | true =>
      rw [after_updates_of_unnamed named, fails] at loop
      exact loop
    | false =>
      rcases succeeds_updates present named ⟨0, 0, 0⟩ message.updates with ⟨tally, last, edited⟩
      rw [on_handleUpdateChannels, device?_eq_ok_some.mpr present] at fails
      simp [owns, edited] at fails

/-! ## Main result -/

/-- A call that fails has changed nothing, whatever the store holds. -/
theorem unchanged_of_failed_call {α : Type} (call : Call α) {store after : Store}
    {error : RegistryError} (fails : call.operation.on store = (.error error, after)) :
    after = store := by
  suffices atomic : call.operation.Atomic store from atomic error after fails
  cases call with
  | saveDevice address stored => exact atomic_saveDevice stored
  | deleteDevice address => exact atomic_deleteDevice
  | addChannel address channel => exact atomic_editDevice _
  | assignChannel address channel => exact atomic_editDevice _
  | removeChannel address channelId => exact atomic_editDevice _
  | assignOwner address owner => exact atomic_assignOwner owner
  | addBucketHash address hash => exact atomic_editDevice _
  | saveBucket stored => exact atomic_saveBucket stored
  | append address channelId instant reading => exact atomic_append channelId instant reading
  | appendOnItsDay address channelId reading =>
    exact atomic_append channelId reading.instant reading
  | setOwner message => exact atomic_handleSetOwner message
  | updateChannels message => exact atomic_handleUpdateChannels message

/-- A device under the empty address, and a bucket that is no more than one byte. -/
def damagedStore : Store :=
  (Store.empty.put (.device .empty) (Device.new ⟨[1]⟩ ⟨[9]⟩)).insert
    (StoreKey.bucket (.ofDay ⟨[1]⟩ ⟨"a", "temperature"⟩ 86400)).bytes [7]

/-- Edits of the device under the empty address: one is passed over, the next is refused. -/
def unnamedUpdate : UpdateChannels :=
  ⟨⟨[9]⟩, .empty, [⟨"rename", "a", ""⟩, .assign "a" "temperature"]⟩

theorem unchanged_damagedStore :
    ((handleUpdateChannels unnamedUpdate).on damagedStore).1 =
      .error (.invalidAddress .storedDevice) ∧
    ((handleUpdateChannels unnamedUpdate).on damagedStore).2 = damagedStore := by
  have refused : ((handleUpdateChannels unnamedUpdate).on damagedStore).1 =
      .error (.invalidAddress .storedDevice) := by decide +kernel
  refine ⟨refused, ?_⟩
  exact unchanged_of_failed_call (.updateChannels unnamedUpdate) (Prod.ext refused rfl)

end Registry

end DeviceRegistry
