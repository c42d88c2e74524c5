import Mathlib
import DeviceRegistry.Proofs.Registry.Atomicity
import DeviceRegistry.Registry.Transfer
/-!
# How the entry of a device comes about

Whatever a registry is asked to do, it writes to its store in three ways: it stores a device,
it stores a bucket, and it takes entries out. So what each of these writes preserves is
preserved by every operation, whether it succeeds or not.

This is used for the entry of a single device. An operation leaves it as it was, or takes it
out, or makes it the binary form of a device with an id and an owner. Nothing is assumed of
the other entries, which may be damaged, nor of what was stored at the address before.
-/

namespace DeviceRegistry

namespace Operation

variable {α β : Type} {holds : Store → Prop}

/-- What holds of a store before an operation holds after it, also where it fails. -/
def Preserves (holds : Store → Prop) (operation : Operation α) : Prop :=
  ∀ store, holds store → holds (operation.on store).2

theorem preserves_liftExcept (answer : Except RegistryError α) :
    Preserves holds (liftExcept answer : Operation α) := by
  intro store held
  simpa using held

theorem preserves_pure (value : α) : Preserves holds (pure value : Operation α) :=
  preserves_liftExcept (.ok value)

theorem preserves_throw (error : RegistryError) : Preserves holds (throw error : Operation α) :=
  preserves_liftExcept (.error error)

theorem preserves_ask (question : Store → Except RegistryError α) :
    Preserves holds (ask question) := by
  intro store held
  simpa using held

theorem Preserves.bind {operation : Operation α} {next : α → Operation β}
    (first : Preserves holds operation) (rest : ∀ value, Preserves holds (next value)) :
    Preserves holds (operation >>= next) := by
  intro store held
  have between := first store held
  rcases outcome : operation.on store with ⟨_ | value, middle⟩
  · rw [on_bind_of_error outcome]
    simpa [outcome] using between
  · rw [on_bind_of_ok outcome]
    apply rest value
    simpa [outcome] using between

theorem Preserves.bind_pure {operation : Operation α} (preserves : Preserves holds operation)
    (result : α → β) : Preserves holds (operation >>= fun value => pure (result value)) := by
  apply preserves.bind
  intro value
  exact preserves_pure _

theorem preserves_foldlM {body : β → α → Operation β}
    (each : ∀ tally item, Preserves holds (body tally item)) (items : List α) (tally : β) :
    Preserves holds (items.foldlM body tally) := by
  intro store held
  apply foldlM_preserves holds body items _ tally held
  intro tally item _
  exact each tally item

theorem preserves_forM {body : α → Operation Unit} (each : ∀ item, Preserves holds (body item))
    (items : List α) : Preserves holds (items.forM body) := by
  induction items with
  | nil => exact preserves_pure ()
  | cons first rest hypothesis =>
    apply (each first).bind
    intro done
    exact hypothesis

end Operation

namespace Registry

open Operation

/-! ## Writes and operations -/

/-- What is preserved when a device or a bucket is stored and when entries are taken out. -/
structure PreservedByWrites (holds : Store → Prop) : Prop where
  device : ∀ store address stored, address.isEmpty = false → stored.owner.isEmpty = false →
    holds store → holds (store.put (.device address) (placed address stored))
  bucket : ∀ store (stored : Bucket),
    holds store → holds (store.put (.bucket stored.hash) stored)
  deletion : ∀ store keys, holds store → holds (store.dropAll keys)

section Operations

variable {holds : Store → Prop} (preserved : PreservedByWrites holds)

include preserved

theorem preserves_saveDevice (address : Address) (stored : Device) :
    Preserves holds (saveDevice address stored) := by
  intro store held
  rcases after_saveDevice store address stored with unchanged | ⟨named, owned, written⟩
  · rw [unchanged]
    exact held
  · rw [written]
    exact preserved.device store address stored named owned held

theorem preserves_editDevice (address : Address) (edit : Device → Device) :
    Preserves holds (editDevice address edit) := by
  refine (preserves_ask _).bind ?_
  intro found
  exact preserves_saveDevice preserved address (edit found)

theorem preserves_deleteDevice (address : Address) : Preserves holds (deleteDevice address) := by
  intro store held
  cases present : device store address with
  | error error =>
    rw [on_deleteDevice_of_error present]
    exact held
  | ok found =>
    rw [on_deleteDevice present]
    exact preserved.deletion store (keysOf address found) held

theorem preserves_assignOwner (address owner : Address) :
    Preserves holds (assignOwner address owner) := by
  refine (preserves_ask _).bind ?_
  intro known
  cases known with
  | none => exact preserves_saveDevice preserved address (.new address owner)
  | some found => exact preserves_saveDevice preserved address { found with owner }

theorem preserves_saveBucket (stored : Bucket) : Preserves holds (saveBucket stored) := by
  intro store held
  rcases checked : checkBucket stored with fault | ⟨⟩
  · rw [on_saveBucket_of_fault store checked]
    exact held
  · rw [on_saveBucket store stored checked]
    exact preserved.bucket store stored held

theorem preserves_append (address : Address) (channelId : String) (instant : Int64)
    (reading : Reading) : Preserves holds (append address channelId instant reading) := by
  refine (preserves_ask _).bind ?_
  intro channel
  refine (preserves_ask _).bind ?_
  intro known
  simp only
  split
  · exact preserves_pure Appended.duplicate
  · apply (preserves_saveBucket preserved _).bind
    intro hash
    cases known with
    | none => exact (preserves_editDevice preserved address _).bind_pure _
    | some known => exact preserves_pure _

/-! ## Messages and imports -/

theorem preserves_updateCounted (address : Address) (tally : EditTally) (update : ChannelUpdate) :
    Preserves holds (updateCounted address tally update) := by
  unfold updateCounted
  split
  · exact (preserves_editDevice preserved address _).bind_pure _
  · exact (preserves_editDevice preserved address _).bind_pure _
  · exact preserves_pure _

theorem preserves_appendCounted (address : Address) (tally : Tally) (new : NewReading) :
    Preserves holds (appendCounted address tally new) := by
  intro store held
  rw [after_appendCounted]
  exact preserves_append preserved address new.channelId new.reading.instant new.reading store held

omit preserved in
theorem preserves_knownDevice (address : Address) : Preserves holds (knownDevice address) := by
  refine (preserves_ask _).bind ?_
  intro known
  cases known with
  | none => exact preserves_throw _
  | some found => exact preserves_pure found

theorem preserves_handleSetOwner (message : SetOwner) :
    Preserves holds (handleSetOwner message) := by
  refine (preserves_ask _).bind ?_
  intro known
  cases known with
  | none =>
    simp only
    split
    · exact preserves_throw _
    · exact (preserves_saveDevice preserved _ _).bind_pure _
  | some found =>
    simp only
    split
    · exact preserves_throw _
    · exact (preserves_assignOwner preserved message.device message.newOwner).bind_pure _

theorem preserves_handleUpdateChannels (message : UpdateChannels) :
    Preserves holds (handleUpdateChannels message) := by
  refine (preserves_knownDevice message.device).bind ?_
  intro found
  simp only
  split
  · exact preserves_throw _
  · apply Preserves.bind_pure
    exact preserves_foldlM (preserves_updateCounted preserved message.device) message.updates _

theorem preserves_handleAddReadings (message : AddReadings) :
    Preserves holds (handleAddReadings message) := by
  refine (preserves_knownDevice message.device).bind ?_
  intro found
  apply Preserves.bind_pure
  exact preserves_foldlM (preserves_appendCounted preserved message.device) message.readings _

theorem preserves_handleUnchecked (message : Message) :
    Preserves holds (handleUnchecked message) := by
  cases message with
  | setOwner message => exact preserves_handleSetOwner preserved message
  | updateChannels message => exact preserves_handleUpdateChannels preserved message
  | addReadings message => exact preserves_handleAddReadings preserved message

theorem preserves_importBucket (stored : Bucket) : Preserves holds (importBucket stored) := by
  apply (preserves_saveBucket preserved stored).bind
  intro hash
  refine (preserves_ask _).bind ?_
  intro listed
  split
  · exact preserves_editDevice preserved stored.device _
  · exact preserves_pure ()

theorem preserves_importGenesis (genesis : Genesis) : Preserves holds (importGenesis genesis) := by
  refine (preserves_liftExcept _).bind ?_
  intro checked
  refine (preserves_forM (fun stored => ?_) genesis.devices).bind fun written => ?_
  · exact preserves_saveDevice preserved stored.id stored
  · exact preserves_forM (preserves_importBucket preserved) genesis.buckets

theorem preserves_call {α : Type} (call : Call α) : Preserves holds call.operation := by
  cases call with
  | saveDevice address stored => exact preserves_saveDevice preserved address stored
  | deleteDevice address => exact preserves_deleteDevice preserved address
  | addChannel address channel => exact preserves_editDevice preserved address _
  | assignChannel address channel => exact preserves_editDevice preserved address _
  | removeChannel address channelId => exact preserves_editDevice preserved address _
  | assignOwner address owner => exact preserves_assignOwner preserved address owner
  | addBucketHash address hash => exact preserves_editDevice preserved address _
  | saveBucket stored => exact preserves_saveBucket preserved stored
  | append address channelId instant reading =>
    exact preserves_append preserved address channelId instant reading
  | appendOnItsDay address channelId reading =>
    exact preserves_append preserved address channelId reading.instant reading
  | setOwner message => exact preserves_handleSetOwner preserved message
  | updateChannels message => exact preserves_handleUpdateChannels preserved message

end Operations

/-- The operations of a registry that may write. -/
inductive Own : {α : Type} → Operation α → Prop
  | call {α : Type} (call : Call α) : Own call.operation
  /-- A message about readings, past its own check. It makes many changes, so it is no call. -/
  | addReadings (message : AddReadings) : Own (handleAddReadings message)
  | handle (message : Message) : Own (handle message)
  | importGenesis (genesis : Genesis) : Own (importGenesis genesis)

theorem Own.preserves {α : Type} {operation : Operation α} (own : Own operation)
    {holds : Store → Prop} (preserved : PreservedByWrites holds) : Preserves holds operation := by
  cases own with
  | call call => exact preserves_call preserved call
  | addReadings message => exact preserves_handleAddReadings preserved message
  | handle message =>
    refine (preserves_liftExcept _).bind ?_
    intro checked
    exact preserves_handleUnchecked preserved message
  | importGenesis genesis => exact preserves_importGenesis preserved genesis

/-! ## The entry of a device -/

/-- A device that can be stored at an address just as it is. -/
structure Storable (address : Address) (stored : Device) : Prop where
  addressed : address.isEmpty = false
  named : stored.id.isEmpty = false
  owned : stored.owner.isEmpty = false

theorem Storable.placed {address : Address} {stored : Device} (storable : Storable address stored) :
    placed address stored = stored := by
  simp [Registry.placed, storable.named]

theorem storable_placed {address : Address} {stored : Device} (addressed : address.isEmpty = false)
    (owned : stored.owner.isEmpty = false) : Storable address (placed address stored) where
  addressed
  named := by
    unfold placed
    split
    · exact addressed
    · rename_i named
      simpa using named
  owned

/-- If there is an entry at the address of a device, it is the binary form of one. -/
def InForm (address : Address) (store : Store) : Prop :=
  ∀ value, store.get? (StoreKey.device address).bytes = some value →
    ∃ stored : Device, value = Binary.Codec.encode stored ∧ Storable address stored

theorem preservedByWrites_entry (address : Address) (entry : Option Bytes) :
    PreservedByWrites fun store =>
      store.get? (StoreKey.device address).bytes = entry ∨ InForm address store := by
  -- A write elsewhere leaves the entry, and with it both sides of the disjunction.
  have elsewhere : ∀ {before after : Store},
      after.get? (StoreKey.device address).bytes = before.get? (StoreKey.device address).bytes →
      (before.get? (StoreKey.device address).bytes = entry ∨ InForm address before) →
        after.get? (StoreKey.device address).bytes = entry ∨ InForm address after := by
    intro before after same held
    simpa only [InForm, same] using held
  constructor
  · intro store other stored addressed owned held
    by_cases here : address = other
    · subst here
      right
      intro value stands
      rw [Store.get?_put_self] at stands
      cases stands
      exact ⟨_, rfl, storable_placed addressed owned⟩
    · apply elsewhere _ held
      apply Store.get?_put_of_ne
      simpa using here
  · intro store stored held
    apply elsewhere _ held
    apply Store.get?_put_of_ne
    simp
  · intro store keys held
    by_cases dropped : StoreKey.device address ∈ keys
    · right
      intro value stands
      simp [Store.get?_dropAll_key, dropped] at stands
    · apply elsewhere _ held
      simp [Store.get?_dropAll_key, dropped]

theorem Own.entry {α : Type} {operation : Operation α} (own : Own operation) (store : Store)
    (address : Address) :
    (operation.on store).2.get? (StoreKey.device address).bytes =
        store.get? (StoreKey.device address).bytes ∨ InForm address (operation.on store).2 :=
  own.preserves (preservedByWrites_entry address _) store (Or.inl rfl)

/-- An operation has changed the entry of a device, on whatever store, and others may follow. -/
inductive Maintained (address : Address) : Store → Prop
  | written {α : Type} {operation : Operation α} (own : Own operation) {store : Store}
      (changed : (operation.on store).2.get? (StoreKey.device address).bytes ≠
        store.get? (StoreKey.device address).bytes) :
      Maintained address (operation.on store).2
  | later {α : Type} {operation : Operation α} (own : Own operation) {store : Store}
      (maintained : Maintained address store) : Maintained address (operation.on store).2

theorem Maintained.inForm {address : Address} {store : Store}
    (maintained : Maintained address store) : InForm address store := by
  induction maintained with
  | written own changed => exact (own.entry _ _).resolve_left changed
  | @later _ _ own store _ hypothesis =>
    rcases own.entry store address with same | inForm
    · simpa only [InForm, same] using hypothesis
    · exact inForm

/-- Where a device is found, its entry is the binary form of what is found. -/
theorem InForm.of_device {address : Address} {store : Store} {found : Device}
    (inForm : InForm address store) (present : device store address = .ok found) :
    store.get? (StoreKey.device address).bytes = some (Binary.Codec.encode found) ∧
      Storable address found := by
  rcases entry : store.get? (StoreKey.device address).bytes with _ | value
  · rw [device_of_get?_eq_none entry] at present
    contradiction
  · rcases inForm value entry with ⟨stored, rfl, storable⟩
    rw [device_of_get?_eq_some entry, storable.owned] at present
    cases present
    exact ⟨rfl, storable⟩

end Registry

end DeviceRegistry
