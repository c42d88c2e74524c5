import Mathlib
import DeviceRegistry.Proofs.Registry.Steps
/-!
# Coordinates that occur

The buckets of a store are those that it had before a message, and those that the
readings of the message name. So the coordinates that occur in a run are known from
what each message finds before it, and for given messages they can be listed.
-/

namespace DeviceRegistry.Registry

variable {store after : Store} {coordinates : Coordinates}

/-- A bucket that was not stored before a step has the coordinates of its reading. -/
theorem Step.stored_or_named {mark : Mark} (step : Step store mark after)
    (stands : coordinates ∈ storedCoordinates after) :
    coordinates ∈ storedCoordinates store ∨ mark = .reading coordinates := by
  rcases stands with ⟨hash, bucket, stored, rfl⟩
  cases step with
  | register => exact Or.inl ⟨hash, bucket, by rwa [bucket_put_device] at stored, rfl⟩
  | handOver => exact Or.inl ⟨hash, bucket, by rwa [bucket_put_device] at stored, rfl⟩
  | editChannels => exact Or.inl ⟨hash, bucket, by rwa [bucket_put_device] at stored, rfl⟩
  | extend present listed known =>
    rw [bucket_put_bucket] at stored
    split at stored
    · cases stored
      exact Or.inl ⟨_, _, known, rfl⟩
    · exact Or.inl ⟨hash, bucket, stored, rfl⟩
  | openBucket =>
    rw [bucket_put_device, bucket_put_bucket] at stored
    split at stored
    · cases stored
      exact Or.inr rfl
    · exact Or.inl ⟨hash, bucket, stored, rfl⟩

theorem Steps.stored_or_named {permitted : Mark → Prop} (steps : Steps permitted store after)
    (stands : coordinates ∈ storedCoordinates after) :
    coordinates ∈ storedCoordinates store ∨ permitted (.reading coordinates) := by
  refine steps.preserves
    (fun next => coordinates ∈ storedCoordinates next →
      coordinates ∈ storedCoordinates store ∨ permitted (.reading coordinates))
    (fun {_ mark _} allowed step hypothesis standsNext => ?_) Or.inl stands
  rcases step.stored_or_named standsNext with before | rfl
  · exact hypothesis before
  · exact Or.inr allowed

/-- A message opens buckets only where its readings name them. -/
theorem storedCoordinates_handle_subset (store : Store) (message : Message) :
    storedCoordinates ((handle message).on store).2 ⊆
      storedCoordinates store ∪ namedCoordinates store message :=
  fun _ stands => (steps_of_handle store message).stored_or_named stands

/-- A reading opens a bucket only for a channel that the device has. -/
theorem storedCoordinates_appendCounted_subset {address : Address} {found : Device}
    (present : device store address = .ok found) (tally : Tally) (new : NewReading) :
    storedCoordinates ((appendCounted address tally new).on store).2 ⊆
      storedCoordinates store ∪
        {coordinates | ∃ channel, found.channel? new.channelId = some channel ∧
          coordinates = .of address channel new.reading.instant} := by
  rw [after_appendCounted]
  rcases after_appendOnItsDay store address new.channelId new.reading with
    unchanged | ⟨same, channel, presentSame, has, step⟩
  · rw [unchanged]
    exact Set.subset_union_left
  · cases presentSame.symm.trans present
    intro coordinates stands
    rcases step.stored_or_named stands with before | mark
    · exact Or.inl before
    · cases mark
      exact Or.inr ⟨channel, has, rfl⟩

/-- The coordinates that occur while messages are carried out one after the other. -/
def occurring (store : Store) : List Message → Set Coordinates
  | [] => storedCoordinates store
  | message :: rest =>
    storedCoordinates store ∪ namedCoordinates store message ∪
      occurring ((handle message).on store).2 rest

theorem storedCoordinates_subset_occurring (store : Store) (messages : List Message) :
    storedCoordinates store ⊆ occurring store messages := by
  cases messages with
  | nil => exact subset_rfl
  | cons first rest => exact fun _ stands => Or.inl (Or.inl stands)

theorem storedCoordinates_empty : storedCoordinates .empty = ∅ := by
  refine Set.eq_empty_of_forall_notMem ?_
  rintro coordinates ⟨hash, bucket, stored, -⟩
  rw [bucket_of_get?_eq_none (Store.get?_empty _)] at stored
  contradiction

theorem storedCoordinates_of_quiet (nothing : storedCoordinates store = ∅) {message : Message}
    (unnamed : namedCoordinates store message = ∅) :
    storedCoordinates ((handle message).on store).2 = ∅ := by
  have after := storedCoordinates_handle_subset store message
  rwa [nothing, unnamed, Set.union_empty, Set.subset_empty_iff] at after

/-! ## Listing what occurs -/

/-- The coordinates of readings at the channels of a device. -/
def coordinatesOf (found : Device) (message : AddReadings) : List Coordinates :=
  message.readings.filterMap fun new =>
    (found.channel? new.channelId).map fun channel =>
      .of message.device channel new.reading.instant

theorem mem_coordinatesOf {message : AddReadings} {coordinates : Coordinates}
    (named : coordinates ∈ namedCoordinates store (.addReadings message)) {found : Device}
    (present : device store message.device = .ok found) :
    coordinates ∈ coordinatesOf found message := by
  rcases named with ⟨other, channel, new, member, presentToo, has, rfl⟩
  cases presentToo.symm.trans present
  rw [coordinatesOf, List.mem_filterMap]
  exact ⟨new, member, by simp [has]⟩

theorem injOn_of_listed {occur : Set Coordinates} (listed : List Coordinates)
    (complete : ∀ coordinates ∈ occur, coordinates ∈ listed)
    (distinct : (listed.dedup.map Coordinates.hash).Nodup) : occur.InjOn Coordinates.hash := by
  intro left named right namedToo
  have leftListed := List.mem_dedup.mpr (complete left named)
  have rightListed := List.mem_dedup.mpr (complete right namedToo)
  exact List.inj_on_of_nodup_map distinct leftListed rightListed

/-- The coordinates that a message names, one for each reading of a known channel. -/
def namedList (store : Store) : Message → List Coordinates
  | .addReadings message =>
    match device store message.device with
    | .ok found => coordinatesOf found message
    | .error _ => []
  | _ => []

theorem mem_namedList {message : Message} (named : coordinates ∈ namedCoordinates store message) :
    coordinates ∈ namedList store message := by
  cases message with
  | setOwner message => exact absurd named (Set.notMem_empty _)
  | updateChannels message => exact absurd named (Set.notMem_empty _)
  | addReadings message =>
    rcases id named with ⟨found, _, _, _, present, -⟩
    simp only [namedList, present]
    exact mem_coordinatesOf named present

/-- The coordinates that messages name while they are carried out one after the other. -/
def occurringList (store : Store) : List Message → List Coordinates
  | [] => []
  | message :: rest => namedList store message ++ occurringList ((handle message).on store).2 rest

/-- Whatever occurs was stored before or is named by one of the messages. -/
theorem stored_or_mem_occurringList {messages : List Message}
    (occurs : coordinates ∈ occurring store messages) :
    coordinates ∈ storedCoordinates store ∨ coordinates ∈ occurringList store messages := by
  induction messages generalizing store with
  | nil => exact Or.inl occurs
  | cons first rest hypothesis =>
    rw [occurringList, List.mem_append]
    rcases occurs with (stands | named) | later
    · exact Or.inl stands
    · exact Or.inr (Or.inl (mem_namedList named))
    · rcases hypothesis later with standsLater | listed
      · rcases storedCoordinates_handle_subset store first standsLater with stands | named
        · exact Or.inl stands
        · exact Or.inr (Or.inl (mem_namedList named))
      · exact Or.inr (Or.inr listed)

end DeviceRegistry.Registry
