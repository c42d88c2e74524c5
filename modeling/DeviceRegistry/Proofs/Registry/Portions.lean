import Mathlib
import DeviceRegistry.Proofs.Registry.Atomicity
import DeviceRegistry.Proofs.Registry.Growth
import DeviceRegistry.Proofs.Registry.Locality
/-!
# Each message writes its own part

All messages about a device write its whole entry anew. What they make of it is told apart
here: a message that sets the owner leaves everything but the owner, one that edits channels
leaves everything but the channels, and one that brings readings adds to the list of buckets.
Only a registration makes an entry where there was none.

So the channels of a device stay as they are unless a message edits them, and such a message
applies all of its updates one after the other, or fails and applies none.

Beyond the entry of its device a message writes to the buckets that its readings name, and no
message takes anything out.
-/

namespace DeviceRegistry.Registry

open Operation

variable {store after : Store} {address : Address} {found : Device}

/-- What a message may make of the entry of its device. -/
inductive Rewrites : Message → Option Device → Option Device → Prop
  | nothing (message : Message) (entry : Option Device) : Rewrites message entry entry
  | register (message : SetOwner) (name : String) :
    Rewrites (.setOwner message) none
      (some { Device.new message.device message.newOwner with name })
  | handOver (message : SetOwner) (found : Device) :
    Rewrites (.setOwner message) (some found) (some { found with owner := message.newOwner })
  | edit (message : UpdateChannels) (found : Device) (channels : List Channel) :
    Rewrites (.updateChannels message) (some found) (some { found with channels })
  | list (message : AddReadings) (found : Device) (opened : List BucketHash) :
    Rewrites (.addReadings message) (some found)
      (some { found with buckets := found.buckets ++ opened })

/-! ## The entry of the device -/

theorem device_put_placed (store : Store) {stored : Device} (idSame : stored.id = address)
    (owned : stored.owner.isEmpty = false) :
    device (store.put (.device address) (placed address stored)) address = .ok stored := by
  rw [placed_of_id stored idSame, device_put_device_self store owned]

theorem rewrites_handleSetOwner (covered : Covered store) {message : SetOwner}
    (checked : message.check = .ok ()) :
    Rewrites (.setOwner message) (device store message.device).toOption
      (device ((handleSetOwner message).on store).2 message.device).toOption := by
  have owned := (setOwner_check_eq_ok.mp checked).2.2
  rw [on_handleSetOwner store checked]
  rcases looked : device? store message.device with error | _ | found
  · exact .nothing _ _
  · by_cases self : message.owner = message.device
    · simp only [self, if_true]
      rw [device?_eq_ok_none.mp looked, device_put_device_self store (by exact owned)]
      exact .register message _
    · simp only [self, if_false]
      exact .nothing _ _
  · have present := device?_eq_ok_some.mp looked
    have idSame := (covered.consists.of_device present).2.1
    by_cases same : found.owner = message.owner
    · simp only [same, if_true]
      rw [present, device_put_placed store (by exact idSame) (by exact owned)]
      exact .handOver message found
    · simp only [same, if_false]
      exact .nothing _ _

theorem device_updateCounted (present : device store address = .ok found)
    (idSame : found.id = address) (tally : EditTally) (update : ChannelUpdate) :
    ∃ channels, device ((updateCounted address tally update).on store).2 address =
      .ok { found with channels } := by
  have owned := owner_of_device present
  rcases after_updateCounted address tally update store with
    unchanged | ⟨other, presentOther, -, written⟩
  · rw [unchanged]
    exact ⟨found.channels, present⟩
  · cases presentOther.symm.trans present
    rw [written, device_put_placed store (by exact idSame) (by exact owned)]
    exact ⟨_, rfl⟩

theorem rewrites_handleUpdateChannels (covered : Covered store) (message : UpdateChannels) :
    Rewrites (.updateChannels message) (device store message.device).toOption
      (device ((handleUpdateChannels message).on store).2 message.device).toOption := by
  rcases after_handleUpdateChannels_eq store message with unchanged | ⟨found, present, -, written⟩
  · rw [unchanged]
    exact .nothing _ _
  · have idSame := (covered.consists.of_device present).2.1
    have edited := foldlM_preserves
      (fun before => ∃ channels, device before message.device = .ok { found with channels })
      (updateCounted message.device) message.updates
      (fun tally update _ _ ⟨_, here⟩ => device_updateCounted here idSame tally update)
      ⟨0, 0, 0⟩ ⟨found.channels, present⟩
    rcases edited with ⟨channels, presentAfter⟩
    rw [written, present, presentAfter]
    exact .edit message found channels

/-- A reading makes its device list at most one more bucket. -/
theorem Arrival.device_eq {channelId : String} {instant : Int64} {reading : Reading}
    (arrival : Arrival store address channelId instant reading after)
    (present : device store address = .ok found) (idSame : found.id = address) :
    ∃ opened, device after address = .ok { found with buckets := found.buckets ++ opened } := by
  have owned := owner_of_device present
  cases arrival with
  | nothing => exact ⟨[], by simp [present]⟩
  | extended => exact ⟨[], by simp [present]⟩
  | @opened other channel presentOther =>
    cases presentOther.symm.trans present
    exact ⟨[.ofDay address channel instant],
      device_put_placed _ (by exact idSame) (by exact owned)⟩

theorem rewrites_handleAddReadings (covered : Covered store) (message : AddReadings) :
    Rewrites (.addReadings message) (device store message.device).toOption
      (device ((handleAddReadings message).on store).2 message.device).toOption := by
  rcases after_handleAddReadings_eq store message with unchanged | ⟨found, present, written⟩
  · rw [unchanged]
    exact .nothing _ _
  · have idSame := (covered.consists.of_device present).2.1
    have listed : ∃ opened, device ((handleAddReadings message).on store).2 message.device =
        .ok { found with buckets := found.buckets ++ opened } := by
      rw [written]
      apply foldlM_preserves fun before => ∃ opened,
        device before message.device = .ok { found with buckets := found.buckets ++ opened }
      · rintro tally new _ before ⟨opened, here⟩
        rw [after_appendCounted, appendOnItsDay]
        have arrival := arrival_of_append before message.device new.channelId
          new.reading.instant new.reading
        rcases arrival.device_eq here idSame with ⟨more, presentNext⟩
        exact ⟨opened ++ more, by simpa using presentNext⟩
      · exact ⟨[], by simp [present]⟩
    rcases listed with ⟨opened, presentAfter⟩
    rw [present, presentAfter]
    exact .list message found opened

theorem rewrites_handle (covered : Covered store) (message : Message) :
    Rewrites message (device store message.device).toOption
      (device ((handle message).on store).2 message.device).toOption := by
  rw [on_handle]
  rcases checked : message.check with error | ⟨⟩
  · exact .nothing _ _
  · cases message with
    | setOwner message => exact rewrites_handleSetOwner covered checked
    | updateChannels message => exact rewrites_handleUpdateChannels covered message
    | addReadings message => exact rewrites_handleAddReadings covered message

/-! ## The channels of a device -/

/-- The entry of a device is as it was unless the message is about that device. -/
theorem Covered.device_handle_elsewhere (covered : Covered store) {message : Message}
    (elsewhere : message.device ≠ address) :
    device ((Registry.handle message).on store).2 address = device store address := by
  have outside := (confined_handle covered message store (Set.eqOn_refl _ _)).2.2
  apply device_congr
  apply outside
  rintro (same | ⟨coordinates, -, same⟩)
  · have here : address = message.device := by simpa using StoreKey.bytes_injective same
    exact elsewhere here.symm
  · simpa using StoreKey.bytes_injective same

/-- A message that edits channels to its end has applied its updates one after the other. -/
theorem channels_handleUpdateChannels {message : UpdateChannels} {event : Event}
    (named : message.device.isEmpty = false)
    (succeeds : (handleUpdateChannels message).on store = (.ok event, after)) :
    ∃ found next, device store message.device = .ok found ∧
      device after message.device = .ok next ∧
      next.channels =
        message.updates.foldl (fun before update => update.apply before) found.channels := by
  rcases handleUpdateChannels_eq_ok succeeds with ⟨found, tally, present, -, loop, -⟩
  refine ⟨found, ?_⟩
  have done := Operation.foldlM_of_ok
    (fun done _ before => ∃ next, device before message.device = .ok next ∧
      next.channels = done.foldl (fun before update => update.apply before) found.channels)
    (fun done update _ tally next before later ⟨middle, presentMiddle, same⟩ succeedsHere => by
      rcases updateCounted_of_present presentMiddle named tally update with
        ⟨_, _, last, one, presentLast, applied⟩
      cases one.symm.trans succeedsHere
      refine ⟨last, presentLast, ?_⟩
      rw [applied, same, List.foldl_append]
      rfl)
    ⟨found, present, rfl⟩ loop
  rcases done with ⟨next, presentNext, same⟩
  exact ⟨next, present, presentNext, same⟩

/-- A message that edits channels applies all of its updates, or it fails and applies none. -/
theorem channels_of_edit {message : UpdateChannels}
    (present : device store message.device = .ok found) (named : message.device.isEmpty = false) :
    ∃ next, device ((handle (.updateChannels message)).on store).2 message.device = .ok next ∧
      (next.channels = found.channels ∨
        next.channels =
          message.updates.foldl (fun before update => update.apply before) found.channels) := by
  rcases outcome : (handle (.updateChannels message)).on store with ⟨error | event, after⟩
  · rw [on_handle] at outcome
    rcases checked : (Message.updateChannels message).check with fault | ⟨⟩
    · simp only [checked] at outcome
      cases outcome
      exact ⟨found, present, Or.inl rfl⟩
    · simp only [checked] at outcome
      obtain rfl : after = store := atomic_handleUpdateChannels message error after outcome
      exact ⟨found, present, Or.inl rfl⟩
  · rcases channels_handleUpdateChannels named (handle_eq_ok outcome).2 with
      ⟨known, next, presentKnown, presentNext, applied⟩
    cases presentKnown.symm.trans present
    exact ⟨next, presentNext, Or.inr applied⟩

theorem Rewrites.channels {message : Message} {next : Device}
    (rewrites : Rewrites message (some found) (some next)) :
    next.channels = found.channels ∨ ∃ edit, message = .updateChannels edit := by
  cases rewrites with
  | nothing => exact Or.inl rfl
  | handOver => exact Or.inl rfl
  | edit message => exact Or.inr ⟨message, rfl⟩
  | list => exact Or.inl rfl

/-- The channels of a registered device stay as they are, or a message edits them in turn. -/
theorem Covered.channels_handle (covered : Covered store) (message : Message)
    (present : device store address = .ok found) :
    ∃ next, device ((Registry.handle message).on store).2 address = .ok next ∧
      (next.channels = found.channels ∨
        ∃ edit, message = .updateChannels edit ∧ edit.device = address ∧
          next.channels =
            edit.updates.foldl (fun before update => update.apply before) found.channels) := by
  by_cases here : message.device = address
  · subst here
    rcases (covered.grows_handle message).device present with ⟨next, presentNext, -⟩
    have rewrites := rewrites_handle covered message
    rw [present, presentNext] at rewrites
    rcases rewrites.channels with same | ⟨edit, rfl⟩
    · exact ⟨next, presentNext, Or.inl same⟩
    · have named := (covered.consists.of_device present).2.2.1
      rcases channels_of_edit present named with ⟨last, presentLast, same | applied⟩
      · exact ⟨last, presentLast, Or.inl same⟩
      · exact ⟨last, presentLast, Or.inr ⟨edit, rfl, rfl, applied⟩⟩
  · exact ⟨found, (covered.device_handle_elsewhere here).trans present, Or.inl rfl⟩

/-! ## Bytes -/

theorem Covered.get?_device (covered : Covered store) (address : Address) :
    store.get? (StoreKey.device address).bytes =
      (device store address).toOption.map Binary.Codec.encode := by
  rcases covered.consists.device_cases address with ⟨found, present, entry, -⟩ | ⟨absent, entry⟩
  · simp [present, entry, Except.toOption]
  · simp [absent, entry, Except.toOption]

theorem Grows.exists_get? (grows : Grows store after) (covered : Covered store)
    (coveredAfter : Covered after) {bytes value : Bytes} (stands : store.get? bytes = some value) :
    ∃ next, after.get? bytes = some next := by
  rcases covered.consists.known stands with ⟨key, rfl⟩
  cases key with
  | device address =>
    rcases covered.consists.device_cases address with ⟨found, present, -⟩ | ⟨-, missing⟩
    · rcases grows.device present with ⟨next, presentNext, -⟩
      exact ⟨_, (coveredAfter.consists.of_device presentNext).1⟩
    · rw [missing] at stands
      contradiction
  | bucket hash =>
    rcases covered.consists.bucket_cases hash with ⟨found, there, -⟩ | ⟨-, missing⟩
    · rcases grows.bucket there with ⟨next, thereNext, -⟩
      exact ⟨_, (coveredAfter.consists.of_bucket thereNext).1⟩
    · rw [missing] at stands
      contradiction

/-! ## Main result -/

/-- What a message does to the bytes of a store. -/
structure KeepsToItsPart (message : Message) (store after : Store) : Prop where
  entry : ∃ before next : Option Device,
    store.get? (StoreKey.device message.device).bytes = before.map Binary.Codec.encode ∧
      after.get? (StoreKey.device message.device).bytes = next.map Binary.Codec.encode ∧
        Rewrites message before next
  /-- Any other key that is written is the one of a bucket that a reading names. -/
  buckets : ∀ bytes ≠ (StoreKey.device message.device).bytes, after.get? bytes ≠ store.get? bytes →
    ∃ coordinates ∈ namedCoordinates store message,
      bytes = (StoreKey.bucket coordinates.hash).bytes
  kept : ∀ bytes value, store.get? bytes = some value → ∃ next, after.get? bytes = some next

theorem keepsToItsPart_of_handle (reached : Reached store) (message : Message) :
    KeepsToItsPart message store ((handle message).on store).2 := by
  have covered := reached.covered
  have coveredAfter := covered.handle message
  constructor
  · refine ⟨_, _, covered.get?_device message.device, ?_, rewrites_handle covered message⟩
    exact coveredAfter.get?_device message.device
  · intro bytes notEntry changed
    by_contra unnamed
    apply changed
    have outside := (confined_handle covered message store (Set.eqOn_refl _ _)).2.2
    apply outside
    rintro (entry | ⟨coordinates, named, rfl⟩)
    · exact notEntry entry
    · exact unnamed ⟨coordinates, named, rfl⟩
  · intro bytes value stands
    have grows := covered.grows_handle message
    exact grows.exists_get? covered coveredAfter stands

/-- The message fails after its first reading, which opens a bucket. -/
theorem keepsToItsPart_neighbours :
    Reached neighbours ∧
      ((handle (.addReadings ⟨⟨[1]⟩, [.new "a" 86400 ⟨0⟩, .new "" 86400 ⟨0⟩]⟩)).on
          neighbours).1 = .error (.invalidBucket (.noChannelId ⟨[1]⟩)) ∧
        KeepsToItsPart (.addReadings ⟨⟨[1]⟩, [.new "a" 86400 ⟨0⟩, .new "" 86400 ⟨0⟩]⟩) neighbours
          ((handle (.addReadings ⟨⟨[1]⟩, [.new "a" 86400 ⟨0⟩, .new "" 86400 ⟨0⟩]⟩)).on
            neighbours).2 := by
  have reached : Reached neighbours := Reached.empty.foldl _
  exact ⟨reached, by decide +kernel, keepsToItsPart_of_handle reached _⟩

end DeviceRegistry.Registry
