import Mathlib
import DeviceRegistry.Proofs.Channels
import DeviceRegistry.Proofs.Registry.Coordinates
import DeviceRegistry.Proofs.Registry.Operations
/-!
# The steps of a message

Whatever a message does to a store is a sequence of small steps of five kinds. Each kind
says what it found in the store and what it writes there, and it carries a mark: which
entry is written and by whose authority, or at which coordinates a reading arrives.

The lemmas at the end take every message apart into steps whose marks the message
permits. They hold on every store and also where the message fails half way, so what is
shown of a single step holds of all messages.
-/

namespace DeviceRegistry.Registry

open Operation

/-- What a step writes, and on what grounds. -/
inductive Mark where
  /-- The owner or the channels of a device are written by an authority. -/
  | entry (address authority : Address)
  /-- A reading arrives at coordinates. -/
  | reading (coordinates : Coordinates)
deriving DecidableEq, Repr

/-- Who answers for a step: a reading comes from the device itself. -/
def Mark.authority : Mark → Address
  | .entry _ authority => authority
  | .reading coordinates => coordinates.device

/-- A smallest change of a store by a message. -/
inductive Step (store : Store) : Mark → Store → Prop
  /-- A device registers itself. -/
  | register {address owner : Address} (name : String)
      (absent : device store address = .error (.deviceNotFound address))
      (named : address.isEmpty = false) (owned : owner.isEmpty = false) :
      Step store (.entry address address)
        (store.put (.device address) { Device.new address owner with name })
  /-- The owner of a device gives it away. -/
  | handOver {address owner : Address} {found : Device}
      (present : device store address = .ok found)
      (named : address.isEmpty = false) (owned : owner.isEmpty = false) :
      Step store (.entry address found.owner)
        (store.put (.device address) (placed address { found with owner }))
  /-- The owner of a device edits its channels. -/
  | editChannels {address : Address} {found : Device} (update : ChannelUpdate)
      (present : device store address = .ok found) (named : address.isEmpty = false) :
      Step store (.entry address found.owner)
        (store.put (.device address)
          (placed address { found with channels := update.apply found.channels }))
  /-- A reading is added to a bucket that is there already. -/
  | extend {address : Address} {channelId : String} {channel : Channel} {reading : Reading}
      {found : Device} {known : Bucket}
      (present : device store address = .ok found)
      (listed : found.channel? channelId = some channel)
      (stored : bucket store (.ofDay address channel reading.instant) = .ok known)
      (fresh : known.contains reading.timestamp = false)
      (checked : checkBucket known = .ok ()) :
      Step store (.reading (.of address channel reading.instant))
        (store.put (.bucket known.hash) (known.push reading))
  /-- A reading opens a bucket, which is listed on the device. -/
  | openBucket {address : Address} {channelId : String} {channel : Channel} {reading : Reading}
      {found : Device}
      (present : device store address = .ok found)
      (listed : found.channel? channelId = some channel)
      (unknown : bucket store (.ofDay address channel reading.instant) =
        .error (.bucketNotFound (.ofDay address channel reading.instant)))
      (named : address.isEmpty = false) (channelNamed : channel.id.isEmpty = false) :
      Step store (.reading (.of address channel reading.instant))
        ((store.put (.bucket (.ofDay address channel reading.instant))
            ((Bucket.new address channel reading.instant).push reading)).put
          (.device address)
          (placed address
            { found with
              buckets := found.buckets ++ [.ofDay address channel reading.instant] }))

/-- Steps one after the other, all with marks that are permitted. -/
def Steps (permitted : Mark → Prop) : Store → Store → Prop :=
  Relation.ReflTransGen fun store after => ∃ mark, permitted mark ∧ Step store mark after

variable {store : Store} {address : Address} {permitted : Mark → Prop}

theorem Steps.refl (store : Store) : Steps permitted store store :=
  Relation.ReflTransGen.refl

theorem Steps.trans {middle after : Store} (first : Steps permitted store middle)
    (second : Steps permitted middle after) : Steps permitted store after :=
  Relation.ReflTransGen.trans first second

theorem Step.steps {mark : Mark} {after : Store} (step : Step store mark after)
    (allowed : permitted mark) : Steps permitted store after :=
  Relation.ReflTransGen.single ⟨mark, allowed, step⟩

theorem Steps.mono {other : Mark → Prop} {after : Store} (steps : Steps permitted store after)
    (weaker : ∀ mark, permitted mark → other mark) : Steps other store after :=
  Relation.ReflTransGen.mono
    (fun _ _ ⟨mark, allowed, step⟩ => ⟨mark, weaker mark allowed, step⟩) _ _ steps

theorem Steps.preserves {after : Store} (steps : Steps permitted store after)
    (holds : Store → Prop)
    (preserves : ∀ {before mark next}, permitted mark → Step before mark next → holds before →
      holds next)
    (start : holds store) : holds after := by
  induction steps with
  | refl => exact start
  | tail _ last hypothesis =>
    rcases last with ⟨mark, allowed, step⟩
    exact preserves allowed step hypothesis

/-! ## Operations as steps -/

theorem after_saveDevice (store : Store) (address : Address) (stored : Device) :
    ((saveDevice address stored).on store).2 = store ∨
      address.isEmpty = false ∧ stored.owner.isEmpty = false ∧
        ((saveDevice address stored).on store).2 =
          store.put (.device address) (placed address stored) := by
  rcases checked : checkDevice address stored with fault | ⟨⟩
  · left
    rw [on_saveDevice_of_fault store checked]
  · right
    rcases checkDevice_eq_ok.mp checked with ⟨named, owned⟩
    exact ⟨named, owned, by rw [on_saveDevice store stored named owned]⟩

theorem after_editDevice (edit : Device → Device)
    (keepsOwner : ∀ found, (edit found).owner = found.owner) (store : Store) (address : Address) :
    ((editDevice address edit).on store).2 = store ∨
      ∃ found, device store address = .ok found ∧ address.isEmpty = false ∧
        ((editDevice address edit).on store).2 =
          store.put (.device address) (placed address (edit found)) := by
  cases present : device store address with
  | error error =>
    left
    rw [on_editDevice_of_error present]
  | ok found =>
    cases named : address.isEmpty with
    | true =>
      left
      rw [on_editDevice_of_unnamed present named]
    | false =>
      right
      have owned : (edit found).owner.isEmpty = false := by
        rw [keepsOwner, owner_of_device present]
      exact ⟨found, rfl, rfl, by rw [on_editDevice edit present named owned]⟩

/-- What may become of a store when a reading arrives for an instant. -/
inductive Arrival (store : Store) (address : Address) (channelId : String) (instant : Int64)
    (reading : Reading) : Store → Prop
  | nothing : Arrival store address channelId instant reading store
  | extended {found : Device} {channel : Channel} {known : Bucket}
      (present : device store address = .ok found)
      (listed : found.channel? channelId = some channel)
      (stored : bucket store (.ofDay address channel instant) = .ok known)
      (fresh : known.contains reading.timestamp = false)
      (checked : checkBucket known = .ok ()) :
      Arrival store address channelId instant reading
        (store.put (.bucket known.hash) (known.push reading))
  | opened {found : Device} {channel : Channel}
      (present : device store address = .ok found)
      (listed : found.channel? channelId = some channel)
      (unknown : bucket store (.ofDay address channel instant) =
        .error (.bucketNotFound (.ofDay address channel instant)))
      (named : address.isEmpty = false) (channelNamed : channel.id.isEmpty = false) :
      Arrival store address channelId instant reading
        ((store.put (.bucket (.ofDay address channel instant))
            ((Bucket.new address channel instant).push reading)).put
          (.device address)
          (placed address
            { found with buckets := found.buckets ++ [.ofDay address channel instant] }))

theorem arrival_of_append (store : Store) (address : Address) (channelId : String)
    (instant : Int64) (reading : Reading) :
    Arrival store address channelId instant reading
      ((append address channelId instant reading).on store).2 := by
  cases looked : channel store address channelId with
  | error error =>
    rw [on_append_of_error looked]
    exact .nothing
  | ok channel =>
    rcases channel_eq_ok.mp looked with ⟨found, present, listed⟩
    rcases asked : bucket? store (.ofDay address channel instant) with error | _ | known
    · rw [on_append_of_unreadable looked asked]
      exact .nothing
    · rw [on_append_of_unknown present listed asked]
      rcases checked : checkBucket (.new address channel instant) with fault | ⟨⟩
      · exact .nothing
      · rcases checkBucket_eq_ok.mp checked with ⟨named, channelNamed⟩
        exact .opened present listed (bucket?_eq_ok_none.mp asked) named channelNamed
    · have stored := bucket?_eq_ok_some.mp asked
      cases fresh : known.contains reading.timestamp with
      | true =>
        rw [on_append_of_contains looked stored fresh]
        exact .nothing
      | false =>
        rw [on_append_of_known looked stored fresh]
        rcases checked : checkBucket known with fault | ⟨⟩
        · exact .nothing
        · exact .extended present listed stored fresh checked

theorem after_appendOnItsDay (store : Store) (address : Address) (channelId : String)
    (reading : Reading) :
    ((appendOnItsDay address channelId reading).on store).2 = store ∨
      ∃ found channel, device store address = .ok found ∧
        found.channel? channelId = some channel ∧
        Step store (.reading (.of address channel reading.instant))
          ((appendOnItsDay address channelId reading).on store).2 := by
  have arrival := arrival_of_append store address channelId reading.instant reading
  rw [appendOnItsDay]
  generalize ((append address channelId reading.instant reading).on store).2 = after at arrival ⊢
  cases arrival with
  | nothing => exact Or.inl rfl
  | extended present listed stored fresh checked =>
    exact Or.inr ⟨_, _, present, listed, .extend present listed stored fresh checked⟩
  | opened present listed unknown named channelNamed =>
    exact Or.inr ⟨_, _, present, listed, .openBucket present listed unknown named channelNamed⟩

theorem after_assignOwner (store : Store) (address owner : Address) :
    ((assignOwner address owner).on store).2 = store ∨
      ∃ authority, Step store (.entry address authority)
        ((assignOwner address owner).on store).2 := by
  rw [assignOwner, on_bind_ask]
  rcases looked : device? store address with error | _ | found
  · exact Or.inl rfl
  · rcases after_saveDevice store address (.new address owner) with same | ⟨named, owned, written⟩
    · exact Or.inl same
    · refine Or.inr ⟨address, ?_⟩
      have ownId : (Device.new address owner).id = address := rfl
      rw [placed_of_id _ ownId] at written
      simp only [written]
      exact .register address.text (device?_eq_ok_none.mp looked) named owned
  · rcases after_saveDevice store address { found with owner } with same | ⟨named, owned, written⟩
    · exact Or.inl same
    · refine Or.inr ⟨found.owner, ?_⟩
      simp only [written]
      exact .handOver (device?_eq_ok_some.mp looked) named owned

/-! ## Messages as steps -/

/-- What a message may do: a reading arrives only where the message names it. -/
def permits (store : Store) (message : Message) : Mark → Prop
  | .entry address authority => address = message.device ∧ authority ∈ message.signers
  | .reading coordinates => coordinates ∈ namedCoordinates store message

theorem after_handleSetOwner (store : Store) (message : SetOwner) :
    Steps (permits store (.setOwner message)) store ((handleSetOwner message).on store).2 := by
  rw [handleSetOwner, on_bind_ask]
  rcases looked : device? store message.device with error | _ | found
  · exact .refl store
  · by_cases self : message.owner = message.device
    · let stored : Device :=
        { Device.new message.device message.newOwner with
          name := if message.name.isEmpty then message.device.text else message.name }
      have ownId : stored.id = message.device := rfl
      simp only [self, ne_eq, not_true_eq_false, if_false, after_bind_pure]
      change Steps _ store ((saveDevice message.device stored).on store).2
      rcases after_saveDevice store message.device stored with same | ⟨named, owned, written⟩
      · rw [same]
        exact .refl store
      · rw [written, placed_of_id stored ownId]
        refine Step.steps (.register _ (device?_eq_ok_none.mp looked) named owned) ⟨rfl, ?_⟩
        exact List.mem_singleton.mpr self.symm
    · simp only [self, ne_eq, not_false_eq_true, if_true]
      exact .refl store
  · by_cases same : found.owner = message.owner
    · simp only [same, ne_eq, not_true_eq_false, if_false, after_bind_pure]
      rw [assignOwner, on_bind_ask, looked]
      change Steps _ store
        ((saveDevice message.device { found with owner := message.newOwner }).on store).2
      rcases after_saveDevice store message.device { found with owner := message.newOwner } with
        unchanged | ⟨named, owned, written⟩
      · rw [unchanged]
        exact .refl store
      · rw [written]
        refine Step.steps (.handOver (device?_eq_ok_some.mp looked) named owned) ⟨rfl, ?_⟩
        exact List.mem_singleton.mpr same
    · simp only [same, ne_eq, not_false_eq_true, if_true]
      exact .refl store

theorem after_updateCounted (address : Address) (tally : EditTally) (update : ChannelUpdate)
    (store : Store) :
    ((updateCounted address tally update).on store).2 = store ∨
      ∃ found, device store address = .ok found ∧ address.isEmpty = false ∧
        ((updateCounted address tally update).on store).2 =
          store.put (.device address)
            (placed address { found with channels := update.apply found.channels }) := by
  have edited := after_editDevice
    (fun found => { found with channels := update.apply found.channels }) (fun _ => rfl) store
    address
  cases action : update.action with
  | assign =>
    simp only [updateCounted, action, after_bind_pure, assignChannel]
    simpa only [ChannelUpdate.apply, action] using edited
  | remove =>
    simp only [updateCounted, action, after_bind_pure, removeChannel]
    simpa only [ChannelUpdate.apply, action] using edited
  | unknown name => simp [updateCounted, action]

/-- On a registered device an edit succeeds, and what it does is a change of the channels. -/
theorem updateCounted_of_present {found : Device} (present : device store address = .ok found)
    (named : address.isEmpty = false) (tally : EditTally) (update : ChannelUpdate) :
    ∃ next after later, (updateCounted address tally update).on store = (.ok next, after) ∧
      device after address = .ok later ∧ later.channels = update.apply found.channels := by
  have owned := owner_of_device present
  cases action : update.action with
  | assign =>
    simp only [updateCounted, action, assignChannel, ChannelUpdate.apply]
    rw [Operation.on_bind_of_ok (on_editDevice _ present named owned)]
    exact ⟨_, _, _, rfl, device_put_device_self store owned, rfl⟩
  | remove =>
    simp only [updateCounted, action, removeChannel, ChannelUpdate.apply]
    rw [Operation.on_bind_of_ok (on_editDevice _ present named owned)]
    exact ⟨_, _, _, rfl, device_put_device_self store owned, rfl⟩
  | unknown name =>
    simp only [updateCounted, action, ChannelUpdate.apply]
    exact ⟨_, _, _, rfl, present, rfl⟩

theorem after_handleUpdateChannels (store : Store) (message : UpdateChannels) :
    Steps (permits store (.updateChannels message)) store
      ((handleUpdateChannels message).on store).2 := by
  rcases after_handleUpdateChannels_eq store message with
    unchanged | ⟨found, present, same, written⟩
  · rw [unchanged]
    exact .refl store
  · -- The owner stays the signer throughout the loop.
    have loop := foldlM_preserves
      (fun before => Steps (permits store (.updateChannels message)) store before ∧
        ∃ next, device before message.device = .ok next ∧ next.owner = message.owner)
      (updateCounted message.device) message.updates
      (fun tally update _ before ⟨steps, next, present, signed⟩ => by
        rcases after_updateCounted message.device tally update before with
          unchanged | ⟨edited, presentEdited, named, written⟩
        · rw [unchanged]
          exact ⟨steps, next, present, signed⟩
        · obtain rfl : edited = next := Except.ok.inj (presentEdited.symm.trans present)
          have owned := owner_of_device present
          rw [written]
          refine ⟨steps.trans (Step.steps (.editChannels update present named) ⟨rfl, ?_⟩), ?_⟩
          · exact List.mem_singleton.mpr signed
          · exact ⟨_, device_put_device_self _ owned, signed⟩)
      ⟨0, 0, 0⟩ ⟨.refl store, found, present, same⟩
    rw [written]
    exact loop.1

theorem after_appendCounted (address : Address) (tally : Tally) (new : NewReading) (store : Store) :
    ((appendCounted address tally new).on store).2 =
      ((appendOnItsDay address new.channelId new.reading).on store).2 := by
  rw [on_appendCounted_eq_after]

/-- Readings change neither the owner nor the channels of any device. -/
theorem Step.keeps_of_reading {coordinates : Coordinates} {after : Store} {found : Device}
    (step : Step store (.reading coordinates) after) (present : device store address = .ok found) :
    ∃ next, device after address = .ok next ∧ next.owner = found.owner ∧
      next.channels = found.channels := by
  cases step with
  | extend => exact ⟨found, by rw [device_put_bucket, present], rfl, rfl⟩
  | openBucket presentHere =>
    have owned := owner_of_device presentHere
    rw [device_put_device, device_put_bucket]
    · split
      · rename_i same
        subst same
        rcases Except.ok.inj (presentHere.symm.trans present) with rfl
        exact ⟨_, rfl, rfl, rfl⟩
      · exact ⟨found, present, rfl, rfl⟩
    · exact owned

theorem after_handleAddReadings (store : Store) (message : AddReadings) :
    Steps (permits store (.addReadings message)) store
      ((handleAddReadings message).on store).2 := by
  rcases after_handleAddReadings_eq store message with unchanged | ⟨found, present, written⟩
  · rw [unchanged]
    exact .refl store
  · -- The channels of the device stay what they were before the message.
    have loop := foldlM_preserves
      (fun before => Steps (permits store (.addReadings message)) store before ∧
        ∃ next, device before message.device = .ok next ∧ next.channels = found.channels)
      (appendCounted message.device) message.readings
      (fun tally new member before ⟨steps, next, presentNext, sameChannels⟩ => by
        rw [after_appendCounted]
        rcases after_appendOnItsDay before message.device new.channelId new.reading with
          unchanged | ⟨other, channel, presentOther, listed, step⟩
        · rw [unchanged]
          exact ⟨steps, next, presentNext, sameChannels⟩
        · obtain rfl : other = next := Except.ok.inj (presentOther.symm.trans presentNext)
          rcases step.keeps_of_reading presentNext with ⟨last, presentLast, -, lastChannels⟩
          refine ⟨steps.trans (step.steps ?_), last, presentLast, lastChannels.trans sameChannels⟩
          refine ⟨found, channel, new, member, present, ?_, rfl⟩
          rw [Device.channel?, ← sameChannels]
          exact listed)
      ⟨0, 0, 0⟩ ⟨.refl store, found, present, rfl⟩
    rw [written]
    exact loop.1

/-- Whatever a message does past its check, it does in steps that it permits. -/
theorem steps_of_handleUnchecked (store : Store) (message : Message) :
    Steps (permits store message) store ((handleUnchecked message).on store).2 := by
  cases message with
  | setOwner message => exact after_handleSetOwner store message
  | updateChannels message => exact after_handleUpdateChannels store message
  | addReadings message => exact after_handleAddReadings store message

/-- The same holds of the whole message, also where it is refused or fails half way. -/
theorem steps_of_handle (store : Store) (message : Message) :
    Steps (permits store message) store ((handle message).on store).2 := by
  rw [on_handle]
  rcases message.check with error | ⟨⟩
  · exact .refl store
  · exact steps_of_handleUnchecked store message

end DeviceRegistry.Registry
