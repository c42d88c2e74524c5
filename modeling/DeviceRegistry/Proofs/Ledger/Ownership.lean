import Mathlib
import DeviceRegistry.Proofs.Ledger.Log
import DeviceRegistry.Proofs.Registry.Success
/-!
# The log tells who owns a device

Two kinds of events announce an owner: that a device was created, and that it was handed
over. A message that succeeds writes the owner that its event announces and touches no other
owner, and its event fits the owner that it found. So the owner announced last is the owner
in the store, and the log of a device begins with its creation.
-/

namespace DeviceRegistry

namespace Event

def announcedOwner : Event → Option Address
  | .deviceCreated _ owner => some owner
  | .ownerChanged _ _ newOwner => some newOwner
  | .channelsUpdated _ _ _ _ => none
  | .readingsAdded _ _ _ _ => none

/-- Whether an event can happen to a device with this owner, or to one that is unknown. -/
def Continues (known : Option Address) : Event → Prop
  | .deviceCreated _ _ => known = none
  | .ownerChanged _ previousOwner _ => known = some previousOwner
  | .channelsUpdated _ _ _ _ => known ≠ none
  | .readingsAdded _ _ _ _ => known ≠ none

/-- The owner that is announced last for a device. -/
def lastOwner (address : Address) (events : List Event) : Option Address :=
  ((events.filter fun event => event.device = address).filterMap announcedOwner).getLast?

variable {address : Address} {events : List Event}

theorem Continues.created_or_known {event : Event} {known : Option Address}
    (continues : event.Continues known) :
    (∃ owner, event = .deviceCreated event.device owner) ∨ known ≠ none := by
  cases event with
  | deviceCreated device owner => exact Or.inl ⟨owner, rfl⟩
  | ownerChanged device previousOwner newOwner =>
    right
    intro nothing
    rw [Continues, nothing] at continues
    contradiction
  | channelsUpdated => exact Or.inr continues
  | readingsAdded => exact Or.inr continues

theorem lastOwner_append_singleton (event : Event) :
    lastOwner address (events ++ [event]) =
      if event.device = address then event.announcedOwner.or (lastOwner address events)
      else lastOwner address events := by
  by_cases here : event.device = address
  · cases announced : event.announcedOwner <;>
      simp [lastOwner, List.filter_append, here, announced]
  · simp [lastOwner, List.filter_append, here]

theorem lastOwner_ne_none_of_mem {owner : Address}
    (member : .deviceCreated address owner ∈ events) : lastOwner address events ≠ none := by
  intro nothing
  rw [lastOwner, List.getLast?_eq_none_iff, List.filterMap_eq_nil_iff] at nothing
  have silent := nothing (.deviceCreated address owner)
    (List.mem_filter.mpr ⟨member, by simp [device]⟩)
  simp [announcedOwner] at silent

end Event

/-! ## Logs in which every event fits -/

/-- Every event of a log fits what the events before it announce. -/
def Consecutive (events : List Event) : Prop :=
  ∀ before event after, events = before ++ event :: after →
    event.Continues (Event.lastOwner event.device before)

/-- What a log tells of a device. -/
structure Chronicle (address : Address) (events : List Event) : Prop where
  /-- A device is created at most once. -/
  createdOnce : ∀ {before after owner}, events = before ++ .deviceCreated address owner :: after →
    ∀ other, .deviceCreated address other ∉ before ++ after
  /-- Nothing else happens to a device before it is created. -/
  createdFirst : ∀ {before event after}, events = before ++ event :: after →
    event.device = address →
    (∃ owner, event = .deviceCreated address owner) ∨ ∃ owner, .deviceCreated address owner ∈ before
  /-- A device is handed over by the owner that was announced last. -/
  handedOver : ∀ {before previous next after},
    events = before ++ .ownerChanged address previous next :: after →
    Event.lastOwner address before = some previous

namespace Consecutive

variable {events : List Event} {address : Address}

theorem nil : Consecutive [] := by
  intro before event after split
  simp at split

theorem append_singleton (consecutive : Consecutive events) {event : Event}
    (continues : event.Continues (Event.lastOwner event.device events)) :
    Consecutive (events ++ [event]) := by
  intro before other after split
  rcases after.eq_nil_or_concat with rfl | ⟨init, last, rfl⟩
  · rcases List.append_inj' split rfl with ⟨rfl, same⟩
    cases same
    exact continues
  · have inside : events ++ [event] = (before ++ other :: init) ++ [last] := by simpa using split
    exact consecutive before other init (List.append_inj' inside rfl).1

theorem of_append {more : List Event} (consecutive : Consecutive (events ++ more)) :
    Consecutive events := by
  intro before event after split
  apply consecutive before event (after ++ more)
  simp [split]

/-- An owner is known only of a device that was created. -/
theorem exists_created (consecutive : Consecutive events)
    (known : Event.lastOwner address events ≠ none) :
    ∃ owner, .deviceCreated address owner ∈ events := by
  induction events using List.reverseRecOn with
  | nil => exact absurd rfl known
  | append_singleton earlier last hypothesis =>
    have continues := consecutive earlier last [] rfl
    have createdEarlier : Event.lastOwner address earlier ≠ none →
        ∃ owner, .deviceCreated address owner ∈ earlier ++ [last] := by
      intro knownEarlier
      rcases hypothesis consecutive.of_append knownEarlier with ⟨owner, member⟩
      exact ⟨owner, List.mem_append_left _ member⟩
    by_cases here : last.device = address
    · rw [here] at continues
      rcases continues.created_or_known with ⟨owner, created⟩ | knownEarlier
      · rw [here] at created
        exact ⟨owner, by simp [created]⟩
      · exact createdEarlier knownEarlier
    · rw [Event.lastOwner_append_singleton, if_neg here] at known
      exact createdEarlier known

theorem chronicle (consecutive : Consecutive events) (address : Address) :
    Chronicle address events where
  createdOnce {before after owner} split other member := by
    rcases List.mem_append.mp member with earlier | later
    · have unknown : Event.lastOwner address before = none := consecutive before _ after split
      exact Event.lastOwner_ne_none_of_mem earlier unknown
    · rcases List.append_of_mem later with ⟨between, rest, rfl⟩
      have unknown : Event.lastOwner address (before ++ .deviceCreated address owner :: between) =
          none := consecutive _ (.deviceCreated address other) rest (by simp [split])
      have first : Event.deviceCreated address owner ∈
          before ++ .deviceCreated address owner :: between := by simp
      exact Event.lastOwner_ne_none_of_mem first unknown
  createdFirst {before event after} split about := by
    have continues := consecutive before event after split
    have consecutiveBefore : Consecutive before := by
      rw [split] at consecutive
      exact consecutive.of_append
    rw [about] at continues
    rcases continues.created_or_known with ⟨owner, created⟩ | known
    · rw [about] at created
      exact Or.inl ⟨owner, created⟩
    · exact Or.inr (consecutiveBefore.exists_created known)
  handedOver {before previous next after} split :=
    consecutive before (.ownerChanged address previous next) after split

end Consecutive

/-! ## Owners in a store -/

namespace Registry

/-- The owner of a device, if it is registered. -/
def owner? (store : Store) (address : Address) : Option Address :=
  (device store address).toOption.map Device.owner

variable {store after : Store} {address : Address} {found : Device}

theorem owner?_of_device (present : device store address = .ok found) :
    owner? store address = some found.owner := by
  simp [owner?, present, Except.toOption]

theorem owner?_of_error {error : RegistryError} (absent : device store address = .error error) :
    owner? store address = none := by
  simp [owner?, absent, Except.toOption]

theorem owner?_put_device (store : Store) {stored : Device}
    (owned : stored.owner.isEmpty = false) (other : Address) :
    owner? (store.put (.device address) stored) other =
      if other = address then some stored.owner else owner? store other := by
  simp only [owner?, device_put_device store owned]
  split
  · rfl
  · rfl

theorem owner?_put_bucket (store : Store) (hash : BucketHash) (stored : Bucket) :
    owner? (store.put (.bucket hash) stored) = owner? store := by
  funext other
  simp only [owner?, device_put_bucket]

/-- A device may be stored anew with the owner that it has. -/
theorem owner?_replace_device {next : Device} (present : device store address = .ok found)
    (sameOwner : next.owner = found.owner) :
    owner? (store.put (.device address) next) = owner? store := by
  have owned : next.owner.isEmpty = false := by rw [sameOwner, owner_of_device present]
  funext other
  rw [owner?_put_device store owned]
  split
  · rename_i here
    rw [here, owner?_of_device present, sameOwner]
  · rfl

theorem owner?_updateCounted (store : Store) (tally : EditTally) (update : ChannelUpdate) :
    owner? ((updateCounted address tally update).on store).2 = owner? store := by
  rcases after_updateCounted address tally update store with
    unchanged | ⟨found, present, named, written⟩
  · rw [unchanged]
  · rw [written]
    apply owner?_replace_device present
    rfl

theorem owner?_arrival {channelId : String} {instant : Int64} {reading : Reading}
    (arrival : Arrival store address channelId instant reading after) :
    owner? after = owner? store := by
  cases arrival with
  | nothing => rfl
  | extended present listed stored fresh checked => rw [owner?_put_bucket]
  | opened present listed unknown named channelNamed =>
    rw [← owner?_put_bucket store _ _]
    apply owner?_replace_device
    · rw [device_put_bucket, present]
    · rfl

theorem owner?_appendCounted (store : Store) (tally : Tally) (new : NewReading) :
    owner? ((appendCounted address tally new).on store).2 = owner? store := by
  rw [after_appendCounted, appendOnItsDay]
  exact owner?_arrival (arrival_of_append store address new.channelId new.reading.instant _)

/-! ## What an event tells of a message -/

/-- An event fits the owner that was found, and announces the owner that is left behind. -/
structure Reports (event : Event) (store after : Store) : Prop where
  continues : event.Continues (owner? store event.device)
  owner : ∀ address, owner? after address =
    if event.device = address then event.announcedOwner.or (owner? store address)
    else owner? store address

variable {event : Event}

theorem Reports.of_same_owners (known : event.Continues (owner? store event.device))
    (silent : event.announcedOwner = none) (same : owner? after = owner? store) :
    Reports event store after where
  continues := known
  owner address := by
    rw [same, silent, Option.none_or, ite_self]

theorem Reports.of_put_device {stored : Device}
    (known : event.Continues (owner? store event.device))
    (owned : stored.owner.isEmpty = false) (announced : event.announcedOwner = some stored.owner) :
    Reports event store (store.put (.device event.device) stored) where
  continues := known
  owner address := by
    rw [owner?_put_device store owned, announced, Option.some_or]
    by_cases here : address = event.device
    · rw [if_pos here, if_pos here.symm]
    · rw [if_neg here, if_neg (Ne.symm here)]

theorem reports_handleSetOwner {message : SetOwner} (checked : message.check = .ok ())
    (succeeds : (handleSetOwner message).on store = (.ok event, after)) :
    Reports event store after := by
  rcases setOwner_check_eq_ok.mp checked with ⟨-, -, owned⟩
  rcases handleSetOwner_eq_ok checked succeeds with
    ⟨found, present, -, rfl, rfl⟩ | ⟨absent, -, rfl, rfl⟩
  · apply Reports.of_put_device
    · exact owner?_of_device present
    · exact owned
    · rfl
  · apply Reports.of_put_device
    · exact owner?_of_error absent
    · exact owned
    · rfl

theorem reports_handleUpdateChannels {message : UpdateChannels}
    (succeeds : (handleUpdateChannels message).on store = (.ok event, after)) :
    Reports event store after := by
  rcases handleUpdateChannels_eq_ok succeeds with ⟨found, tally, present, -, outcome, rfl⟩
  have loop := Operation.foldlM_preserves (fun before => owner? before = owner? store)
    (updateCounted message.device) message.updates
    (fun tally update _ before same => (owner?_updateCounted before tally update).trans same)
    ⟨0, 0, 0⟩ rfl
  rw [outcome] at loop
  apply Reports.of_same_owners
  · simp [Event.Continues, Event.device, owner?_of_device present]
  · rfl
  · exact loop

theorem reports_handleAddReadings {message : AddReadings}
    (succeeds : (handleAddReadings message).on store = (.ok event, after)) :
    Reports event store after := by
  rcases handleAddReadings_eq_ok succeeds with ⟨found, tally, present, outcome, rfl⟩
  have loop := Operation.foldlM_preserves (fun before => owner? before = owner? store)
    (appendCounted message.device) message.readings
    (fun tally new _ before same => (owner?_appendCounted before tally new).trans same)
    ⟨0, 0, 0⟩ rfl
  rw [outcome] at loop
  apply Reports.of_same_owners
  · simp [Event.Continues, Event.device, owner?_of_device present]
  · rfl
  · exact loop

theorem reports_handle {message : Message}
    (succeeds : (handle message).on store = (.ok event, after)) : Reports event store after := by
  rcases handle_eq_ok succeeds with ⟨checked, carriedOut⟩
  cases message with
  | setOwner message => exact reports_handleSetOwner checked carriedOut
  | updateChannels message => exact reports_handleUpdateChannels carriedOut
  | addReadings message => exact reports_handleAddReadings carriedOut

end Registry

/-! ## Runs -/

namespace Ledger

open Registry

theorem Logged.lastOwner {occur : Set Coordinates} {events : List Event} {store : Store}
    (logged : Logged occur events store) (address : Address) :
    Event.lastOwner address events = owner? store address := by
  induction logged with
  | start => exact (owner?_of_error (device_of_get?_eq_none (Store.get?_empty _))).symm
  | handled logged named succeeds hypothesis =>
    rw [Event.lastOwner_append_singleton, hypothesis, (reports_handle succeeds).owner]

theorem Logged.consecutive {occur : Set Coordinates} {events : List Event} {store : Store}
    (logged : Logged occur events store) : Consecutive events := by
  induction logged with
  | start => exact .nil
  | handled logged named succeeds hypothesis =>
    apply hypothesis.append_singleton
    rw [logged.lastOwner]
    exact (reports_handle succeeds).continues

/-- The events of a run tell which devices there are and who has owned them. -/
theorem owners_told_by_log (now : Int64) (commands : List Command) (address : Address) :
    ((∃ found, device (run now commands).store address = .ok found) ↔
        ∃ owner, .deviceCreated address owner ∈ log now commands) ∧
      Chronicle address (log now commands) ∧
      Event.lastOwner address (log now commands) =
        (device (run now commands).store address).toOption.map Device.owner := by
  have logged := logged_run now commands (Set.subset_univ _)
  have told : Event.lastOwner address (log now commands) =
      owner? (run now commands).store address := logged.lastOwner address
  refine ⟨?_, logged.consecutive.chronicle address, told⟩
  constructor
  · rintro ⟨found, present⟩
    apply logged.consecutive.exists_created
    rw [told, owner?_of_device present]
    simp
  · rintro ⟨owner, member⟩
    have known := Event.lastOwner_ne_none_of_mem member
    rw [told] at known
    cases present : device (run now commands).store address with
    | error error => exact absurd (owner?_of_error present) known
    | ok found => exact ⟨found, rfl⟩

end Ledger

end DeviceRegistry
