import Mathlib
import DeviceRegistry.Registry.Handle
/-!
# Rosters

A roster is what a registry means: a finite map of devices, each with a finite map of
its channels and with a log of readings for each channel and day. There are neither
keys nor hashes, channels have no order, and no entry can be damaged.

The definitions below say what each message means for a roster. Unlike the registry, a
roster counts the edits of a message without carrying them out, and a log is there for
every channel that anyone may think of, so that a renamed channel finds its old one.
-/

namespace DeviceRegistry

/-- The number of the day on which a reading was taken. -/
def Reading.day (reading : Reading) : Int :=
  reading.timestamp.toNat / 86400

/-- What a roster knows of a device. -/
structure Roster.Entry where
  owner : Address
  name : String
  /-- The quantity of each channel. -/
  channels : Finmap fun _ : String => String
  /-- The readings of each channel on each day. -/
  log : Channel → Int → List Reading

/-- The devices that are registered. -/
abbrev Roster := Finmap fun _ : Address => Roster.Entry

namespace Roster

namespace Entry

/-- A device without channels and readings. -/
def new (owner : Address) (name : String) : Entry where
  owner
  name
  channels := ∅
  log _ _ := []

/-- The device after an edit of its channels; an unknown action is passed over. -/
def edit (entry : Entry) (update : ChannelUpdate) : Entry :=
  match update.action with
  | .assign => { entry with channels := entry.channels.insert update.id update.quantity }
  | .remove => { entry with channels := entry.channels.erase update.id }
  | .unknown _ => entry

/-- The device after a reading was added to the log of a channel. -/
def record (entry : Entry) (channel : Channel) (reading : Reading) : Entry :=
  { entry with
    log := fun other day =>
      if other = channel ∧ day = reading.day then entry.log other day ++ [reading]
      else entry.log other day }

/--
A reading is skipped without its channel, refused where the channel has no name, and
dropped if its timestamp is known on its day.
-/
def receive (address : Address) (entry : Entry) (tally : Registry.Tally) (new : NewReading) :
    Except RegistryError Registry.Tally × Entry :=
  match entry.channels.lookup new.channelId with
  | none => (.ok { tally with skipped := tally.skipped + 1 }, entry)
  | some quantity =>
    if new.channelId = "" then (.error (.invalidBucket (.noChannelId address)), entry)
    else if new.timestamp ∈
        (entry.log ⟨new.channelId, quantity⟩ new.reading.day).map Reading.timestamp then
      (.ok { tally with duplicates := tally.duplicates + 1 }, entry)
    else
      (.ok { tally with accepted := tally.accepted + 1 },
        entry.record ⟨new.channelId, quantity⟩ new.reading)

theorem channels_receive (address : Address) (entry : Entry) (tally : Registry.Tally)
    (new : NewReading) : (entry.receive address tally new).2.channels = entry.channels := by
  unfold receive
  split
  · rfl
  · split
    · rfl
    · split <;> rfl

/-- Readings arrive in order, up to the first one that is refused. -/
def receiveAll (address : Address) (entry : Entry) (tally : Registry.Tally) :
    List NewReading → Except RegistryError Registry.Tally × Entry
  | [] => (.ok tally, entry)
  | new :: rest =>
    match receive address entry tally new with
    | (.ok tally, entry) => receiveAll address entry tally rest
    | (.error error, entry) => (.error error, entry)

end Entry

/-- A device registers itself, and is handed over by its owner. -/
def setOwner (roster : Roster) (message : SetOwner) : Except RegistryError Event × Roster :=
  match roster.lookup message.device with
  | none =>
    if message.owner = message.device then
      (.ok (.deviceCreated message.device message.newOwner),
        roster.insert message.device
          (.new message.newOwner (if message.name = "" then message.device.text else message.name)))
    else (.error (.unauthorized .notSelf), roster)
  | some entry =>
    if entry.owner = message.owner then
      (.ok (.ownerChanged message.device entry.owner message.newOwner),
        roster.insert message.device { entry with owner := message.newOwner })
    else (.error (.unauthorized .notOwner), roster)

/-- How many edits have an action that nobody knows. -/
def countUnknown (updates : List ChannelUpdate) : Nat :=
  updates.countP fun update => update.action ≠ .assign ∧ update.action ≠ .remove

/-- The channels of a device are edited by its owner. -/
def updateChannels (roster : Roster) (message : UpdateChannels) :
    Except RegistryError Event × Roster :=
  match roster.lookup message.device with
  | none => (.error .unknownDevice, roster)
  | some entry =>
    if entry.owner = message.owner then
      (.ok (.channelsUpdated message.device
          (message.updates.countP fun update => update.action = .assign)
          (message.updates.countP fun update => update.action = .remove)
          (countUnknown message.updates)),
        roster.insert message.device (message.updates.foldl Entry.edit entry))
    else (.error (.unauthorized .notOwner), roster)

/-- Readings arrive at a device; those before a refused one are kept. -/
def addReadings (roster : Roster) (message : AddReadings) : Except RegistryError Event × Roster :=
  match roster.lookup message.device with
  | none => (.error .unknownDevice, roster)
  | some entry =>
    let (result, after) := entry.receiveAll message.device ⟨0, 0, 0⟩ message.readings
    (result.map fun tally =>
        .readingsAdded message.device tally.accepted tally.duplicates tally.skipped,
      roster.insert message.device after)

/-- What a message means for a roster. -/
def handle (roster : Roster) (message : Message) : Except RegistryError Event × Roster :=
  match message.check with
  | .error error => (.error error, roster)
  | .ok () =>
    match message with
    | .setOwner message => roster.setOwner message
    | .updateChannels message => roster.updateChannels message
    | .addReadings message => roster.addReadings message

/-- What messages answer one after the other, whether they fail or not. -/
def handleEach (roster : Roster) : List Message → List (Except RegistryError Event) × Roster
  | [] => ([], roster)
  | message :: rest =>
    let (result, after) := roster.handle message
    let (results, last) := handleEach after rest
    (result :: results, last)

end Roster

end DeviceRegistry
