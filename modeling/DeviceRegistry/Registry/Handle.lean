import DeviceRegistry.Event
import DeviceRegistry.Message
import DeviceRegistry.Registry.Buckets
/-!
# What messages do

A message is checked on its own, then against the registry, and then carried out.

Channel edits are carried out one by one, and readings are stored one by one, so that
those before a failing one stay stored.
-/

namespace DeviceRegistry.Registry

open Operation

/--
Registers a device or gives it a new owner. Only the device itself can register it,
and only its owner can hand it over.
-/
def handleSetOwner (message : SetOwner) : Operation Event := do
  match ← ask (device? · message.device) with
  | some existing =>
    if existing.owner ≠ message.owner then
      throw (.unauthorized .notOwner)
    assignOwner message.device message.newOwner
    return .ownerChanged message.device existing.owner message.newOwner
  | none =>
    if message.owner ≠ message.device then
      throw (.unauthorized .notSelf)
    let device := Device.new message.device message.newOwner
    let name := if message.name.isEmpty then device.name else message.name
    saveDevice message.device { device with name }
    return .deviceCreated message.device message.newOwner

/-- The device that a message is about, which must be registered. -/
def knownDevice (address : Address) : Operation Device := do
  match ← ask (device? · address) with
  | some device => return device
  | none => throw .unknownDevice

/-- What became of the edits of a message. -/
structure EditTally where
  assigned : Nat
  removed : Nat
  ignored : Nat
deriving DecidableEq, Repr

/-- Carries out one edit of a message and counts it; an unknown action is passed over. -/
def updateCounted (address : Address) (tally : EditTally) (update : ChannelUpdate) :
    Operation EditTally := do
  match update.action with
  | .assign =>
    assignChannel address ⟨update.id, update.quantity⟩
    return { tally with assigned := tally.assigned + 1 }
  | .remove =>
    removeChannel address update.id
    return { tally with removed := tally.removed + 1 }
  | .unknown _ => return { tally with ignored := tally.ignored + 1 }

/-- Edits the channels of a device, which only its owner may do. -/
def handleUpdateChannels (message : UpdateChannels) : Operation Event := do
  let device ← knownDevice message.device
  if device.owner ≠ message.owner then
    throw (.unauthorized .notOwner)
  let tally ← message.updates.foldlM (updateCounted message.device) ⟨0, 0, 0⟩
  return .channelsUpdated message.device tally.assigned tally.removed tally.ignored

/-- What became of the readings of a message. -/
structure Tally where
  accepted : Nat
  duplicates : Nat
  skipped : Nat
deriving DecidableEq, Repr

/-- Appends one reading of a message and counts it; an unknown channel is no failure. -/
def appendCounted (address : Address) (tally : Tally) (new : NewReading) : Operation Tally :=
  fun store =>
    match (appendOnItsDay address new.channelId new.reading).on store with
    | (.ok (.stored _), store) => (.ok { tally with accepted := tally.accepted + 1 }, store)
    | (.ok .duplicate, store) => (.ok { tally with duplicates := tally.duplicates + 1 }, store)
    | (.error (.channelNotFound _ _), store) =>
      (.ok { tally with skipped := tally.skipped + 1 }, store)
    | (.error error, store) => (.error error, store)

def handleAddReadings (message : AddReadings) : Operation Event := do
  let _ ← knownDevice message.device
  let tally ← message.readings.foldlM (appendCounted message.device) ⟨0, 0, 0⟩
  return .readingsAdded message.device tally.accepted tally.duplicates tally.skipped

/-- Carries out a message without checking it on its own first. -/
def handleUnchecked : Message → Operation Event
  | .setOwner message => handleSetOwner message
  | .updateChannels message => handleUpdateChannels message
  | .addReadings message => handleAddReadings message

def handle (message : Message) : Operation Event := do
  liftExcept message.check
  handleUnchecked message

end DeviceRegistry.Registry
