import DeviceRegistry.Address
import DeviceRegistry.Json.Tagged
/-!
# Events

What a message did, for the record of the ledger.
-/

namespace DeviceRegistry

open Json (Form Fields Variants)

/-- What a message did. -/
inductive Event where
  | deviceCreated (device owner : Address)
  | ownerChanged (device previousOwner newOwner : Address)
  /-- How many edits assigned a channel, removed one, or were passed over. -/
  | channelsUpdated (device : Address) (assigned removed ignored : Nat)
  /-- How many readings were stored, had a known timestamp, or named an unknown channel. -/
  | readingsAdded (device : Address) (accepted duplicates skipped : Nat)
deriving DecidableEq, Repr

namespace Event

def device : Event → Address
  | .deviceCreated device _ => device
  | .ownerChanged device _ _ => device
  | .channelsUpdated device _ _ _ => device
  | .readingsAdded device _ _ _ => device

def tag : Event → String
  | .deviceCreated _ _ => "data_node_created"
  | .ownerChanged _ _ _ => "owner_changed"
  | .channelsUpdated _ _ _ _ => "channels_updated"
  | .readingsAdded _ _ _ _ => "records_added"

/-- The fields of the event that a device was registered. -/
def createdFields :
    Fields (Address × Address × Unit) (Option Address × Option Address × Unit) :=
  .required "data_node" <| .required "owner" .nil

/-- The fields of the event that a device was handed over. -/
def ownerFields : Fields (Address × Address × Address × Unit)
    (Option Address × Option Address × Option Address × Unit) :=
  .required "data_node" <| .required "previous_owner" <| .required "new_owner" .nil

/-- The fields of the event that channels were edited. -/
def channelFields : Fields (Address × Nat × Nat × Nat × Unit)
    (Option Address × Option Nat × Option Nat × Option Nat × Unit) :=
  .required "data_node" <| .required "set" <| .required "deleted" <| .required "ignored" .nil

/-- The fields of the event that readings were appended. -/
def readingFields : Fields (Address × Nat × Nat × Nat × Unit)
    (Option Address × Option Nat × Option Nat × Option Nat × Unit) :=
  .required "data_node" <| .required "accepted" <| .required "duplicates" <|
    .required "skipped" .nil

def members : Event → List (String × Json)
  | .deviceCreated device owner => createdFields.toMembers (device, owner, ())
  | .ownerChanged device previousOwner newOwner =>
    ownerFields.toMembers (device, previousOwner, newOwner, ())
  | .channelsUpdated device assigned removed ignored =>
    channelFields.toMembers (device, assigned, removed, ignored, ())
  | .readingsAdded device accepted duplicates skipped =>
    readingFields.toMembers (device, accepted, duplicates, skipped, ())

def variants : Variants Event := fun tag =>
  if tag = "data_node_created" then
    some fun outline => (createdFields.ofOutline outline).map
      fun (device, owner, ()) => .deviceCreated device owner
  else if tag = "owner_changed" then
    some fun outline => (ownerFields.ofOutline outline).map
      fun (device, previousOwner, newOwner, ()) => .ownerChanged device previousOwner newOwner
  else if tag = "channels_updated" then
    some fun outline => (channelFields.ofOutline outline).map
      fun (device, assigned, removed, ignored, ()) =>
        .channelsUpdated device assigned removed ignored
  else if tag = "records_added" then
    some fun outline => (readingFields.ofOutline outline).map
      fun (device, accepted, duplicates, skipped, ()) =>
        .readingsAdded device accepted duplicates skipped
  else none

instance : Form Event where
  toJson event := .object (("type", .text event.tag) :: event.members)
  ofOutline := variants.ofOutlineAmong "type"

end Event

end DeviceRegistry
