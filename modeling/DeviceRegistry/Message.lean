import DeviceRegistry.Error
import DeviceRegistry.Json.Tagged
import DeviceRegistry.Reading
/-!
# Messages

The three requests that change the registry. Each names who must sign it and can be
checked on its own, before the registry is looked at.

A message registers a device or hands it over, edits the channels of a device, or
appends readings to it. The first two are signed by the owner, the last one by the
device itself.
-/

namespace DeviceRegistry

open Binary (Codec)
open Json (Form Variants)

def requireAddress (address : Address) (role : AddressRole) : Except RegistryError Unit :=
  if address.isEmpty then .error (.invalidAddress role) else .ok ()

/-- Registers a device, or gives it a new owner. -/
structure SetOwner where
  device : Address
  owner : Address
  newOwner : Address
  /-- The name of a device that is registered; an empty one stands for its address. -/
  name : String
deriving DecidableEq, Repr, Inhabited

namespace SetOwner

def check (message : SetOwner) : Except RegistryError Unit := do
  requireAddress message.device .device
  requireAddress message.owner .owner
  requireAddress message.newOwner .newOwner

def signers (message : SetOwner) : List Address :=
  [message.owner]

instance : Layout SetOwner (Address × Address × Address × String × Unit) where
  toFields message := (message.device, message.owner, message.newOwner, message.name, ())
  ofFields | (device, owner, newOwner, name, ()) => ⟨device, owner, newOwner, name⟩

instance : Codec SetOwner := .ofLayout

instance : Form SetOwner :=
  .ofFields
    (.required "datanode" <| .required "owner" <| .required "newowner" <|
      .optional "name" "" .nil)

end SetOwner

/-- What is to be done with a channel. -/
inductive ChannelAction where
  | assign
  | remove
  /-- An action that nobody knows is passed over. -/
  | unknown (name : String)
deriving DecidableEq, Repr

def ChannelAction.ofName (name : String) : ChannelAction :=
  if name = "set" then .assign else if name = "delete" then .remove else .unknown name

/-- One edit of the channels of a device. -/
structure ChannelUpdate where
  actionName : String
  id : String
  quantity : String
deriving DecidableEq, Repr, Inhabited

namespace ChannelUpdate

/-- The edit that gives a channel a quantity. -/
def assign (id quantity : String) : ChannelUpdate :=
  ⟨"set", id, quantity⟩

/-- The edit that removes a channel. -/
def remove (id : String) : ChannelUpdate :=
  ⟨"delete", id, ""⟩

def action (update : ChannelUpdate) : ChannelAction :=
  .ofName update.actionName

instance : Layout ChannelUpdate (String × String × String × Unit) where
  toFields update := (update.actionName, update.id, update.quantity, ())
  ofFields | (actionName, id, quantity, ()) => ⟨actionName, id, quantity⟩

instance : Codec ChannelUpdate := .ofLayout

instance : Form ChannelUpdate :=
  .ofFields (.required "action" <| .required "id" <| .optional "variable" "" .nil)

end ChannelUpdate

/-- Edits the channels of a device, in order. -/
structure UpdateChannels where
  owner : Address
  device : Address
  updates : List ChannelUpdate
deriving DecidableEq, Repr, Inhabited

namespace UpdateChannels

def check (message : UpdateChannels) : Except RegistryError Unit := do
  requireAddress message.device .device
  requireAddress message.owner .owner
  if message.updates.isEmpty then throw (.invalidRequest .noChannelUpdates)

def signers (message : UpdateChannels) : List Address :=
  [message.owner]

instance : Layout UpdateChannels (Address × Address × List ChannelUpdate × Unit) where
  toFields message := (message.owner, message.device, message.updates, ())
  ofFields | (owner, device, updates, ()) => ⟨owner, device, updates⟩

instance : Codec UpdateChannels := .ofLayout

instance : Form UpdateChannels :=
  .ofFields (.required "owner" <| .required "datanode" <| .required "channels" .nil)

end UpdateChannels

/-- A reading and the channel that it was taken on. -/
structure NewReading where
  channelId : String
  timestamp : UInt32
  value : Single
  note : String
deriving DecidableEq, Repr, Inhabited

namespace NewReading

def new (channelId : String) (timestamp : UInt32) (value : Single) : NewReading :=
  ⟨channelId, timestamp, value, ""⟩

def reading (new : NewReading) : Reading :=
  ⟨new.timestamp, new.value, new.note⟩

instance : Layout NewReading (String × UInt32 × Single × String × Unit) where
  toFields new := (new.channelId, new.timestamp, new.value, new.note, ())
  ofFields | (channelId, timestamp, value, note, ()) => ⟨channelId, timestamp, value, note⟩

instance : Codec NewReading := .ofLayout

instance : Form NewReading :=
  .ofFields
    (.required "channel" <| .required "timestamp" <| .required "value" <|
      .optional "misc" "" .nil)

end NewReading

/-- Appends readings to a device, in order. -/
structure AddReadings where
  device : Address
  readings : List NewReading
deriving DecidableEq, Repr, Inhabited

namespace AddReadings

def check (message : AddReadings) : Except RegistryError Unit := do
  requireAddress message.device .device
  if message.readings.isEmpty then throw (.invalidRequest .noReadings)

def signers (message : AddReadings) : List Address :=
  [message.device]

instance : Layout AddReadings (Address × List NewReading × Unit) where
  toFields message := (message.device, message.readings, ())
  ofFields | (device, readings, ()) => ⟨device, readings⟩

instance : Codec AddReadings := .ofLayout

instance : Form AddReadings :=
  .ofFields (.required "datanode" <| .required "records" .nil)

end AddReadings

/-- A request that changes the registry. -/
inductive Message where
  | setOwner (message : SetOwner)
  | updateChannels (message : UpdateChannels)
  | addReadings (message : AddReadings)
deriving DecidableEq, Repr

namespace Message

def typeName : Message → String
  | .setOwner _ => "set_owner"
  | .updateChannels _ => "update_channels"
  | .addReadings _ => "add_records"

/-- What the message must hold, whatever the registry holds. -/
def check : Message → Except RegistryError Unit
  | .setOwner message => message.check
  | .updateChannels message => message.check
  | .addReadings message => message.check

def signers : Message → List Address
  | .setOwner message => message.signers
  | .updateChannels message => message.signers
  | .addReadings message => message.signers

def device : Message → Address
  | .setOwner message => message.device
  | .updateChannels message => message.device
  | .addReadings message => message.device

def tag : Message → String
  | .setOwner _ => "datanode/SetOwner"
  | .updateChannels _ => "datanode/UpdateChannels"
  | .addReadings _ => "datanode/AddRecords"

/-- The message without its tag. -/
def content : Message → Json
  | .setOwner message => Form.toJson message
  | .updateChannels message => Form.toJson message
  | .addReadings message => Form.toJson message

def variants : Variants Message := fun tag =>
  if tag = "datanode/SetOwner" then
    some fun outline => (Form.ofOutline outline).map .setOwner
  else if tag = "datanode/UpdateChannels" then
    some fun outline => (Form.ofOutline outline).map .updateChannels
  else if tag = "datanode/AddRecords" then
    some fun outline => (Form.ofOutline outline).map .addReadings
  else none

instance : Form Message where
  toJson message := .object [("type", .text message.tag), ("value", message.content)]
  ofOutline := variants.ofOutlineBeside "type" "value"

end Message

end DeviceRegistry
