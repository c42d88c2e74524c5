import DeviceRegistry.Channel
/-!
# Devices

A device is registered under its own address and has an owner. It lists its channels,
and the hash of each bucket that was opened for it.
-/

namespace DeviceRegistry

open Binary (Codec)
open Json (Form)

/-- A registered device. -/
structure Device where
  id : Address
  /-- The account that may change the device and that pays for it. -/
  owner : Address
  name : String
  channels : List Channel
  /-- The buckets that were opened for the device. -/
  buckets : List BucketHash
deriving DecidableEq, Repr, Inhabited

namespace Device

/-- A device without channels, named after its address. -/
def new (address owner : Address) : Device where
  id := address
  owner
  name := address.text
  channels := []
  buckets := []

/-- The first channel with an id. -/
def channel? (device : Device) (id : String) : Option Channel :=
  Channel.find? device.channels id

/-- A device on three lines. -/
def display (device : Device) : String :=
  s!"ID: {device.id}\nOwner: {device.owner}\nName: {device.name}"

instance : Layout Device
    (Address × Address × String × List Channel × List BucketHash × Unit) where
  toFields device := (device.id, device.owner, device.name, device.channels, device.buckets, ())
  ofFields | (id, owner, name, channels, buckets, ()) => ⟨id, owner, name, channels, buckets⟩

instance : Codec Device := .ofLayout

instance : Form Device :=
  .ofFields
    (.optional "id" Address.empty <| .required "owner" <| .required "name" <|
      .optional "channels" [] <| .optional "records" [] .nil)

end Device

end DeviceRegistry
