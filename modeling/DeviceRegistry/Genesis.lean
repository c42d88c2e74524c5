import DeviceRegistry.Bucket
import DeviceRegistry.Device
import DeviceRegistry.Error
/-!
# Genesis

The whole registry as one document: its devices and their buckets.
-/

namespace DeviceRegistry

open Binary (Codec)
open Json (Form)

/-- The contents of a registry. -/
structure Genesis where
  devices : List Device
  buckets : List Bucket
deriving DecidableEq, Repr, Inhabited

namespace Genesis

def empty : Genesis := ⟨[], []⟩

def lists (genesis : Genesis) (address : Address) : Bool :=
  genesis.devices.any fun device => device.id = address

def deviceFault? (device : Device) : Option GenesisFault :=
  if device.id.isEmpty then some (.deviceWithoutId device.owner)
  else if device.owner.isEmpty then some (.deviceWithoutOwner device.id)
  else none

/-- What is wrong with a bucket, in the order in which it is looked at. -/
def bucketFault? (genesis : Genesis) (bucket : Bucket) : Option GenesisFault :=
  if bucket.device.isEmpty then some (.bucketWithoutDevice bucket.channel)
  else if bucket.channel.id.isEmpty then some (.bucketWithoutChannelId bucket.device)
  else if !genesis.lists bucket.device then some (.bucketOfUnknownDevice bucket.device)
  else if bucket.readings.isEmpty then some (.bucketWithoutReadings bucket.device)
  else none

/-- The first fault of a genesis: devices come before buckets. -/
def fault? (genesis : Genesis) : Option GenesisFault :=
  genesis.devices.findSome? deviceFault? <|> genesis.buckets.findSome? genesis.bucketFault?

def check (genesis : Genesis) : Except RegistryError Unit :=
  match genesis.fault? with
  | none => .ok ()
  | some fault => .error (.invalidRequest (.genesis fault))

instance : Layout Genesis (List Device × List Bucket × Unit) where
  toFields genesis := (genesis.devices, genesis.buckets, ())
  ofFields | (devices, buckets, ()) => ⟨devices, buckets⟩

instance : Codec Genesis := .ofLayout

instance : Form Genesis :=
  .ofFields (.optional "datanodes" [] <| .optional "datarecords" [] .nil)

end Genesis

end DeviceRegistry
