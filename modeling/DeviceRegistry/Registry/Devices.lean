import DeviceRegistry.Registry.Basic
/-!
# Devices in the registry

Looking devices up, storing them, and changing one part of a stored device. A change
reads the whole entry, edits it and stores it again.
-/

namespace DeviceRegistry.Registry

open Operation

def hasDevice (store : Store) (address : Address) : Except RegistryError Bool :=
  (device? store address).map Option.isSome

def channels (store : Store) (address : Address) : Except RegistryError (List Channel) :=
  (device store address).map Device.channels

/-- The first channel of a device with an id. -/
def channel (store : Store) (address : Address) (channelId : String) :
    Except RegistryError Channel := do
  let device ← device store address
  match device.channel? channelId with
  | some channel => return channel
  | none => throw (.channelNotFound address channelId)

def bucketHashes (store : Store) (address : Address) : Except RegistryError (List BucketHash) :=
  (device store address).map Device.buckets

/-- Refuses to store a device without address or without owner. -/
def checkDevice (address : Address) (device : Device) : Except RegistryError Unit :=
  if address.isEmpty then .error (.invalidAddress .storedDevice)
  else if device.owner.isEmpty then .error (.invalidDevice address)
  else .ok ()

/-- A device as it is stored at an address, which becomes its id if it has none. -/
def placed (address : Address) (device : Device) : Device :=
  { device with id := if device.id.isEmpty then address else device.id }

def saveDevice (address : Address) (device : Device) : Operation Unit := do
  liftExcept (checkDevice address device)
  write (.device address) (placed address device)

def editDevice (address : Address) (edit : Device → Device) : Operation Unit := do
  let device ← ask (device · address)
  saveDevice address (edit device)

/-- Removes a device and every bucket that it lists, in one step. -/
def deleteDevice (address : Address) : Operation Unit := do
  let device ← ask (device · address)
  let buckets := device.buckets.map fun hash => Change.delete (StoreKey.bucket hash).bytes
  modify fun store =>
    store.changeAll (buckets ++ [.delete (StoreKey.device address).bytes])

/-- Adds a channel, whatever channels there are. -/
def addChannel (address : Address) (channel : Channel) : Operation Unit :=
  editDevice address fun device => { device with channels := device.channels ++ [channel] }

/-- Gives the first channel with the same id a new quantity, or adds the channel. -/
def assignChannel (address : Address) (channel : Channel) : Operation Unit :=
  editDevice address fun device =>
    { device with channels := Channel.assign channel device.channels }

/-- Removes the first channel with an id; a device without such a channel is stored as it is. -/
def removeChannel (address : Address) (channelId : String) : Operation Unit :=
  editDevice address fun device =>
    { device with channels := Channel.remove device.channels channelId }

/-- Gives a device a new owner, and registers it first where it is unknown. -/
def assignOwner (address owner : Address) : Operation Unit := do
  match ← ask (device? · address) with
  | some device => saveDevice address { device with owner }
  | none => saveDevice address (.new address owner)

def addBucketHash (address : Address) (hash : BucketHash) : Operation Unit :=
  editDevice address fun device => { device with buckets := device.buckets ++ [hash] }

end DeviceRegistry.Registry
