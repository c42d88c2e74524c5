import DeviceRegistry.Genesis
import DeviceRegistry.Registry.Buckets
/-!
# Import and export of a registry

A genesis without faults is written device by device and then bucket by bucket; a
bucket that its device does not list yet is added to the list, so that deleting the
device reaches it.

An export is one scan of the store in the order of its keys. Keys that belong to
neither devices nor buckets are passed over, and so are devices without owner.
-/

namespace DeviceRegistry.Registry

open Operation

/-- Writes a bucket of a genesis, and lists it on its device. -/
def importBucket (bucket : Bucket) : Operation Unit := do
  let hash ← saveBucket bucket
  let listed ← ask (bucketHashes · bucket.device)
  if !listed.contains hash then
    addBucketHash bucket.device hash

/-- Writes a genesis that has no fault. -/
def importGenesis (genesis : Genesis) : Operation Unit := do
  liftExcept genesis.check
  genesis.devices.forM fun device => saveDevice device.id device
  genesis.buckets.forM importBucket

/-- Collects the devices and buckets under the given keys. -/
def collect (store : Store) : List (Bytes × Bytes) → Except RegistryError Genesis
  | [] => .ok .empty
  | (key, _) :: rest =>
    match StoreKey.ofBytes? key with
    | some (.device address) => do
      match device store address with
      | .ok device =>
        let others ← collect store rest
        return { others with devices := device :: others.devices }
      | .error error => if error.isAbsence then collect store rest else throw error
    | some (.bucket hash) => do
      let bucket ← bucket store hash
      let others ← collect store rest
      return { others with buckets := bucket :: others.buckets }
    | none => collect store rest

def exportGenesis (store : Store) : Except RegistryError Genesis :=
  collect store (store.scan [])

/-- How much a registry holds. -/
structure Summary where
  devices : Nat
  channels : Nat
  buckets : Nat
  readings : Nat
deriving DecidableEq, Repr

def Summary.of (genesis : Genesis) : Summary where
  devices := genesis.devices.length
  channels := genesis.devices.foldr (fun device total => device.channels.length + total) 0
  buckets := genesis.buckets.length
  readings := genesis.buckets.foldr (fun bucket total => bucket.readings.length + total) 0

def summary (store : Store) : Except RegistryError Summary :=
  (exportGenesis store).map Summary.of

end DeviceRegistry.Registry
