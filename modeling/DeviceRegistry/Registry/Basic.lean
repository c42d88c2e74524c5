import DeviceRegistry.Bucket
import DeviceRegistry.Device
import DeviceRegistry.Error
import DeviceRegistry.Store
import DeviceRegistry.Store.Key
/-!
# The registry over a store

Devices and buckets are stored in their binary form, each under its own key. An
operation runs on a store, and what it has written when it fails stays written: the
host of the registry decides whether to keep it.

A device entry counts only if it has an owner.
-/

namespace DeviceRegistry

open Binary

/-- A computation that reads and writes a store and may fail. -/
abbrev Operation (α : Type) := ExceptT RegistryError (StateM Store) α

namespace Operation

/-- Runs an operation: its result, and the store after it. -/
def on {α : Type} (operation : Operation α) (store : Store) : Except RegistryError α × Store :=
  operation.run.run store

def ask {α : Type} (question : Store → Except RegistryError α) : Operation α := do
  let store ← get
  liftExcept (question store)

def write {α : Type} [Codec α] (key : StoreKey) (value : α) : Operation Unit :=
  modify fun store => store.insert key.bytes (Codec.encode value)

end Operation

namespace Registry

def stored? {α : Type} [Codec α] (store : Store) (key : StoreKey) :
    Except RegistryError (Option α) :=
  match store.get? key.bytes with
  | none => .ok none
  | some bytes =>
    match decodeFirst bytes with
    | .ok value => .ok (some value)
    | .error fault => .error (.serialization fault)

def device (store : Store) (address : Address) : Except RegistryError Device := do
  let stored : Option Device ← stored? store (.device address)
  match stored with
  | some device =>
    if device.owner.isEmpty then throw (.deviceNotFound address) else return device
  | none => throw (.deviceNotFound address)

/-- The device at an address, or nothing where none is registered. -/
def device? (store : Store) (address : Address) : Except RegistryError (Option Device) :=
  match device store address with
  | .ok device => .ok (some device)
  | .error (.deviceNotFound _) => .ok none
  | .error error => .error error

def bucket (store : Store) (hash : BucketHash) : Except RegistryError Bucket := do
  let stored : Option Bucket ← stored? store (.bucket hash)
  match stored with
  | some bucket => return bucket
  | none => throw (.bucketNotFound hash)

/-- The bucket with a hash, or nothing where none is stored. -/
def bucket? (store : Store) (hash : BucketHash) : Except RegistryError (Option Bucket) :=
  match bucket store hash with
  | .ok bucket => .ok (some bucket)
  | .error (.bucketNotFound _) => .ok none
  | .error error => .error error

/-- Whether a bucket is stored under a hash, readable or not. -/
def hasBucket (store : Store) (hash : BucketHash) : Bool :=
  store.contains (StoreKey.bucket hash).bytes

end Registry

end DeviceRegistry
