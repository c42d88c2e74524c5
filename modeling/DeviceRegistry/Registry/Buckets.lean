import DeviceRegistry.Registry.Devices
/-!
# Buckets in the registry

A reading goes to the bucket of its channel on a day. The first reading of a day opens
the bucket and lists it on the device. A reading whose timestamp the bucket has
already is dropped, whatever its value.
-/

namespace DeviceRegistry.Registry

open Operation

/-- What became of a reading. -/
inductive Appended where
  /-- It was stored; `opened` says whether it is the first one of its bucket. -/
  | stored (opened : Bool)
  /-- It was dropped for its timestamp. -/
  | duplicate
deriving DecidableEq, Repr

/-- Refuses to store a bucket without device or without channel. -/
def checkBucket (bucket : Bucket) : Except RegistryError Unit :=
  if bucket.device.isEmpty then .error (.invalidBucket .noDevice)
  else if bucket.channel.id.isEmpty then .error (.invalidBucket (.noChannelId bucket.device))
  else .ok ()

/-- Stores a bucket under the hash of its own fields. -/
def saveBucket (bucket : Bucket) : Operation BucketHash := do
  liftExcept (checkBucket bucket)
  write (.bucket bucket.hash) bucket
  return bucket.hash

/-- The readings of a channel on the day of an instant. -/
def readings (store : Store) (address : Address) (channelId : String) (instant : Int64) :
    Except RegistryError (List Reading) := do
  let channel ← channel store address channelId
  let bucket ← bucket store (.ofDay address channel instant)
  return bucket.readings

/--
Appends a reading to the bucket of a channel on the day of an instant. A new bucket is
stored first and listed on its device after that.
-/
def append (address : Address) (channelId : String) (instant : Int64) (reading : Reading) :
    Operation Appended := do
  let channel ← ask (channel · address channelId)
  let hash := BucketHash.ofDay address channel instant
  let known ← ask (bucket? · hash)
  let bucket := known.getD (Bucket.new address channel instant)
  if bucket.contains reading.timestamp then
    return .duplicate
  let _ ← saveBucket (bucket.push reading)
  if known.isNone then
    addBucketHash address hash
  return .stored known.isNone

/-- Appends a reading to the bucket of its own day. -/
def appendOnItsDay (address : Address) (channelId : String) (reading : Reading) :
    Operation Appended :=
  append address channelId reading.instant reading

end DeviceRegistry.Registry
