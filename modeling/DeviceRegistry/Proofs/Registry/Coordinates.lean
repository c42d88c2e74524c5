import Mathlib
import DeviceRegistry.Message
import DeviceRegistry.Registry.Devices
/-!
# Coordinates of buckets

A bucket stands for one device, one channel and one day, and is found only through the
hash of these three. The hash is short, so that two buckets may in principle claim one
place. Statements that tell buckets apart assume that the coordinates which come up in
a run have hashes of their own; this file says which coordinates come up.
-/

namespace DeviceRegistry

/-- What decides to which bucket a reading goes. -/
structure Coordinates where
  device : Address
  channel : Channel
  day : Int64
deriving DecidableEq, Repr

namespace Coordinates

/-- The coordinates of a channel of a device at an instant. -/
def of (device : Address) (channel : Channel) (instant : Int64) : Coordinates :=
  ⟨device, channel, dayNumber instant⟩

/-- The hash under which the bucket with these coordinates is looked up. -/
def hash (coordinates : Coordinates) : BucketHash :=
  .ofMessage (BucketHash.preimage coordinates.device coordinates.channel coordinates.day)

@[simp]
theorem device_of (device : Address) (channel : Channel) (instant : Int64) :
    (of device channel instant).device = device := rfl

theorem hash_of (device : Address) (channel : Channel) (instant : Int64) :
    (of device channel instant).hash = .ofDay device channel instant := rfl

end Coordinates

namespace Bucket

/-- The coordinates that a bucket was opened for. -/
def coordinates (bucket : Bucket) : Coordinates :=
  .of bucket.device bucket.channel bucket.instant

theorem hash_coordinates (bucket : Bucket) : bucket.coordinates.hash = bucket.hash := rfl

@[simp]
theorem coordinates_push (bucket : Bucket) (reading : Reading) :
    (bucket.push reading).coordinates = bucket.coordinates := rfl

end Bucket

namespace Registry

/-- The coordinates of the buckets of a store. -/
def storedCoordinates (store : Store) : Set Coordinates :=
  {coordinates | ∃ hash found, bucket store hash = .ok found ∧ found.coordinates = coordinates}

/-- The coordinates that the readings of a message name, if its device has their channels. -/
def namedCoordinates (store : Store) : Message → Set Coordinates
  | .addReadings message =>
    {coordinates | ∃ found channel, ∃ new ∈ message.readings,
      device store message.device = .ok found ∧ found.channel? new.channelId = some channel ∧
        coordinates = .of message.device channel new.reading.instant}
  | _ => ∅

end Registry

end DeviceRegistry
