import DeviceRegistry.Channel
import DeviceRegistry.Reading
/-!
# Buckets

The readings of one channel on one day, in the order in which they were accepted. A
day is one of universal time, and the instant of a bucket decides on the day, whatever
the timestamps of its readings.

A bucket is stored under a hash of its device, its channel and its day. Each of the
three texts in the hashed message comes after its length, so that their borders are
part of the message.
-/

namespace DeviceRegistry

open Binary (Codec)
open Json (Form)

def secondsPerDay : Int := 86400

/-- The number of the day of an instant, counted from the epoch; earlier days are negative. -/
def dayNumber (instant : Int64) : Int64 :=
  Int64.ofInt (instant.toInt / secondsPerDay)

namespace BucketHash

/-- What the hashed message begins with. -/
def domain : Bytes :=
  Text.Utf8.encode "iot-datanode/bucket/v1"

/-- A byte string after its length. -/
def delimited (bytes : Bytes) : Bytes :=
  Bytes.bigEndian 8 bytes.length ++ bytes

/-- The message that is hashed for a device, a channel and a day. -/
def preimage (device : Address) (channel : Channel) (day : Int64) : Bytes :=
  domain ++ delimited device.bytes ++ delimited (Text.Utf8.encode channel.id) ++
    delimited (Text.Utf8.encode channel.quantity) ++
    Bytes.bigEndian 8 day.toUInt64.toNat

/-- The hash of the bucket of a device, a channel and the day of an instant. -/
def ofDay (device : Address) (channel : Channel) (instant : Int64) : BucketHash :=
  ofMessage (preimage device channel (dayNumber instant))

end BucketHash

/-- The readings of one channel on one day. -/
structure Bucket where
  device : Address
  channel : Channel
  /-- An instant of the day. -/
  instant : Int64
  readings : List Reading
deriving DecidableEq, Repr, Inhabited

namespace Bucket

def new (device : Address) (channel : Channel) (instant : Int64) : Bucket :=
  ⟨device, channel, instant, []⟩

/-- The hash under which a bucket is stored. -/
def hash (bucket : Bucket) : BucketHash :=
  .ofDay bucket.device bucket.channel bucket.instant

/-- Whether a reading with a timestamp was accepted. -/
def contains (bucket : Bucket) (timestamp : UInt32) : Bool :=
  bucket.readings.any fun reading => reading.timestamp = timestamp

def push (bucket : Bucket) (reading : Reading) : Bucket :=
  { bucket with readings := bucket.readings ++ [reading] }

/-- A bucket on three lines, and two more for the first and the last timestamp. -/
def display (bucket : Bucket) : String :=
  let count := bucket.readings.length
  let heading := s!"DataNode: {bucket.device}\nChannel: " ++ bucket.channel.id ++ ":" ++
    bucket.channel.quantity ++ s!"\nRecords: {count}"
  match bucket.readings.head?, bucket.readings.getLast? with
  | some first, some last => heading ++ s!"\nFrom: {first.timestamp}\nTo: {last.timestamp}"
  | _, _ => heading

instance : Layout Bucket (Address × Channel × Int64 × List Reading × Unit) where
  toFields bucket := (bucket.device, bucket.channel, bucket.instant, bucket.readings, ())
  ofFields | (device, channel, instant, readings, ()) => ⟨device, channel, instant, readings⟩

instance : Codec Bucket := .ofLayout

instance : Form Bucket :=
  .ofFields
    (.required "datanode" <| .required "channel" <| .required "timeframe" <|
      .required "records" .nil)

end Bucket

end DeviceRegistry
