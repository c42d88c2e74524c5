import DeviceRegistry.Address
import DeviceRegistry.Bucket.Hash
/-!
# Store keys

A key is a tag and what is stored under it: the address of a device after `0x01`, the
hash of a bucket after `0x02`. Other keys belong to neither.
-/

namespace DeviceRegistry

/-- What is stored under a key. -/
inductive StoreKey where
  | device (address : Address)
  | bucket (hash : BucketHash)
deriving DecidableEq, Repr

namespace StoreKey

def bytes : StoreKey → Bytes
  | .device address => 0x01 :: address.bytes
  | .bucket hash => 0x02 :: hash.bytes

/-- The key with the given bytes: a device has at least one byte after its tag. -/
def ofBytes? : Bytes → Option StoreKey
  | [] => none
  | tag :: rest =>
    if tag = 0x01 then if rest.isEmpty then none else some (.device ⟨rest⟩)
    else if tag = 0x02 then (BucketHash.ofBytes? rest).map .bucket
    else none

end StoreKey

end DeviceRegistry
