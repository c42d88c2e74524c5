import DeviceRegistry.Channel
/-!
# Registry errors

Why the registry refuses a request. Three kinds say that something is absent; callers
tell them from the others in order to create what is missing.
-/

namespace DeviceRegistry

/-- Why a signer may not do what a message asks for. -/
inductive Unauthorized where
  /-- The device has another owner. -/
  | notOwner
  /-- A device can be registered only by itself. -/
  | notSelf
deriving DecidableEq, Repr

def Unauthorized.message : Unauthorized → String
  | .notOwner => "Incorrect Owner - existing datanode and owner don't match"
  | .notSelf => "Incorrect Owner - owner must be the same as datanode for datanode creation"

/-- Which address must not be empty. -/
inductive AddressRole where
  | device
  | owner
  | newOwner
  /-- The address under which a device is to be stored. -/
  | storedDevice
deriving DecidableEq, Repr

def AddressRole.emptyMessage : AddressRole → String
  | .device => "datanode is empty"
  | .owner => "owner is empty"
  | .newOwner => "newowner is empty"
  | .storedDevice => "datanode address is empty"

/-- What is wrong with a genesis. -/
inductive GenesisFault where
  /-- A device without an address of its own, but with this owner. -/
  | deviceWithoutId (owner : Address)
  | deviceWithoutOwner (id : Address)
  | bucketWithoutDevice (channel : Channel)
  | bucketWithoutChannelId (device : Address)
  /-- A bucket of a device that the genesis does not list. -/
  | bucketOfUnknownDevice (device : Address)
  | bucketWithoutReadings (device : Address)
deriving DecidableEq, Repr

def GenesisFault.message : GenesisFault → String
  | .deviceWithoutId owner => s!"invalid DataNode: Owner: {owner}. Error: Missing ID"
  | .deviceWithoutOwner id => s!"invalid DataNode: ID: {id}. Error: Missing Owner"
  | .bucketWithoutDevice channel =>
    "invalid DataRecord: ChannelID: " ++ channel.id ++ ":" ++ channel.quantity ++
      ". Error: Missing DataNode"
  | .bucketWithoutChannelId device =>
    s!"invalid DataRecord: DataNode: {device}. Error: Missing ChannelID"
  | .bucketOfUnknownDevice device =>
    s!"invalid DataRecord: DataNode: {device}. Error: Unknown DataNode"
  | .bucketWithoutReadings device =>
    s!"invalid DataRecord: DataNode: {device}. Error: No Records"

/-- What is wrong with a request. -/
inductive RequestFault where
  | noChannelUpdates
  | noReadings
  | genesis (fault : GenesisFault)
  /-- A reason that a stage outside the registry gives. -/
  | other (reason : String)
deriving DecidableEq, Repr

def RequestFault.message : RequestFault → String
  | .noChannelUpdates => "no channel updates"
  | .noReadings => "no new records"
  | .genesis fault => fault.message
  | .other reason => reason

/-- Why a bucket cannot be stored. -/
inductive BucketFault where
  | noDevice
  | noChannelId (device : Address)
deriving DecidableEq, Repr

def BucketFault.message : BucketFault → String
  | .noDevice => "missing datanode"
  | .noChannelId device => s!"missing channel id for datanode {device}"

/-- Why the registry refuses a request. -/
inductive RegistryError where
  | deviceNotFound (address : Address)
  | channelNotFound (address : Address) (channelId : String)
  | bucketNotFound (hash : BucketHash)
  | unauthorized (cause : Unauthorized)
  | invalidAddress (role : AddressRole)
  | invalidRequest (fault : RequestFault)
  /-- A message names a device that is not registered. -/
  | unknownDevice
  /-- A device without owner cannot be stored. -/
  | invalidDevice (address : Address)
  | invalidBucket (fault : BucketFault)
  /-- A stored value cannot be read. -/
  | serialization (fault : Binary.Fault)
deriving DecidableEq, Repr

namespace RegistryError

def message : RegistryError → String
  | .deviceNotFound address => s!"No datanode present with address {address}"
  | .channelNotFound address channelId =>
    "No channel " ++ channelId ++ s!" present on datanode {address}"
  | .bucketNotFound hash => s!"No datarecord present with hash {hash}"
  | .unauthorized cause => "Unauthorized: " ++ cause.message
  | .invalidAddress role => "Invalid address: " ++ role.emptyMessage
  | .invalidRequest fault => "Invalid request: " ++ fault.message
  | .unknownDevice => "Unknown address: Incorrect DataNode - not defined"
  | .invalidDevice address => s!"Invalid datanode {address}: missing owner"
  | .invalidBucket fault => "Invalid datarecord: " ++ fault.message
  | .serialization fault => "Serialization error: " ++ fault.message

/-- Whether an error says that something is absent. -/
def isAbsence : RegistryError → Bool
  | .deviceNotFound _ | .channelNotFound _ _ | .bucketNotFound _ => true
  | _ => false

end RegistryError

end DeviceRegistry
