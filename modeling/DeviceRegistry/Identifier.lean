import DeviceRegistry.Address
import DeviceRegistry.Bucket.Hash
/-!
# Identifiers in documents

Addresses and bucket hashes are written as texts, both in JSON documents and in
stored values. This module gives the two one interface, so that each format says
once how an identifier is written in it.
-/

namespace DeviceRegistry

/-- Why a text within a document does not name what it should. -/
inductive IdentifierFault where
  /-- An address was expected. -/
  | address (cause : Address.Fault)
  /-- A bucket hash was expected. -/
  | hash (cause : BucketHash.Fault)
deriving DecidableEq, Repr

def IdentifierFault.message : IdentifierFault → String
  | .address cause => cause.message
  | .hash cause => cause.message

/-- Values that documents write as a text of their own. -/
class Identifier (α : Type) where
  /-- The text of a value. -/
  toDocument : α → String
  /-- The value that a text names. -/
  ofDocument : String → Except IdentifierFault α

instance : Identifier Address where
  toDocument := Address.text
  ofDocument text := (Address.ofDocument text).mapError .address

instance : Identifier BucketHash where
  toDocument := BucketHash.text
  ofDocument text := (BucketHash.ofDocument text).mapError .hash

end DeviceRegistry
