import DeviceRegistry.Sha256
import DeviceRegistry.Text.Hex
import DeviceRegistry.Text.Utf8
/-!
# Bucket hashes

A bucket is stored under the first sixteen bytes of a SHA-256 digest. This module
holds the hash as a value and its text; which bytes are digested is said where
buckets are defined.
-/

namespace DeviceRegistry

/-- The sixteen bytes under which a bucket is stored. -/
structure BucketHash where
  bytes : Bytes
  length_eq : bytes.length = 16
deriving DecidableEq, Repr

namespace BucketHash

@[ext]
theorem ext {left right : BucketHash} (same : left.bytes = right.bytes) : left = right := by
  cases left
  cases right
  simp_all

/-- The hash whose bytes are given, if there are sixteen of them. -/
def ofBytes? (bytes : Bytes) : Option BucketHash :=
  if length_eq : bytes.length = 16 then some ⟨bytes, length_eq⟩ else none

def ofMessage (message : Bytes) : BucketHash where
  bytes := (Sha256.digest message).take 16
  length_eq := by simp

def text (hash : BucketHash) : String :=
  Text.Hex.encode hash.bytes

instance : ToString BucketHash := ⟨text⟩

/-- The text of a hash as it is shown to a developer. -/
def debugText (hash : BucketHash) : String :=
  "RecordHash(" ++ hash.text ++ ")"

/-- Why a text is not a hash. -/
inductive Fault where
  /-- The text is not hexadecimal. -/
  | notHex (cause : Text.Hex.Fault)
  /-- The text does not have sixteen bytes. -/
  | wrongLength
deriving DecidableEq, Repr

def Fault.message : Fault → String
  | .notHex cause => cause.message
  | .wrongLength => "record hash must be 16 bytes"

/-- Reads a hash from its digits alone: no blanks and no mark around them. -/
def ofDocument (text : String) : Except Fault BucketHash :=
  match Text.Hex.decode (Text.Utf8.encode text) with
  | .error cause => .error (.notHex cause)
  | .ok bytes =>
    match ofBytes? bytes with
    | some hash => .ok hash
    | none => .error .wrongLength

@[simp]
theorem ofBytes?_bytes (hash : BucketHash) : ofBytes? hash.bytes = some hash := by
  simp [ofBytes?, hash.length_eq]

theorem ofBytes?_eq_some_iff {bytes : Bytes} {hash : BucketHash} :
    ofBytes? bytes = some hash ↔ bytes = hash.bytes := by
  constructor
  · intro read
    unfold ofBytes? at read
    split at read
    · cases read
      rfl
    · contradiction
  · rintro rfl
    exact ofBytes?_bytes hash

end BucketHash

end DeviceRegistry
