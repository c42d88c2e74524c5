import DeviceRegistry.Binary.Codec
import DeviceRegistry.Json.Form
/-!
# Readings

What a device measured at an instant.
-/

namespace DeviceRegistry

open Binary (Codec)
open Json (Form)

/-- A measured value. -/
structure Reading where
  /-- Seconds since the epoch. -/
  timestamp : UInt32
  value : Single
  /-- What was measured where it is no number. -/
  note : String
deriving DecidableEq, Repr, Inhabited

namespace Reading

def new (timestamp : UInt32) (value : Single) : Reading :=
  ⟨timestamp, value, ""⟩

def instant (reading : Reading) : Int64 :=
  Int64.ofNat reading.timestamp.toNat

instance : Layout Reading (UInt32 × Single × String × Unit) where
  toFields reading := (reading.timestamp, reading.value, reading.note, ())
  ofFields | (timestamp, value, note, ()) => ⟨timestamp, value, note⟩

instance : Codec Reading := .ofLayout

instance : Form Reading :=
  .ofFields (.required "t" <| .required "v" <| .optional "m" "" .nil)

end Reading

end DeviceRegistry
