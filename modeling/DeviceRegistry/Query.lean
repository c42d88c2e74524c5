import DeviceRegistry.Instant
import DeviceRegistry.Registry.Buckets
/-!
# Queries

A query is a path of texts, and its answer is a JSON value.

* `datanode/<address>` asks for a device.
* `records/<address>/<channel>/<instant>` asks for the readings of a channel on the day
  of an instant; a day without readings has the empty list for an answer.

The parts of a path are looked at from left to right, before the registry is.
-/

namespace DeviceRegistry.Query

open Binary (Codec)
open Json (Form)

/-- What is wrong with a path. -/
inductive PathFault where
  /-- The path of a device has one text after its first. -/
  | notDevicePath
  /-- The path of readings has three texts after its first. -/
  | notReadingsPath
  | invalidInstant (text : String) (cause : Instant.Fault)
deriving DecidableEq, Repr

def PathFault.message : PathFault → String
  | .notDevicePath => "expected datanode/<address>"
  | .notReadingsPath => "expected records/<address>/<channel>/<unix seconds>"
  | .invalidInstant text cause => "invalid date " ++ text ++ ": " ++ cause.message

/-- Why a query has no answer. -/
inductive Error where
  /-- The first text of the path asks for nothing that is known. -/
  | unknownRequest
  | invalidAddress (cause : Address.Fault)
  | invalidRequest (cause : PathFault)
  | registry (cause : RegistryError)
deriving DecidableEq, Repr

def Error.message : Error → String
  | .unknownRequest => "Unknown request: unknown datanode query endpoint"
  | .invalidAddress cause => "Invalid address: " ++ cause.message
  | .invalidRequest cause => "Invalid request: " ++ cause.message
  | .registry cause => cause.message

/-- A reading in an answer. -/
structure AnsweredReading where
  timestamp : UInt32
  value : Single
  note : String
deriving DecidableEq, Repr, Inhabited

namespace AnsweredReading

def ofReading (reading : Reading) : AnsweredReading :=
  ⟨reading.timestamp, reading.value, reading.note⟩

instance : Layout AnsweredReading (UInt32 × Single × String × Unit) where
  toFields reading := (reading.timestamp, reading.value, reading.note, ())
  ofFields | (timestamp, value, note, ()) => ⟨timestamp, value, note⟩

instance : Codec AnsweredReading := .ofLayout

instance : Form AnsweredReading :=
  .ofFields (.required "ts" <| .required "value" <| .optional "misc" "" .nil)

end AnsweredReading

/-- The address that a text of a path names. -/
def addressOf (text : String) : Except Error Address :=
  (Address.ofText text).mapError .invalidAddress

/-- The instant that a text of a path names. -/
def instantOf (text : String) : Except Error Int64 :=
  (Instant.ofText text).mapError fun cause => .invalidRequest (.invalidInstant text cause)

/-- The readings of a channel on a day, of which there may be none. -/
def readingsOrNone (store : Store) (address : Address) (channelId : String) (instant : Int64) :
    Except Error (List Reading) :=
  match Registry.readings store address channelId instant with
  | .ok readings => .ok readings
  | .error (.bucketNotFound _) => .ok []
  | .error error => .error (.registry error)

def answerDevice (store : Store) : List String → Except Error Json
  | [addressText] => do
    let address ← addressOf addressText
    let device ← (Registry.device store address).mapError .registry
    return Form.toJson device
  | _ => .error (.invalidRequest .notDevicePath)

def answerReadings (store : Store) : List String → Except Error Json
  | [addressText, channelId, instantText] => do
    let address ← addressOf addressText
    let instant ← instantOf instantText
    let readings ← readingsOrNone store address channelId instant
    return Form.toJson (readings.map AnsweredReading.ofReading)
  | _ => .error (.invalidRequest .notReadingsPath)

def answer (store : Store) : List String → Except Error Json
  | "datanode" :: rest => answerDevice store rest
  | "records" :: rest => answerReadings store rest
  | _ => .error .unknownRequest

end DeviceRegistry.Query
