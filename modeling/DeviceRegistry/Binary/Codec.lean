import DeviceRegistry.Binary.Chunk
import DeviceRegistry.Layout
import DeviceRegistry.Number.Single
/-!
# The binary form of stored values

Numbers have a fixed width, the least significant byte first. A text is the sequence of
its bytes in UTF-8, and a list is a sequence of items; the fields of a structure follow
each other. Identifiers are written as their texts.

Reading consumes what it needs and leaves the rest, which may be anything.
-/

namespace DeviceRegistry.Binary

/-- Types with a binary form. -/
class Codec (α : Type) where
  /-- The bytes of a value. -/
  encode : α → Bytes
  /-- The value at the front of some bytes, and the bytes after it. -/
  decode : Reader α

/-- The value at the front of some bytes; the bytes after it are of no concern. -/
def decodeFirst {α : Type} [Codec α] (bytes : Bytes) : Except Fault α :=
  (Codec.decode bytes).map Prod.fst

def encodeText (text : String) : Bytes :=
  encodeSequence (fun byte => [byte]) (Text.Utf8.encode text)

def decodeText : Reader String := fun bytes => do
  let (content, rest) ← decodeSequence decodeBytes bytes
  let text ← (Text.Utf8.decode content).mapError .notUtf8
  return (text, rest)

instance : Codec UInt32 where
  encode number := Bytes.littleEndian 4 number.toNat
  decode bytes := do
    let (number, rest) ← decodeNumber 4 bytes
    return (UInt32.ofNat number, rest)

instance : Codec UInt64 where
  encode number := Bytes.littleEndian 8 number.toNat
  decode bytes := do
    let (number, rest) ← decodeNumber 8 bytes
    return (UInt64.ofNat number, rest)

instance : Codec Single where
  encode number := Codec.encode number.bits
  decode bytes := do
    let (bits, rest) ← Codec.decode bytes
    return (⟨bits⟩, rest)

instance : Codec Int64 where
  encode number := Bytes.littleEndian 8 number.toUInt64.toNat
  decode bytes := do
    let (number, rest) ← decodeNumber 8 bytes
    return ((UInt64.ofNat number).toInt64, rest)

instance : Codec (BitVec 128) where
  encode number := Bytes.littleEndian 16 number.toNat
  decode bytes := do
    let (number, rest) ← decodeNumber 16 bytes
    return (BitVec.ofNat 128 number, rest)

instance : Codec String where
  encode := encodeText
  decode := decodeText

/-- Identifiers are written as their texts. -/
instance {α : Type} [Identifier α] : Codec α where
  encode value := encodeText (Identifier.toDocument value)
  decode bytes := do
    let (text, rest) ← decodeText bytes
    let value ← (Identifier.ofDocument text).mapError .identifier
    return (value, rest)

instance {α : Type} [Codec α] : Codec (List α) where
  encode := encodeSequence Codec.encode
  decode := decodeSequence (decodeItems Codec.decode)

instance : Codec Unit where
  encode _ := []
  decode bytes := .ok ((), bytes)

instance {α β : Type} [Codec α] [Codec β] : Codec (α × β) where
  encode pair := Codec.encode pair.1 ++ Codec.encode pair.2
  decode bytes := do
    let (first, rest) ← Codec.decode bytes
    let (second, rest) ← Codec.decode rest
    return ((first, second), rest)

/-- A structure is written as the tuple of its fields. -/
abbrev Codec.ofLayout {α fields : Type} [Layout α fields] [Codec fields] : Codec α where
  encode value := Codec.encode (Layout.toFields value)
  decode bytes := do
    let (values, rest) ← Codec.decode bytes
    return (Layout.ofFields values, rest)

end DeviceRegistry.Binary
