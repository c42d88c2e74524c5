import DeviceRegistry.Identifier
/-!
# Chunks of items

A sequence is written as the number of its items, in eight bytes, and then the items.
The greatest number of eight bytes marks a full chunk: as many items follow, and then
another chunk with the items that are left. So every sequence has a binary form,
however long it is. A full chunk is larger than any store, and what ends within one is
refused for the items that are missing.

How the items of a chunk are read is a parameter. The items of a list are read one by
one, and the first item that cannot be read is the fault; the bytes of a text are cut
off at once.
-/

namespace DeviceRegistry.Binary

/-- Why some bytes are not the form of a value. -/
inductive Fault where
  /-- The bytes end within a number. -/
  | endOfInput
  /-- Fewer bytes are left than the length of a text. -/
  | shortText
  /-- The bytes of a text are not UTF-8. -/
  | notUtf8 (cause : Text.Utf8.Fault)
  /-- A text does not name what it should. -/
  | identifier (cause : IdentifierFault)
deriving DecidableEq, Repr

def Fault.message : Fault → String
  | .endOfInput => "io error: unexpected end of file"
  | .shortText => "io error: "
  | .notUtf8 cause => "string is not valid utf8: " ++ cause.message
  | .identifier cause => cause.message

/-- Reads a value at the front of some bytes, and leaves the bytes after it. -/
abbrev Reader (α : Type) := Bytes → Except Fault (α × Bytes)

def decodeNumber (width : Nat) : Reader Nat := fun bytes =>
  if bytes.length < width then .error .endOfInput
  else .ok (Bytes.ofLittleEndian (bytes.take width), bytes.drop width)

/-- The number of items in a full chunk. -/
def fullChunk : Nat := UInt64.size - 1

/-- Writes the number of items in a chunk. -/
def encodeCount (count : Nat) : Bytes :=
  Bytes.littleEndian 8 count

/-- Writes full chunks, as many as are asked for, and a last one that is not full. -/
def encodeChunks {α : Type} (encodeItem : α → Bytes) : (full : Nat) → List α → Bytes
  | 0, items => encodeCount items.length ++ items.flatMap encodeItem
  | full + 1, items =>
    encodeCount fullChunk ++ (items.take fullChunk).flatMap encodeItem ++
      encodeChunks encodeItem full (items.drop fullChunk)

def encodeSequence {α : Type} (encodeItem : α → Bytes) (items : List α) : Bytes :=
  encodeChunks encodeItem (items.length / fullChunk) items

def decodeItems {α : Type} (decodeItem : Reader α) : (count : Nat) → Reader (List α)
  | 0, bytes => .ok ([], bytes)
  | count + 1, bytes => do
    let (item, rest) ← decodeItem bytes
    let (items, rest) ← decodeItems decodeItem count rest
    return (item :: items, rest)

/-- Cuts off as many bytes as are asked for. -/
def decodeBytes (count : Nat) : Reader Bytes := fun bytes =>
  if bytes.length < count then .error .shortText else .ok (bytes.take count, bytes.drop count)

/-- Reads chunks up to the first one that is not full. -/
def decodeChunks {α : Type} (decodeChunk : (count : Nat) → Reader (List α)) :
    (fuel : Nat) → Reader (List α)
  | 0, _ => .error .endOfInput
  | fuel + 1, bytes => do
    let (count, rest) ← decodeNumber 8 bytes
    let (items, rest) ← decodeChunk count rest
    if count = fullChunk then
      let (others, rest) ← decodeChunks decodeChunk fuel rest
      return (items ++ others, rest)
    else
      return (items, rest)

/-- Reads a sequence of items. A chunk takes at least the bytes of its count. -/
def decodeSequence {α : Type} (decodeChunk : (count : Nat) → Reader (List α)) :
    Reader (List α) := fun bytes =>
  decodeChunks decodeChunk (bytes.length + 1) bytes

/-- A sequence that fits in one chunk is its count and its items. -/
theorem encodeSequence_of_lt {α : Type} (encodeItem : α → Bytes) (items : List α)
    (fits : items.length < fullChunk) :
    encodeSequence encodeItem items =
      encodeCount items.length ++ items.flatMap encodeItem := by
  simp [encodeSequence, encodeChunks, Nat.div_eq_of_lt fits]

end DeviceRegistry.Binary
