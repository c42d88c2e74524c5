import DeviceRegistry.Json.Value
import DeviceRegistry.Number.Double
import DeviceRegistry.Text.Hex
import DeviceRegistry.Text.Utf8
/-!
# Outlines of JSON texts

A text is read in two steps. The first one, here, notes what stands in it up to the
point where it stops to be JSON: an outline is a value whose containers may have
broken off. The second one turns an outline into a value of some type and meets the
parts of the text in their order, so that of several faults the first one is
reported, whether the text is broken, a member is missing, or a name is wrong.

What nobody asks for is held to the grammar only. So an outline keeps a text whose
characters cannot be decoded, and a number that no type can hold; a reader that needs
them refuses them.
-/

namespace DeviceRegistry.Json

/-- What stands in a text, as far as the text is JSON. -/
inductive Outline where
  | null
  | bool (value : Bool)
  | number (numeral : Numeral)
  /-- A text, unless its bytes or escapes are no characters. -/
  | text (content : Option String)
  /-- The items up to the end of the array, or up to where it breaks off. -/
  | array (items : List Outline) (closed : Bool)
  /-- The members up to the end of the object, or up to where it breaks off. -/
  | object (members : List (Option String × Outline)) (closed : Bool)
deriving Repr, Inhabited

/-- What was read, and the bytes after it unless the text breaks off within it. -/
abbrev Scanned (α : Type) := α × Option Bytes

namespace Outline

/-- The four characters that may stand between the marks of a text. -/
def isSpace (byte : UInt8) : Bool :=
  byte = 0x20 || byte = 0x0a || byte = 0x0d || byte = 0x09

/-- The bytes after the space at their front. -/
def skipSpace (bytes : Bytes) : Bytes :=
  bytes.dropWhile isSpace

/-- A part of a text: a byte of its own, or the number of an escape. -/
inductive Unit where
  | byte (byte : UInt8)
  | escape (code : Nat)
deriving DecidableEq, Repr

/-- The number of an escape with four digits. -/
def hexCode? (first second third fourth : UInt8) : Option Nat := do
  let a ← Text.Hex.value? first
  let b ← Text.Hex.value? second
  let c ← Text.Hex.value? third
  let d ← Text.Hex.value? fourth
  return ((a * 16 + b) * 16 + c) * 16 + d

/-- The byte that a one-letter escape stands for. -/
def escapedByte? (letter : UInt8) : Option UInt8 :=
  if letter = 0x22 || letter = 0x5c || letter = 0x2f then some letter
  else if letter = 0x62 then some 0x08
  else if letter = 0x66 then some 0x0c
  else if letter = 0x6e then some 0x0a
  else if letter = 0x72 then some 0x0d
  else if letter = 0x74 then some 0x09
  else none

/-- The parts of a text whose opening quote was read, and the bytes after its closing one. -/
def scanUnits : Bytes → Option (List Unit × Bytes)
  | [] => none
  | byte :: rest =>
    if byte = 0x22 then some ([], rest)
    else if byte = 0x5c then
      match rest with
      | [] => none
      | letter :: rest =>
        if letter = 0x75 then
          match rest with
          | first :: second :: third :: fourth :: rest => do
            let code ← hexCode? first second third fourth
            let (units, after) ← scanUnits rest
            return (.escape code :: units, after)
          | _ => none
        else do
          let escaped ← escapedByte? letter
          let (units, after) ← scanUnits rest
          return (.byte escaped :: units, after)
    else if byte < 0x20 then none
    else do
      let (units, after) ← scanUnits rest
      return (.byte byte :: units, after)

/-- Whether an escape is the first half of a pair. -/
def isHighHalf (code : Nat) : Bool :=
  0xd800 ≤ code && code < 0xdc00

/-- Whether an escape is the second half of a pair. -/
def isLowHalf (code : Nat) : Bool :=
  0xdc00 ≤ code && code < 0xe000

/-- The bytes of the parts of a text, unless half of a pair stands alone. -/
def unitsBytes : List Unit → Option Bytes
  | [] => some []
  | .byte byte :: rest => (unitsBytes rest).map (byte :: ·)
  | .escape code :: rest =>
    if isHighHalf code then
      match rest with
      | .escape low :: rest =>
        if isLowHalf low then
          let whole := 0x10000 + (code - 0xd800) * 0x400 + (low - 0xdc00)
          (unitsBytes rest).map (Text.Utf8.encodeChar (Char.ofNat whole) ++ ·)
        else none
      | _ => none
    else if isLowHalf code then none
    else (unitsBytes rest).map (Text.Utf8.encodeChar (Char.ofNat code) ++ ·)

/-- The characters that the parts of a text stand for. -/
def unitsText (units : List Unit) : Option String := do
  let bytes ← unitsBytes units
  (Text.Utf8.decode bytes).toOption

/-- A text whose opening quote was read. -/
def scanText (bytes : Bytes) : Option (Option String × Bytes) := do
  let (units, after) ← scanUnits bytes
  return (unitsText units, after)

/-- The digits at the front of some bytes. -/
def scanDigits : Bytes → List Digit × Bytes
  | [] => ([], [])
  | byte :: rest =>
    match Digit.ofByte? byte with
    | some digit =>
      let (digits, after) := scanDigits rest
      (digit :: digits, after)
    | none => ([], byte :: rest)

/-- The digits at the front of some bytes, of which there must be one. -/
def scanSomeDigits (bytes : Bytes) : Option (List Digit × Bytes) :=
  match scanDigits bytes with
  | ([], _) => none
  | scanned => some scanned

/-- The digits before the point: no zero in front of another digit. -/
def scanWhole (bytes : Bytes) : Option (List Digit × Bytes) := do
  let (digits, after) ← scanSomeDigits bytes
  if digits.head? = some Digit.zero ∧ 1 < digits.length then none else some (digits, after)

/-- The digits after the point, if there is a point. -/
def scanFraction : Bytes → Option (List Digit × Bytes)
  | 0x2e :: rest => scanSomeDigits rest
  | bytes => some ([], bytes)

/-- The sign of an exponent: whether it is a minus. -/
def scanSign : Bytes → Bool × Bytes
  | 0x2b :: rest => (false, rest)
  | 0x2d :: rest => (true, rest)
  | bytes => (false, bytes)

def scanExponent : Bytes → Option (Option Numeral.Exponent × Bytes)
  | [] => some (none, [])
  | byte :: rest =>
    if byte = 0x65 || byte = 0x45 then do
      let (negative, unsigned) := scanSign rest
      let (digits, after) ← scanSomeDigits unsigned
      return (some ⟨negative, digits⟩, after)
    else some (none, byte :: rest)

def scanUnsigned (negative : Bool) (bytes : Bytes) : Option (Numeral × Bytes) := do
  let (whole, after) ← scanWhole bytes
  let (fraction, after) ← scanFraction after
  let (exponent, after) ← scanExponent after
  return (⟨negative, whole, fraction, exponent⟩, after)

def scanNumeral : Bytes → Option (Numeral × Bytes)
  | 0x2d :: rest => scanUnsigned true rest
  | bytes => scanUnsigned false bytes

/-- The bytes after a word, if they begin with it. -/
def afterWord (word bytes : Bytes) : Option Bytes :=
  if word.isPrefixOf bytes then some (bytes.drop word.length) else none

/-- A value that is neither a text nor a container. -/
def scanScalar (bytes : Bytes) : Option (Outline × Bytes) :=
  match afterWord [0x6e, 0x75, 0x6c, 0x6c] bytes with
  | some after => some (.null, after)
  | none =>
    match afterWord [0x74, 0x72, 0x75, 0x65] bytes with
    | some after => some (.bool true, after)
    | none =>
      match afterWord [0x66, 0x61, 0x6c, 0x73, 0x65] bytes with
      | some after => some (.bool false, after)
      | none => (scanNumeral bytes).map fun (numeral, after) => (.number numeral, after)

mutual

/-- The value at the front of some bytes, if one begins there. -/
def scanValue : (fuel : Nat) → Bytes → Option (Scanned Outline)
  | 0, _ => none
  | fuel + 1, bytes =>
    match skipSpace bytes with
    | [] => none
    | mark :: rest =>
      if mark = 0x5b then
        let (items, after) :=
          match skipSpace rest with
          | 0x5d :: after => ([], some after)
          | _ => scanItems fuel rest
        some (.array items after.isSome, after)
      else if mark = 0x7b then
        let (members, after) :=
          match skipSpace rest with
          | 0x7d :: after => ([], some after)
          | _ => scanMembers fuel rest
        some (.object members after.isSome, after)
      else if mark = 0x22 then
        (scanText rest).map fun (content, after) => (.text content, some after)
      else (scanScalar (mark :: rest)).map fun (outline, after) => (outline, some after)

/-- The items of an array, up to the bracket that closes it. -/
def scanItems : (fuel : Nat) → Bytes → Scanned (List Outline)
  | 0, _ => ([], none)
  | fuel + 1, bytes =>
    match scanValue fuel bytes with
    | none => ([], none)
    | some (item, none) => ([item], none)
    | some (item, some after) =>
      match skipSpace after with
      | 0x2c :: rest =>
        let (items, after) := scanItems fuel rest
        (item :: items, after)
      | 0x5d :: rest => ([item], some rest)
      | _ => ([item], none)

/-- The members of an object, up to the brace that closes it. -/
def scanMembers : (fuel : Nat) → Bytes → Scanned (List (Option String × Outline))
  | 0, _ => ([], none)
  | fuel + 1, bytes =>
    match skipSpace bytes with
    | 0x22 :: rest =>
      match scanText rest with
      | none => ([], none)
      | some (name, after) =>
        match skipSpace after with
        | 0x3a :: rest =>
          match scanValue fuel rest with
          | none => ([], none)
          | some (value, none) => ([(name, value)], none)
          | some (value, some after) =>
            match skipSpace after with
            | 0x2c :: rest =>
              let (members, after) := scanMembers fuel rest
              ((name, value) :: members, after)
            | 0x7d :: rest => ([(name, value)], some rest)
            | _ => ([(name, value)], none)
        | _ => ([], none)
    | _ => ([], none)

end

/-- The value at the front of a text. Two steps are enough for each byte. -/
def scan (bytes : Bytes) : Option (Scanned Outline) :=
  scanValue (2 * bytes.length + 2) bytes

mutual

/-- The number of containers around the innermost value, itself included. -/
def height : Outline → Nat
  | .array items _ => itemsHeight items + 1
  | .object members _ => membersHeight members + 1
  | _ => 0
termination_by structural outline => outline

/-- The greatest height of the items. -/
def itemsHeight : List Outline → Nat
  | [] => 0
  | item :: items => max (height item) (itemsHeight items)
termination_by structural items => items

/-- The greatest height of the members. -/
def membersHeight : List (Option String × Outline) → Nat
  | [] => 0
  | member :: members => max (memberHeight member) (membersHeight members)
termination_by structural members => members

def memberHeight : Option String × Outline → Nat
  | (_, value) => height value
termination_by structural member => member

end

mutual

/-- Whether all containers end, all texts have characters and all numbers fit in 64 bits. -/
def isSound : Outline → Bool
  | .number numeral => (Double.ofNumeral? numeral).isSome
  | .text content => content.isSome
  | .array items closed => closed && areSound items
  | .object members closed => closed && membersAreSound members
  | _ => true
termination_by structural outline => outline

def areSound : List Outline → Bool
  | [] => true
  | item :: items => isSound item && areSound items
termination_by structural items => items

def membersAreSound : List (Option String × Outline) → Bool
  | [] => true
  | member :: members => memberIsSound member && membersAreSound members
termination_by structural members => members

/-- Whether a member has a name and a sound value. -/
def memberIsSound : Option String × Outline → Bool
  | (name, value) => name.isSome && isSound value
termination_by structural member => member

end

/--
Whether a member of the outermost object can be put aside until the type of that
object is known: it is sound, and at most 127 containers are nested in the whole text.
-/
def canWait (outline : Outline) : Bool :=
  outline.height ≤ 126 && outline.isSound

end Outline

end DeviceRegistry.Json
