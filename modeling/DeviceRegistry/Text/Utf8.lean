import DeviceRegistry.Bytes
/-!
# UTF-8

The encoding of characters as one to four bytes, and a strict decoder.

The decoder refuses what is not the encoding of any text, and says where: after how
many bytes of whole characters, and either how many bytes there begin no character
or that the bytes end within one.
-/

namespace DeviceRegistry.Text.Utf8

def encodeChar (character : Char) : Bytes :=
  let code := character.toNat
  if code < 0x80 then
    [UInt8.ofNat code]
  else if code < 0x800 then
    [UInt8.ofNat (0xc0 + code / 64), UInt8.ofNat (0x80 + code % 64)]
  else if code < 0x10000 then
    [UInt8.ofNat (0xe0 + code / 4096), UInt8.ofNat (0x80 + code / 64 % 64),
      UInt8.ofNat (0x80 + code % 64)]
  else
    [UInt8.ofNat (0xf0 + code / 262144), UInt8.ofNat (0x80 + code / 4096 % 64),
      UInt8.ofNat (0x80 + code / 64 % 64), UInt8.ofNat (0x80 + code % 64)]

def encodeChars (characters : List Char) : Bytes :=
  characters.flatMap encodeChar

/-- The number of bytes of a sequence of characters. -/
def byteCount (characters : List Char) : Nat :=
  (encodeChars characters).length

def encode (text : String) : Bytes :=
  encodeChars text.toList

/-- Why, and after how many bytes of whole characters, some bytes are not a text. -/
inductive Fault where
  /-- The next `length` bytes are neither a character nor the beginning of one. -/
  | invalid (length position : Nat)
  /-- The bytes end within a character. -/
  | incomplete (position : Nat)
deriving DecidableEq, Repr

def Fault.message : Fault → String
  | .invalid length position => s!"invalid utf-8 sequence of {length} bytes from index {position}"
  | .incomplete position => s!"incomplete utf-8 byte sequence from index {position}"

/-- Bytes `0x80` to `0xbf` follow the first byte of a character. -/
def isTail (byte : UInt8) : Bool :=
  0x80 ≤ byte && byte ≤ 0xbf

/-- The second byte of a three-byte character: no shorter form, and no surrogate. -/
def isSecondOfThree (first second : UInt8) : Bool :=
  if first = 0xe0 then 0xa0 ≤ second && second ≤ 0xbf
  else if first = 0xed then 0x80 ≤ second && second ≤ 0x9f
  else isTail second

/-- The second byte of a four-byte character: no shorter form, nothing above `0x10ffff`. -/
def isSecondOfFour (first second : UInt8) : Bool :=
  if first = 0xf0 then 0x90 ≤ second && second ≤ 0xbf
  else if first = 0xf4 then 0x80 ≤ second && second ≤ 0x8f
  else isTail second

/-- The six bits that a byte after the first contributes. -/
def tailBits (byte : UInt8) : Nat :=
  byte.toNat % 64

/-- Decodes bytes that begin `position` bytes into the text. -/
def decodeFrom (position : Nat) : Bytes → Except Fault (List Char)
  | [] => .ok []
  | first :: rest =>
    if first < 0x80 then
      (decodeFrom (position + 1) rest).map (Char.ofNat first.toNat :: ·)
    else if 0xc2 ≤ first && first ≤ 0xdf then
      match rest with
      | [] => .error (.incomplete position)
      | second :: rest =>
        if isTail second then
          let code := first.toNat % 32 * 64 + tailBits second
          (decodeFrom (position + 2) rest).map (Char.ofNat code :: ·)
        else .error (.invalid 1 position)
    else if 0xe0 ≤ first && first ≤ 0xef then
      match rest with
      | [] => .error (.incomplete position)
      | second :: rest =>
        if isSecondOfThree first second then
          match rest with
          | [] => .error (.incomplete position)
          | third :: rest =>
            if isTail third then
              let code := first.toNat % 16 * 4096 + tailBits second * 64 + tailBits third
              (decodeFrom (position + 3) rest).map (Char.ofNat code :: ·)
            else .error (.invalid 2 position)
        else .error (.invalid 1 position)
    else if 0xf0 ≤ first && first ≤ 0xf4 then
      match rest with
      | [] => .error (.incomplete position)
      | second :: rest =>
        if isSecondOfFour first second then
          match rest with
          | [] => .error (.incomplete position)
          | third :: rest =>
            if isTail third then
              match rest with
              | [] => .error (.incomplete position)
              | fourth :: rest =>
                if isTail fourth then
                  let code := first.toNat % 8 * 262144 + tailBits second * 4096 +
                    tailBits third * 64 + tailBits fourth
                  (decodeFrom (position + 4) rest).map (Char.ofNat code :: ·)
                else .error (.invalid 3 position)
            else .error (.invalid 2 position)
        else .error (.invalid 1 position)
    else .error (.invalid 1 position)

/-- The characters between two positions in some bytes, if they are whole ones. -/
def cut? (bytes : Bytes) (start stop : Nat) : Option (List Char) :=
  (decodeFrom 0 ((bytes.take stop).drop start)).toOption

def decode (bytes : Bytes) : Except Fault String :=
  (decodeFrom 0 bytes).map String.ofList

end DeviceRegistry.Text.Utf8
