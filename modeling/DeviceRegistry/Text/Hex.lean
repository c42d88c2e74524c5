import DeviceRegistry.Bytes
/-!
# Hexadecimal text

Two digits a byte, the high half first. Writing uses lower case; reading takes both
cases. Reading works on the bytes of a text, so that a text with characters outside
ASCII is refused at the first byte of such a character.

A text of odd length is refused before any digit is looked at.
-/

namespace DeviceRegistry.Text.Hex

/-- The digit of a number below sixteen, in lower case. -/
def digit (half : Nat) : Char :=
  if half < 10 then Char.ofNat (0x30 + half) else Char.ofNat (0x57 + half)

def digits (bytes : Bytes) : List Char :=
  bytes.flatMap fun byte => [digit (byte.toNat / 16), digit (byte.toNat % 16)]

def encode (bytes : Bytes) : String :=
  String.ofList (digits bytes)

/-- Why a text is not hexadecimal. -/
inductive Fault where
  /-- The text has an odd number of bytes. -/
  | oddLength
  /-- The byte at this position is not a digit. -/
  | invalidDigit (byte : UInt8) (position : Nat)
deriving DecidableEq, Repr

/-- The value of a digit of either case. -/
def value? (byte : UInt8) : Option Nat :=
  if 0x30 ≤ byte && byte ≤ 0x39 then some (byte.toNat - 0x30)
  else if 0x41 ≤ byte && byte ≤ 0x46 then some (byte.toNat - 0x37)
  else if 0x61 ≤ byte && byte ≤ 0x66 then some (byte.toNat - 0x57)
  else none

/-- The value of the digit at a position, or the fault there. -/
def valueAt (position : Nat) (byte : UInt8) : Except Fault Nat :=
  match value? byte with
  | some value => .ok value
  | none => .error (.invalidDigit byte position)

/-- Decodes pairs of digits that begin at a position of the text. -/
def decodeFrom (position : Nat) : Bytes → Except Fault Bytes
  | high :: low :: rest => do
    let highValue ← valueAt position high
    let lowValue ← valueAt (position + 1) low
    let decoded ← decodeFrom (position + 2) rest
    return UInt8.ofNat (16 * highValue + lowValue) :: decoded
  | _ => .ok []

/-- The bytes that a text of digits stands for. -/
def decode (text : Bytes) : Except Fault Bytes :=
  if text.length % 2 = 1 then .error .oddLength else decodeFrom 0 text

/--
A byte as a quoted Latin-1 character. Control characters, the no-break space and the
soft hyphen are written by their code, and the quote and the backslash are escaped.
-/
def quoteByte (byte : UInt8) : String :=
  let code := byte.toNat
  let body :=
    if code = 0x00 then "\\0"
    else if code = 0x09 then "\\t"
    else if code = 0x0a then "\\n"
    else if code = 0x0d then "\\r"
    else if code = 0x27 then "\\'"
    else if code = 0x5c then "\\\\"
    else if code < 0x20 || (0x7f ≤ code && code ≤ 0xa0) || code = 0xad then
      let written := if code < 16 then [digit code] else [digit (code / 16), digit (code % 16)]
      "\\u\x7b" ++ String.ofList written ++ "\x7d"
    else String.singleton (Char.ofNat code)
  "'" ++ body ++ "'"

def Fault.message : Fault → String
  | .oddLength => "Odd number of digits"
  | .invalidDigit byte position =>
    "Invalid character " ++ quoteByte byte ++ " at position " ++ toString position

end DeviceRegistry.Text.Hex
