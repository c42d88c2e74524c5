import DeviceRegistry.Text.Blank
import DeviceRegistry.Text.Hex
import DeviceRegistry.Text.Utf8
/-!
# Addresses

An address identifies an account or a device. It is a byte string without further
meaning; the empty one stands for "no address". Its text is its hexadecimal form in
lower case.

A text is read with more freedom than it is written: blanks around it, one `0x` in
front, and digits of either case.
-/

namespace DeviceRegistry

/-- The identifier of an account or a device. -/
structure Address where
  bytes : Bytes
deriving DecidableEq, Repr, Inhabited

namespace Address

def empty : Address := ⟨[]⟩

/-- Whether an address stands for "no address". -/
def isEmpty (address : Address) : Bool :=
  address.bytes.isEmpty

def text (address : Address) : String :=
  Text.Hex.encode address.bytes

instance : ToString Address := ⟨text⟩

/-- The text of an address as it is shown to a developer. -/
def debugText (address : Address) : String :=
  "AccountAddress(" ++ address.text ++ ")"

/-- The bytewise order of addresses. -/
def compare (left right : Address) : Ordering :=
  if left.bytes < right.bytes then .lt else if left.bytes = right.bytes then .eq else .gt

/-- Why a text names no address. -/
inductive Fault where
  /-- The text has no digits. -/
  | noDigits
  /-- What is left after trimming is not hexadecimal. -/
  | notHex (cause : Text.Hex.Fault)
deriving DecidableEq, Repr

def Fault.message : Fault → String
  | .noDigits => "Empty address"
  | .notHex cause => "Invalid hex address: " ++ cause.message

/-- The characters after one leading `0x`, or all of them where there is none. -/
def withoutMark : List Char → List Char
  | '0' :: 'x' :: rest => rest
  | characters => characters

/-- Reads the text of an address that has at least one byte. -/
def ofText (text : String) : Except Fault Address :=
  match withoutMark (Text.trim text.toList) with
  | [] => .error .noDigits
  | digits =>
    match Text.Hex.decode (Text.Utf8.encodeChars digits) with
    | .ok bytes => .ok ⟨bytes⟩
    | .error cause => .error (.notHex cause)

/-- Reads an address within a document, where the empty text is the empty address. -/
def ofDocument (text : String) : Except Fault Address :=
  if text.isEmpty then .ok empty else ofText text

@[simp]
theorem ofDocument_empty : ofDocument "" = .ok empty := rfl

end Address

end DeviceRegistry
