/-!
# Instants as text

An instant is a number of seconds since the epoch. Its text is an optional sign and at
least one decimal digit. Digits are taken one by one, and the first one that is no
digit or leads out of the range of 64 bits is the fault.
-/

namespace DeviceRegistry.Instant

/-- Why a text is no instant. -/
inductive Fault where
  | emptyText
  | invalidDigit
  | tooLarge
  | tooSmall
deriving DecidableEq, Repr

def Fault.message : Fault → String
  | .emptyText => "cannot parse integer from empty string"
  | .invalidDigit => "invalid digit found in string"
  | .tooLarge => "number too large to fit in target type"
  | .tooSmall => "number too small to fit in target type"

def digit? (character : Char) : Option Nat :=
  if '0' ≤ character ∧ character ≤ '9' then some (character.toNat - '0'.toNat) else none

/-- Takes digits away from zero, in the direction of the sign. -/
def takeDigits (negative : Bool) : Int → List Char → Except Fault Int
  | number, [] => .ok number
  | number, character :: rest =>
    match digit? character with
    | none => .error .invalidDigit
    | some digit =>
      let next := if negative then 10 * number - digit else 10 * number + digit
      if next < Int64.minValue.toInt then .error .tooSmall
      else if Int64.maxValue.toInt < next then .error .tooLarge
      else takeDigits negative next rest

/-- Takes digits of which there must be one. -/
def takeSomeDigits (negative : Bool) (characters : List Char) : Except Fault Int :=
  if characters.isEmpty then .error .invalidDigit else takeDigits negative 0 characters

def ofText (text : String) : Except Fault Int64 :=
  match text.toList with
  | [] => .error .emptyText
  | '+' :: rest => (takeSomeDigits false rest).map Int64.ofInt
  | '-' :: rest => (takeSomeDigits true rest).map Int64.ofInt
  | characters => (takeDigits false 0 characters).map Int64.ofInt

end DeviceRegistry.Instant
