import DeviceRegistry.Json.Value
import DeviceRegistry.Number.Single
/-!
# Canonical JSON values

A value whose members stand in the order of their names and whose numbers are integers
of 64 bits or else floating-point numbers of 64 bits. Of several members with one name
the last one counts.
-/

namespace DeviceRegistry.Json

/-- A number as it is held in 64 bits. -/
def canonicalNumber (numeral : Numeral) : Json :=
  let rounded := ((Double.ofNumeral? numeral).bind Double.toNumeral?).elim .null .number
  match numeral.toInt? with
  | some integer => if Single.fitsIn64Bits integer then .number (.ofInt integer) else rounded
  | none => rounded

/-- Puts a member at its place, over one with the same name. -/
def insertMember (member : String × Json) : List (String × Json) → List (String × Json)
  | [] => [member]
  | first :: rest =>
    if member.1 < first.1 then member :: first :: rest
    else if member.1 = first.1 then member :: rest
    else first :: insertMember member rest

/-- Members in the order of their names. -/
def sortMembers (members : List (String × Json)) : List (String × Json) :=
  members.foldl (fun sorted member => insertMember member sorted) []

mutual

/-- A value with its members in order and its numbers held in 64 bits. -/
def canonical : Json → Json
  | .number numeral => canonicalNumber numeral
  | .array items => .array (canonicalItems items)
  | .object members => .object (sortMembers (canonicalMembers members))
  | value => value
termination_by structural value => value

/-- The items of an array in canonical form. -/
def canonicalItems : List Json → List Json
  | [] => []
  | item :: items => canonical item :: canonicalItems items
termination_by structural items => items

/-- The members of an object in canonical form. -/
def canonicalMembers : List (String × Json) → List (String × Json)
  | [] => []
  | member :: members => canonicalMember member :: canonicalMembers members
termination_by structural members => members

/-- A member in canonical form. -/
def canonicalMember : String × Json → String × Json
  | (name, value) => (name, canonical value)
termination_by structural member => member

end

end DeviceRegistry.Json
