import DeviceRegistry.Identifier
import DeviceRegistry.Json.Outline
import DeviceRegistry.Layout
import DeviceRegistry.Number.Single
/-!
# JSON forms

How values of a type are written as JSON and read from an outline.

A structure is an object with a member for each field. It is read from an object whose
members may stand in any order, among members that it does not know; or from an array
of its fields, in order. A field may have a fallback, and is then allowed to be
absent; in an array only the last fields can be absent.
-/

namespace DeviceRegistry.Json

/-- Why a text was not accepted. -/
inductive Fault where
  /-- The text is not JSON, or has another shape than the type. -/
  | malformed
  /-- A text within it does not name what it should. -/
  | identifier (cause : IdentifierFault)
deriving DecidableEq, Repr

def Fault.message : Fault → String
  | .malformed => "malformed document"
  | .identifier cause => cause.message

/-- Types with a JSON form. -/
class Form (α : Type) where
  /-- The value as JSON. -/
  toJson : α → Json
  /-- The value that an outline describes. -/
  ofOutline : Outline → Except Fault α

export Form (toJson)

/-- Reads a whole text: one value with nothing but space around it. -/
def read {α : Type} [Form α] (bytes : Bytes) : Except Fault α :=
  match Outline.scan bytes with
  | none => .error .malformed
  | some (outline, after) => do
    let value ← Form.ofOutline outline
    match after with
    | none => throw .malformed
    | some rest => if (Outline.skipSpace rest).isEmpty then return value else throw .malformed

def naturalBelow (bound : Nat) : Outline → Except Fault Nat
  | .number numeral =>
    match numeral.toNat? with
    | some natural => if natural < bound then .ok natural else .error .malformed
    | none => .error .malformed
  | _ => .error .malformed

instance : Form String where
  toJson := .text
  ofOutline
    | .text (some content) => .ok content
    | _ => .error .malformed

instance : Form UInt32 where
  toJson number := .number (.ofNat number.toNat)
  ofOutline outline := (naturalBelow UInt32.size outline).map UInt32.ofNat

instance : Form UInt64 where
  toJson number := .number (.ofNat number.toNat)
  ofOutline outline := (naturalBelow UInt64.size outline).map UInt64.ofNat

/-- Counts are written as they are; one is read only if it fits in 64 bits. -/
instance : Form Nat where
  toJson number := .number (.ofNat number)
  ofOutline := naturalBelow UInt64.size

instance : Form (BitVec 128) where
  toJson number := .number (.ofNat number.toNat)
  ofOutline outline := (naturalBelow (UInt64.size * UInt64.size) outline).map (BitVec.ofNat 128)

instance : Form Int64 where
  toJson number := .number (.ofInt number.toInt)
  ofOutline
    | .number numeral =>
      match numeral.toInt? with
      | some integer =>
        if Int64.minValue.toInt ≤ integer ∧ integer ≤ Int64.maxValue.toInt then
          .ok (Int64.ofInt integer)
        else .error .malformed
      | none => .error .malformed
    | _ => .error .malformed

/-- What is not a finite number is written as `null`, which is not read back. -/
instance : Form Single where
  toJson number :=
    match number.toNumeral? with
    | some numeral => .number numeral
    | none => .null
  ofOutline
    | .number numeral =>
      match Single.ofNumeral? numeral with
      | some single => .ok single
      | none => .error .malformed
    | _ => .error .malformed

/-- Identifiers are written as their texts. -/
instance {α : Type} [Identifier α] : Form α where
  toJson value := .text (Identifier.toDocument value)
  ofOutline
    | .text (some content) => (Identifier.ofDocument content).mapError .identifier
    | _ => .error .malformed

instance {α : Type} [Form α] : Form (List α) where
  toJson items := .array (items.map toJson)
  ofOutline
    | .array outlines closed => do
      let items ← outlines.mapM Form.ofOutline
      if closed then return items else throw .malformed
    | _ => .error .malformed

/--
The fields of a structure, in order, each with its name and its form. The second index
holds an optional value for each field: what was met of the structure so far.
-/
inductive Fields : (values slots : Type) → Type 1 where
  | nil : Fields Unit Unit
  | field {α values slots : Type} (name : String) (fallback : Option α) (form : Form α)
      (others : Fields values slots) : Fields (α × values) (Option α × slots)

namespace Fields

/-- A field that must be present. -/
def required {α values slots : Type} [form : Form α] (name : String)
    (others : Fields values slots) : Fields (α × values) (Option α × slots) :=
  .field name none form others

/-- A field that has a value where it is absent. -/
def optional {α values slots : Type} [form : Form α] (name : String) (fallback : α)
    (others : Fields values slots) : Fields (α × values) (Option α × slots) :=
  .field name (some fallback) form others

def noSlots : {values slots : Type} → Fields values slots → slots
  | _, _, .nil => ()
  | _, _, .field _ _ _ others => (none, others.noSlots)

/-- Takes a member: a field must not be met twice, and other names are passed over. -/
def take : {values slots : Type} → Fields values slots → slots → String → Outline →
    Except Fault slots
  | _, _, .nil, slots, _, _ => .ok slots
  | _, _, .field name _ form others, (slot, slots), member, outline =>
    if member = name then
      if slot.isSome then .error .malformed
      else do
        let value ← form.ofOutline outline
        return (some value, slots)
    else do
      let slots ← others.take slots member outline
      return (slot, slots)

/-- The values of all fields, with the fallbacks of those that were not met. -/
def complete : {values slots : Type} → Fields values slots → slots → Except Fault values
  | _, _, .nil, _ => .ok ()
  | _, _, .field _ fallback _ others, (slot, slots) =>
    match slot <|> fallback with
    | none => .error .malformed
    | some value => do
      let values ← others.complete slots
      return (value, values)

def takeAll {values slots : Type} (fields : Fields values slots) :
    slots → List (Option String × Outline) → Except Fault slots
  | slots, [] => .ok slots
  | _, (none, _) :: _ => .error .malformed
  | slots, (some name, outline) :: members => do
    let slots ← fields.take slots name outline
    fields.takeAll slots members

/-- Reads the fields from the members of an object. -/
def ofMembers {values slots : Type} (fields : Fields values slots)
    (members : List (Option String × Outline)) (closed : Bool) : Except Fault values := do
  let slots ← fields.takeAll fields.noSlots members
  if closed then fields.complete slots else throw .malformed

/-- Reads the fields from the items of an array. -/
def ofItems : {values slots : Type} → Fields values slots → List Outline → (closed : Bool) →
    Except Fault values
  | _, _, .nil, [], closed => if closed then .ok () else .error .malformed
  | _, _, .nil, _ :: _, _ => .error .malformed
  | _, _, .field _ _ form others, item :: items, closed => do
    let value ← form.ofOutline item
    let values ← others.ofItems items closed
    return (value, values)
  | _, _, .field _ fallback _ others, [], closed =>
    match closed, fallback with
    | true, some value => do
      let values ← others.ofItems [] closed
      return (value, values)
    | _, _ => .error .malformed

/-- Reads the fields from an object or an array. -/
def ofOutline {values slots : Type} (fields : Fields values slots) : Outline → Except Fault values
  | .object members closed => fields.ofMembers members closed
  | .array items closed => fields.ofItems items closed
  | _ => .error .malformed

def toMembers : {values slots : Type} → Fields values slots → values → List (String × Json)
  | _, _, .nil, _ => []
  | _, _, .field name _ form others, (value, values) =>
    (name, form.toJson value) :: others.toMembers values

end Fields

/-- A structure is written as an object with its fields. -/
abbrev Form.ofFields {α values slots : Type} [Layout α values] (fields : Fields values slots) :
    Form α where
  toJson value := .object (fields.toMembers (Layout.toFields value))
  ofOutline outline := (fields.ofOutline outline).map Layout.ofFields

end DeviceRegistry.Json
