/-!
# Field layouts

A structure is written field by field, both in stored values and in documents. Its
layout is the fixed order of its fields, as a nested pair that ends in `Unit`.
-/

namespace DeviceRegistry

/-- The view of a structure as the tuple of its fields, and back. -/
class Layout (α : Type) (fields : outParam Type) where
  /-- The fields of a value, in order. -/
  toFields : α → fields
  /-- The value with the given fields. -/
  ofFields : fields → α
  /-- A value is its fields. -/
  ofFields_toFields : ∀ value, ofFields (toFields value) = value := by intro value; rfl

end DeviceRegistry
