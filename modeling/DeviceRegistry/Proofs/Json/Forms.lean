import Mathlib
import DeviceRegistry.Genesis
import DeviceRegistry.Proofs.Number.Decimals
import DeviceRegistry.Proofs.Identifiers
import DeviceRegistry.Proofs.Json.Scanning
/-!
# Values are read back from documents

A value survives if its JSON form is read as the value itself. The members of a structure
are met in the order of its fields, each under its own name. So a structure is read field
by field, as a list is read item by item, and survives if all its fields do.
-/

namespace DeviceRegistry.Json

open Text

/-- Whether a value is read back from its JSON form. -/
def Survives {α : Type} [Form α] (value : α) : Prop :=
  Form.ofOutline (toJson value).outline = .ok value

/-- Every value of a type is written as the grammar allows. -/
class WellWritten (α : Type) [Form α] : Prop where
  regular : ∀ value : α, (toJson value).Regular

/-- Every value of a type is read back from its JSON form. -/
class Lossless (α : Type) [Form α] : Prop extends WellWritten α where
  survives : ∀ value : α, Survives value

/-! ## Whole documents -/

section Documents

variable {α : Type} [Form α]

/-- Nothing but the outline matters for a printed value, whatever its style. -/
theorem read_chars [WellWritten α] {style : Style} (blank : style.Blank) (value : α) :
    (read (Utf8.encodeChars (chars style 0 (toJson value))) : Except Fault α) =
      Form.ofOutline (toJson value).outline := by
  simp only [read, scan_chars blank (WellWritten.regular value)]
  cases (Form.ofOutline (toJson value).outline : Except Fault α) <;> rfl

theorem read_indented [WellWritten α] (value : α) :
    (read (Utf8.encode (toJson value).indented) : Except Fault α) =
      Form.ofOutline (toJson value).outline := by
  rw [Utf8.encode, indented, String.toList_ofList, read_chars Style.indented_blank]

theorem read_compact [WellWritten α] (value : α) :
    (read (Utf8.encode (toJson value).compact) : Except Fault α) =
      Form.ofOutline (toJson value).outline := by
  rw [Utf8.encode, compact, String.toList_ofList, read_chars Style.compact_blank]

end Documents

/-! ## Plain values -/

theorem naturalBelow_ofNat {bound number : Nat} (below : number < bound) :
    naturalBelow bound (.number (.ofNat number)) = .ok number := by
  simp [naturalBelow, below]

instance : Lossless String where
  regular _ := trivial
  survives _ := rfl

instance : Lossless UInt32 where
  regular number := Numeral.regular_ofNat number.toNat
  survives number := by
    change (naturalBelow UInt32.size (.number (.ofNat number.toNat))).map UInt32.ofNat = _
    rw [naturalBelow_ofNat number.toNat_lt]
    exact congrArg Except.ok UInt32.ofNat_toNat

instance : Lossless Int64 where
  regular number := Numeral.regular_ofInt number.toInt
  survives number := by
    have lower := Int64.le_toInt number
    have upper := Int64.toInt_lt number
    change Form.ofOutline (.number (.ofInt number.toInt)) = _
    have inRange : Int64.minValue.toInt ≤ number.toInt ∧ number.toInt ≤ Int64.maxValue.toInt := by
      have least : Int64.minValue.toInt = -2 ^ 63 := rfl
      have greatest : Int64.maxValue.toInt = 2 ^ 63 - 1 := rfl
      omega
    simp only [Form.ofOutline, Numeral.toInt?_ofInt, inRange, and_self, if_true,
      Int64.ofInt_toInt]

instance : Lossless Address where
  regular _ := trivial
  survives address := by
    change ((Address.ofDocument address.text).mapError IdentifierFault.address).mapError _ = _
    rw [Address.ofDocument_text]
    rfl

instance : Lossless BucketHash where
  regular _ := trivial
  survives hash := by
    change ((BucketHash.ofDocument hash.text).mapError IdentifierFault.hash).mapError _ = _
    rw [BucketHash.ofDocument_text]
    rfl

instance : WellWritten Single where
  regular number := by
    simp only [toJson]
    split
    · rename_i numeral written
      exact Single.regular_toNumeral? written
    · trivial

/-! ## Lists -/

section Lists

variable {α : Type} [Form α]

instance [WellWritten α] : WellWritten (List α) where
  regular items := by
    apply allRegular_iff.mpr
    intro item member
    rcases List.mem_map.mp member with ⟨value, -, rfl⟩
    exact WellWritten.regular value

/-- A list is read item by item. -/
theorem ofOutline_list (items : List α) :
    (Form.ofOutline (toJson items).outline : Except Fault (List α)) =
      (outlines (items.map toJson)).mapM Form.ofOutline := by
  change ((outlines (items.map toJson)).mapM Form.ofOutline >>= fun items =>
    if true then pure items else throw Fault.malformed) = _
  rcases (outlines (items.map toJson)).mapM (Form.ofOutline (α := α)) with fault | values <;> rfl

theorem survives_list {items : List α} (each : ∀ item ∈ items, Survives item) :
    Survives items := by
  rw [Survives, ofOutline_list]
  induction items with
  | nil => rfl
  | cons first rest hypothesis =>
    rcases List.forall_mem_cons.mp each with ⟨here, others⟩
    rw [List.map_cons, outlines, List.mapM_cons, here, hypothesis others]
    rfl

instance [Lossless α] : Lossless (List α) where
  survives _ := survives_list fun item _ => Lossless.survives item

end Lists

/-! ## Structures -/

namespace Fields

/-- The names of the fields, in order. -/
def names : {values slots : Type} → Fields values slots → List String
  | _, _, .nil => []
  | _, _, .field name _ _ others => name :: others.names

/-- Every field is written as the grammar allows. -/
def WellWritten : {values slots : Type} → Fields values slots → Prop
  | _, _, .nil => True
  | _, _, .field _ _ form others => (∀ value, (form.toJson value).Regular) ∧ others.WellWritten

/-- Every field has a value that is read back. -/
def Survive : {values slots : Type} → Fields values slots → values → Prop
  | _, _, .nil, _ => True
  | _, _, .field _ _ form others, (value, values) =>
    @Survives _ form value ∧ others.Survive values

/-- Every value of every field is read back. -/
def Lossless : {values slots : Type} → Fields values slots → Prop
  | _, _, .nil => True
  | _, _, .field _ _ form others => @Json.Lossless _ form ∧ others.Lossless

/-- The slots after every field was met. -/
def slotsOf : {values slots : Type} → Fields values slots → values → slots
  | _, _, .nil, _ => ()
  | _, _, .field _ _ _ others, (value, values) => (some value, others.slotsOf values)

/-- What the fields are read as, one after the other. -/
def reread : {values slots : Type} → Fields values slots → values → Except Fault values
  | _, _, .nil, _ => .ok ()
  | _, _, .field _ _ form others, (value, values) => do
    let value ← form.ofOutline (form.toJson value).outline
    let values ← others.reread values
    return (value, values)

theorem Lossless.wellWritten {values slots : Type} {fields : Fields values slots}
    (lossless : fields.Lossless) : fields.WellWritten := by
  induction fields with
  | nil => trivial
  | field name fallback form others hypothesis =>
    exact ⟨lossless.1.regular, hypothesis lossless.2⟩

theorem Lossless.survive {values slots : Type} {fields : Fields values slots}
    (lossless : fields.Lossless) (fieldValues : values) : fields.Survive fieldValues := by
  induction fields with
  | nil => trivial
  | field name fallback form others hypothesis =>
    exact ⟨lossless.1.survives fieldValues.1, hypothesis lossless.2 fieldValues.2⟩

theorem regular_toMembers {values slots : Type} (fields : Fields values slots)
    (written : fields.WellWritten) (fieldValues : values) :
    MembersRegular (fields.toMembers fieldValues) := by
  induction fields with
  | nil => trivial
  | field name fallback form others hypothesis =>
    exact ⟨written.1 fieldValues.1, hypothesis written.2 fieldValues.2⟩

theorem names_toMembers {values slots : Type} (fields : Fields values slots)
    (fieldValues : values) : (fields.toMembers fieldValues).map Prod.fst = fields.names := by
  induction fields with
  | nil => rfl
  | field name fallback form others hypothesis =>
    exact congrArg (name :: ·) (hypothesis fieldValues.2)

/-- Members with other names leave a field as it is. -/
theorem takeAll_field {α values slots : Type} (name : String) (fallback : Option α) (form : Form α)
    (others : Fields values slots) {members : List (String × Json)}
    (elsewhere : name ∉ members.map Prod.fst) (slot : Option α) (met : slots) :
    (Fields.field name fallback form others).takeAll (slot, met) (memberOutlines members) =
      (others.takeAll met (memberOutlines members)).map (Prod.mk slot) := by
  induction members generalizing met with
  | nil => rfl
  | cons first rest hypothesis =>
    rcases first with ⟨other, value⟩
    simp only [List.map_cons, List.mem_cons, not_or] at elsewhere
    have different : ¬other = name := fun same => elsewhere.1 same.symm
    simp only [memberOutlines, memberOutline, takeAll, take, different, if_false]
    rcases others.take met other value.outline with fault | next
    · rfl
    · exact hypothesis elsewhere.2 next

theorem takeAll_toMembers {values slots : Type} (fields : Fields values slots)
    (distinct : fields.names.Nodup) (fieldValues : values) :
    fields.takeAll fields.noSlots (memberOutlines (fields.toMembers fieldValues)) =
      (fields.reread fieldValues).map fields.slotsOf := by
  induction fields with
  | nil => rfl
  | field name fallback form others hypothesis =>
    rcases fieldValues with ⟨value, fieldValues⟩
    rcases List.nodup_cons.mp distinct with ⟨elsewhere, distinctOthers⟩
    rw [← names_toMembers others fieldValues] at elsewhere
    simp only [toMembers, memberOutlines, memberOutline, takeAll, take, noSlots, if_true,
      Option.isSome_none, Bool.false_eq_true, if_false, reread]
    rcases form.ofOutline (form.toJson value).outline with fault | value
    · rfl
    · change (field name fallback form others).takeAll (some value, others.noSlots) _ = _
      rw [takeAll_field name fallback form others elsewhere, hypothesis distinctOthers]
      rcases others.reread fieldValues with fault | fieldValues <;> rfl

theorem complete_slotsOf {values slots : Type} (fields : Fields values slots)
    (fieldValues : values) : fields.complete (fields.slotsOf fieldValues) = .ok fieldValues := by
  induction fields with
  | nil => rfl
  | field name fallback form others hypothesis =>
    rcases fieldValues with ⟨value, fieldValues⟩
    change (others.complete (others.slotsOf fieldValues) >>= fun values => .ok (value, values)) = _
    rw [hypothesis]
    rfl

/-- The members of an object are read as the fields one after the other. -/
theorem ofMembers_toMembers {values slots : Type} (fields : Fields values slots)
    (distinct : fields.names.Nodup) (fieldValues : values) :
    fields.ofMembers (memberOutlines (fields.toMembers fieldValues)) true =
      fields.reread fieldValues := by
  rw [ofMembers, takeAll_toMembers fields distinct]
  rcases fields.reread fieldValues with fault | fieldValues
  · rfl
  · exact complete_slotsOf fields fieldValues

theorem reread_of_survive {values slots : Type} {fields : Fields values slots}
    {fieldValues : values} (survive : fields.Survive fieldValues) :
    fields.reread fieldValues = .ok fieldValues := by
  induction fields with
  | nil => rfl
  | field name fallback form others hypothesis =>
    rcases fieldValues with ⟨value, fieldValues⟩
    rcases survive with ⟨here, survive⟩
    rw [Survives] at here
    rw [reread, here, hypothesis survive]
    rfl

end Fields

section Structures

variable {α values slots : Type} [Layout α values]

theorem regular_ofFields {fields : Fields values slots} (written : fields.WellWritten) (value : α) :
    ((Form.ofFields fields).toJson value).Regular :=
  fields.regular_toMembers written (Layout.toFields value)

/-- A structure is read field by field. -/
theorem ofOutline_ofFields {fields : Fields values slots} (distinct : fields.names.Nodup)
    (value : α) :
    (Form.ofFields fields : Form α).ofOutline ((Form.ofFields fields).toJson value).outline =
      (fields.reread (Layout.toFields value)).map Layout.ofFields := by
  change (fields.ofMembers (memberOutlines (fields.toMembers (Layout.toFields value))) true).map
    Layout.ofFields = _
  rw [Fields.ofMembers_toMembers fields distinct]

theorem survives_ofFields {fields : Fields values slots} (distinct : fields.names.Nodup)
    {value : α} (survive : fields.Survive (Layout.toFields value)) :
    @Survives α (Form.ofFields fields) value := by
  apply (ofOutline_ofFields distinct value).trans
  rw [Fields.reread_of_survive survive]
  exact congrArg Except.ok (Layout.ofFields_toFields value)

theorem lossless_ofFields {fields : Fields values slots} (distinct : fields.names.Nodup)
    (lossless : fields.Lossless) : @Lossless α (Form.ofFields fields) :=
  @Lossless.mk α (Form.ofFields fields) (@WellWritten.mk α (Form.ofFields fields)
    (regular_ofFields lossless.wellWritten))
    fun value => survives_ofFields distinct (lossless.survive (Layout.toFields value))

end Structures

instance : Lossless Channel :=
  lossless_ofFields (by decide) ⟨inferInstance, inferInstance, trivial⟩

instance : Lossless Device :=
  lossless_ofFields (by decide)
    ⟨inferInstance, inferInstance, inferInstance, inferInstance, inferInstance, trivial⟩

instance : WellWritten Reading where
  regular := regular_ofFields ⟨WellWritten.regular, WellWritten.regular, WellWritten.regular,
    trivial⟩

instance : WellWritten Bucket where
  regular := regular_ofFields ⟨WellWritten.regular, WellWritten.regular, WellWritten.regular,
    WellWritten.regular, trivial⟩

instance : WellWritten Genesis where
  regular := regular_ofFields ⟨WellWritten.regular, WellWritten.regular, trivial⟩

end DeviceRegistry.Json
